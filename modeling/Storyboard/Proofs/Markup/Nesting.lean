/-
This file states that the tokens of trees nest back to these trees.
-/

import Storyboard.Proofs.Markup.Reader

namespace Storyboard.Markup

mutual

/-- The tokens of a tree: its start tag and its text, those of the trees below it, and its end tag. -/
def treeTokens : Tree Tag → List Token
  | .node tag children =>
      .start tag.name tag.attributes ::
        (tag.text?.toList.map .text ++ (forestTokens children ++ [.stop tag.name]))

/-- The tokens of trees side by side. -/
def forestTokens : Forest Tag → List Token
  | [] => []
  | tree :: rest => treeTokens tree ++ forestTokens rest

end

mutual

/-- The tokens of a tree put it after the trees before it. -/
theorem nest?_treeTokens (opened : List (Tag × Forest Tag)) (done : Forest Tag) (rest : List Token) :
    ∀ tree : Tree Tag, nest? opened done (treeTokens tree ++ rest) = nest? opened (tree :: done) rest
  | .node ⟨name, attributes, text?⟩ children => by
      have below (tag : Tag) : nest? ((tag, done) :: opened) [] (forestTokens children ++ (.stop tag.name :: rest)) =
          nest? opened (.node tag children :: done) rest := by
        rw [nest?_forestTokens, nest?, if_pos rfl, List.append_nil, List.reverse_reverse]
      cases text? with
      | none =>
          simp only [treeTokens, Option.toList_none, List.map_nil, List.nil_append, List.cons_append, List.append_assoc]
          rw [nest?, below ⟨name, attributes, none⟩]
      | some text =>
          simp only [treeTokens, Option.toList_some, List.map_cons, List.map_nil, List.nil_append, List.cons_append,
            List.append_assoc]
          rw [nest?, nest?, below ⟨name, attributes, some text⟩]

/-- The tokens of trees side by side put them after the trees before them. -/
theorem nest?_forestTokens (opened : List (Tag × Forest Tag)) (done : Forest Tag) (rest : List Token) :
    ∀ forest : Forest Tag, nest? opened done (forestTokens forest ++ rest) = nest? opened (forest.reverse ++ done) rest
  | [] => by rw [forestTokens, List.nil_append, List.reverse_nil, List.nil_append]
  | tree :: others => by
      rw [forestTokens, List.append_assoc, nest?_treeTokens, nest?_forestTokens, List.reverse_cons, List.append_assoc,
        List.singleton_append]

end

/-- A text that is made of the tokens of trees is read as these trees. -/
theorem read?_of_tokens {dialect : Dialect} {text : String} {forest : Forest Tag}
    (scanned : repeatedly (readToken? dialect) text.toList = (forestTokens forest, [])) :
    read? dialect text = some forest := by
  have nested := nest?_forestTokens [] [] [] forest
  rw [List.append_nil, List.append_nil, nest?, List.reverse_reverse] at nested
  rw [read?, scanned]
  exact nested

end Storyboard.Markup
