/-
This file states that a style sheet that is made small keeps its visible characters in order, and holds no blanks but
single spaces that stand between two words. A style sheet of this form stays as it is.
-/

import Mathlib.Data.List.Chain
import Storyboard.Export.Stylesheet
import Storyboard.Proofs.Text.Trim

namespace Storyboard.Stylesheet

open Text

/-- At most one of two characters side by side is blank. -/
def IsSingle (left right : Char) : Prop := isBlank left → isBlank right = false

/-- At most one of two characters side by side is blank, and neither is if one of them is a mark. -/
structure Adjoins (left right : Char) : Prop where
  single : IsSingle left right
  before : isBlank left → isMark right = false
  behind : isMark left → isBlank right = false

/-- The only blanks of a style sheet are single spaces between characters that are no marks. -/
structure IsTight (css : List Char) : Prop where
  space : ∀ character ∈ css, isBlank character → character = ' '
  first : ∀ character ∈ css.head?, isBlank character = false
  last : ∀ character ∈ css.getLast?, isBlank character = false
  neighbours : css.IsChain Adjoins

/-- The visible characters of a style sheet. -/
def visible (css : List Char) : List Char := css.filter (!isBlank ·)

theorem visible_cons_of_blank {character : Char} (blank : isBlank character) (rest : List Char) :
    visible (character :: rest) = visible rest := List.filter_cons_of_neg (by simp [blank])

theorem visible_cons_congr (character : Char) {left right : List Char} (same : visible left = visible right) :
    visible (character :: left) = visible (character :: right) := by
  rw [visible, visible, List.filter_cons, List.filter_cons]
  split
  · exact congrArg _ same
  · exact same

section Collapse

variable (afterBlank : Bool) (css : List Char)

theorem visible_collapse : visible (collapse afterBlank css) = visible css := by
  induction css generalizing afterBlank with
  | nil => rfl
  | cons character rest ih =>
      rw [collapse]
      split
      · rename_i blank
        split
        · rw [ih, visible_cons_of_blank blank]
        · rw [visible_cons_of_blank rfl, ih, visible_cons_of_blank blank]
      · exact visible_cons_congr character (ih false)

/-- Each blank that is left is a space. -/
theorem eq_space_of_mem_collapse {character : Char} (member : character ∈ collapse afterBlank css)
    (blank : isBlank character) : character = ' ' := by
  induction css generalizing afterBlank with
  | nil => simp [collapse] at member
  | cons first rest ih =>
      rw [collapse] at member
      split at member
      · split at member
        · exact ih true member
        · rcases List.mem_cons.mp member with same | inside
          · exact same
          · exact ih true inside
      · rename_i shown
        rcases List.mem_cons.mp member with rfl | inside
        · exact absurd blank shown
        · exact ih false inside

/-- Behind a blank no blank is left. -/
theorem head?_collapse : ∀ first ∈ (collapse true css).head?, isBlank first = false := by
  induction css with
  | nil => simp [collapse]
  | cons character rest ih =>
      rw [collapse]
      split
      · exact ih
      · rename_i shown
        intro first start
        obtain rfl := Option.mem_some.mp start
        simpa using shown

/-- No two blanks are left side by side. -/
theorem isChain_collapse : (collapse afterBlank css).IsChain IsSingle := by
  induction css generalizing afterBlank with
  | nil => exact .nil
  | cons character rest ih =>
      rw [collapse]
      split
      · split
        · exact ih true
        · apply (ih true).cons
          intro next start _
          exact head?_collapse rest next start
      · rename_i shown
        apply (ih false).cons
        intro _ _ blank
        exact absurd blank shown

end Collapse

/-- Single spaces are not collapsed. -/
theorem collapse_eq_self {css : List Char} (space : ∀ character ∈ css, isBlank character → character = ' ')
    (single : css.IsChain IsSingle) (afterBlank : Bool)
    (start : afterBlank → ∀ first ∈ css.head?, isBlank first = false) : collapse afterBlank css = css := by
  induction css generalizing afterBlank with
  | nil => rfl
  | cons character rest ih =>
      rw [List.forall_mem_cons] at space
      rw [List.isChain_cons] at single
      rw [collapse]
      split
      · rename_i blank
        split
        · rename_i behind
          exact absurd blank (by simp [start behind character rfl])
        · rw [ih space.2 single.2 true fun _ next inside => single.1 next inside blank, space.1 blank]
      · rw [ih space.2 single.2 false (by simp)]

section Tighten

variable (afterMark : Bool) (css : List Char)

/-- Nothing is added, and nothing changes its place. -/
theorem tighten_sublist : (tighten afterMark css).Sublist css := by
  induction css generalizing afterMark with
  | nil => exact .slnil
  | cons character rest ih =>
      rw [tighten]
      split
      · rename_i space
        split
        · exact (ih afterMark).cons character
        · rw [space]
          exact (ih false).cons_cons ' '
      · exact (ih _).cons_cons character

theorem visible_tighten : visible (tighten afterMark css) = visible css := by
  induction css generalizing afterMark with
  | nil => rfl
  | cons character rest ih =>
      rw [tighten]
      split
      · rename_i space
        subst space
        split
        · rw [ih, visible_cons_of_blank rfl]
        · exact visible_cons_congr ' ' (ih false)
      · exact visible_cons_congr character (ih _)

/-- Behind a mark no space is left. -/
theorem head?_tighten : ∀ first ∈ (tighten true css).head?, first ≠ ' ' := by
  induction css with
  | nil => simp [tighten]
  | cons character rest ih =>
      rw [tighten]
      split
      · rw [if_pos (by simp)]
        exact ih
      · rename_i shown
        intro first start
        obtain rfl := Option.mem_some.mp start
        exact shown

/-- A character at the start that is no space stays there. -/
theorem head?_tighten_of_ne (shown : ∀ first ∈ css.head?, first ≠ ' ') :
    (tighten afterMark css).head? = css.head? := by
  cases css with
  | nil => rfl
  | cons first rest => rw [tighten, if_neg (shown first rfl), List.head?_cons, List.head?_cons]

/-- A character at the end that is no space stays there. -/
theorem getLast?_tighten_of_ne (shown : ∀ last ∈ css.getLast?, last ≠ ' ') :
    (tighten afterMark css).getLast? = css.getLast? := by
  induction css generalizing afterMark with
  | nil => rfl
  | cons character rest ih =>
      cases rest with
      | nil => rw [tighten, if_neg (shown character rfl), tighten]
      | cons next others =>
          rw [List.getLast?_cons_cons] at shown ⊢
          have kept (first : Char) (mark : Bool) :
              (first :: tighten mark (next :: others)).getLast? = (next :: others).getLast? := by
            rw [List.getLast?_cons, ih mark shown, List.getLast?_cons, Option.getD_some]
          rw [tighten]
          split
          · split
            · exact ih afterMark shown
            · exact kept ' ' false
          · exact kept character _

/-- A space is left only between two characters that are no marks. -/
theorem isChain_tighten (space : ∀ character ∈ css, isBlank character → character = ' ')
    (single : css.IsChain IsSingle) : (tighten afterMark css).IsChain Adjoins := by
  induction css generalizing afterMark with
  | nil => exact .nil
  | cons character rest ih =>
      rw [List.forall_mem_cons] at space
      rw [List.isChain_cons] at single
      have behind (mark : Bool) := ih mark space.2 single.2
      rw [tighten]
      split
      · rename_i same
        split
        · exact behind afterMark
        · rename_i apart
          apply (behind false).cons
          intro next start
          have shown (first : Char) (first? : first ∈ rest.head?) : isBlank first = false := by
            apply single.1 first first?
            rw [same]
            rfl
          have kept : ∀ first ∈ rest.head?, first ≠ ' ' := by
            rintro _ first? rfl
            cases shown ' ' first?
          rw [head?_tighten_of_ne false rest kept] at start
          have plain : isMark next = false := by
            cases rest with
            | nil => cases start
            | cons first _ =>
                obtain rfl := Option.some.inj start
                simpa [startsWithMark] using (Bool.or_eq_false_iff.mp (Bool.eq_false_iff.mpr apart)).2
          exact ⟨fun _ => shown next start, fun _ => plain, fun _ => shown next start⟩
      · rename_i other
        have shown : ¬isBlank character := fun blank => other (space.1 blank)
        apply (behind _).cons
        intro next start
        refine ⟨fun blank => absurd blank shown, fun blank => absurd blank shown, fun mark => ?_⟩
        rw [mark] at start
        have inside : next ∈ rest := (tighten_sublist true rest).subset (List.mem_of_head? start)
        apply Bool.eq_false_iff.mpr
        intro blank
        exact head?_tighten rest next start (space.2 next inside blank)

end Tighten

/-- Spaces that are needed are not dropped. -/
theorem tighten_eq_self {css : List Char} (last : ∀ character ∈ css.getLast?, isBlank character = false)
    (neighbours : css.IsChain Adjoins) (afterMark : Bool)
    (start : afterMark → ∀ first ∈ css.head?, isBlank first = false) : tighten afterMark css = css := by
  induction css generalizing afterMark with
  | nil => rfl
  | cons character rest ih =>
      rw [List.isChain_cons] at neighbours
      have ending : ∀ character ∈ rest.getLast?, isBlank character = false := by
        cases rest with
        | nil => simp
        | cons next others => rwa [List.getLast?_cons_cons] at last
      rw [tighten]
      split
      · rename_i same
        have blank : isBlank character := by
          rw [same]
          rfl
        have free : (afterMark || startsWithMark rest) = false := by
          apply Bool.or_eq_false_iff.mpr
          constructor
          · apply Bool.eq_false_iff.mpr
            intro mark
            simp [start mark character rfl] at blank
          · cases rest with
            | nil => rfl
            | cons next others => exact (neighbours.1 next rfl).before blank
        rw [free, if_neg (by simp), ih ending neighbours.2 false (by simp), same]
      · rw [ih ending neighbours.2 _ fun mark next inside => (neighbours.1 next inside).behind mark]

/-- A style sheet that is made small holds no blanks that can be dropped. -/
theorem isTight_minify (css : String) : IsTight (minify css).toList := by
  have ofBlank {character : Char} (shown : isBlank character = false) : character ≠ ' ' := by
    rintro rfl
    cases shown
  let trimmed := trimBy isBlank (collapse false css.toList)
  have inside : trimmed <:+: collapse false css.toList := isInfix_trimBy isBlank _
  have start : ∀ first ∈ trimmed.head?, isBlank first = false := head?_trimBy isBlank _
  have ending : ∀ last ∈ trimmed.getLast?, isBlank last = false := getLast?_trimBy isBlank _
  have space (character : Char) (member : character ∈ trimmed) : isBlank character → character = ' ' :=
    eq_space_of_mem_collapse false css.toList (inside.subset member)
  have single : trimmed.IsChain IsSingle := by
    obtain ⟨front, back, whole⟩ := inside
    have chain := isChain_collapse false css.toList
    rw [← whole] at chain
    exact chain.left_of_append.right_of_append
  have written : (minify css).toList = tighten false trimmed := String.toList_ofList
  rw [written]
  constructor
  · intro character member
    exact space character ((tighten_sublist false trimmed).subset member)
  · rw [head?_tighten_of_ne false trimmed fun first first? => ofBlank (start first first?)]
    exact start
  · rw [getLast?_tighten_of_ne false trimmed fun last last? => ofBlank (ending last last?)]
    exact ending
  · exact isChain_tighten false trimmed space single

/-- A style sheet without blanks that can be dropped stays as it is. -/
theorem minify_eq_self {css : String} (tight : IsTight css.toList) : minify css = css := by
  have single : css.toList.IsChain IsSingle := tight.neighbours.imp fun _ _ => Adjoins.single
  rw [minify, collapse_eq_self tight.space single false (by simp), trimBy_eq_self tight.first tight.last,
    tighten_eq_self tight.last tight.neighbours false (by simp), String.ofList_toList]

theorem visible_minify (css : String) : visible (minify css).toList = visible css.toList :=
  calc visible (minify css).toList
      = visible (tighten false (trimBy isBlank (collapse false css.toList))) := by
        rw [minify, String.toList_ofList]
    _ = visible (trimBy isBlank (collapse false css.toList)) := visible_tighten _ _
    _ = visible (collapse false css.toList) := filter_trimBy _
    _ = visible css.toList := visible_collapse _ _

/-- A style sheet that is made small keeps its visible characters in order. No blanks are left but single spaces
between characters that are no marks, and to make it small again changes nothing. -/
theorem minify_small (css : String) :
    visible (minify css).toList = visible css.toList ∧ IsTight (minify css).toList ∧
      minify (minify css) = minify css :=
  ⟨visible_minify css, isTight_minify css, minify_eq_self (isTight_minify css)⟩

end Storyboard.Stylesheet
