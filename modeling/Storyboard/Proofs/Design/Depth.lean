/-
This file bounds the depth of every design that is built from a source.
-/

import Storyboard.Conversion
import Storyboard.Proofs.Document.Arrangement
import Storyboard.Proofs.Document.Supplement

namespace Storyboard

variable {config : Config} {maxDepth : Int}

namespace Config

/-- Under a whole limit, children come into view as long as they lie above it. -/
theorem allows_eq (limit : config.maxDepth = .whole maxDepth) (depth : Nat) :
    config.allows depth = decide ((depth : Int) + 1 < maxDepth) := by
  simp only [allows, limit, Number.atMost_whole]
  rw [Bool.eq_iff_iff]
  simp

/-- A node that opens to its children leaves room for them. -/
theorem room_of_opens (limit : config.maxDepth = .whole maxDepth) {type : NodeType} {depth : Nat}
    (opens : config.opens type depth) : ((depth + 1 : Nat) : Int) < maxDepth := by
  simp only [Config.opens, allows_eq limit, Bool.and_eq_true, decide_eq_true_eq] at opens
  exact_mod_cast opens.2

/-- Every whole limit leaves room for a screen. -/
theorem one_le_maxDepth (limit : config.maxDepth = .whole maxDepth) : 1 ≤ maxDepth := by
  have checked := config.hasNoFault
  simp only [ConfigFault.of?, limit, Number.one, Number.less_whole, decide_eq_true_eq] at checked
  split at checked
  · simp at checked
  · omega

end Config

/-- The nodes that an outline leaves at a depth stay within the limit, also where they move up. -/
theorem Outline.isKept_depth (limit : config.maxDepth = .whole maxDepth) :
    Outline.IsKept config fun depth nodes =>
      (depth : Int) < maxDepth → ((depth + Forest.depth nodes : Nat) : Int) ≤ maxDepth where
  nil depth room := by
    rw [Forest.depth]
    omega
  append depth left right onLeft onRight room := by
    have first := onLeft room
    have second := onRight room
    rw [Forest.depth_append]
    omega
  node depth record path type layer below made passes room := by
    simp only [Forest.depth, Tree.depth]
    split at passes
    · rename_i opens
      -- The children lie one level down, so that a node on top of them still fits.
      have bounded := passes (Config.room_of_opens limit opens)
      omega
    · rw [passes, Forest.depth]
      omega
  hoist depth type below opens passes room := by
    have bounded := passes (Config.room_of_opens limit opens)
    omega

mutual

/-- A node read from its exchange form stays within the limit. -/
theorem LayerForm.depth_node_le (limit : config.maxDepth = .whole maxDepth) (depth : Nat)
    (room : (depth : Int) < maxDepth) :
    ∀ tree : Tree LayerForm, ((depth + (LayerForm.node config depth tree).depth : Nat) : Int) ≤ maxDepth
  | .node form children => by
      rw [LayerForm.node, Tree.depth]
      by_cases opens : config.opens form.type depth
      · have bounded := LayerForm.depth_nodes_le limit (depth + 1) (Config.room_of_opens limit opens) children
        rw [if_pos opens]
        omega
      · rw [if_neg opens, Forest.depth]
        omega

/-- Nodes read from their exchange form stay within the limit. -/
theorem LayerForm.depth_nodes_le (limit : config.maxDepth = .whole maxDepth) (depth : Nat)
    (room : (depth : Int) < maxDepth) :
    ∀ trees : List (Tree LayerForm),
      ((depth + Forest.depth (LayerForm.nodes config depth trees) : Nat) : Int) ≤ maxDepth
  | [] => by
      rw [LayerForm.nodes, Forest.depth]
      omega
  | tree :: rest => by
      have first := LayerForm.depth_node_le limit depth room tree
      have others := LayerForm.depth_nodes_le limit depth room rest
      rw [LayerForm.nodes, Forest.depth]
      omega

end

namespace Document

/-- A second pass keeps the screens within the limit. -/
theorem depth_merge_le_maxDepth (limit : config.maxDepth = .whole maxDepth) {screens : List Node}
    (shallow : (Forest.depth screens : Int) ≤ maxDepth) (added : List Layer) :
    (Forest.depth (Fallback.merge config screens added) : Int) ≤ maxDepth := by
  have room := Config.one_le_maxDepth limit
  have deep (below : Number.one.less config.maxDepth) : 2 ≤ maxDepth.toNat := by
    simp only [Number.one, limit, Number.less_whole, decide_eq_true_eq] at below
    omega
  have bounded := Fallback.depth_merge_le config screens added maxDepth.toNat (by omega) (by omega) deep
  omega

theorem depth_normalize_le (limit : config.maxDepth = .whole maxDepth) {raw : Json} {design : Design}
    (built : normalize config raw = .ok design) : (design.depth : Int) ≤ maxDepth := by
  obtain ⟨outlines, -, success, -⟩ := normalize_eq_ok built
  obtain ⟨screens, truncations, arranged, -, passes⟩ := designOf_eq_ok success
  have room := Config.one_le_maxDepth limit
  have shallow : (Forest.depth screens : Int) ≤ maxDepth := by
    have bounded := (Outline.isKept_depth limit).arrangeRoots arranged (by omega)
    rwa [Nat.zero_add] at bounded
  split at passes
  · obtain ⟨found, -, -, rfl⟩ := passes
    exact depth_merge_le_maxDepth limit shallow _
  · subst passes
    exact shallow

end Document

/-- A design that is read is that of the forms of its screens. -/
theorem Exchange.read_eq_ok {source : Json} {design : Design} (success : Exchange.read config source = .ok design) :
    ∃ forms, Exchange.screensOf source = .valid forms ∧ design = Design.ofForms config forms := by
  unfold Exchange.read at success
  cases checked : Exchange.screensOf source with
  | invalid issues => simp [checked, Checked.map, Checked.toExcept] at success
  | valid forms =>
      refine ⟨forms, rfl, ?_⟩
      simpa [checked, Checked.map, Checked.toExcept] using success.symm

/-- A source gives the design of its exchange form when it has one, and else that of a raw document. -/
theorem Design.ofSource_eq_ok {source : Json} {design : Design} (built : Design.ofSource config source = .ok design) :
    (∃ forms, Exchange.screensOf source = .valid forms ∧ design = Design.ofForms config forms) ∨
      Document.normalize config source = .ok design := by
  unfold Design.ofSource at built
  split at built
  · exact .inl (Exchange.read_eq_ok ((mapError_eq_ok _ _ _).mp built))
  · exact .inr ((mapError_eq_ok _ _ _).mp built)

/-- No design that is built from a source is deeper than a whole limit. -/
theorem Design.depth_ofSource_le (limit : config.maxDepth = .whole maxDepth) {source : Json} {design : Design}
    (built : Design.ofSource config source = .ok design) : (design.depth : Int) ≤ maxDepth := by
  rcases Design.ofSource_eq_ok built with ⟨forms, -, rfl⟩ | normalized
  · have room := Config.one_le_maxDepth limit
    have bounded := LayerForm.depth_nodes_le limit 0 (by omega) forms
    rw [Nat.zero_add] at bounded
    exact bounded
  · exact Document.depth_normalize_le limit normalized

/-- Limits under which screens have no more than children. -/
def Config.shallow : Config := { maxDepth := .whole 2 }

/-- A small group beside the frame on which it stands. -/
def Document.paired : Json :=
  .object [("children", .array [
    .object [("id", .string "screen"), ("type", .string "FRAME"), ("absoluteBoundingBox", square 0 0 100)],
    .object [("id", .string "near"), ("type", .string "GROUP"), ("absoluteBoundingBox", square 10 10 5)]])]

/-- The frame and the group that it hosts reach the limit of two. -/
theorem Design.depth_ofSource_paired :
    Config.shallow.maxDepth = .whole 2 ∧ ∃ design, Design.ofSource .shallow Document.paired = .ok design ∧
      design.depth = 2 ∧ (design.depth : Int) ≤ 2 := by
  obtain ⟨design, built, reached⟩ := exists_of_any (Design.ofSource .shallow Document.paired) (·.depth = 2)
    (by decide +kernel)
  exact ⟨rfl, design, built, of_decide_eq_true reached, Design.depth_ofSource_le rfl built⟩

namespace Document

/-- Texts one below the other, as many as there are levels. -/
def nested : Nat → List Json
  | 0 => []
  | levels + 1 =>
      [.object [("id", .string "text"), ("characters", .string "text"), ("children", .array (nested levels))]]

/-- The record of a text with some levels below it. -/
def nestedRecord (levels : Nat) : Record :=
  ⟨[("id", .string "text"), ("characters", .string "text"), ("children", .array (nested levels))]⟩

theorem ofList_nested (levels : Nat) :
    Outline.ofList (nested (levels + 1)) = [.node (nestedRecord levels) (Outline.ofList (nested levels))] := by
  simp [nested, nestedRecord, Outline.ofList, Outline.ofJson?, Outline.childrenOf, Outline.ofItems]

/-- A record without a type is a group. -/
theorem role_nestedRecord (levels : Nat) : (nestedRecord levels).role = .shown .group := by
  have unnamed : Role.ofValue .null = .shown .group := by decide +kernel
  simp [nestedRecord, Record.role, Record.isHidden, Record.get, Json.field, List.lookup_cons, Json.isFalse, unnamed]

theorem isConvertible_nested (levels : Nat) : (Json.array (nested levels)).isConvertible := by
  induction levels with
  | zero => rfl
  | succ levels ih =>
      simpa [nested, Json.isConvertible, Json.everyWhole, Json.itemsEveryWhole, Json.fieldsEveryWhole] using ih

/-- The layer of a nested text can be made, and it counts because it has text. -/
theorem layerAt_nestedRecord (default : ∃ weight, config.defaultFontWeight.truncated = .ok weight) (levels : Nat)
    (path : Path) : ∃ layer, (nestedRecord levels).layerAt .group path config = .ok layer ∧ layer.isVisual config := by
  have convertible : Json.fieldsConvertible (nestedRecord levels).fields := by
    simpa [nestedRecord, Json.fieldsConvertible, Json.fieldsEveryWhole, Json.everyWhole, Json.isConvertible] using
      isConvertible_nested levels
  have named : (nestedRecord levels).idAt path = .ok "text" := by
    simp [nestedRecord, Record.idAt, Record.id?, Record.get, Json.field, bind, Except.bind, pure, Except.pure]
  obtain ⟨layer, made⟩ := Record.layer_isOk convertible .group "text" default
  refine ⟨layer, (bind_eq_ok _ _ _).mpr ⟨"text", named, made⟩, ?_⟩
  obtain ⟨text, layout, styles, hasImage, written, -, -, -, rfl⟩ := Record.layer_eq_ok made
  obtain rfl : "text" = text := by
    simpa [nestedRecord, Record.text, Record.get, Json.field, List.lookup_cons] using written
  have filled : Text.isFilled "text" := by decide +kernel
  simp [Layer.isVisual, Content.hasText, filled]

/-- One nested text becomes one node on top of what is made of the levels below it. -/
theorem arrange_nested (default : ∃ weight, config.defaultFontWeight.truncated = .ok weight) (levels depth : Nat)
    (room : ∀ level : Nat, level < depth + levels → config.allows level) (path : Path) :
    ∃ nodes, Outline.arrange config path depth (.node (nestedRecord levels) (Outline.ofList (nested levels))) =
      .ok nodes ∧ Forest.depth nodes = levels + 1 ∧ Forest.size nodes = levels + 1 := by
  induction levels generalizing depth path with
  | zero =>
      obtain ⟨layer, made, visual⟩ := layerAt_nestedRecord default 0 path
      refine ⟨[.node layer []], ?_, by simp [Forest.depth, Tree.depth], by
        simp [Forest.size, Forest.preorder, Tree.preorder]⟩
      rw [Outline.arrange, role_nestedRecord]
      by_cases opens : config.opens .group depth <;>
        simp [made, opens, visual, nested, Outline.ofList, Outline.arrangeFrom, bind, Except.bind, pure, Except.pure]
  | succ levels ih =>
      obtain ⟨layer, made, visual⟩ := layerAt_nestedRecord default (levels + 1) path
      have further (level : Nat) (inside : level < depth + 1 + levels) : config.allows level :=
        room level (by omega)
      obtain ⟨nodes, below, deep, many⟩ := ih (depth + 1) further (path.child 0)
      have opens : config.opens .group depth := by simp [Config.opens, room depth (by omega)]
      refine ⟨[.node layer nodes], ?_, ?_, ?_⟩
      · rw [Outline.arrange, role_nestedRecord, ofList_nested]
        simp [made, opens, visual, below, Outline.arrangeFrom, bind, Except.bind, pure, Except.pure]
      · simp only [Forest.depth, Tree.depth, deep]
        omega
      · simp only [Forest.size, Forest.preorder, Tree.preorder, List.append_nil, List.length_cons] at many ⊢
        omega

/-- Nested texts make a design of as many levels, up to the limit. -/
theorem normalize_nested (default : ∃ weight, config.defaultFontWeight.truncated = .ok weight)
    (levels : Nat) (room : ∀ level : Nat, level < levels → config.allows level)
    (enough : (Number.whole (levels + 1)).less config.lowYieldThreshold = false) :
    ∃ design, normalize config (.object [("children", .array (nested (levels + 1)))]) = .ok design ∧
      design.depth = levels + 1 := by
  have shallow (level : Nat) (inside : level < 0 + levels) : config.allows level := room level (by omega)
  obtain ⟨nodes, arranged, deep, many⟩ := arrange_nested default levels 0 shallow (.ofIndex 0)
  let outlines := Outline.ofList (nested (levels + 1))
  have found : roots (.object [("children", .array (nested (levels + 1)))]) = .ok outlines := by
    simp [roots, Json.field, List.lookup_cons, outlines]
  have single : arrangeRoots config 0 outlines = .ok nodes := by
    simp [outlines, ofList_nested, arrangeRoots, arranged, bind, Except.bind, pure, Except.pure]
  have counted : (Number.whole (Forest.size nodes)).less config.lowYieldThreshold = false := by
    rw [many]
    exact enough
  obtain ⟨truncations, reported⟩ := truncationsOfRoots_isOk single
  have made : designOf config outlines = .ok { screens := nodes, diagnostics := truncations } := by
    simp [designOf, single, reported, counted, bind, Except.bind, pure, Except.pure]
  have filled : nodes.isEmpty = false := by
    cases nodes with
    | nil => simp [Forest.depth] at deep
    | cons node rest => rfl
  refine ⟨{ screens := nodes, diagnostics := truncations }, ?_, deep⟩
  simp [normalize, found, made, filled, bind, Except.bind, pure, Except.pure]

end Document

end Storyboard
