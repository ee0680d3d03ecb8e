/-
This file states that whatever is read from an exchange form is within bounds.
-/

import Storyboard.Proofs.Exchange.Complete
import Storyboard.Proofs.Tree.Forest

namespace Storyboard.Exchange

open Schema

/-- A number that is read is a binary64 number within bounds. -/
theorem admits_of_fieldOr {fields : List (String × Json)} {name : FieldName} {default value : Double} {bounds : Bounds}
    (passed : fieldOr fields name default (doubleWithin bounds) = .valid value) (onDefault : bounds.Admits default) :
    bounds.Admits value :=
  fieldOr_satisfies passed onDefault fun _ _ within => admits_of_doubleWithin within

theorem exists_of_numberOr {fields : List (String × Json)} {name : FieldName} {default : Double} {bounds : Bounds}
    {number : Number} (passed : numberOr fields name default bounds = .valid number)
    (onDefault : bounds.Admits default) : ∃ value, number = .double value ∧ bounds.Admits value := by
  obtain ⟨value, within, rfl⟩ := (Checked.map_eq_valid _ _ _).mp passed
  exact ⟨value, rfl, admits_of_fieldOr within onDefault⟩

/-- A layout that is read is within bounds. -/
theorem conforms_of_layoutOf {fields : List (String × Json)} {layout : Layout}
    (passed : layoutOf fields = .valid layout) : layout.Conforms := by
  simp only [layoutOf, Checked.seq_eq_valid, Checked.map_eq_valid] at passed
  obtain ⟨-, opacity, ⟨-, rotation, ⟨-, height, ⟨-, width, ⟨-, y, ⟨x, onX, rfl⟩, onY, rfl⟩, onWidth, rfl⟩, onHeight,
    rfl⟩, onRotation, rfl⟩, onOpacity, rfl⟩ := passed
  obtain ⟨x, rfl, -⟩ := exists_of_numberOr onX rfl
  obtain ⟨y, rfl, -⟩ := exists_of_numberOr onY rfl
  obtain ⟨width, rfl, wide⟩ := exists_of_numberOr onWidth sizeBounds_zero
  obtain ⟨height, rfl, high⟩ := exists_of_numberOr onHeight sizeBounds_zero
  obtain ⟨rotation, rfl, -⟩ := exists_of_numberOr onRotation rfl
  obtain ⟨opacity, rfl, shown⟩ := exists_of_numberOr onOpacity unitBounds_one
  exact ⟨x, y, width, height, rotation, opacity, rfl, wide, high, shown⟩

/-- A channel that is read is within bounds. -/
theorem channelOf_le {fields : List (String × Json)} {name : String} {channel : Nat}
    (passed : channelOf fields name = .valid channel) : channel ≤ channelMax := by
  obtain ⟨value, within, rfl⟩ := (Checked.map_eq_valid _ _ _).mp passed
  have bounded := required_satisfies within fun _ _ checked => violationByWhole?_of_wholeWithin checked
  have order := (channelBounds_whole_iff value).mp bounded
  omega

theorem conforms_of_paintOf {fields : List (String × Json)} {form : PaintForm} (passed : paintOf fields = .valid form) :
    form.Conforms := by
  simp only [paintOf, Checked.seq_eq_valid, Checked.map_eq_valid] at passed
  obtain ⟨-, weight, ⟨-, css?, ⟨-, alpha, ⟨-, blue, ⟨-, green, ⟨red, onRed, rfl⟩, onGreen, rfl⟩, onBlue, rfl⟩, onAlpha,
    rfl⟩, -, rfl⟩, onWeight, rfl⟩ := passed
  exact ⟨channelOf_le onRed, channelOf_le onGreen, channelOf_le onBlue, admits_of_fieldOr onAlpha unitBounds_one,
    admits_of_fieldOr onWeight sizeBounds_zero⟩

theorem conforms_of_textStyleOf {fields : List (String × Json)} {form : TextStyleForm}
    (passed : textStyleOf fields = .valid form) : form.Conforms := by
  simp only [textStyleOf, Checked.seq_eq_valid, Checked.map_eq_valid] at passed
  obtain ⟨-, spacing, ⟨-, align, ⟨-, weight?, ⟨-, size?, ⟨family?, -, rfl⟩, onSize, rfl⟩, onWeight, rfl⟩, -, rfl⟩, -,
    rfl⟩ := passed
  refine ⟨?_, ?_⟩
  · exact fieldOr_satisfies onSize (by simp) fun _ _ given =>
      optional_satisfies given fun _ _ within => admits_of_doubleWithin within
  · exact fieldOr_satisfies onWeight (by simp) fun _ _ given =>
      optional_satisfies given fun _ _ within => violationByWhole?_of_wholeWithin within

theorem conforms_of_stylesOf {fields : List (String × Json)} {form : StylesForm}
    (passed : stylesOf fields = .valid form) : form.Conforms := by
  simp only [stylesOf, Checked.seq_eq_valid, Checked.map_eq_valid] at passed
  obtain ⟨-, style?, ⟨-, radius, ⟨-, strokes, ⟨fills, onFills, rfl⟩, onStrokes, rfl⟩, onRadius, rfl⟩, onStyle, rfl⟩ :=
    passed
  refine ⟨?_, ?_, admits_of_fieldOr onRadius sizeBounds_zero, ?_⟩
  · exact fieldOr_satisfies onFills (by simp) fun _ _ listed =>
      list_satisfies listed fun _ _ given => model_satisfies given fun _ _ => conforms_of_paintOf
  · exact fieldOr_satisfies onStrokes (by simp) fun _ _ listed =>
      list_satisfies listed fun _ _ given => model_satisfies given fun _ _ => conforms_of_paintOf
  · exact fieldOr_satisfies onStyle (by simp) fun _ _ given =>
      optional_satisfies given fun _ _ styled => model_satisfies styled fun _ _ => conforms_of_textStyleOf

theorem empty_conforms : Layout.empty.Conforms :=
  ⟨.zero, .zero, .zero, .zero, .zero, .one, rfl, sizeBounds_zero, sizeBounds_zero, unitBounds_one⟩

mutual

/-- The forms of a node that is read are within bounds. -/
theorem conforms_of_nodeOf (depth : Nat) :
    ∀ (input : Json) (tree : Tree LayerForm), nodeOf depth input = .valid tree →
      ∀ form ∈ tree.preorder, form.Conforms
  | .object fields, tree, passed => by
      rw [nodeOf] at passed
      split at passed
      · simp at passed
      simp only [Checked.seq_eq_valid, Checked.map_eq_valid] at passed
      obtain ⟨-, classification?, ⟨-, children, ⟨-, content, ⟨-, styles, ⟨-, layout, ⟨-, visible, ⟨-, name, ⟨-, type,
        ⟨id, onId, rfl⟩, -, rfl⟩, -, rfl⟩, -, rfl⟩, onLayout, rfl⟩, onStyles, rfl⟩, -, rfl⟩, onChildren, rfl⟩, -,
        rfl⟩ := passed
      have below := conforms_of_childrenOf (depth + 1) fields children onChildren
      intro form member
      rcases List.mem_cons.mp member with rfl | inside
      · refine ⟨?_, ?_, ?_⟩
        · have named := required_satisfies onId fun _ _ => length_of_textOfAtLeast
          exact named
        · exact fieldOr_satisfies onLayout empty_conforms fun _ _ given =>
            model_satisfies given fun _ _ => conforms_of_layoutOf
        · exact fieldOr_satisfies onStyles ⟨by simp, by simp, sizeBounds_zero, by simp⟩ fun _ _ given =>
            model_satisfies given fun _ _ => conforms_of_stylesOf
      · exact below form inside
  | .null, _, passed | .bool _, _, passed | .int _, _, passed | .double _, _, passed | .string _, _, passed
  | .array _, _, passed => by
      rw [nodeOf] at passed
      split at passed <;> simp at passed
      all_goals simp

/-- The forms of the children that are read are within bounds. -/
theorem conforms_of_childrenOf (depth : Nat) :
    ∀ (fields : List (String × Json)) (trees : List (Tree LayerForm)), childrenOf depth fields = .valid trees →
      ∀ form ∈ Forest.preorder trees, form.Conforms
  | [], trees, passed => by
      obtain rfl : [] = trees := by simpa [childrenOf] using passed
      simp [Forest.preorder]
  | (name, value) :: rest, trees, passed => by
      rw [childrenOf] at passed
      split at passed
      · exact conforms_of_nodeListOf depth value trees ((Checked.under_eq_valid _ _ _).mp passed)
      · exact conforms_of_childrenOf depth rest trees passed

/-- The forms of a list of nodes that is read are within bounds. -/
theorem conforms_of_nodeListOf (depth : Nat) :
    ∀ (input : Json) (trees : List (Tree LayerForm)), nodeListOf depth input = .valid trees →
      ∀ form ∈ Forest.preorder trees, form.Conforms
  | .array items, trees, passed => by
      rw [nodeListOf] at passed
      exact conforms_of_nodesFrom depth 0 items trees passed
  | .null, _, passed | .bool _, _, passed | .int _, _, passed | .double _, _, passed | .string _, _, passed
  | .object _, _, passed => by
      rw [nodeListOf] at passed
      · simp at passed
      · simp

/-- The forms of nodes that are read are within bounds. -/
theorem conforms_of_nodesFrom (depth position : Nat) :
    ∀ (inputs : List Json) (trees : List (Tree LayerForm)), nodesFrom depth position inputs = .valid trees →
      ∀ form ∈ Forest.preorder trees, form.Conforms
  | [], trees, passed => by
      obtain rfl : [] = trees := by simpa [nodesFrom] using passed
      simp [Forest.preorder]
  | input :: rest, trees, passed => by
      simp only [nodesFrom, Checked.seq_eq_valid, Checked.map_eq_valid, Checked.under_eq_valid] at passed
      obtain ⟨-, others, ⟨first, onFirst, rfl⟩, onOthers, rfl⟩ := passed
      intro form member
      rcases List.mem_append.mp member with inside | later
      · exact conforms_of_nodeOf depth input first onFirst form inside
      · exact conforms_of_nodesFrom depth (position + 1) rest others onOthers form later

end

end Storyboard.Exchange
