/-
This file states that the issues of a malformed exchange form quote nothing but parts of it.
-/

import Storyboard.Exchange.Reader
import Storyboard.Proofs.Schema.Echo

namespace Storyboard.Exchange

open Schema Checked

theorem echoes_numberOr (fields : List (String × Json)) (name : FieldName) (default : Double) (bounds : Bounds) :
    Echoes (.object fields) (numberOr fields name default bounds) :=
  (echoes_fieldOr (echoes_doubleWithin bounds) fields name default).map _

theorem echoes_layoutOf (fields : List (String × Json)) : Echoes (.object fields) (layoutOf fields) := by
  have number := echoes_numberOr fields
  exact ((number _ _ _).map _).seq (number _ _ _) |>.seq (number _ _ _) |>.seq (number _ _ _) |>.seq (number _ _ _)
    |>.seq (number _ _ _)

theorem echoes_channelOf (fields : List (String × Json)) (name : String) :
    Echoes (.object fields) (channelOf fields name) :=
  (echoes_required (echoes_wholeWithin channelBounds) fields _).map _

theorem echoes_paintOf (fields : List (String × Json)) : Echoes (.object fields) (paintOf fields) := by
  have channel := echoes_channelOf fields
  have number (bounds : Bounds) := echoes_fieldOr (echoes_doubleWithin bounds) fields
  have css := echoes_fieldOr (echoes_optional echoes_text) fields
  exact ((channel "r").map _).seq (channel "g") |>.seq (channel "b") |>.seq (number _ _ _) |>.seq (css _ _)
    |>.seq (number _ _ _)

theorem echoes_textStyleOf (fields : List (String × Json)) : Echoes (.object fields) (textStyleOf fields) := by
  have family := echoes_fieldOr (echoes_optional echoes_text) fields
  have size := echoes_fieldOr (echoes_optional (echoes_doubleWithin fontBounds)) fields
  have weight := echoes_fieldOr (echoes_optional (echoes_wholeWithin fontBounds)) fields
  have align := echoes_fieldOr echoes_text fields
  have spacing := echoes_fieldOr echoes_double fields
  exact ((family _ _).map _).seq (size _ _) |>.seq (weight _ _) |>.seq (align _ _) |>.seq (spacing _ _)

theorem echoes_stylesOf (fields : List (String × Json)) : Echoes (.object fields) (stylesOf fields) := by
  have paints := echoes_fieldOr (echoes_list (echoes_model echoes_paintOf "PaintModel")) fields
  have radius := echoes_fieldOr (echoes_doubleWithin sizeBounds) fields
  have style := echoes_fieldOr (echoes_optional (echoes_model echoes_textStyleOf "TextStyleModel")) fields
  exact ((paints _ _).map _).seq (paints _ _) |>.seq (radius _ _) |>.seq (style _ _)

theorem echoes_contentOf (fields : List (String × Json)) : Echoes (.object fields) (contentOf fields) := by
  have flagged := echoes_fieldOr echoes_flag fields
  exact ((echoes_fieldOr echoes_text fields _ _).map _).seq (flagged _ _) |>.seq (flagged _ _)

theorem echoes_anyObject (input : Json) : Echoes input (anyObject input) := by
  unfold anyObject
  split
  · exact echoes_valid _
  · exact echoes_fail _

theorem echoes_classificationOf (fields : List (String × Json)) :
    Echoes (.object fields) (classificationOf fields) := by
  have category := echoes_required echoes_text fields
  have props := echoes_fieldOr echoes_anyObject fields
  have slug := echoes_fieldOr (echoes_optional echoes_text) fields
  have rule := echoes_fieldOr echoes_text fields
  exact ((category _).map _).seq (props _ _) |>.seq (slug _ _) |>.seq (rule _ _)

theorem echoes_typeOf (input : Json) : Echoes input (typeOf input) := by
  unfold typeOf
  split
  · exact echoes_valid _
  · exact echoes_fail _

mutual

/-- The issues of a node quote parts of it. -/
theorem echoes_nodeOf (depth : Nat) : ∀ input : Json, Echoes input (nodeOf depth input)
  | .object fields => by
      rw [nodeOf]
      split
      · exact echoes_fail _
      have id := echoes_required (echoes_textOfAtLeast 1) fields
      have type := echoes_required echoes_typeOf fields
      have name := echoes_fieldOr echoes_text fields
      have visible := echoes_fieldOr echoes_flag fields
      have layout := echoes_fieldOr (echoes_model echoes_layoutOf "LayoutModel") fields
      have styles := echoes_fieldOr (echoes_model echoes_stylesOf "StylesModel") fields
      have content := echoes_fieldOr (echoes_model echoes_contentOf "MetadataModel") fields
      have children := echoes_childrenOf (depth + 1) fields (.object fields)
        fun field among => .field among (.self field.2)
      have classification :=
        echoes_fieldOr (echoes_optional (echoes_model echoes_classificationOf "ClassificationModel")) fields
      exact ((id _).map _).seq (type _) |>.seq (name _ _) |>.seq (visible _ _) |>.seq (layout _ _)
        |>.seq (styles _ _) |>.seq (content _ _) |>.seq children |>.seq (classification _ _)
  | .null | .bool _ | .int _ | .double _ | .string _ | .array _ => by
      rw [nodeOf]
      · split <;> exact echoes_fail _
      · simp

/-- The issues of the children in the fields of a node quote parts of these fields. -/
theorem echoes_childrenOf (depth : Nat) : ∀ (fields : List (String × Json)) (input : Json),
    (∀ field ∈ fields, field.2.IsPart input) → Echoes input (childrenOf depth fields)
  | [], _, _ => echoes_valid []
  | (name, value) :: rest, input, among => by
      obtain ⟨first, others⟩ := List.forall_mem_cons.mp among
      rw [childrenOf]
      split
      · exact ((echoes_nodeListOf depth value).within first).under _
      · exact echoes_childrenOf depth rest input others

/-- The issues of a list of nodes quote parts of it. -/
theorem echoes_nodeListOf (depth : Nat) : ∀ input : Json, Echoes input (nodeListOf depth input)
  | .array items => by
      rw [nodeListOf]
      exact echoes_nodesFrom depth 0 items (.array items) fun item among => .item among (.self item)
  | .null | .bool _ | .int _ | .double _ | .string _ | .object _ => by
      rw [nodeListOf]
      · exact echoes_fail _
      · simp

/-- The issues of nodes quote parts of them. -/
theorem echoes_nodesFrom (depth position : Nat) : ∀ (items : List Json) (input : Json),
    (∀ item ∈ items, item.IsPart input) → Echoes input (nodesFrom depth position items)
  | [], _, _ => echoes_valid []
  | item :: rest, input, among => by
      obtain ⟨first, others⟩ := List.forall_mem_cons.mp among
      have onFirst := ((echoes_nodeOf depth item).within first).under (.index position)
      rw [nodesFrom]
      exact (onFirst.map _).seq (echoes_nodesFrom depth (position + 1) rest input others)

end

/-- The issues of a malformed exchange form quote parts of it. -/
theorem echoes_screensOf (source : Json) : Echoes source (screensOf source) := by
  have page (fields : List (String × Json)) : Echoes (.object fields) (pageOf fields) :=
    echoes_required (echoes_nodeListOf 0) fields _
  refine (echoes_eachFrom (echoes_model page "ASTPageModel") 0 ?_).map _
  intro item among
  cases source with
  | array pages => exact .item among (.self item)
  | _ =>
      obtain rfl := List.mem_singleton.mp among
      exact .self _

end Storyboard.Exchange
