/-
This file states that the layer of a raw record can be made when no whole number in it is too large to convert.
-/

import Storyboard.Proofs.Document.Measured
import Storyboard.Proofs.Number.Rounding

namespace Storyboard

namespace Json

variable {test other : Int → Bool}

theorem everyWhole_of_mem_items {items : List Json} (all : itemsEveryWhole test items) {item : Json}
    (member : item ∈ items) : item.everyWhole test := by
  induction items with
  | nil => simp at member
  | cons first rest ih =>
      simp only [itemsEveryWhole, Bool.and_eq_true] at all
      rcases List.mem_cons.mp member with same | later
      · exact same ▸ all.1
      · exact ih all.2 later

mutual

/-- Whole numbers that pass a test pass a weaker one. -/
theorem everyWhole_mono (weaker : ∀ value, test value → other value) :
    ∀ value : Json, value.everyWhole test → value.everyWhole other
  | .int value, passes => weaker value passes
  | .array items, passes => itemsEveryWhole_mono weaker items passes
  | .object fields, passes => fieldsEveryWhole_mono weaker fields passes
  | .null, _ | .bool _, _ | .double _, _ | .string _, _ => rfl

theorem itemsEveryWhole_mono (weaker : ∀ value, test value → other value) :
    ∀ items : List Json, itemsEveryWhole test items → itemsEveryWhole other items
  | [], _ => rfl
  | item :: rest, passes => by
      simp only [itemsEveryWhole, Bool.and_eq_true] at passes ⊢
      exact ⟨everyWhole_mono weaker item passes.1, itemsEveryWhole_mono weaker rest passes.2⟩

theorem fieldsEveryWhole_mono (weaker : ∀ value, test value → other value) :
    ∀ fields : List (String × Json), fieldsEveryWhole test fields → fieldsEveryWhole other fields
  | [], _ => rfl
  | (_, value) :: rest, passes => by
      simp only [fieldsEveryWhole, Bool.and_eq_true] at passes ⊢
      exact ⟨everyWhole_mono weaker value passes.1, fieldsEveryWhole_mono weaker rest passes.2⟩

end

/-- A whole number has a finite binary64 counterpart. -/
def isInRange (value : Int) : Bool := (Double.ofInt value).isFinite

/-- Every whole number inside a value has a finite binary64 counterpart. -/
def isConvertible : Json → Bool := everyWhole isInRange

/-- Every whole number inside the fields has a finite binary64 counterpart. -/
def fieldsConvertible : List (String × Json) → Bool := fieldsEveryWhole isInRange

/-- A whole number with a finite counterpart has few enough digits. -/
theorem fitsDigits_of_isInRange (value : Int) (inRange : isInRange value) : fitsDigits value := by
  have powers (exponent : Nat) : twoTo exponent ≤ 10 ^ exponent := Nat.pow_le_pow_left (by decide) exponent
  have small : value.natAbs < 10 ^ maxDigits :=
    calc value.natAbs < twoTo 1025 := Double.natAbs_lt_of_isFinite_ofInt inRange
      _ ≤ twoTo maxDigits := twoTo_le_twoTo (by decide)
      _ ≤ 10 ^ maxDigits := powers maxDigits
  exact decide_eq_true ((Nat.length_toDigits_le_iff (by decide) (by decide)).mpr small)

theorem isWritable_of_isConvertible {value : Json} (convertible : value.isConvertible) : value.isWritable :=
  everyWhole_mono fitsDigits_of_isInRange value convertible

theorem field_isConvertible {fields : List (String × Json)} (convertible : fieldsConvertible fields) (name : String) :
    (field fields name).isConvertible := by
  induction fields with
  | nil => rfl
  | cons entry rest ih =>
      obtain ⟨key, value⟩ := entry
      simp only [fieldsConvertible, fieldsEveryWhole, Bool.and_eq_true] at convertible
      cases same : name == key with
      | true => simpa [field, List.lookup_cons, same, isConvertible] using convertible.1
      | false => simpa [field, List.lookup_cons, same] using ih convertible.2

theorem fields?_isConvertible {value : Json} (convertible : value.isConvertible) :
    fieldsConvertible (value.fields?.getD []) := by
  cases value <;> first | rfl | exact convertible

theorem items?_isConvertible {value : Json} (convertible : value.isConvertible) :
    ∀ item ∈ value.items?.getD [], item.isConvertible := by
  cases value with
  | array items => exact fun item member => everyWhole_of_mem_items convertible member
  | _ => simp [items?]

end Json

open Json

namespace Measure

/-- A convertible value can be read as a number, or stands for none. -/
theorem isReadable_number {value : Json} (convertible : value.isConvertible) : isReadable (.number value) := by
  cases value with
  | int whole =>
      rw [isConvertible, everyWhole, isInRange] at convertible
      simp [isReadable, fault?, convertible]
  | _ => rfl

/-- A convertible value can be written out. -/
theorem isReadable_word {value : Json} (convertible : value.isConvertible) : isReadable (.word value) := by
  simp [isReadable, fault?, isWritable_of_isConvertible convertible]

theorem isReadable_digits {value : Json} (convertible : value.isConvertible) :
    ∀ measure ∈ digits value, isReadable measure := by
  cases value with
  | int whole =>
      rw [digits, List.forall_mem_singleton]
      exact isReadable_word convertible
  | _ => simp [digits]

end Measure

open Storyboard.Measure

namespace Paints

/-- The values of a convertible colour under a convertible opacity can be used. -/
theorem isReadable_of_mem_channelMeasures {color opacity : Json} (shade : color.isConvertible)
    (fade : opacity.isConvertible) : ∀ value ∈ channelMeasures color opacity, isReadable value := by
  have fields := field_isConvertible (fields?_isConvertible shade)
  simp only [channelMeasures, List.forall_mem_cons]
  exact ⟨isReadable_number (fields "a"), isReadable_number fade, isReadable_number (fields "r"),
    isReadable_number (fields "g"), isReadable_number (fields "b"), by simp⟩

/-- The values of a convertible paint can be used. -/
theorem isReadable_of_mem_paintMeasures {paint : Json} (convertible : paint.isConvertible) :
    ∀ value ∈ paintMeasures paint, isReadable value := by
  cases paint with
  | object fields =>
      have get := field_isConvertible convertible
      have colored : ∀ value ∈ solidMeasures fields, isReadable value := by
        rw [solidMeasures]
        cases shade : Json.field fields "color" with
        | object inner => exact isReadable_of_mem_channelMeasures (shade ▸ get "color") (get "opacity")
        | _ => simp
      simp only [paintMeasures]
      split
      · simp
      · rw [List.forall_mem_cons]
        refine ⟨isReadable_word (get "type"), ?_⟩
        split
        · exact colored
        · simp
  | _ => simp [paintMeasures]

/-- The values of convertible paints can be used. -/
theorem isReadable_of_mem_measures {paints : Json} (convertible : paints.isConvertible) :
    ∀ value ∈ measures paints, isReadable value := by
  intro value member
  obtain ⟨paint, inside, among⟩ := List.mem_flatMap.mp member
  exact isReadable_of_mem_paintMeasures (items?_isConvertible convertible paint inside) value among

/-- The types of convertible paints can be written out. -/
theorem isReadable_of_mem_imageMeasures {paints : List Json} (convertible : ∀ paint ∈ paints, paint.isConvertible) :
    ∀ value ∈ imageMeasures paints, isReadable value := by
  induction paints with
  | nil => simp [imageMeasures]
  | cons paint rest ih =>
      obtain ⟨first, others⟩ := List.forall_mem_cons.mp convertible
      have kind : ∀ value ∈ kindMeasures paint, isReadable value := by
        cases paint with
        | object fields =>
            rw [kindMeasures, List.forall_mem_singleton]
            exact isReadable_word (field_isConvertible first "type")
        | _ => simp [kindMeasures]
      rw [imageMeasures, List.forall_mem_append]
      refine ⟨kind, ?_⟩
      split
      · simp
      · exact ih others

end Paints

namespace Record

variable {record : Record}

theorem get_isConvertible (convertible : fieldsConvertible record.fields) (name : String) :
    (record.get name).isConvertible :=
  field_isConvertible convertible name

theorem box_isConvertible (convertible : fieldsConvertible record.fields) : fieldsConvertible record.box := by
  have absolute := get_isConvertible convertible "absoluteBoundingBox"
  have plain := get_isConvertible convertible "boundingBox"
  unfold box
  split
  · rename_i fields found
    rw [found] at absolute
    exact absolute
  · rename_i fields found _
    rw [found] at plain
    exact plain
  · rfl

/-- All values of a convertible record of which its layer is made can be used. -/
theorem isReadable_of_mem_measures (convertible : fieldsConvertible record.fields) (type : NodeType) :
    ∀ value ∈ record.measures type, isReadable value := by
  have get (name : String) := get_isConvertible convertible name
  have box := field_isConvertible (box_isConvertible convertible)
  have style := field_isConvertible (fields?_isConvertible (get "style"))
  have layout : ∀ value ∈ record.layoutMeasures, isReadable value := by
    simp only [layoutMeasures, List.forall_mem_cons]
    exact ⟨isReadable_number (get "opacity"), isReadable_number (box "x"), isReadable_number (box "y"),
      isReadable_number (box "width"), isReadable_number (box "height"), isReadable_number (get "rotation"), by simp⟩
  have painted : ∀ value ∈ record.paintMeasures, isReadable value := by
    simp only [paintMeasures, List.forall_mem_append, List.forall_mem_cons]
    exact ⟨⟨Paints.isReadable_of_mem_measures (get "fills"), isReadable_number (get "strokeWeight"),
      Paints.isReadable_of_mem_measures (get "strokes")⟩, isReadable_number (get "cornerRadius"), by simp⟩
  have written : ∀ value ∈ record.textMeasures, isReadable value := by
    simp only [textMeasures, List.forall_mem_cons]
    exact ⟨isReadable_number (style "fontSize"), isReadable_number (style "fontWeight"),
      isReadable_word (style "textAlignHorizontal"), isReadable_number (style "letterSpacing"), by simp⟩
  simp only [measures, List.forall_mem_append]
  refine ⟨⟨⟨⟨isReadable_digits (get "characters"), layout⟩, painted⟩, ?_⟩,
    Paints.isReadable_of_mem_imageMeasures (items?_isConvertible (get "fills"))⟩
  split
  · exact written
  · simp

/-- The layer of a record with convertible numbers can be made. -/
theorem layer_isOk (convertible : fieldsConvertible record.fields) (type : NodeType) (id : String) {config : Config}
    (default : ∃ weight, config.defaultFontWeight.truncated = .ok weight) :
    ∃ layer, record.layer type id config = .ok layer :=
  (record.layer_reads type id default).isOk (isReadable_of_mem_measures convertible type)

end Record

/-- The layer of a record in view with convertible numbers can be made. -/
theorem Sighting.layer_isOk {sighting : Sighting} (convertible : fieldsConvertible sighting.record.fields)
    {config : Config} (default : ∃ weight, config.defaultFontWeight.truncated = .ok weight) :
    ∃ layer, sighting.layer config = .ok layer := by
  have get (name : String) := Record.get_isConvertible convertible name
  refine (sighting.layer_reads default).isOk ?_
  rw [measures, List.forall_mem_append, List.forall_mem_cons]
  exact ⟨⟨isReadable_word (get "type"), isReadable_digits (get "id")⟩,
    Record.isReadable_of_mem_measures convertible sighting.type⟩

end Storyboard
