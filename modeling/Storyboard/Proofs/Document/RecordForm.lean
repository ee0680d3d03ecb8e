/-
This file states that the layer of a raw record is complete, so that it survives the way through its exchange form.
-/

import Storyboard.Proofs.Document.RecordLayer
import Storyboard.Proofs.Exchange.Complete
import Storyboard.Proofs.Number.Order
import Storyboard.Proofs.Number.Unit

namespace Storyboard

namespace Double

/-- A magnitude at most one is admitted as an opacity. -/
theorem unit_admitted {steps : Nat} (fits : Fits steps) (small : steps ≤ stepsPerUnit) :
    Exchange.unitBounds.Admits (.finite false steps fits) := by
  rw [unitBounds_admits_iff, one_eq, zero, atMost_finite, atMost_finite]
  simpa using small

/-- A clamped number is admitted as an opacity. -/
theorem clampUnit_admitted {value : Double} (defined : value.isFinite) :
    Exchange.unitBounds.Admits value.clampUnit := by
  obtain ⟨steps, fits, clamped, small⟩ := clampUnit_eq defined
  exact clamped ▸ unit_admitted fits small

/-- A number that is cut off at zero is admitted as a size. -/
theorem larger_zero_admitted (value : Double) : Exchange.sizeBounds.Admits (larger zero value) := by
  rw [sizeBounds_admits_iff, larger]
  split
  · rename_i above
    simp [atMost, above]
  · exact (sizeBounds_admits_iff _).mp sizeBounds_zero

end Double

namespace Paints

theorem fits_half : Double.Fits (twoTo 1073) := ⟨1, 1073, (Nat.one_mul _).symm, by decide, by decide⟩

theorem half_eq : half = .finite false (twoTo 1073) fits_half := by decide +kernel

theorem fits_full : Double.Fits (channelMax * Double.stepsPerUnit) :=
  ⟨channelMax, 1074, by rw [Double.stepsPerUnit], by decide, by decide⟩

theorem full_eq : Double.ofInt channelMax = .finite false (channelMax * Double.stepsPerUnit) fits_full := by
  decide +kernel

/-- A full channel and a half can be written exactly, so that no sum is rounded past them. -/
theorem fits_fullAndHalf : Double.Fits (511 * twoTo 1073) := ⟨511, 1073, rfl, by decide, by decide⟩

/-- A fraction gives a channel within bounds. -/
theorem channel_le {fraction : Double} (defined : fraction.isFinite) : channel fraction ≤ Exchange.channelMax := by
  obtain ⟨part, partFits, clamped, small⟩ := Double.clampUnit_eq defined
  obtain ⟨product, productFits, multiplied, bounded⟩ := Double.multiply_le small partFits fits_full
  have within : product + twoTo 1073 ≤ 511 * twoTo 1073 := by
    rw [Double.stepsPerUnit_eq, channelMax] at bounded
    omega
  obtain ⟨sum, fits, added, total⟩ := Double.add_le productFits fits_half fits_fullAndHalf within
  have whole : sum / Double.stepsPerUnit < channelMax + 1 := by
    rw [Nat.div_lt_iff_lt_mul Double.stepsPerUnit_pos, Double.stepsPerUnit_eq, channelMax]
    have positive := twoTo_pos 1073
    omega
  rw [channel, clamped, full_eq, half_eq, multiplied, added, Double.floor?_finite]
  exact Nat.lt_succ_iff.mp whole

/-- The channels of a colour and its alpha value are within bounds. -/
theorem channels_within {color opacity : Json} {resolved : Channels} (made : channels color opacity = .ok resolved) :
    resolved.red ≤ Exchange.channelMax ∧ resolved.green ≤ Exchange.channelMax ∧
      resolved.blue ≤ Exchange.channelMax ∧ Exchange.unitBounds.Admits resolved.alpha := by
  simp only [channels, bind_eq_ok, pure_eq_ok] at made
  obtain ⟨alpha, readAlpha, opacity, readOpacity, red, readRed, green, readGreen, blue, readBlue, rfl⟩ := made
  refine ⟨channel_le ?_, channel_le ?_, channel_le ?_, ?_⟩
  · exact Measure.isFinite_of_ofJson Double.isFinite_zero readRed
  · exact Measure.isFinite_of_ofJson Double.isFinite_zero readGreen
  · exact Measure.isFinite_of_ofJson Double.isFinite_zero readBlue
  · obtain ⟨left, leftFits, onLeft, small⟩ :=
      Double.clampUnit_eq (Measure.isFinite_of_ofJson Double.isFinite_one readAlpha)
    obtain ⟨right, rightFits, onRight, bounded⟩ :=
      Double.clampUnit_eq (Measure.isFinite_of_ofJson Double.isFinite_one readOpacity)
    obtain ⟨product, fits, multiplied, below⟩ := Double.multiply_le small leftFits rightFits
    obtain ⟨rounded, roundedFits, placed, within⟩ := Double.roundPlaces_le fits (Nat.le_trans below bounded)
    simp only [onLeft, onRight, multiplied, placed]
    exact Double.unit_admitted roundedFits within

/-- A paint that is resolved is made of the channels of a colour, with the weight that is given. -/
theorem exists_channels_of_mem_ofJson {paints : Json} {weight : Double} {resolved : List Paint}
    (made : ofJson paints weight = .ok resolved) {paint : Paint} (member : paint ∈ resolved) :
    ∃ color opacity shade, channels color opacity = .ok shade ∧ paint = {
      red := shade.red
      green := shade.green
      blue := shade.blue
      alpha := shade.alpha
      css := shade.css
      weight } := by
  simp only [ofJson, bind_eq_ok, pure_eq_ok] at made
  obtain ⟨found, each, rfl⟩ := made
  obtain ⟨found?, inside, same⟩ := List.mem_filterMap.mp member
  obtain rfl : found? = some paint := same
  obtain ⟨value, -, read⟩ := exists_of_mem_mapM each inside
  unfold paint? at read
  split at read
  · split at read
    · simp at read
    · obtain ⟨word, -, solid⟩ := (bind_eq_ok _ _ _).mp read
      split at solid
      · unfold solid? at solid
        split at solid
        · simp only [bind_eq_ok, pure_eq_ok, Option.some.injEq] at solid
          obtain ⟨shade, painted, rfl⟩ := solid
          exact ⟨_, _, shade, painted, rfl⟩
        · simp at solid
      · simp at solid
  · simp at read

/-- All paints that are resolved are complete. -/
theorem ofJson_isComplete {paints : Json} {weight : Double} (admitted : Exchange.sizeBounds.Admits weight)
    {resolved : List Paint} (made : ofJson paints weight = .ok resolved) :
    ∀ paint ∈ resolved, paint.IsComplete := by
  intro paint member
  obtain ⟨color, opacity, shade, painted, rfl⟩ := exists_channels_of_mem_ofJson made member
  obtain ⟨red, green, blue, alpha⟩ := channels_within painted
  exact ⟨⟨red, green, blue, alpha, admitted⟩, Paint.colorText_ne_empty _ _ _ _⟩

end Paints

/-- Text that is filled is still filled when it is trimmed. -/
theorem Text.trim_ne_empty {text : String} (filled : Text.isFilled text) : Text.trim text ≠ "" := by
  obtain ⟨character, member, visible⟩ : ∃ character ∈ text.toList, Text.isBlank character = false := by
    simpa [Text.isFilled] using filled
  have kept : ∀ characters : List Char, character ∈ characters → character ∈ characters.dropWhile Text.isBlank := by
    intro characters inside
    rw [← List.takeWhile_append_dropWhile (p := Text.isBlank) (l := characters), List.mem_append] at inside
    rcases inside with dropped | rest
    · have blank := List.all_eq_true.mp List.all_takeWhile character dropped
      simp [visible] at blank
    · exact rest
  have inside : character ∈ Text.trimBy Text.isBlank text.toList := by
    rw [Text.trimBy, List.mem_reverse]
    exact kept _ (List.mem_reverse.mpr (kept _ member))
  intro empty
  rw [Text.trim, String.ofList_eq_empty_iff] at empty
  simp [empty] at inside

namespace Record

variable {record : Record} {config : Config}

theorem positiveOr_admitted (value : Double) {default : Double} (admitted : Exchange.sizeBounds.Admits default) :
    Exchange.sizeBounds.Admits (positiveOr value default) := by
  unfold positiveOr
  split
  · rename_i above
    rw [sizeBounds_admits_iff]
    simp [Double.atMost, above]
  · exact admitted

theorem layout_conforms {layout : Layout} (made : record.layout = .ok layout) : layout.Conforms := by
  obtain ⟨x, y, width, height, rotation, opacity, ⟨-, -, -, -, -, shown⟩, rfl⟩ := layout_eq_ok made
  exact ⟨x, y, _, _, rotation, _, rfl, Double.larger_zero_admitted width, Double.larger_zero_admitted height,
    Double.clampUnit_admitted shown⟩

/-- The font family is filled, as the fallback is. -/
theorem fontFamily_isFilled (sound : config.HasSoundDefaults) (style : List (String × Json)) :
    Text.isFilled (fontFamily style config) := by
  unfold fontFamily
  split
  · split
    · assumption
    · exact sound.font
  · exact sound.font

/-- A font size is finite and positive unless it is the default. -/
theorem fontSize_eq_default_or_positive {style : List (String × Json)} {size : Number}
    (made : fontSize style config = .ok size) :
    size = config.defaultFontSize ∨
      ∃ positive : Double, size = .double positive ∧ positive.isFinite ∧ Double.zero.less positive := by
  simp only [fontSize, bind_eq_ok, pure_eq_ok] at made
  obtain ⟨given, read, rfl⟩ := made
  split
  · exact .inl rfl
  · rename_i large
    cases given with
    | none => exact .inl rfl
    | some number =>
        have finite := Measure.isFinite_of_ofJson? read
        have above := Number.less_of_not_atMost (Double.ne_nan_of_isFinite finite) (Number.whole_ne_nan 0)
          (Bool.eq_false_iff.mpr large)
        exact .inr ⟨number, rfl, finite, Number.zero_less_double number ▸ above⟩

/-- A font weight is positive unless it is the default. -/
theorem fontWeight_eq_default_or_positive {style : List (String × Json)} {weight : Number}
    (made : fontWeight style config = .ok weight) :
    weight = config.defaultFontWeight ∨ ∃ positive : Int, weight = .whole positive ∧ 0 < positive := by
  simp only [fontWeight, bind_eq_ok, pure_eq_ok] at made
  obtain ⟨given, read, whole, cut, rfl⟩ := made
  split
  · exact .inl rfl
  · exact .inr ⟨whole, rfl, by omega⟩

/-- A font size that is not positive gives way to the default, which is. -/
theorem fontSize_positive (sound : config.HasSoundDefaults) {style : List (String × Json)} {size : Number}
    (made : fontSize style config = .ok size) :
    ∃ positive : Double, size = .double positive ∧ Double.zero.less positive := by
  rcases fontSize_eq_default_or_positive made with rfl | ⟨positive, rfl, -, above⟩
  · exact sound.size
  · exact ⟨positive, rfl, above⟩

/-- A font weight that is not positive gives way to the default, which is. -/
theorem fontWeight_positive (sound : config.HasSoundDefaults) {style : List (String × Json)} {weight : Number}
    (made : fontWeight style config = .ok weight) : ∃ positive : Int, weight = .whole positive ∧ 0 < positive := by
  rcases fontWeight_eq_default_or_positive made with rfl | positive
  · exact sound.weight
  · exact positive

theorem textStyle_isComplete (sound : config.HasSoundDefaults) {style : TextStyle}
    (made : record.textStyle config = .ok style) : style.IsComplete := by
  obtain ⟨size, weight, word, spacing, sized, weighed, -, rfl⟩ := textStyle_eq_ok made
  exact ⟨Text.trim_ne_empty (fontFamily_isFilled sound _), fontSize_positive sound sized,
    fontWeight_positive sound weighed⟩

/-- All paints of a record are complete and its corners within bounds, and text has a text style. -/
theorem styles_isPainted {isText : Bool} {styles : Styles} (made : record.styles isText config = .ok styles) :
    (∀ paint ∈ styles.fills, paint.IsComplete) ∧ (∀ paint ∈ styles.strokes, paint.IsComplete) ∧
      Exchange.sizeBounds.Admits styles.cornerRadius ∧
        if isText then ∃ style, record.textStyle config = .ok style ∧ styles.textStyle? = some style
        else styles.textStyle? = none := by
  obtain ⟨fills, weight, strokes, radius, filled, weighed, stroked, bent, styled⟩ := styles_eq_ok made
  simp only [strokeWeight, cornerRadius, bind_eq_ok, pure_eq_ok] at weighed bent
  obtain ⟨given, -, rfl⟩ := weighed
  obtain ⟨radius, -, rfl⟩ := bent
  have filling := Paints.ofJson_isComplete sizeBounds_zero filled
  have stroking := Paints.ofJson_isComplete (positiveOr_admitted given sizeBounds_one) stroked
  have corners := positiveOr_admitted radius sizeBounds_zero
  cases isText with
  | true =>
      obtain ⟨style, set, rfl⟩ := styled
      exact ⟨filling, stroking, corners, style, set, rfl⟩
  | false =>
      obtain rfl := styled
      exact ⟨filling, stroking, corners, rfl⟩

/-- The layout, the paints and the corners of a layer are within bounds, and its text style is that of its record. -/
theorem layer_isPainted {type : NodeType} {id : String} {layer : Layer}
    (made : record.layer type id config = .ok layer) :
    layer.layout.Conforms ∧ (∀ paint ∈ layer.styles.fills, paint.IsComplete) ∧
      (∀ paint ∈ layer.styles.strokes, paint.IsComplete) ∧ Exchange.sizeBounds.Admits layer.styles.cornerRadius ∧
        (∀ style ∈ layer.styles.textStyle?, record.textStyle config = .ok style) ∧
          (layer.type = .text → layer.styles.textStyle? ≠ none) := by
  obtain ⟨content, layout, styles, hasImage, -, placed, painted, -, rfl⟩ := layer_eq_ok made
  obtain ⟨fills, strokes, corners, styled⟩ := styles_isPainted painted
  refine ⟨layout_conforms placed, fills, strokes, corners, fun style given => ?_, fun isText => ?_⟩
  · split at styled
    · obtain ⟨own, set, same⟩ := styled
      exact Option.some.inj (same.symm.trans given) ▸ set
    · simp [styled] at given
  · have same : type = .text := isText
    rw [if_pos (by simp [same])] at styled
    obtain ⟨own, -, given⟩ := styled
    simp [given]

theorem layer_isMarked {type : NodeType} {id : String} {layer : Layer}
    (made : record.layer type id config = .ok layer) : layer.type.isComponent → layer.content.isComponent := by
  obtain ⟨text, layout, styles, hasImage, -, -, -, -, rfl⟩ := layer_eq_ok made
  exact fun marked => marked

/-- The layer of a record is complete when it has an id. -/
theorem layer_isComplete (sound : config.HasSoundDefaults) {type : NodeType} {id : String} (named : 1 ≤ id.length)
    {layer : Layer} (made : record.layer type id config = .ok layer) : layer.IsComplete := by
  obtain ⟨layout, fills, strokes, corners, styled, text⟩ := layer_isPainted made
  exact ⟨(layer_id made).symm ▸ named, layout, fills, strokes, corners,
    fun style given => textStyle_isComplete sound (styled style given), text, layer_isMarked made⟩

end Record

end Storyboard
