/-
This file states which layers survive the way through their exchange form: those in which nothing is missing or
out of bounds.
-/

import Storyboard.Exchange.Reader
import Storyboard.Proofs.Number.Unit
import Storyboard.Proofs.Schema.Checked

namespace Storyboard

open Exchange Schema

/-- The form of a paint, with nothing left out. -/
def Paint.form (paint : Paint) : PaintForm where
  red := paint.red
  green := paint.green
  blue := paint.blue
  alpha := paint.alpha
  css? := some paint.css
  weight := paint.weight

/-- The form of a text style, with nothing left out. -/
def TextStyle.form (style : TextStyle) : TextStyleForm where
  fontFamily? := some style.fontFamily
  fontSize? := some style.fontSize.toDouble
  fontWeight? := style.fontWeight.truncated.toOption
  textAlign := style.textAlign
  letterSpacing := style.letterSpacing

def Styles.form (styles : Styles) : StylesForm where
  fills := styles.fills.map Paint.form
  strokes := styles.strokes.map Paint.form
  cornerRadius := styles.cornerRadius
  textStyle? := styles.textStyle?.map TextStyle.form

def Layer.form (layer : Layer) : LayerForm where
  id := layer.id
  type := layer.type
  name := layer.name
  visible := layer.visible
  layout := layer.layout
  styles := layer.styles.form
  content := layer.content
  classification? := layer.classification?

/-- The channels, the alpha value and the weight of a paint are within bounds. -/
structure PaintForm.Conforms (form : PaintForm) : Prop where
  red : form.red ≤ channelMax
  green : form.green ≤ channelMax
  blue : form.blue ≤ channelMax
  alpha : unitBounds.Admits form.alpha
  weight : sizeBounds.Admits form.weight

/-- The size and the weight of a font are within bounds. -/
structure TextStyleForm.Conforms (form : TextStyleForm) : Prop where
  fontSize : ∀ size ∈ form.fontSize?, fontBounds.Admits size
  fontWeight : ∀ weight ∈ form.fontWeight?, fontBounds.violationByWhole? weight = none

/-- All parts of styles are within bounds. -/
structure StylesForm.Conforms (form : StylesForm) : Prop where
  fills : ∀ paint ∈ form.fills, paint.Conforms
  strokes : ∀ paint ∈ form.strokes, paint.Conforms
  cornerRadius : sizeBounds.Admits form.cornerRadius
  textStyle : ∀ style ∈ form.textStyle?, style.Conforms

/-- The numbers of a layout are binary64 numbers within bounds. -/
def Layout.Conforms (layout : Layout) : Prop :=
  ∃ x y width height rotation opacity : Double,
    layout = {
      x := .double x
      y := .double y
      width := .double width
      height := .double height
      rotation := .double rotation
      opacity := .double opacity } ∧
    sizeBounds.Admits width ∧ sizeBounds.Admits height ∧ unitBounds.Admits opacity

/-- A layer has an id, and all its numbers are within bounds. -/
structure LayerForm.Conforms (form : LayerForm) : Prop where
  id : 1 ≤ form.id.length
  layout : form.layout.Conforms
  styles : form.styles.Conforms

/-- A paint is within bounds and has a written form. -/
structure Paint.IsComplete (paint : Paint) : Prop where
  within : paint.form.Conforms
  written : paint.css ≠ ""

/-- The font of a text style is named, and its size and weight are positive. -/
structure TextStyle.IsComplete (style : TextStyle) : Prop where
  named : style.fontFamily ≠ ""
  sized : ∃ size : Double, style.fontSize = .double size ∧ Double.zero.less size
  weighed : ∃ weight : Int, style.fontWeight = .whole weight ∧ 0 < weight

/-- All parts of a layer are complete, and text and components have what they need. -/
structure Layer.IsComplete (layer : Layer) : Prop where
  id : 1 ≤ layer.id.length
  layout : layer.layout.Conforms
  fills : ∀ paint ∈ layer.styles.fills, paint.IsComplete
  strokes : ∀ paint ∈ layer.styles.strokes, paint.IsComplete
  cornerRadius : sizeBounds.Admits layer.styles.cornerRadius
  textStyle : ∀ style ∈ layer.styles.textStyle?, style.IsComplete
  text : layer.type = .text → layer.styles.textStyle? ≠ none
  component : layer.type.isComponent → layer.content.isComponent

/-- The defaults of a configuration can stand in an exchange form. -/
structure Config.HasSoundDefaults (config : Config) : Prop where
  font : Text.isFilled config.fallbackFont
  size : ∃ size : Double, config.defaultFontSize = .double size ∧ Double.zero.less size
  weight : ∃ weight : Int, config.defaultFontWeight = .whole weight ∧ 0 < weight

theorem fontBounds_admits_iff (size : Double) : fontBounds.Admits size ↔ Double.zero.less size := by
  simp [Bounds.Admits, Bounds.violationByDouble?, Bounds.violation?, fontBounds, Double.ofInt_zero]

theorem sizeBounds_admits_iff (size : Double) : sizeBounds.Admits size ↔ Double.zero.atMost size := by
  simp [Bounds.Admits, Bounds.violationByDouble?, Bounds.violation?, sizeBounds, Double.ofInt_zero]

theorem unitBounds_admits_iff (value : Double) :
    unitBounds.Admits value ↔ Double.zero.atMost value ∧ value.atMost .one := by
  rw [and_comm]
  simp [Bounds.Admits, Bounds.violationByDouble?, Bounds.violation?, unitBounds, Double.ofInt_zero, Double.one]

theorem sizeBounds_zero : sizeBounds.Admits .zero := (sizeBounds_admits_iff _).mpr rfl

theorem sizeBounds_one : sizeBounds.Admits .one := (sizeBounds_admits_iff _).mpr Double.zero_atMost_one

theorem unitBounds_one : unitBounds.Admits .one :=
  (unitBounds_admits_iff _).mpr ⟨Double.zero_atMost_one, Double.one_atMost_one⟩

theorem fontBounds_whole_iff (weight : Int) : fontBounds.violationByWhole? weight = none ↔ 0 < weight := by
  simp [Bounds.violationByWhole?, Bounds.violation?, fontBounds]

theorem channelBounds_whole_iff (value : Int) :
    channelBounds.violationByWhole? value = none ↔ 0 ≤ value ∧ value ≤ channelMax := by
  rw [and_comm]
  simp [Bounds.violationByWhole?, Bounds.violation?, channelBounds]

/-- A channel at most full violates no bound. -/
theorem channelBounds_whole {value : Nat} (small : value ≤ channelMax) :
    channelBounds.violationByWhole? value = none :=
  (channelBounds_whole_iff value).mpr ⟨by omega, by exact_mod_cast small⟩

/-- Text that is filled is not empty. -/
theorem Text.ne_empty_of_isFilled {text : String} (filled : Text.isFilled text) : text ≠ "" := by
  rintro rfl
  simp [Text.isFilled] at filled

theorem Paint.colorText_ne_empty (red green blue : Nat) (alpha : Double) :
    Paint.colorText red green blue alpha ≠ "" := by
  simp [Paint.colorText]

/-- A paint with a written form is given back by its form. -/
theorem Paint.paint_form {paint : Paint} (written : paint.css ≠ "") : paint.form.paint = paint := by
  obtain ⟨red, green, blue, alpha, css, weight⟩ := paint
  simp [Paint.form, PaintForm.paint, written]

/-- A paint that is read from a form within bounds is complete, also when its written form was left out. -/
theorem PaintForm.Conforms.isComplete {form : PaintForm} (conforms : form.Conforms) : form.paint.IsComplete := by
  refine ⟨⟨conforms.red, conforms.green, conforms.blue, conforms.alpha, conforms.weight⟩, ?_⟩
  have computed := Paint.colorText_ne_empty form.red form.green form.blue form.alpha
  unfold PaintForm.paint
  dsimp only
  split
  · split
    · exact computed
    · rename_i filled
      simpa using filled
  · exact computed

namespace TextStyle

variable {style : TextStyle}

/-- The form of a complete text style is within bounds. -/
theorem IsComplete.conforms (complete : style.IsComplete) : style.form.Conforms := by
  obtain ⟨-, ⟨size, sized, large⟩, weight, weighed, heavy⟩ := complete
  refine ⟨fun other same => ?_, fun other same => ?_⟩
  · have exact : size = other := by simpa [TextStyle.form, sized, Number.toDouble] using same
    exact exact ▸ (fontBounds_admits_iff size).mpr large
  · have exact : weight = other := by simpa [TextStyle.form, weighed, Number.truncated, Except.toOption] using same
    exact exact ▸ (fontBounds_whole_iff weight).mpr heavy

/-- A complete text style leaves nothing to defaults. -/
theorem IsComplete.textStyle_form (complete : style.IsComplete) (config : Config) :
    style.form.textStyle config = style := by
  obtain ⟨named, ⟨size, sized, -⟩, weight, weighed, -⟩ := complete
  obtain ⟨family, fontSize, fontWeight, align, spacing⟩ := style
  dsimp only at named sized weighed
  subst sized weighed
  simp [TextStyle.form, TextStyleForm.textStyle, Number.toDouble, Number.truncated, Except.toOption, named]

end TextStyle

/-- A text style that is read from a form within bounds is complete, as sound defaults fill in what is left out. -/
theorem TextStyleForm.Conforms.isComplete {form : TextStyleForm} (conforms : form.Conforms) {config : Config}
    (sound : config.HasSoundDefaults) : (form.textStyle config).IsComplete := by
  refine ⟨?_, ?_, ?_⟩
  · have fallback := Text.ne_empty_of_isFilled sound.font
    unfold TextStyleForm.textStyle
    dsimp only
    split
    · split
      · exact fallback
      · rename_i filled
        simpa using filled
    · exact fallback
  · cases given : form.fontSize? with
    | none => simpa [TextStyleForm.textStyle, given] using sound.size
    | some size =>
        have admitted := conforms.fontSize size given
        exact ⟨size, by simp [TextStyleForm.textStyle, given], (fontBounds_admits_iff size).mp admitted⟩
  · cases given : form.fontWeight? with
    | none => simpa [TextStyleForm.textStyle, given] using sound.weight
    | some weight =>
        have admitted := conforms.fontWeight weight given
        exact ⟨weight, by simp [TextStyleForm.textStyle, given], (fontBounds_whole_iff weight).mp admitted⟩

namespace Layer

variable {layer : Layer}

/-- The form of a complete layer is within bounds. -/
theorem IsComplete.conforms (complete : layer.IsComplete) : layer.form.Conforms := by
  refine ⟨complete.id, complete.layout, fun form member => ?_, fun form member => ?_, complete.cornerRadius,
    fun form member => ?_⟩
  · obtain ⟨paint, inside, rfl⟩ := List.mem_map.mp member
    exact (complete.fills paint inside).within
  · obtain ⟨paint, inside, rfl⟩ := List.mem_map.mp member
    exact (complete.strokes paint inside).within
  · obtain ⟨style, inside, rfl⟩ := Option.map_eq_some_iff.mp member
    exact (complete.textStyle style inside).conforms

/-- A complete layer is given back by its form under any configuration. -/
theorem IsComplete.layer_form (complete : layer.IsComplete) (config : Config) : layer.form.layer config = layer := by
  obtain ⟨-, -, fills, strokes, -, textStyle, text, component⟩ := complete
  obtain ⟨id, type, name, layout, ⟨fillList, strokeList, cornerRadius, style?⟩, content, visible, classification?⟩ :=
    layer
  dsimp only at fills strokes textStyle text component
  have marked : (content.isComponent || type.isComponent) = content.isComponent := by
    cases isComponent : type.isComponent with
    | false => simp
    | true => simp [component isComponent]
  have filled : (fillList.map Paint.form).map PaintForm.paint = fillList := by
    rw [List.map_map]
    exact (List.map_congr_left fun paint member => Paint.paint_form (fills paint member).written).trans (List.map_id _)
  have stroked : (strokeList.map Paint.form).map PaintForm.paint = strokeList := by
    rw [List.map_map]
    exact (List.map_congr_left fun paint member => Paint.paint_form (strokes paint member).written).trans
      (List.map_id _)
  simp only [Layer.form, LayerForm.layer, Styles.form, filled, stroked, marked]
  cases style? with
  | none =>
      have other : type ≠ .text := fun same => text same rfl
      simp [other]
  | some style => simp [(textStyle style rfl).textStyle_form config]

/-- A complete layer stays complete when it is classified. -/
theorem IsComplete.classified (complete : layer.IsComplete) (classification? : Option Classification) :
    ({ layer with classification? } : Layer).IsComplete :=
  ⟨complete.id, complete.layout, complete.fills, complete.strokes, complete.cornerRadius, complete.textStyle,
    complete.text, complete.component⟩

end Layer

/-- A layer that is read from a form within bounds is complete. -/
theorem LayerForm.Conforms.isComplete {form : LayerForm} (conforms : form.Conforms) {config : Config}
    (sound : config.HasSoundDefaults) : (form.layer config).IsComplete where
  id := conforms.id
  layout := conforms.layout
  fills paint member := by
    obtain ⟨given, inside, rfl⟩ := List.mem_map.mp member
    exact (conforms.styles.fills given inside).isComplete
  strokes paint member := by
    obtain ⟨given, inside, rfl⟩ := List.mem_map.mp member
    exact (conforms.styles.strokes given inside).isComplete
  cornerRadius := conforms.styles.cornerRadius
  textStyle style member := by
    cases found : form.styles.textStyle? with
    | some given =>
        simp only [LayerForm.layer, found, Option.mem_some] at member
        exact member ▸ (conforms.styles.textStyle given found).isComplete sound
    | none =>
        -- Text without a text style is read as if all of it were left out.
        have defaults : TextStyleForm.Conforms {} := ⟨by simp, by simp⟩
        simp only [LayerForm.layer, found] at member
        split at member
        · exact Option.mem_some.mp member ▸ defaults.isComplete sound
        · simp at member
  text isText := by
    have given : form.type = .text := isText
    simp only [LayerForm.layer, given, if_true]
    split <;> simp
  component isComponent := by
    have marked : form.type.isComponent = true := isComponent
    simp [LayerForm.layer, marked]

end Storyboard
