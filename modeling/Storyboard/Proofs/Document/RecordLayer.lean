/-
This file opens the layer of a raw record: what it is made of, and which of its numbers are finite.
-/

import Storyboard.Proofs.Document.Convertible
import Storyboard.Proofs.Number.Finite
import Storyboard.Proofs.Number.Unit

namespace Storyboard

namespace Record

variable {record : Record} {config : Config}

/-- All numbers of a layout are finite, no size is negative, and the opacity is clamped. -/
theorem layout_eq_ok {layout : Layout} (made : record.layout = .ok layout) :
    ∃ x y width height rotation opacity : Double,
      (x.isFinite ∧ y.isFinite ∧ width.isFinite ∧ height.isFinite ∧ rotation.isFinite ∧ opacity.isFinite) ∧
        layout = {
          x := .double x
          y := .double y
          width := .double (.larger .zero width)
          height := .double (.larger .zero height)
          rotation := .double rotation
          opacity := .double opacity.clampUnit } := by
  simp only [Record.layout, bind_eq_ok, pure_eq_ok] at made
  obtain ⟨opacity, readOpacity, x, readX, y, readY, width, readWidth, height, readHeight, rotation, readRotation,
    rfl⟩ := made
  refine ⟨x, y, width, height, rotation, opacity, ⟨?_, ?_, ?_, ?_, ?_, ?_⟩, rfl⟩
  · exact Measure.isFinite_of_ofJson Double.isFinite_zero readX
  · exact Measure.isFinite_of_ofJson Double.isFinite_zero readY
  · exact Measure.isFinite_of_ofJson Double.isFinite_zero readWidth
  · exact Measure.isFinite_of_ofJson Double.isFinite_zero readHeight
  · exact Measure.isFinite_of_ofJson Double.isFinite_zero readRotation
  · exact Measure.isFinite_of_ofJson Double.isFinite_one readOpacity

/-- A text style is made of the font of its record, with an alignment that some word stands for. -/
theorem textStyle_eq_ok {style : TextStyle} (made : record.textStyle config = .ok style) :
    ∃ size weight word spacing, fontSize ((record.get "style").fields?.getD []) config = .ok size ∧
      fontWeight ((record.get "style").fields?.getD []) config = .ok weight ∧
        Measure.ofJson (Json.field ((record.get "style").fields?.getD []) "letterSpacing") .zero = .ok spacing ∧
          style = {
            fontFamily := Text.trim (fontFamily ((record.get "style").fields?.getD []) config)
            fontSize := size
            fontWeight := weight
            textAlign := alignmentOf word
            letterSpacing := spacing } := by
  simp only [Record.textStyle, alignment, bind_eq_ok, pure_eq_ok] at made
  obtain ⟨size, sized, weight, weighed, -, ⟨word, -, rfl⟩, spacing, spaced, rfl⟩ := made
  exact ⟨size, weight, word, spacing, sized, weighed, spaced, rfl⟩

/-- Styles are made of the paints and the corners of their record, and of its text style if it is text. -/
theorem styles_eq_ok {isText : Bool} {styles : Styles} (made : record.styles isText config = .ok styles) :
    ∃ fills weight strokes cornerRadius, Paints.ofJson (record.get "fills") .zero = .ok fills ∧
      record.strokeWeight = .ok weight ∧ Paints.ofJson (record.get "strokes") weight = .ok strokes ∧
        record.cornerRadius = .ok cornerRadius ∧
          if isText then ∃ style, record.textStyle config = .ok style ∧
            styles = { fills, strokes, cornerRadius, textStyle? := some style }
          else styles = { fills, strokes, cornerRadius, textStyle? := none } := by
  cases isText with
  | true =>
      simp only [Record.styles, if_true, bind_eq_ok, map_eq_ok, pure_eq_ok] at made
      obtain ⟨fills, filled, weight, weighed, strokes, stroked, radius, bent, -, ⟨style, styled, rfl⟩, rfl⟩ := made
      exact ⟨fills, weight, strokes, radius, filled, weighed, stroked, bent, style, styled, rfl⟩
  | false =>
      simp only [Record.styles, Bool.false_eq_true, if_false, bind_eq_ok, pure_eq_ok] at made
      obtain ⟨fills, filled, weight, weighed, strokes, stroked, radius, bent, -, rfl, rfl⟩ := made
      exact ⟨fills, weight, strokes, radius, filled, weighed, stroked, bent, rfl⟩

/-- A layer is made of the layout and the styles of its record, under the id and the type that are given. -/
theorem layer_eq_ok {type : NodeType} {id : String} {layer : Layer} (made : record.layer type id config = .ok layer) :
    ∃ text layout styles hasImage, record.text = .ok text ∧ record.layout = .ok layout ∧
      record.styles (type = .text || !text.isEmpty) config = .ok styles ∧
        Paints.hasImage (record.get "fills") = .ok hasImage ∧
          layer = {
            id
            type
            name := record.name
            layout
            styles
            content := { text, hasImage, isComponent := type.isComponent }
            visible := !record.isHidden } := by
  simp only [Record.layer, bind_eq_ok, pure_eq_ok] at made
  obtain ⟨text, written, layout, placed, styles, painted, hasImage, looked, rfl⟩ := made
  exact ⟨text, layout, styles, hasImage, written, placed, painted, looked, rfl⟩

theorem layer_type {type : NodeType} {id : String} {layer : Layer}
    (made : record.layer type id config = .ok layer) : layer.type = type := by
  obtain ⟨text, layout, styles, hasImage, -, -, -, -, rfl⟩ := layer_eq_ok made
  rfl

theorem layer_id {type : NodeType} {id : String} {layer : Layer} (made : record.layer type id config = .ok layer) :
    layer.id = id := by
  obtain ⟨text, layout, styles, hasImage, -, -, -, -, rfl⟩ := layer_eq_ok made
  rfl

/-- The corner of a layer is defined, and so is its area. -/
theorem layer_isPlaced {type : NodeType} {id : String} {layer : Layer}
    (made : record.layer type id config = .ok layer) :
    layer.layout.x ≠ .double .nan ∧ layer.layout.y ≠ .double .nan ∧ layer.layout.area ≠ .double .nan := by
  obtain ⟨text, layout, styles, hasImage, -, readLayout, -, -, rfl⟩ := layer_eq_ok made
  obtain ⟨x, y, width, height, rotation, opacity, ⟨onX, onY, onWidth, onHeight, -⟩, rfl⟩ := layout_eq_ok readLayout
  refine ⟨Double.ne_nan_of_isFinite onX, Double.ne_nan_of_isFinite onY, fun undefined => ?_⟩
  have sizes := Double.multiply_ne_nan (Double.isFinite_larger Double.isFinite_zero onWidth)
    (Double.isFinite_larger Double.isFinite_zero onHeight)
  exact sizes (Number.double.inj undefined)

/-- The layer of a record at a path is made under the id of the record there. -/
theorem layerAt_eq_ok_iff {type : NodeType} {path : Path} {layer : Layer} :
    record.layerAt type path config = .ok layer ↔
      record.idAt path = .ok layer.id ∧ record.layer type layer.id config = .ok layer := by
  rw [layerAt, bind_eq_ok]
  constructor
  · rintro ⟨id, named, made⟩
    rw [layer_id made]
    exact ⟨named, made⟩
  · rintro ⟨named, made⟩
    exact ⟨layer.id, named, made⟩

end Record

namespace Sighting

variable {sighting : Sighting} {config : Config}

/-- A record in view whose layer can be made has a type, and its layer bears its id. -/
theorem layer_eq_ok_iff {layer : Layer} :
    sighting.layer config = .ok layer ↔ sighting.record.role ≠ .unwritten ∧
      sighting.record.layerAt sighting.type sighting.path config = .ok layer := by
  by_cases role : sighting.record.role = .unwritten
  · simp [layer_of_unwritten config role, role]
  · simp [layer_eq_layerAt config role, role]

theorem id_eq_ok_of_layer {layer : Layer} (made : sighting.layer config = .ok layer) : sighting.id = .ok layer.id := by
  obtain ⟨role, placed⟩ := layer_eq_ok_iff.mp made
  rw [id, if_neg role]
  exact (Record.layerAt_eq_ok_iff.mp placed).1

/-- The layer of a record in view is made of the record under some id. -/
theorem layer_eq_ok {layer : Layer} (made : sighting.layer config = .ok layer) :
    sighting.record.layer sighting.type layer.id config = .ok layer :=
  (Record.layerAt_eq_ok_iff.mp (layer_eq_ok_iff.mp made).2).2

end Sighting

end Storyboard
