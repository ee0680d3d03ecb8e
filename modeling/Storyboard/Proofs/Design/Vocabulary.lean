/-
This file states which designs keep to the vocabulary of style sheets: finite numbers, colours written from their
channels, and known alignments. All designs of raw documents do, and those of exchange forms as far as their forms do.
-/

import Storyboard.Proofs.Design.Lawful
import Storyboard.Proofs.Markup.DeclarationList

namespace Storyboard

/-- Whole numbers are finite, others unless they are infinite or undefined. -/
def Number.isFinite : Number → Bool
  | .whole _ => true
  | .double value => value.isFinite

structure Layout.IsFinite (layout : Layout) : Prop where
  x : layout.x.isFinite
  y : layout.y.isFinite
  width : layout.width.isFinite
  height : layout.height.isFinite
  rotation : layout.rotation.isFinite
  opacity : layout.opacity.isFinite

/-- The weight of a paint is finite, and its colour is written from its own channels. -/
structure Paint.InVocabulary (paint : Paint) : Prop where
  weight : paint.weight.isFinite
  css : paint.css = Paint.colorText paint.red paint.green paint.blue paint.alpha

/-- The numbers of a text style are finite, and its alignment is known. -/
structure TextStyle.InVocabulary (style : TextStyle) : Prop where
  fontSize : style.fontSize.isFinite
  fontWeight : style.fontWeight.isFinite
  letterSpacing : style.letterSpacing.isFinite
  textAlign : style.textAlign ∈ Record.alignments

/-- The layout and the styles of a layer keep to the vocabulary. -/
structure Layer.InVocabulary (layer : Layer) : Prop where
  layout : layer.layout.IsFinite
  fills : ∀ paint ∈ layer.styles.fills, paint.InVocabulary
  strokes : ∀ paint ∈ layer.styles.strokes, paint.InVocabulary
  cornerRadius : layer.styles.cornerRadius.isFinite
  textStyle : ∀ style ∈ layer.styles.textStyle?, style.InVocabulary

/-- The weight of a paint form is finite, and a colour that it gives is the one of its channels. -/
structure PaintForm.IsPlain (form : PaintForm) : Prop where
  weight : form.weight.isFinite
  css : ∀ css ∈ form.css?, css = "" ∨ css = Paint.colorText form.red form.green form.blue form.alpha

/-- The numbers that a text style form gives are finite, and its alignment is known. -/
structure TextStyleForm.IsPlain (form : TextStyleForm) : Prop where
  fontSize : ∀ size ∈ form.fontSize?, size.isFinite
  letterSpacing : form.letterSpacing.isFinite
  textAlign : form.textAlign ∈ Record.alignments

/-- What a form gives for its layout and its styles keeps to the vocabulary. -/
structure LayerForm.IsPlain (form : LayerForm) : Prop where
  layout : form.layout.IsFinite
  fills : ∀ paint ∈ form.styles.fills, paint.IsPlain
  strokes : ∀ paint ∈ form.styles.strokes, paint.IsPlain
  cornerRadius : form.styles.cornerRadius.isFinite
  textStyle : ∀ style ∈ form.styles.textStyle?, style.IsPlain

/-- The size and the weight that stand in for missing ones are finite. -/
structure Config.HasFiniteDefaults (config : Config) : Prop where
  size : config.defaultFontSize.isFinite
  weight : config.defaultFontWeight.isFinite

namespace Record

variable {record : Record} {config : Config}

theorem layout_isFinite {layout : Layout} (made : record.layout = .ok layout) : layout.IsFinite := by
  obtain ⟨x, y, width, height, rotation, opacity, ⟨onX, onY, onWidth, onHeight, turned, shown⟩, rfl⟩ :=
    layout_eq_ok made
  obtain ⟨steps, fits, clamped, -⟩ := Double.clampUnit_eq shown
  have faded : opacity.clampUnit.isFinite := clamped ▸ rfl
  exact ⟨onX, onY, Double.isFinite_larger Double.isFinite_zero onWidth,
    Double.isFinite_larger Double.isFinite_zero onHeight, turned, faded⟩

theorem positiveOr_isFinite {value default : Double} (given : value.isFinite) (other : default.isFinite) :
    (positiveOr value default).isFinite := by
  unfold positiveOr
  split
  · exact given
  · exact other

/-- A word that stands for no alignment gives way to a known one. -/
theorem alignmentOf_mem (word : String) : alignmentOf word ∈ alignments := by
  have kept (align : String) : (if align ∈ alignments then align else "left") ∈ alignments := by
    split
    · assumption
    · decide
  exact kept _

theorem textStyle_inVocabulary (finite : config.HasFiniteDefaults) {style : TextStyle}
    (made : record.textStyle config = .ok style) : style.InVocabulary := by
  obtain ⟨size, weight, word, spacing, sized, weighed, spaced, rfl⟩ := textStyle_eq_ok made
  refine ⟨?_, ?_, Measure.isFinite_of_ofJson Double.isFinite_zero spaced, alignmentOf_mem word⟩
  · rcases fontSize_eq_default_or_positive sized with rfl | ⟨positive, rfl, own, -⟩
    · exact finite.size
    · exact own
  · rcases fontWeight_eq_default_or_positive weighed with rfl | ⟨positive, rfl, -⟩
    · exact finite.weight
    · rfl

end Record

/-- Paints that are resolved take their colours from their channels. -/
theorem Paints.ofJson_inVocabulary {paints : Json} {weight : Double} (finite : weight.isFinite)
    {resolved : List Paint} (made : ofJson paints weight = .ok resolved) : ∀ paint ∈ resolved, paint.InVocabulary := by
  intro paint member
  obtain ⟨color, opacity, shade, -, rfl⟩ := exists_channels_of_mem_ofJson made member
  exact ⟨finite, rfl⟩

namespace Record

variable {record : Record} {config : Config}

/-- The paints of a record keep to the vocabulary, and its corners are finite. -/
theorem styles_inVocabulary {isText : Bool} {styles : Styles} (made : record.styles isText config = .ok styles) :
    (∀ paint ∈ styles.fills, paint.InVocabulary) ∧ (∀ paint ∈ styles.strokes, paint.InVocabulary) ∧
      styles.cornerRadius.isFinite := by
  obtain ⟨fills, weight, strokes, radius, filled, weighed, stroked, bent, styled⟩ := styles_eq_ok made
  simp only [strokeWeight, cornerRadius, bind_eq_ok, pure_eq_ok] at weighed bent
  obtain ⟨given, readWeight, rfl⟩ := weighed
  obtain ⟨radius, readRadius, rfl⟩ := bent
  have filling := Paints.ofJson_inVocabulary Double.isFinite_zero filled
  have heavy := Measure.isFinite_of_ofJson Double.isFinite_one readWeight
  have stroking := Paints.ofJson_inVocabulary (positiveOr_isFinite heavy Double.isFinite_one) stroked
  have round := Measure.isFinite_of_ofJson Double.isFinite_zero readRadius
  have corners := positiveOr_isFinite round Double.isFinite_zero
  split at styled
  · obtain ⟨style, -, rfl⟩ := styled
    exact ⟨filling, stroking, corners⟩
  · subst styled
    exact ⟨filling, stroking, corners⟩

/-- The layer of a record keeps to the vocabulary when the defaults are finite. -/
theorem layer_inVocabulary (finite : config.HasFiniteDefaults) {type : NodeType} {id : String} {layer : Layer}
    (made : record.layer type id config = .ok layer) : layer.InVocabulary := by
  obtain ⟨-, -, -, -, styled, -⟩ := layer_isPainted made
  have styles (style) (given : style ∈ layer.styles.textStyle?) := textStyle_inVocabulary finite (styled style given)
  obtain ⟨text, layout, _, hasImage, -, placed, painted, -, rfl⟩ := layer_eq_ok made
  obtain ⟨fills, strokes, corners⟩ := styles_inVocabulary painted
  exact ⟨layout_isFinite placed, fills, strokes, corners, styles⟩

end Record

/-- A paint that is read from a form keeps to the vocabulary exactly when the form is plain. -/
theorem PaintForm.inVocabulary_paint_iff (form : PaintForm) : form.paint.InVocabulary ↔ form.IsPlain := by
  have written : form.paint.css = Paint.colorText form.red form.green form.blue form.alpha ↔
      ∀ css ∈ form.css?, css = "" ∨ css = Paint.colorText form.red form.green form.blue form.alpha := by
    unfold PaintForm.paint
    dsimp only
    cases form.css? with
    | none => simp
    | some css => by_cases empty : css = "" <;> simp [empty]
  exact ⟨fun ⟨weight, css⟩ => ⟨weight, written.mp css⟩, fun ⟨weight, css⟩ => ⟨weight, written.mpr css⟩⟩

/-- A text style that is read from a form keeps to the vocabulary exactly when the form is plain. -/
theorem TextStyleForm.inVocabulary_textStyle_iff {config : Config} (finite : config.HasFiniteDefaults)
    (form : TextStyleForm) : (form.textStyle config).InVocabulary ↔ form.IsPlain := by
  have size : (form.fontSize?.elim config.defaultFontSize Number.double).isFinite ↔
      ∀ size ∈ form.fontSize?, size.isFinite := by
    cases form.fontSize? with
    | none => simp [finite.size]
    | some size => simp [Number.isFinite]
  have weight : (form.fontWeight?.elim config.defaultFontWeight Number.whole).isFinite := by
    cases form.fontWeight? with
    | none => exact finite.weight
    | some weight => rfl
  exact ⟨fun ⟨sized, _, spaced, aligned⟩ => ⟨size.mp sized, spaced, aligned⟩,
    fun ⟨sized, spaced, aligned⟩ => ⟨size.mpr sized, weight, spaced, aligned⟩⟩

/-- A layer that is read from a form keeps to the vocabulary exactly when the form is plain. -/
theorem LayerForm.inVocabulary_layer_iff {config : Config} (finite : config.HasFiniteDefaults) (form : LayerForm) :
    (form.layer config).InVocabulary ↔ form.IsPlain := by
  have paints (forms : List PaintForm) :
      (∀ paint ∈ forms.map PaintForm.paint, paint.InVocabulary) ↔ ∀ paint ∈ forms, paint.IsPlain := by
    simp only [List.forall_mem_map, PaintForm.inVocabulary_paint_iff]
  have style : (∀ style ∈ (form.layer config).styles.textStyle?, style.InVocabulary) ↔
      ∀ style ∈ form.styles.textStyle?, style.IsPlain := by
    cases given : form.styles.textStyle? with
    | some own => simp [LayerForm.layer, given, TextStyleForm.inVocabulary_textStyle_iff finite]
    | none =>
        -- Text without a text style takes the default alignment, which is known.
        have plain : TextStyleForm.IsPlain {} := ⟨by simp, Double.isFinite_zero, by decide⟩
        have defaults := (TextStyleForm.inVocabulary_textStyle_iff finite {}).mpr plain
        by_cases isText : form.type = .text <;> simp [LayerForm.layer, given, isText, defaults]
  constructor
  · rintro ⟨layout, fills, strokes, corners, styled⟩
    exact ⟨layout, (paints _).mp fills, (paints _).mp strokes, corners, style.mp styled⟩
  · rintro ⟨layout, fills, strokes, corners, styled⟩
    exact ⟨layout, (paints _).mpr fills, (paints _).mpr strokes, corners, style.mpr styled⟩

/-- Colours that are written from their channels and known alignments hold no semicolon. -/
theorem Declaration.areUnbroken_of_inVocabulary {styles : Styles} (fills : ∀ paint ∈ styles.fills, paint.InVocabulary)
    (strokes : ∀ paint ∈ styles.strokes, paint.InVocabulary)
    (align : ∀ style ∈ styles.textStyle?, style.textAlign ∈ Record.alignments) : AreUnbroken styles := by
  have colour {paint : Paint} (known : paint.InVocabulary) : IsUnbroken paint.css :=
    known.css ▸ isUnbroken_colorText _ _ _ _
  have alignments : ∀ align ∈ Record.alignments, IsUnbroken align := by decide
  exact ⟨fun paint member => colour (fills paint member), fun paint member => colour (strokes paint member),
    fun style given => alignments _ (align style given)⟩

/-- The declarations of a layer in the vocabulary are read back from their line. -/
theorem Layer.InVocabulary.readList_ofLayer {layer : Layer} (known : layer.InVocabulary) (origin : Origin) :
    Declaration.readList (Declaration.listText (Declaration.ofLayer layer origin)) =
      Declaration.ofLayer layer origin := by
  have unbroken := Declaration.areUnbroken_of_inVocabulary known.fills known.strokes
    fun style given => (known.textStyle style given).textAlign
  exact Declaration.readList_listText (by simp [Declaration.ofLayer]) (Declaration.isSeparable_ofLayer unbroken origin)

namespace Design

variable {config : Config}

/--
A design that is built under finite defaults keeps to the vocabulary exactly when all forms in view of its source are
plain, which a raw document does not have any of. The declarations of the layers that keep to it are read back from
their line.
-/
theorem inVocabulary_iff (finite : config.HasFiniteDefaults) {source : Json} {design : Design}
    (built : ofSource config source = .ok design) :
    ((∀ layer ∈ design.layers, layer.InVocabulary) ↔ ∀ form ∈ Exchange.formsInView config source, form.IsPlain) ∧
      (Exchange.isExchangeForm source = false → ∀ layer ∈ design.layers, layer.InVocabulary) ∧
        ∀ layer ∈ design.layers, layer.InVocabulary → ∀ origin : Origin,
          Declaration.readList (Declaration.listText (Declaration.ofLayer layer origin)) =
            Declaration.ofLayer layer origin := by
  have established : (∀ layer ∈ design.layers, layer.InVocabulary) ↔
      ∀ form ∈ Exchange.formsInView config source, form.IsPlain := by
    rcases ofSource_inView built with ⟨listed, -⟩ | ⟨none, normalized⟩
    · rw [listed, List.forall_mem_map]
      exact forall₂_congr fun form _ => form.inVocabulary_layer_iff finite
    · simp only [none, List.not_mem_nil, false_imp_iff, implies_true, iff_true]
      intro layer member
      obtain ⟨record, -, type, path, -, made⟩ := Document.exists_record_of_normalize normalized member
      exact Record.layer_inVocabulary finite made
  refine ⟨established, fun raw => established.mpr ?_, fun layer _ known origin => known.readList_ofLayer origin⟩
  simp [Exchange.formsInView, raw]

/-- The standard defaults are finite, and so the layers of a raw document out of all bounds keep to the vocabulary. -/
theorem inVocabulary_excessive : Config.standard.HasFiniteDefaults ∧
    ∃ design, ofSource .standard Document.excessive = .ok design ∧ design.elementCount = 4 ∧
      ∀ layer ∈ design.layers, layer.InVocabulary := by
  have finite : Config.standard.HasFiniteDefaults := ⟨by decide +kernel, rfl⟩
  obtain ⟨design, built, found⟩ := exists_of_any (ofSource .standard Document.excessive) (·.elementCount = 4)
    (by decide +kernel)
  exact ⟨finite, design, built, of_decide_eq_true found, (inVocabulary_iff finite built).2.1 (by decide +kernel)⟩

end Design

/-- A text in exchange form whose alignment goes on with another declaration. -/
def Exchange.pinned : Json :=
  .object [("screens", .array [.object [("id", .string "a"), ("type", .string "TEXT"),
    ("styles", .object [("textStyle", .object [("textAlign", .string "left; position: fixed")])])]])]

/-- Such a text is read as it is, does not keep to the vocabulary, and splits into one declaration too many. -/
theorem Design.inVocabulary_pinned :
    ∃ design, Design.ofSource .standard Exchange.pinned = .ok design ∧
      ∃ layer ∈ design.layers, ¬layer.InVocabulary ∧
        Declaration.readList (Declaration.listText (Declaration.ofLayer layer .zero)) ≠
          Declaration.ofLayer layer .zero := by
  obtain ⟨design, built, found⟩ := exists_of_any (Design.ofSource .standard Exchange.pinned)
    (fun design => design.layers.any fun layer =>
      layer.styles.textStyle?.any (fun style => decide (style.textAlign ∉ Record.alignments)) &&
        decide (Declaration.readList (Declaration.listText (Declaration.ofLayer layer .zero)) ≠
          Declaration.ofLayer layer .zero)) (by decide +kernel)
  obtain ⟨layer, member, shown⟩ := List.any_eq_true.mp found
  simp only [Bool.and_eq_true, decide_eq_true_eq] at shown
  obtain ⟨aligned, split⟩ := shown
  refine ⟨design, built, layer, member, fun known => ?_, split⟩
  obtain ⟨style, given, unknown⟩ := (Option.any_eq_true _ _).mp aligned
  exact of_decide_eq_true unknown (known.textStyle style given).textAlign

end Storyboard
