/-
This file states that no text of a raw document adds a declaration to the line of another one, or swallows one.
-/

import Storyboard.Proofs.Design.Vocabulary
import Storyboard.Proofs.Export.Drawing

namespace Storyboard

open Declaration

/-- The declarations of a layer and of a screen are read back from the pieces of their lines. -/
structure Layer.IsReadable (layer : Layer) : Prop where
  placed : ∀ origin, readPieces (listText (ofLayer layer origin)) = ofLayer layer origin
  screen : readPieces (listText (ofScreen layer)) = ofScreen layer

/-- A layer whose colours and alignment hold no semicolon is readable. -/
theorem Layer.isReadable_of_areUnbroken {layer : Layer} (unbroken : AreUnbroken layer.styles) : layer.IsReadable where
  placed origin := by
    apply readPieces_listText
    · simp [ofLayer]
    · exact isSeparable_ofLayer unbroken origin
  screen := by
    apply readPieces_listText
    · simp [ofScreen]
    · exact isSeparable_ofScreen unbroken

/-- The colours of a record are written from their channels, and its alignment is a known one, whatever it holds. -/
theorem Record.layer_areUnbroken {record : Record} {config : Config} {type : NodeType} {id : String} {layer : Layer}
    (made : record.layer type id config = .ok layer) : AreUnbroken layer.styles := by
  obtain ⟨-, -, -, -, styled, -⟩ := layer_isPainted made
  have align : ∀ style ∈ layer.styles.textStyle?, style.textAlign ∈ alignments := by
    intro style given
    obtain ⟨size, weight, word, spacing, -, -, -, rfl⟩ := textStyle_eq_ok (styled style given)
    exact alignmentOf_mem word
  obtain ⟨text, layout, styles, hasImage, -, -, painted, -, rfl⟩ := layer_eq_ok made
  obtain ⟨fills, strokes, -⟩ := styles_inVocabulary painted
  exact areUnbroken_of_inVocabulary fills strokes align

namespace Document

variable {config : Config} {raw : Json} {design : Design}

/--
The declarations of every layer of a raw document's design, from wherever it is placed, and those of a screen are
written and read back one for one when their line is cut at each semicolon with a blank behind it and each piece at its
first colon.
-/
theorem normalize_isReadable (built : normalize config raw = .ok design) :
    ∀ layer ∈ design.layers, layer.IsReadable ∧
      (config.defaultFontSize.hasCounterpart →
        areScreenWritable layer ∧ ∀ origin : Origin, origin.IsDouble → areWritable layer origin) := by
  intro layer member
  obtain ⟨record, -, type, path, -, made⟩ := exists_record_of_normalize built member
  refine ⟨Layer.isReadable_of_areUnbroken (Record.layer_areUnbroken made), fun default => ?_⟩
  have measured := Record.layer_isMeasured default made
  exact ⟨measured.areScreenWritable, fun origin placed => measured.areWritable placed⟩

/-- A text whose font and alignment go on with further declarations. -/
def forged : Json :=
  .object [("children", .array [.object [
    ("id", .string "forged"),
    ("type", .string "TEXT"),
    ("characters", .string "Hi"),
    ("style", .object [
      ("fontFamily", .string "Serif; top:0"),
      ("textAlignHorizontal", .string "left; top:0")])]])]

/-- What goes on with further declarations is dropped or stays within its own. -/
theorem normalize_forged : ∃ design, normalize .standard forged = .ok design ∧ design.elementCount = 1 ∧
    ∀ layer ∈ design.layers, layer.IsReadable ∧
      (Config.standard.defaultFontSize.hasCounterpart →
        areScreenWritable layer ∧ ∀ origin : Origin, origin.IsDouble → areWritable layer origin) := by
  obtain ⟨design, built, found⟩ := exists_of_any (normalize .standard forged) (·.elementCount = 1) (by decide +kernel)
  exact ⟨design, built, of_decide_eq_true found, normalize_isReadable built⟩

end Document

end Storyboard
