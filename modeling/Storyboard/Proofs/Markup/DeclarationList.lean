/-
This file states that declarations on one line fall apart again into the same declarations, unless a colour or an
alignment holds a semicolon. They do so at each semicolon, and at each semicolon that a blank follows.
-/

import Storyboard.Proofs.Markup.Legible
import Storyboard.Proofs.Number.Written

namespace Storyboard.Declaration

/-- Reads a piece of a list, which is cut at its first colon after the blanks at its start. -/
def ofPiece (piece : List Char) : Declaration :=
  let shown := piece.dropWhile (· = ' ')
  ⟨String.ofList (shown.takeWhile (· ≠ ':')), String.ofList ((shown.dropWhile (· ≠ ':')).drop 1)⟩

/-- Reads the declarations between the semicolons of a line. -/
def readList (text : String) : List Declaration := (text.toList.splitOn ';').map ofPiece

/-- Cuts characters at each semicolon that a blank follows, where both are dropped. -/
def cut : List Char → List (List Char)
  | [] => [[]]
  | ';' :: ' ' :: rest => [] :: cut rest
  | character :: rest => (cut rest).modifyHead (character :: ·)

/-- Reads characters, which are cut at the first colon. -/
def ofSpelled (characters : List Char) : Declaration :=
  ⟨String.ofList (characters.takeWhile (· ≠ ':')), String.ofList ((characters.dropWhile (· ≠ ':')).drop 1)⟩

/-- Reads the declarations of a line, which is cut at each semicolon with a blank behind it. -/
def readPieces (text : String) : List Declaration := (cut text.toList).map ofSpelled

/-- The property of a declaration has neither blanks nor separators, and its value no semicolon. -/
structure IsSeparable (declaration : Declaration) : Prop where
  property : ∀ character ∈ declaration.property.toList, character ∉ [';', ':', ' ']
  value : ';' ∉ declaration.value.toList

/-- The characters of a declaration on a line. -/
def spelled (declaration : Declaration) : List Char := declaration.property.toList ++ ':' :: declaration.value.toList

namespace IsSeparable

variable {declaration : Declaration}

theorem not_mem_spelled (separable : declaration.IsSeparable) : ';' ∉ declaration.spelled := by
  rw [spelled, List.mem_append, List.mem_cons]
  rintro (inside | colon | inside)
  · exact separable.property ';' inside (by decide)
  · exact absurd colon (by decide)
  · exact separable.value inside

/-- A declaration is read back from its characters. -/
theorem ofSpelled_spelled (separable : declaration.IsSeparable) : ofSpelled declaration.spelled = declaration := by
  have beforeColon : ∀ character ∈ declaration.property.toList, decide (character ≠ ':') := by
    intro character member
    rw [decide_eq_true_eq]
    rintro rfl
    exact separable.property ':' member (by decide)
  rw [ofSpelled, spelled, List.takeWhile_append_of_pos beforeColon, List.dropWhile_append_of_pos beforeColon]
  simp

/-- A declaration is read back from its characters behind any number of blanks. -/
theorem ofPiece_spelled (separable : declaration.IsSeparable) (blanks : Nat) :
    ofPiece (List.replicate blanks ' ' ++ declaration.spelled) = declaration := by
  have shown : (List.replicate blanks ' ' ++ declaration.spelled).dropWhile (· = ' ') = declaration.spelled := by
    rw [List.dropWhile_append_of_pos (fun character member => by simp [List.eq_of_mem_replicate member]), spelled]
    cases characters : declaration.property.toList with
    | nil => rfl
    | cons first rest =>
        have visible : first ≠ ' ' := by
          rintro rfl
          exact separable.property ' ' (by simp [characters]) (by decide)
        rw [List.cons_append, List.dropWhile_cons_of_neg (by simp [visible])]
  have read := separable.ofSpelled_spelled
  rw [← shown] at read
  exact read

end IsSeparable

/-- The separator of a list is a semicolon, with a blank that belongs to the next declaration. -/
theorem toList_listText (first : Declaration) (others : List Declaration) :
    (listText (first :: others)).toList =
      [';'].intercalate (first.spelled :: others.map fun declaration => ' ' :: declaration.spelled) := by
  have each (declaration : Declaration) :
      (declaration.property ++ ":" ++ (Json.string declaration.value).plainText).toList = declaration.spelled := by
    simp [spelled, Json.plainText]
  rw [listText, entriesText, String.toList_intercalate, List.map_cons, List.map_cons, List.map_cons, intercalate_cons,
    intercalate_cons]
  simp only [entry, each, List.map_map, List.flatMap_map, Function.comp_def]
  rfl

/-- Declarations that can be told apart are read back from their line. -/
theorem readList_listText {declarations : List Declaration} (some : declarations ≠ [])
    (separable : ∀ declaration ∈ declarations, declaration.IsSeparable) :
    readList (listText declarations) = declarations := by
  obtain ⟨first, others, rfl⟩ := List.exists_cons_of_ne_nil some
  obtain ⟨onFirst, onOthers⟩ := List.forall_mem_cons.mp separable
  have apart : ∀ piece ∈ first.spelled :: others.map fun declaration => ' ' :: declaration.spelled, ';' ∉ piece := by
    refine List.forall_mem_cons.mpr ⟨onFirst.not_mem_spelled, List.forall_mem_map.mpr fun declaration member => ?_⟩
    simpa using (onOthers declaration member).not_mem_spelled
  rw [readList, toList_listText, List.splitOn_intercalate ';' apart (by simp), List.map_cons, List.map_map]
  congr 1
  · exact onFirst.ofPiece_spelled 0
  · refine (List.map_congr_left fun declaration member => ?_).trans (List.map_id others)
    exact (onOthers declaration member).ofPiece_spelled 1

/-- Characters without semicolons stay together. -/
theorem cut_append {piece : List Char} (whole : ';' ∉ piece) (rest : List Char) :
    cut (piece ++ rest) = (cut rest).modifyHead (piece ++ ·) := by
  induction piece with
  | nil => rw [List.nil_append]; exact (congrFun List.modifyHead_id _).symm
  | cons first others ih =>
      rw [List.mem_cons, not_or] at whole
      obtain ⟨plain, later⟩ := whole
      rw [List.cons_append, cut, ih later, List.modifyHead_modifyHead]
      · rfl
      · rintro more rfl
        exact absurd rfl plain

/-- Pieces without semicolons are cut apart where a semicolon and a blank stand in front of each. -/
theorem cut_flatMap {pieces : List (List Char)} (whole : ∀ piece ∈ pieces, ';' ∉ piece) :
    cut (pieces.flatMap fun piece => ';' :: ' ' :: piece) = [] :: pieces := by
  induction pieces with
  | nil => rfl
  | cons piece rest ih =>
      obtain ⟨first, others⟩ := List.forall_mem_cons.mp whole
      rw [List.flatMap_cons, List.cons_append, List.cons_append, cut, cut_append first, ih others, List.modifyHead_cons,
        List.append_nil]

/-- Declarations that can be told apart are read back from the pieces of their line. -/
theorem readPieces_listText {declarations : List Declaration} (some : declarations ≠ [])
    (separable : ∀ declaration ∈ declarations, declaration.IsSeparable) :
    readPieces (listText declarations) = declarations := by
  obtain ⟨first, others, rfl⟩ := List.exists_cons_of_ne_nil some
  obtain ⟨onFirst, onOthers⟩ := List.forall_mem_cons.mp separable
  have whole : ∀ piece ∈ others.map spelled, ';' ∉ piece :=
    List.forall_mem_map.mpr fun declaration member => (onOthers declaration member).not_mem_spelled
  have line : (listText (first :: others)).toList =
      first.spelled ++ (others.map spelled).flatMap fun piece => ';' :: ' ' :: piece := by
    rw [toList_listText, intercalate_cons, List.flatMap_map, List.flatMap_map]
    rfl
  rw [readPieces, line, cut_append onFirst.not_mem_spelled, cut_flatMap whole, List.modifyHead_cons, List.append_nil,
    List.map_cons, List.map_map, onFirst.ofSpelled_spelled]
  congr 1
  refine (List.map_congr_left fun declaration member => ?_).trans (List.map_id others)
  exact (onOthers declaration member).ofSpelled_spelled

/-- The properties of layers have neither blanks nor separators. -/
theorem isSeparable_layerProperties :
    ∀ property ∈ layerProperties, ∀ character ∈ property.toList, character ∉ [';', ':', ' '] := by
  have all : layerProperties.all fun property => property.toList.all (· ∉ [';', ':', ' ']) := by decide
  simpa only [List.all_eq_true, decide_eq_true_eq] using all

/-- A text holds no semicolon. -/
def IsUnbroken (text : String) : Prop := ';' ∉ text.toList

instance (text : String) : Decidable (IsUnbroken text) := inferInstanceAs (Decidable (';' ∉ text.toList))

theorem IsUnbroken.append {left right : String} (onLeft : IsUnbroken left) (onRight : IsUnbroken right) :
    IsUnbroken (left ++ right) := by
  simpa [IsUnbroken] using ⟨onLeft, onRight⟩

theorem isUnbroken_of_isNumeric {text : String} (numeric : ∀ character ∈ text.toList, isNumeric character) :
    IsUnbroken text :=
  fun inside => absurd (numeric ';' inside) (by decide)

theorem isUnbroken_styleText (value : Number) : IsUnbroken value.styleText :=
  isUnbroken_of_isNumeric value.isNumeric_styleText

theorem isUnbroken_pixels (value : Number) : IsUnbroken (pixels value) :=
  (isUnbroken_styleText value).append (by decide)

/-- What breaks a declaration is dropped from a font family. -/
theorem isUnbroken_fontFamily (family : String) : IsUnbroken (fontFamily family) := by
  unfold fontFamily
  dsimp only
  split
  · decide
  · intro broken
    rw [String.toList_ofList, List.cons_append, List.mem_cons, List.mem_append] at broken
    rcases broken with quote | inside | quote
    · exact absurd quote (by decide)
    · have kept := Text.mem_of_mem_trimBy inside
      simp [isFontBreaking] at kept
    · exact absurd quote (by decide)

/-- A colour that is written from its channels holds no semicolon. -/
theorem isUnbroken_colorText (red green blue : Nat) (alpha : Double) :
    IsUnbroken (Paint.colorText red green blue alpha) := by
  have channel (value : Nat) : IsUnbroken (toString value) := isUnbroken_of_isNumeric (isNumeric_decimalDigits value)
  have faded : IsUnbroken alpha.styleText := isUnbroken_of_isNumeric alpha.isNumeric_styleText
  have comma : IsUnbroken ", " := by decide
  have opened : IsUnbroken "rgba(" := by decide
  have channels := (((opened.append (channel red)).append comma).append (channel green)).append comma
  have colour := ((channels.append (channel blue)).append comma).append faded
  exact colour.append (by decide)

theorem isUnbroken_ofEffects (layout : Layout) : ∀ declaration ∈ ofEffects layout, IsUnbroken declaration.value := by
  have turned : IsUnbroken ("rotate(" ++ layout.rotation.styleText ++ "deg)") :=
    (IsUnbroken.append (by decide) (isUnbroken_styleText _)).append (by decide)
  refine List.forall_mem_append.mpr ⟨?_, ?_⟩
  · split <;> simp [turned]
  · split <;> simp [isUnbroken_styleText]

/-- The colours and the alignment of styles hold no semicolon. -/
structure AreUnbroken (styles : Styles) : Prop where
  fills : ∀ paint ∈ styles.fills, IsUnbroken paint.css
  strokes : ∀ paint ∈ styles.strokes, IsUnbroken paint.css
  align : ∀ style ∈ styles.textStyle?, IsUnbroken style.textAlign

/-- The paints of a layer break no declaration when their colours break none. -/
theorem isUnbroken_ofPaints (type : NodeType) {styles : Styles} (unbroken : AreUnbroken styles) :
    ∀ declaration ∈ ofPaints type styles, IsUnbroken declaration.value := by
  refine List.forall_mem_append.mpr ⟨List.forall_mem_append.mpr ⟨?_, ?_⟩, ?_⟩
  · cases found : styles.fill? with
    | none => simp
    | some fill => simpa using unbroken.fills fill (List.mem_of_mem_head? found)
  · cases found : styles.stroke? with
    | none => simp
    | some stroke =>
        have drawn := unbroken.strokes stroke (List.mem_of_mem_head? found)
        simpa using ((isUnbroken_pixels _).append (by decide)).append drawn
  · split <;> simp [isUnbroken_pixels]

/-- A text style breaks no declaration when its alignment breaks none. -/
theorem isUnbroken_ofTextStyle {style : TextStyle} (align : IsUnbroken style.textAlign) :
    ∀ declaration ∈ ofTextStyle style, IsUnbroken declaration.value := by
  have weight : IsUnbroken style.fontWeight.plainText := isUnbroken_of_isNumeric style.fontWeight.isNumeric_plainText
  have last : IsUnbroken "pre-wrap" := by decide
  refine List.forall_mem_append.mpr ⟨List.forall_mem_append.mpr ⟨?_, ?_⟩, ?_⟩
  · simp [isUnbroken_fontFamily, isUnbroken_pixels, weight, align]
  · split <;> simp [isUnbroken_pixels]
  · simpa using last

/-- The declarations of a layer can be told apart when its colours and its alignment hold no semicolon. -/
theorem isSeparable_ofLayer {layer : Layer} (unbroken : AreUnbroken layer.styles) (origin : Origin) :
    ∀ declaration ∈ ofLayer layer origin, declaration.IsSeparable := by
  have values : ∀ declaration ∈ ofLayer layer origin, IsUnbroken declaration.value := by
    have first : IsUnbroken "absolute" := by decide
    refine List.forall_mem_append.mpr ⟨List.forall_mem_append.mpr ⟨List.forall_mem_append.mpr ⟨?_,
      isUnbroken_ofEffects layer.layout⟩, isUnbroken_ofPaints layer.type unbroken⟩, ?_⟩
    · simp [first, isUnbroken_pixels]
    · cases given : layer.styles.textStyle? with
      | none => simp
      | some style => exact isUnbroken_ofTextStyle (unbroken.align style given)
  exact fun declaration member =>
    ⟨isSeparable_layerProperties _ (ofLayer_property layer origin declaration member), values declaration member⟩

/-- The declarations of a screen can be told apart when its colours hold no semicolon. -/
theorem isSeparable_ofScreen {screen : Layer} (unbroken : AreUnbroken screen.styles) :
    ∀ declaration ∈ ofScreen screen, declaration.IsSeparable := by
  have values : ∀ declaration ∈ ofScreen screen, IsUnbroken declaration.value := by
    have first : IsUnbroken "relative" := by decide
    refine List.forall_mem_append.mpr ⟨by simp [first, isUnbroken_pixels], ?_⟩
    cases found : screen.styles.fill? with
    | none => simp
    | some fill =>
        have filled := unbroken.fills fill (List.mem_of_mem_head? found)
        by_cases isText : screen.type = .text <;> simp [isText, filled]
  exact fun declaration member =>
    ⟨isSeparable_layerProperties _ (ofScreen_property screen declaration member), values declaration member⟩

end Storyboard.Declaration
