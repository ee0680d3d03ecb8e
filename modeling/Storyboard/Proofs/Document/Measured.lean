/-
This file lists the values of a raw record that are read as numbers or written out as words, and states that its layer
can be made exactly when none of the numbers is too large and none of the words too long.
-/

import Storyboard.Document.Reached
import Storyboard.Proofs.Outcome

namespace Storyboard

/-- A value of a raw record, together with the use that is made of it. -/
inductive Measure where
  /-- The value is read as a number, or stands for none. -/
  | number (value : Json)
  /-- The value is written out. -/
  | word (value : Json)

namespace Measure

/-- Why a value cannot be used: a whole number may be too large to be read, and have too many digits to be written. -/
def fault? : Measure → Option NumberFault
  | .number (.int value) => if (Double.ofInt value).isFinite then none else some .tooLarge
  | .number _ => none
  | .word value => if value.isWritable then none else some .tooLong

/-- A value can be used as it is meant to be. -/
def isReadable (measure : Measure) : Bool := measure.fault?.isNone

/-- Only the size and the length of a number are faults. -/
theorem fault_mem {measures : List Measure} {fault : NumberFault} (found : measures.findSome? fault? = some fault) :
    fault ∈ [NumberFault.tooLarge, .tooLong] := by
  obtain ⟨measure, -, faulty⟩ := List.exists_of_findSome?_eq_some found
  unfold fault? at faulty
  split at faulty
  · split at faulty <;> simp_all
  · simp at faulty
  · split at faulty <;> simp_all

/-- A value that is written out only when it is a whole number. -/
def digits : Json → List Measure
  | .int value => [.word (.int value)]
  | _ => []

end Measure

/-- A computation uses values in turn: it succeeds when all of them can be used, and fails as the first that cannot. -/
@[mk_iff] structure Reads {α : Type} (values : List Measure) (computation : Except NumberFault α) : Prop where
  succeeds : values.findSome? Measure.fault? = none → ∃ result, computation = .ok result
  fails : ∀ fault, values.findSome? Measure.fault? = some fault → computation = .error fault

namespace Reads

variable {α β : Type} {values left right : List Measure} {computation : Except NumberFault α}

/-- No value has a fault exactly when all can be used. -/
theorem findSome?_eq_none_iff :
    values.findSome? Measure.fault? = none ↔ ∀ value ∈ values, Measure.isReadable value := by
  simp [List.findSome?_eq_none_iff, Measure.isReadable]

/-- A computation succeeds when all values that it uses can be used. -/
theorem isOk (reads : Reads values computation) (readable : ∀ value ∈ values, Measure.isReadable value) :
    ∃ result, computation = .ok result :=
  reads.succeeds (findSome?_eq_none_iff.mpr readable)

theorem ok (result : α) : Reads [] (.ok result : Except NumberFault α) where
  succeeds _ := ⟨result, rfl⟩
  fails _ found := by simp at found

/-- A computation that fails as a single value does, and else succeeds, uses this value. -/
theorem single {measure : Measure} (succeeds : measure.fault? = none → ∃ result, computation = .ok result)
    (fails : ∀ fault, measure.fault? = some fault → computation = .error fault) : Reads [measure] computation where
  succeeds none := succeeds (by rwa [List.findSome?_singleton] at none)
  fails fault found := fails fault (by rwa [List.findSome?_singleton] at found)

/-- A sequence uses the values of both of its steps. -/
theorem bind {next : α → Except NumberFault β} (first : Reads left computation)
    (continues : ∀ value, computation = .ok value → Reads right (next value)) :
    Reads (left ++ right) (computation >>= next) where
  succeeds none := by
    rw [List.findSome?_append, Option.or_eq_none_iff] at none
    obtain ⟨value, rfl⟩ := first.succeeds none.1
    exact (continues value rfl).succeeds none.2
  fails fault found := by
    rw [List.findSome?_append, Option.or_eq_some_iff] at found
    rcases found with early | ⟨none, late⟩
    · rw [first.fails fault early]
      rfl
    · obtain ⟨value, rfl⟩ := first.succeeds none
      exact (continues value rfl).fails fault late

/-- A step that succeeds once the values are used adds none to them. -/
theorem bind_isOk {next : α → Except NumberFault β} (reads : Reads values computation)
    (continues : (∀ value ∈ values, Measure.isReadable value) →
      ∀ result, computation = .ok result → ∃ final, next result = .ok final) :
    Reads values (computation >>= next) where
  succeeds none := Storyboard.bind_isOk (reads.succeeds none) (continues (findSome?_eq_none_iff.mp none))
  fails fault found := by
    rw [reads.fails fault found]
    rfl

/-- A last step that only puts the result together uses nothing more. -/
theorem bind_ok (reads : Reads values computation) (finish : α → β) :
    Reads values (computation >>= fun result => .ok (finish result)) :=
  reads.bind_isOk fun _ result _ => ⟨finish result, rfl⟩

/-- A change of the result uses the same values. -/
theorem map_iff (change : α → β) : Reads values (change <$> computation) ↔ Reads values computation := by
  rw [reads_iff, reads_iff]
  cases computation <;> simp [Functor.map, Except.map]

/-- A list of steps uses the values of all of them. -/
theorem mapM {γ : Type} {step : γ → Except NumberFault α} {measures : γ → List Measure} {inputs : List γ}
    (each : ∀ input ∈ inputs, Reads (measures input) (step input)) :
    Reads (inputs.flatMap measures) (inputs.mapM step) := by
  induction inputs with
  | nil => exact ok []
  | cons input rest ih =>
      rw [List.mapM_cons, List.flatMap_cons]
      refine (each input (by simp)).bind fun first _ => ?_
      exact (ih fun other member => each other (by simp [member])).bind_ok _

end Reads

namespace Json

/-- Whatever counts as absent can be written out. -/
theorem isWritable_of_isAbsent {value : Json} (absent : value.isAbsent) : value.isWritable := by
  cases value with
  | int whole =>
      obtain rfl : whole = 0 := by simpa [isAbsent] using absent
      decide
  | array items =>
      obtain rfl : items = [] := by simpa [isAbsent] using absent
      rfl
  | object fields =>
      obtain rfl : fields = [] := by simpa [isAbsent] using absent
      rfl
  | _ => rfl

theorem written_of_isWritable {value : Json} (writable : value.isWritable) : value.written = .ok value.plainText :=
  if_pos writable

theorem written_of_not_isWritable {value : Json} (long : value.isWritable = false) : value.written = .error .tooLong :=
  if_neg (by simp [long])

theorem isWritable_of_written {value : Json} {text : String} (success : value.written = .ok text) :
    value.isWritable := by
  by_contra long
  rw [written_of_not_isWritable (Bool.eq_false_iff.mpr long)] at success
  nomatch success

/-- A value stands for a word when it can be written out, whether it is absent or not. -/
theorem word_isOk {value : Json} (writable : value.isWritable) (default : String) :
    ∃ word, value.word default = .ok word := by
  rw [word]
  split
  · exact ⟨default, rfl⟩
  · exact ⟨_, written_of_isWritable writable⟩

theorem word_of_not_isWritable {value : Json} (long : value.isWritable = false) (default : String) :
    value.word default = .error .tooLong := by
  have present : ¬value.isAbsent := fun absent => Bool.false_ne_true (long.symm.trans (isWritable_of_isAbsent absent))
  rw [word, if_neg present, written_of_not_isWritable long]

/-- Words that are written out fail for their length alone. -/
theorem reads_word {α : Type} {value : Json} {computation : Except NumberFault α}
    (sound : value.isWritable → ∃ result, computation = .ok result)
    (long : value.isWritable = false → computation = .error .tooLong) : Reads [.word value] computation := by
  cases writable : value.isWritable with
  | true => exact Reads.single (fun _ => sound writable) fun _ found => by simp [Measure.fault?, writable] at found
  | false =>
      refine Reads.single (fun found => by simp [Measure.fault?, writable] at found) fun fault found => ?_
      obtain rfl : .tooLong = fault := by simpa [Measure.fault?, writable] using found
      exact long writable

theorem written_reads (value : Json) : Reads [.word value] value.written :=
  reads_word (fun writable => ⟨_, written_of_isWritable writable⟩) written_of_not_isWritable

theorem word_reads (value : Json) (default : String) : Reads [.word value] (value.word default) :=
  reads_word (fun writable => word_isOk writable default) fun long => word_of_not_isWritable long default

end Json

namespace Measure

theorem ofJson?_reads (value : Json) : Reads [.number value] (ofJson? value) := by
  cases value with
  | int whole =>
      refine Reads.single (fun sound => ?_) fun fault faulty => ?_
      · have finite : (Double.ofInt whole).isFinite := by simpa [fault?] using sound
        exact ⟨some (Double.ofInt whole), by simp [ofJson?, finite]⟩
      · obtain ⟨large, rfl⟩ : (Double.ofInt whole).isFinite = false ∧ .tooLarge = fault := by
          simpa [fault?] using faulty
        simp [ofJson?, large]
  | _ => exact Reads.single (fun _ => ⟨_, rfl⟩) fun _ found => nomatch found

/-- A number that is read in front adds its value. -/
theorem reads_cons {β : Type} {rest : List Measure} {default : Double} {next : Double → Except NumberFault β}
    (value : Json) (continues : ∀ number, Reads rest (next number)) :
    Reads (.number value :: rest) (ofJson value default >>= next) := by
  have single : Reads [.number value] (ofJson value default) := (ofJson?_reads value).bind_ok _
  exact single.bind fun number _ => continues number

/-- A number that can be read is finite. -/
theorem isFinite_of_ofJson? {value : Json} {number : Double} (read : ofJson? value = .ok (some number)) :
    number.isFinite := by
  have given {double : Double} (found : finite? double = some number) : number.isFinite := by
    simp only [finite?] at found
    split at found
    · simp_all
    · simp at found
  cases value with
  | int whole =>
      simp only [ofJson?] at read
      split at read
      · simp_all
      · simp at read
  | double double => exact given (by simpa [ofJson?] using read)
  | string text =>
      obtain ⟨double, -, found⟩ := Option.bind_eq_some_iff.mp (by simpa [ofJson?] using read)
      exact given found
  | _ => simp [ofJson?] at read

/-- A number that falls back to a finite default is finite. -/
theorem isFinite_of_ofJson {value : Json} {default number : Double} (fallback : default.isFinite)
    (read : ofJson value default = .ok number) : number.isFinite := by
  obtain ⟨given, found, same⟩ := (bind_eq_ok _ _ _).mp read
  obtain rfl := (pure_eq_ok _ _).mp same
  cases given with
  | none => exact fallback
  | some double => exact isFinite_of_ofJson? found

end Measure

namespace Paints

/-- The values of a raw colour that are read as numbers. -/
def channelMeasures (color opacity : Json) : List Measure :=
  let fields := color.fields?.getD []
  [.number (Json.field fields "a"), .number opacity, .number (Json.field fields "r"), .number (Json.field fields "g"),
    .number (Json.field fields "b")]

theorem channels_reads (color opacity : Json) : Reads (channelMeasures color opacity) (channels color opacity) :=
  Measure.reads_cons _ fun _ => Measure.reads_cons _ fun _ => Measure.reads_cons _ fun _ =>
    Measure.reads_cons _ fun _ => Measure.reads_cons _ fun _ => .ok _

theorem typeWord_reads (fields : List (String × Json)) :
    Reads [.word (Json.field fields "type")] (typeWord fields) :=
  (Json.word_reads _ _).bind_ok _

/-- The values of a raw solid paint that are used, if it has a colour. -/
def solidMeasures (fields : List (String × Json)) : List Measure :=
  match Json.field fields "color" with
  | .object color => channelMeasures (.object color) (Json.field fields "opacity")
  | _ => []

theorem solid?_reads (fields : List (String × Json)) (weight : Double) :
    Reads (solidMeasures fields) (solid? fields weight) := by
  rw [solidMeasures, solid?]
  cases Json.field fields "color" with
  | object color => exact (channels_reads _ _).bind_ok _
  | _ => exact .ok none

/-- The values of a raw paint that are used. No more than its type is written of a paint that is passed over. -/
def paintMeasures : Json → List Measure
  | .object fields =>
      if (Json.field fields "visible").isFalse then []
      else .word (Json.field fields "type") ::
        if (typeWord fields).toOption = some "SOLID" then solidMeasures fields else []
  | _ => []

theorem paint?_reads (value : Json) (weight : Double) : Reads (paintMeasures value) (paint? value weight) := by
  cases value with
  | object fields =>
      simp only [paintMeasures, paint?]
      split
      · exact .ok none
      · have next (word : String) (found : typeWord fields = .ok word) :
            Reads (if (typeWord fields).toOption = some "SOLID" then solidMeasures fields else [])
              (if word = "SOLID" then solid? fields weight else .ok none) := by
          simp only [found, Except.toOption, Option.some.injEq]
          split
          · exact solid?_reads fields weight
          · exact .ok none
        exact (typeWord_reads fields).bind next
  | _ => exact .ok none

/-- The values in a raw list of paints that are used. -/
def measures (paints : Json) : List Measure := (paints.items?.getD []).flatMap paintMeasures

theorem ofJson_reads (paints : Json) (weight : Double) : Reads (measures paints) (ofJson paints weight) :=
  (Reads.mapM fun value _ => paint?_reads value weight).bind_ok _

/-- The values of a raw paint that are used to tell whether it is an image. -/
def kindMeasures : Json → List Measure
  | .object fields => [.word (Json.field fields "type")]
  | _ => []

theorem isImage_reads (paint : Json) : Reads (kindMeasures paint) (isImage paint) := by
  cases paint with
  | object fields => exact (typeWord_reads fields).bind_ok _
  | _ => exact .ok false

/-- The values of raw paints that are used to look for an image, up to the first one. -/
def imageMeasures : List Json → List Measure
  | [] => []
  | paint :: rest => kindMeasures paint ++ if (isImage paint).toOption = some true then [] else imageMeasures rest

theorem anyM_isImage_reads (paints : List Json) : Reads (imageMeasures paints) (paints.anyM isImage) := by
  induction paints with
  | nil => exact .ok false
  | cons paint rest ih =>
      rw [imageMeasures, List.anyM_cons]
      refine (isImage_reads paint).bind fun found kind => ?_
      rw [kind]
      cases found with
      | true => exact .ok true
      | false => exact ih

theorem hasImage_reads (paints : Json) : Reads (imageMeasures (paints.items?.getD [])) (hasImage paints) :=
  anyM_isImage_reads _

end Paints

namespace Record

/-- The values of a record that are read for its layout. -/
def layoutMeasures (record : Record) : List Measure :=
  [.number (record.get "opacity"), .number (Json.field record.box "x"), .number (Json.field record.box "y"),
    .number (Json.field record.box "width"), .number (Json.field record.box "height"),
    .number (record.get "rotation")]

/-- The values of a record that are used for its paints and corners. -/
def paintMeasures (record : Record) : List Measure :=
  Paints.measures (record.get "fills") ++ .number (record.get "strokeWeight") ::
    Paints.measures (record.get "strokes") ++ [.number (record.get "cornerRadius")]

/-- The values of a record that are used for its text style. -/
def textMeasures (record : Record) : List Measure :=
  let style := (record.get "style").fields?.getD []
  [.number (Json.field style "fontSize"), .number (Json.field style "fontWeight"),
    .word (Json.field style "textAlignHorizontal"), .number (Json.field style "letterSpacing")]

/-- The record is text by its type, or has characters. -/
def isText (record : Record) (type : NodeType) : Bool := type = .text || record.text.toOption.any (!·.isEmpty)

/-- The values of a record that are used when its layer is made. -/
def measures (record : Record) (type : NodeType) : List Measure :=
  Measure.digits (record.get "characters") ++ record.layoutMeasures ++ record.paintMeasures ++
    (if record.isText type then record.textMeasures else []) ++
      Paints.imageMeasures ((record.get "fills").items?.getD [])

variable (record : Record) {config : Config}

theorem id?_reads : Reads (Measure.digits (record.get "id")) record.id? := by
  rw [id?]
  cases record.get "id" with
  | int whole => exact (Reads.map_iff some).mpr (Json.int whole).written_reads
  | _ => exact .ok _

theorem text_reads : Reads (Measure.digits (record.get "characters")) record.text := by
  rw [text]
  cases record.get "characters" with
  | int whole => exact (Json.int whole).written_reads
  | _ => exact .ok _

theorem layout_reads : Reads record.layoutMeasures record.layout :=
  Measure.reads_cons _ fun _ => Measure.reads_cons _ fun _ => Measure.reads_cons _ fun _ =>
    Measure.reads_cons _ fun _ => Measure.reads_cons _ fun _ => Measure.reads_cons _ fun _ => .ok _

theorem strokeWeight_reads : Reads [.number (record.get "strokeWeight")] record.strokeWeight :=
  Measure.reads_cons _ fun _ => .ok _

theorem cornerRadius_reads : Reads [.number (record.get "cornerRadius")] record.cornerRadius :=
  Measure.reads_cons _ fun _ => .ok _

theorem alignment_reads (value : Json) : Reads [.word value] (alignment value) := (value.word_reads _).bind_ok _

/-- A weight that is read is finite and has a whole part, so that only the default weight can lack one. -/
theorem truncated_isOk {value : Json} {given : Option Double} (read : Measure.ofJson? value = .ok given)
    (default : ∃ weight, config.defaultFontWeight.truncated = .ok weight) :
    ∃ weight, (given.elim config.defaultFontWeight Number.double).truncated = .ok weight := by
  cases given with
  | none => exact default
  | some number =>
      have finite := Measure.isFinite_of_ofJson? read
      cases number with
      | finite negative steps fits => exact ⟨_, rfl⟩
      | _ => simp [Double.isFinite] at finite

theorem textStyle_reads (default : ∃ weight, config.defaultFontWeight.truncated = .ok weight) :
    Reads record.textMeasures (record.textStyle config) := by
  have size (style : List (String × Json)) : Reads [.number (Json.field style "fontSize")] (fontSize style config) :=
    (Measure.ofJson?_reads _).bind_ok _
  have weight (style : List (String × Json)) :
      Reads [.number (Json.field style "fontWeight")] (fontWeight style config) := by
    refine (Measure.ofJson?_reads _).bind fun given read => ?_
    obtain ⟨weight, cut⟩ := truncated_isOk read default
    dsimp only
    rw [cut]
    exact .ok _
  exact (size _).bind fun _ _ => (weight _).bind fun _ _ => (alignment_reads _).bind fun _ _ =>
    Measure.reads_cons _ fun _ => .ok _

theorem styles_reads (isText : Bool) (default : ∃ weight, config.defaultFontWeight.truncated = .ok weight) :
    Reads (record.paintMeasures ++ if isText then record.textMeasures else []) (record.styles isText config) := by
  simp only [paintMeasures, List.append_assoc, List.cons_append, List.nil_append]
  refine (Paints.ofJson_reads _ _).bind fun fills _ => ?_
  refine record.strokeWeight_reads.bind fun weight _ => ?_
  refine (Paints.ofJson_reads _ _).bind fun strokes _ => ?_
  refine record.cornerRadius_reads.bind fun radius _ => ?_
  cases isText with
  | true => exact ((Reads.map_iff some).mpr (record.textStyle_reads default)).bind_ok _
  | false => exact .ok _

/--
The layer of a record uses its characters, the values of its layout, its paints and corners, its text style if it is
text, and the types of its fills.
-/
theorem layer_reads (type : NodeType) (id : String)
    (default : ∃ weight, config.defaultFontWeight.truncated = .ok weight) :
    Reads (record.measures type) (record.layer type id config) := by
  simp only [measures, List.append_assoc]
  refine record.text_reads.bind fun text written => ?_
  refine record.layout_reads.bind fun layout _ => ?_
  have isText : record.isText type = (type = .text || !text.isEmpty) := by rw [Record.isText, written]; rfl
  rw [isText, ← List.append_assoc]
  exact (record.styles_reads _ default).bind fun styles _ => (Paints.hasImage_reads _).bind_ok _

end Record

namespace Role

/-- A type has a role exactly when it can be written out. -/
theorem ofValue_eq_unwritten_iff (value : Json) : ofValue value = .unwritten ↔ value.isWritable = false := by
  rw [ofValue]
  cases writable : value.isWritable with
  | true =>
      obtain ⟨word, found⟩ := Json.word_isOk writable ""
      rw [found]
      dsimp only [ofCapitals]
      split_ifs <;> simp
  | false => simp [Json.word_of_not_isWritable writable]

end Role

/-- A record has no role exactly when its type cannot be written out, whether it is hidden or not. -/
theorem Record.role_eq_unwritten_iff (record : Record) :
    record.role = .unwritten ↔ (record.get "type").isWritable = false := by
  rw [role, ← Role.ofValue_eq_unwritten_iff]
  cases Role.ofValue (record.get "type") with
  | unwritten => simp
  | _ => cases record.isHidden <;> simp

namespace Sighting

variable (sighting : Sighting) {config : Config}

/-- The values of a record in view that are used: its type and its id, and those of which its layer is made. -/
def measures : List Measure :=
  .word (sighting.record.get "type") :: Measure.digits (sighting.record.get "id") ++
    sighting.record.measures sighting.type

theorem id_reads :
    Reads (.word (sighting.record.get "type") :: Measure.digits (sighting.record.get "id")) sighting.id := by
  have named : Reads (Measure.digits (sighting.record.get "id")) (sighting.record.idAt sighting.path) :=
    sighting.record.id?_reads.bind_ok _
  have typed : Reads [.word (sighting.record.get "type")]
      (if sighting.record.role = .unwritten then .error .tooLong else .ok ()) :=
    Json.reads_word (fun writable => ⟨(), if_neg fun same => by
      simp [(sighting.record.role_eq_unwritten_iff).mp same] at writable⟩) fun long =>
        if_pos ((sighting.record.role_eq_unwritten_iff).mpr long)
  have same : sighting.id = (if sighting.record.role = .unwritten then .error .tooLong else .ok ()) >>=
      fun _ => sighting.record.idAt sighting.path := by
    rw [id]
    split <;> rfl
  rw [same]
  exact typed.bind fun _ _ => named

/-- The layer of a record in view uses its type and its id, and then the values of which it is made. -/
theorem layer_reads (default : ∃ weight, config.defaultFontWeight.truncated = .ok weight) :
    Reads sighting.measures (sighting.layer config) :=
  sighting.id_reads.bind fun id _ => sighting.record.layer_reads sighting.type id default

end Sighting

end Storyboard
