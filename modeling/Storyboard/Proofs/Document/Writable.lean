/-
This file states which designs of raw documents can be written in exchange form, and under which settings all can.
-/

import Storyboard.Conversion
import Storyboard.Proofs.Document.InView
import Storyboard.Proofs.Document.RecordForm
import Storyboard.Proofs.Exchange.Issues
import Storyboard.Proofs.Schema.WholeText
import Storyboard.Settings

namespace Storyboard

/-- The screens of a design can be written in exchange form, and so can its analysis. -/
def Design.IsWritable (design : Design) : Prop :=
  (∃ written, Exchange.writeNodes design.screens = .ok written) ∧ ∃ answer, (Analysis.ofDesign design).json = .ok answer

/-- The size and the weight of a text style are positive. -/
def TextStyle.IsPositive (style : TextStyle) : Prop :=
  Number.zero.less style.fontSize ∧ Number.zero.less style.fontWeight

/-- A design can be written exactly when none of its layers has an issue, as none is added by classifying them. -/
theorem Design.isWritable_iff (design : Design) :
    design.IsWritable ↔ ∀ layer ∈ design.layers, Exchange.layerIssues layer = [] := by
  have analysed : (∃ answer, (Analysis.ofDesign design).json = .ok answer) ↔
      ∃ written, Exchange.writeNodes design.classified.screens = .ok written := by
    simp only [Analysis.json, Analysis.ofDesign, bind_eq_ok, mapError_eq_ok, pure_eq_ok]
    constructor
    · rintro ⟨-, written, success, -⟩
      exact ⟨written, success⟩
    · rintro ⟨written, success⟩
      exact ⟨_, written, success, rfl⟩
  rw [IsWritable, analysed, Exchange.writeNodes_isOk_iff, Exchange.writeNodes_isOk_iff, Design.classified,
    Forest.preorder_map, List.forall_mem_map]
  simp only [Exchange.layerIssues_classified]
  exact and_self_iff

/-- The defaults of a configuration are a binary64 size and a whole weight, whatever their values. -/
structure Config.HasTypedDefaults (config : Config) : Prop where
  size : ∃ size : Double, config.defaultFontSize = .double size
  weight : ∃ weight : Int, config.defaultFontWeight = .whole weight

namespace Record

variable {record : Record} {config : Config}

/-- A text style has no issue exactly when its size and its weight are positive. -/
theorem textStyleIssues_eq_nil_iff (typed : config.HasTypedDefaults) {style : TextStyle}
    (made : record.textStyle config = .ok style) : Exchange.textStyleIssues style = [] ↔ style.IsPositive := by
  obtain ⟨size, weight, word, spacing, sized, weighed, -, rfl⟩ := textStyle_eq_ok made
  obtain ⟨double, rfl⟩ : ∃ double : Double, size = .double double := by
    rcases fontSize_eq_default_or_positive sized with rfl | ⟨positive, rfl, -⟩
    · exact typed.size
    · exact ⟨positive, rfl⟩
  obtain ⟨whole, rfl⟩ : ∃ whole : Int, weight = .whole whole := by
    rcases fontWeight_eq_default_or_positive weighed with rfl | ⟨positive, rfl, -⟩
    · exact typed.weight
    · exact ⟨positive, rfl⟩
  rw [Exchange.textStyleIssues_eq_nil_iff rfl rfl, TextStyle.IsPositive, Number.zero_less_double, Number.zero,
    Number.less_whole, decide_eq_true_eq]

/-- Positive defaults make every text style positive. -/
theorem textStyle_isPositive (size : Number.zero.less config.defaultFontSize)
    (weight : Number.zero.less config.defaultFontWeight) {style : TextStyle}
    (made : record.textStyle config = .ok style) : style.IsPositive := by
  obtain ⟨own, heavy, word, spacing, sized, weighed, -, rfl⟩ := textStyle_eq_ok made
  refine ⟨?_, ?_⟩
  · rcases fontSize_eq_default_or_positive sized with rfl | ⟨positive, rfl, -, above⟩
    · exact size
    · exact Number.zero_less_double positive ▸ above
  · rcases fontWeight_eq_default_or_positive weighed with rfl | ⟨positive, rfl, above⟩
    · exact weight
    · simpa [Number.zero] using above

/-- The layer of a record has no issue exactly when its text style is positive. -/
theorem layerIssues_eq_nil_iff (typed : config.HasTypedDefaults) {type : NodeType} {id : String} {layer : Layer}
    (made : record.layer type id config = .ok layer) :
    Exchange.layerIssues layer = [] ↔ ∀ style ∈ layer.styles.textStyle?, style.IsPositive := by
  obtain ⟨layout, fills, strokes, corners, styled, -⟩ := layer_isPainted made
  rw [Exchange.layerIssues_eq_nil_iff_textStyle layout fills strokes corners]
  exact forall₂_congr fun style given => textStyleIssues_eq_nil_iff typed (styled style given)

theorem fontSize_nil : fontSize [] config = .ok config.defaultFontSize := by
  have same : fontSize [] config =
      .ok (if config.defaultFontSize.atMost .zero then config.defaultFontSize else config.defaultFontSize) := rfl
  rw [same, ite_self]

theorem fontWeight_nil {weight : Int} (whole : config.defaultFontWeight = .whole weight) :
    fontWeight [] config = .ok config.defaultFontWeight := by
  have same : fontWeight [] config = config.defaultFontWeight.truncated >>= fun cut =>
      .ok (if cut ≤ 0 then config.defaultFontWeight else .whole cut) := rfl
  have cut : (.ok weight >>= fun cut => .ok (if cut ≤ 0 then .whole weight else .whole cut) :
      Except NumberFault Number) = .ok (if weight ≤ 0 then .whole weight else .whole weight) := rfl
  rw [same, whole, Number.truncated, cut, ite_self]

/-- A text style that a record does not give is made of the defaults. -/
theorem textStyle_of_missing (missing : record.get "style" = .null) {weight : Int}
    (whole : config.defaultFontWeight = .whole weight) {style : TextStyle}
    (made : record.textStyle config = .ok style) :
    style.fontSize = config.defaultFontSize ∧ style.fontWeight = config.defaultFontWeight := by
  obtain ⟨size, heavy, word, spacing, sized, weighed, -, rfl⟩ := textStyle_eq_ok made
  rw [missing] at sized weighed
  exact ⟨Except.ok.inj (sized.symm.trans fontSize_nil), Except.ok.inj (weighed.symm.trans (fontWeight_nil whole))⟩

end Record

namespace Document

variable {config : Config}

/-- The design of a raw document can be written exactly when the text styles in it are positive. -/
theorem isWritable_iff (typed : config.HasTypedDefaults) {raw : Json} {design : Design}
    (built : normalize config raw = .ok design) :
    design.IsWritable ↔ ∀ layer ∈ design.layers, ∀ style ∈ layer.styles.textStyle?, style.IsPositive := by
  rw [Design.isWritable_iff]
  refine forall₂_congr fun layer member => ?_
  obtain ⟨record, -, type, path, -, made⟩ := exists_record_of_normalize built member
  exact Record.layerIssues_eq_nil_iff typed made

/-- Under positive defaults, the design of every raw document can be written. -/
theorem isWritable_of_positive (typed : config.HasTypedDefaults) (size : Number.zero.less config.defaultFontSize)
    (weight : Number.zero.less config.defaultFontWeight) {raw : Json} {design : Design}
    (built : normalize config raw = .ok design) : design.IsWritable := by
  refine (isWritable_iff typed built).mpr fun layer member style given => ?_
  obtain ⟨record, -, type, path, -, made⟩ := exists_record_of_normalize built member
  obtain ⟨-, -, -, -, styled, -⟩ := Record.layer_isPainted made
  exact Record.textStyle_isPositive size weight (styled style given)

/-- The fields of a text of which nothing but its characters is given. -/
def greetingRecord : Record := ⟨[("type", .string "TEXT"), ("characters", .string "hi")]⟩

/-- A document with a single text. -/
def greeting : Json := .object [("children", .array [.object greetingRecord.fields])]

/-- The text becomes a layer that is seen, and its text style is made of the defaults. -/
theorem exists_layer_greeting {weight : Int} (whole : config.defaultFontWeight = .whole weight) (path : Path) :
    ∃ layer style, greetingRecord.layerAt .text path config = .ok layer ∧ layer.isVisual config ∧
      layer.styles.textStyle? = some style ∧ style.fontSize = config.defaultFontSize ∧
        style.fontWeight = config.defaultFontWeight := by
  have convertible : Json.fieldsConvertible greetingRecord.fields := by decide +kernel
  have written : greetingRecord.text = .ok "hi" := by decide +kernel
  have missing : greetingRecord.get "style" = .null := by
    simp [greetingRecord, Record.get, Json.field, List.lookup_cons]
  have default : ∃ weight, config.defaultFontWeight.truncated = .ok weight := ⟨weight, by rw [whole]; rfl⟩
  obtain ⟨layer, made⟩ : ∃ layer, Sighting.layer ⟨greetingRecord, .text, path⟩ config = .ok layer :=
    Sighting.layer_isOk convertible default
  obtain ⟨-, -, -, -, styled, text⟩ := Record.layer_isPainted (Sighting.layer_eq_ok made)
  obtain ⟨characters, layout, styles, hasImage, found, -, -, -, shape⟩ :=
    Record.layer_eq_ok (Sighting.layer_eq_ok made)
  obtain rfl := Except.ok.inj (written.symm.trans found)
  have filled : Text.isFilled "hi" := by decide +kernel
  have visual : layer.isVisual config := by
    rw [shape]
    simp [Layer.isVisual, Content.hasText, filled]
  obtain ⟨style, given⟩ := Option.ne_none_iff_exists'.mp (text (by rw [shape]))
  exact ⟨layer, style, (Sighting.layer_eq_ok_iff.mp made).2, visual, given,
    Record.textStyle_of_missing missing whole (styled style given)⟩

/-- The text is the only layer of its design. -/
theorem designOf_greeting (asked : config.lowYieldThreshold.json.isWritable) {layer : Layer}
    (visual : layer.isVisual config) (made : greetingRecord.layerAt .text (.ofIndex 0) config = .ok layer) :
    ∃ design, designOf config [.node greetingRecord []] = .ok design ∧ design.screens = [.leaf layer] := by
  have role : greetingRecord.role = .shown .text := by decide +kernel
  have closed : config.opens .text 0 = false := rfl
  have arranged : arrangeRoots config 0 [.node greetingRecord []] = .ok [.leaf layer] := by
    simp [arrangeRoots, Outline.arrange, role, closed, made, visual, bind, Except.bind, pure, Except.pure, Tree.leaf]
  have reported : truncationsOfRoots config 0 [.node greetingRecord []] = .ok [] := by
    simp [truncationsOfRoots, Outline.truncations, role, closed, bind, Except.bind, pure, Except.pure]
  -- A second pass meets the text alone, which the first one has placed.
  have reached : reachedOfRoots config 0 [.node greetingRecord []] = [⟨greetingRecord, .text, .ofIndex 0⟩] := by
    simp [reachedOfRoots, Outline.reached, role, closed]
  have named : Sighting.id ⟨greetingRecord, .text, .ofIndex 0⟩ = .ok layer.id :=
    (if_neg (by simp [role])).trans (Record.layerAt_eq_ok_iff.mp made).1
  have nothingMore : Fallback.candidates config [layer.id] (reachedOfRoots config 0 [.node greetingRecord []]) =
      .ok [] := by
    rw [reached, Fallback.candidates, named]
    exact if_pos (List.mem_singleton_self _)
  by_cases few : (Number.whole (Forest.size [Tree.leaf layer])).less config.lowYieldThreshold
  · have merged : Fallback.merge config [.leaf layer] ([].mergeSort Fallback.readsBefore) = [.leaf layer] := by
      simp [Fallback.merge, Tree.leaf]
    exact ⟨_, designOf_of_few arranged reported few nothingMore asked, merged⟩
  · exact ⟨{ screens := [.leaf layer], diagnostics := [] }, by rw [designOf, arranged, reported]; exact if_neg few, rfl⟩

/-- The text is the only layer of its document, also after a second pass, and takes the defaults. -/
theorem normalize_greeting (asked : config.lowYieldThreshold.json.isWritable) {weight : Int}
    (whole : config.defaultFontWeight = .whole weight) :
    ∃ design layer style, normalize config greeting = .ok design ∧ design.layers = [layer] ∧
      layer.styles.textStyle? = some style ∧ style.fontSize = config.defaultFontSize ∧
        style.fontWeight = config.defaultFontWeight := by
  have outlines : roots greeting = .ok [.node greetingRecord []] := by
    simp [roots, greeting, greetingRecord, Json.field, List.lookup_cons, Outline.ofList, Outline.ofJson?,
      Outline.childrenOf]
  obtain ⟨layer, style, made, visual, given, defaults⟩ := exists_layer_greeting whole (.ofIndex 0)
  obtain ⟨design, success, screens⟩ := designOf_greeting asked visual made
  refine ⟨design, layer, style, ?_, ?_, given, defaults⟩
  · simp [normalize, outlines, success, screens, bind, Except.bind, pure, Except.pure]
  · rw [Design.layers, screens, Forest.preorder, Tree.preorder_leaf, Forest.preorder, List.append_nil]

/-- The design of the text can be written exactly when the defaults are positive. -/
theorem normalize_greeting_isWritable_iff (asked : config.lowYieldThreshold.json.isWritable)
    (typed : config.HasTypedDefaults) :
    ∃ design, normalize config greeting = .ok design ∧
      (design.IsWritable ↔ Number.zero.less config.defaultFontSize ∧ Number.zero.less config.defaultFontWeight) := by
  obtain ⟨weight, whole⟩ := typed.weight
  obtain ⟨design, layer, style, built, listed, given, sized, weighed⟩ := normalize_greeting asked whole
  refine ⟨design, built, ?_⟩
  rw [isWritable_iff typed built, listed]
  simp [given, TextStyle.IsPositive, sized, weighed]

end Document

namespace Settings

variable {environment : List (String × String)} {settings : Settings} {config : Config}

/-- Settings are accepted only when each one is well formed and nothing is wrong with them. -/
theorem ofEnvironment_eq_valid (accepted : ofEnvironment environment = .valid settings) :
    ofGiven (given environment) = .valid settings ∧ settings.rejection? = none := by
  obtain ⟨read, passed, checked⟩ := (Checked.andThen_eq_valid _ _ _).mp accepted
  split at checked
  · simp at checked
  · rename_i sound
    obtain rfl := Checked.valid.inj checked
    exact ⟨passed, sound⟩

/-- The limits of accepted settings are positive, and the default size is not found at most zero. -/
theorem positive_of_ofEnvironment (accepted : ofEnvironment environment = .valid settings) :
    0 < settings.maxDepth ∧ 0 < settings.lowYieldThreshold ∧ settings.defaultFontSize.atMost .zero = false := by
  have sound := (ofEnvironment_eq_valid accepted).2
  rw [rejection?] at sound
  split at sound
  · simp at sound
  · rename_i nothing
    have none : settings.notPositive = [] := by simpa using nothing
    simp only [notPositive, List.filterMap_eq_nil_iff, List.forall_mem_cons, ite_eq_right_iff, reduceCtorEq, imp_false,
      Bool.not_eq_true, decide_eq_false_iff_not, Int.not_le] at none
    obtain ⟨depth, threshold, size, -⟩ := none
    exact ⟨depth, threshold, size⟩

/-- Accepted settings give limits and defaults. -/
theorem exists_config (accepted : ofEnvironment environment = .valid settings) :
    ∃ config, settings.config = .ok config := by
  obtain ⟨depth, threshold, -⟩ := positive_of_ofEnvironment accepted
  have sound : ConfigFault.of? (.whole settings.maxDepth) (.whole settings.lowYieldThreshold) = none := by
    have deep : ¬settings.maxDepth < 1 := by omega
    have many : ¬settings.lowYieldThreshold < 0 := by omega
    simp [ConfigFault.of?, Number.one, Number.isNegative, Number.zero, deep, many]
  simp only [Settings.config, Config.withLimits]
  split
  · rename_i fault found
    rw [sound] at found
    simp at found
  · exact ⟨_, rfl⟩

/-- The limits and defaults take the size and the weight of the fonts over, and how many nodes are asked for. -/
theorem config_eq_ok (ready : settings.config = .ok config) :
    config.defaultFontSize = .double settings.defaultFontSize ∧
      config.defaultFontWeight = .whole settings.defaultFontWeight ∧
        config.lowYieldThreshold = .whole settings.lowYieldThreshold := by
  simp only [Settings.config, Config.withLimits] at ready
  split at ready
  · simp at ready
  · obtain rfl := Except.ok.inj ready
    exact ⟨rfl, rfl, rfl⟩

theorem hasTypedDefaults (ready : settings.config = .ok config) : config.HasTypedDefaults := by
  obtain ⟨size, weight, -⟩ := config_eq_ok ready
  exact ⟨⟨_, size⟩, ⟨_, weight⟩⟩

/-- Settings are given as texts. -/
theorem exists_string_of_mem_given {field : String × Json} (member : field ∈ given environment) :
    ∃ text, field.2 = .string text := by
  obtain ⟨name, -, found⟩ := List.mem_filterMap.mp member
  obtain ⟨⟨key, text⟩, -, rfl⟩ := Option.map_eq_some_iff.mp found
  exact ⟨text, rfl⟩

/-- The number of nodes that is asked for is the default, or stands in one of the texts. -/
theorem lowYieldThreshold_of_ofGiven {fields : List (String × Json)} (passed : ofGiven fields = .valid settings) :
    settings.lowYieldThreshold = 5 ∨
      ∃ field ∈ fields, Schema.whole field.2 = .valid settings.lowYieldThreshold := by
  simp only [ofGiven, Checked.seq_eq_valid, Checked.map_eq_valid] at passed
  -- Eleven settings stand behind this one, and three in front of it.
  obtain ⟨_, _, ⟨_, _, ⟨_, _, ⟨_, _, ⟨_, _, ⟨_, _, ⟨_, _, ⟨_, _, ⟨_, _, ⟨_, _, ⟨_, _, front, -, rfl⟩, -, rfl⟩, -, rfl⟩,
    -, rfl⟩, -, rfl⟩, -, rfl⟩, -, rfl⟩, -, rfl⟩, -, rfl⟩, -, rfl⟩, -, rfl⟩ := passed
  obtain ⟨_, threshold, ⟨_, _, ⟨_, _, ⟨_, -, rfl⟩, -, rfl⟩, -, rfl⟩, asked, rfl⟩ := front
  exact Schema.fieldOr_eq_valid asked

/-- The number of nodes that accepted settings ask for can be written out. -/
theorem fitsDigits_lowYieldThreshold (accepted : ofEnvironment environment = .valid settings) :
    Json.fitsDigits settings.lowYieldThreshold := by
  rcases lowYieldThreshold_of_ofGiven (ofEnvironment_eq_valid accepted).1 with same | ⟨field, member, passed⟩
  · rw [same]
    decide
  · obtain ⟨text, same⟩ := exists_string_of_mem_given member
    rw [same] at passed
    exact Schema.fitsDigits_of_whole_string passed

theorem isWritable_lowYieldThreshold (accepted : ofEnvironment environment = .valid settings)
    (ready : settings.config = .ok config) : config.lowYieldThreshold.json.isWritable := by
  rw [(config_eq_ok ready).2.2]
  exact fitsDigits_lowYieldThreshold accepted

/-- A default size that is accepted is positive unless it is undefined. -/
theorem zero_less_defaultFontSize_iff (accepted : ofEnvironment environment = .valid settings) :
    Double.zero.less settings.defaultFontSize ↔ settings.defaultFontSize ≠ .nan := by
  obtain ⟨-, -, size⟩ := positive_of_ofEnvironment accepted
  refine ⟨fun above undefined => ?_, fun defined => ?_⟩
  · rw [undefined] at above
    simp [Double.less, Double.place?] at above
  · have notNan : Number.double settings.defaultFontSize ≠ .double .nan := fun same => defined (Number.double.inj same)
    have zero : Number.double .zero ≠ .double .nan := by decide
    exact Number.less_of_not_atMost notNan zero size

end Settings

/--
Under accepted settings, the design of a raw document can be written exactly when all text in it has a positive size and
weight. That holds of every raw document exactly when the default weight is positive and the default size defined, which
the check of the settings does not ask for.
-/
theorem Settings.designs_isWritable_iff {environment : List (String × String)} {settings : Settings}
    (accepted : Settings.ofEnvironment environment = .valid settings) {config : Config}
    (ready : settings.config = .ok config) :
    (∀ raw design, Document.normalize config raw = .ok design →
        (design.IsWritable ↔ ∀ layer ∈ design.layers, ∀ style ∈ layer.styles.textStyle?, style.IsPositive)) ∧
      ((∀ raw design, Document.normalize config raw = .ok design → design.IsWritable) ↔
        0 < settings.defaultFontWeight ∧ settings.defaultFontSize ≠ .nan) := by
  have typed := hasTypedDefaults ready
  obtain ⟨size, weight, -⟩ := config_eq_ok ready
  have positive : Number.zero.less config.defaultFontSize ∧ Number.zero.less config.defaultFontWeight ↔
      0 < settings.defaultFontWeight ∧ settings.defaultFontSize ≠ .nan := by
    rw [size, weight, Number.zero_less_double, Settings.zero_less_defaultFontSize_iff accepted, Number.zero,
      Number.less_whole, decide_eq_true_eq]
    exact and_comm
  refine ⟨fun raw design built => Document.isWritable_iff typed built, fun all => ?_, fun sound raw design built => ?_⟩
  · have asked := Settings.isWritable_lowYieldThreshold accepted ready
    obtain ⟨design, built, writable⟩ := Document.normalize_greeting_isWritable_iff asked typed
    exact positive.mp (writable.mp (all _ design built))
  · obtain ⟨large, heavy⟩ := positive.mpr sound
    exact Document.isWritable_of_positive typed large heavy built

/-- An environment whose value for a setting is read gives settings that pass a test. -/
theorem Settings.exists_of_any (environment : List (String × String)) (test : Settings → Bool)
    (passes : (Settings.ofEnvironment environment).toExcept.toOption.any test) :
    ∃ settings, Settings.ofEnvironment environment = .valid settings ∧ test settings := by
  obtain ⟨settings, accepted, found⟩ := Storyboard.exists_of_any _ test passes
  exact ⟨settings, (Checked.toExcept_eq_ok _ _).mp accepted, found⟩

/-- An environment that sets the weight of the fonts. -/
def Settings.weighted (weight : String) : List (String × String) := [("FIGMA_EXPORT_DEFAULT_FONT_WEIGHT", weight)]

/-- Under a default weight of 700, every design of a raw document can be written. -/
theorem Settings.designs_isWritable_bold : ∃ settings config,
    Settings.ofEnvironment (weighted "700") = .valid settings ∧ settings.config = .ok config ∧
      ∀ raw design, Document.normalize config raw = .ok design → design.IsWritable := by
  obtain ⟨settings, accepted, found⟩ := Settings.exists_of_any (weighted "700")
    (fun settings => decide (settings.defaultFontWeight = 700 ∧ settings.defaultFontSize ≠ .nan)) (by decide +kernel)
  obtain ⟨heavy, defined⟩ := of_decide_eq_true found
  obtain ⟨config, ready⟩ := Settings.exists_config accepted
  have positive : 0 < settings.defaultFontWeight := by omega
  exact ⟨settings, config, accepted, ready, (Settings.designs_isWritable_iff accepted ready).2.mpr ⟨positive, defined⟩⟩

/-- A default weight of zero is accepted, and the design of a text that takes it cannot be written. -/
theorem Settings.designs_isWritable_weightless : ∃ settings config design,
    Settings.ofEnvironment (weighted "0") = .valid settings ∧ settings.config = .ok config ∧
      Document.normalize config Document.greeting = .ok design ∧ ¬design.IsWritable := by
  obtain ⟨settings, accepted, found⟩ := Settings.exists_of_any (weighted "0")
    (fun settings => decide (settings.defaultFontWeight = 0)) (by decide +kernel)
  have weightless : settings.defaultFontWeight = 0 := of_decide_eq_true found
  obtain ⟨config, ready⟩ := Settings.exists_config accepted
  have asked := isWritable_lowYieldThreshold accepted ready
  obtain ⟨design, built, writable⟩ := Document.normalize_greeting_isWritable_iff asked (hasTypedDefaults ready)
  refine ⟨settings, config, design, accepted, ready, built, fun written => ?_⟩
  have heavy := (writable.mp written).2
  rw [(config_eq_ok ready).2.1, weightless] at heavy
  simp [Number.zero] at heavy

end Storyboard
