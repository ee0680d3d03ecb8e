/-
This file states which rules decide on a node, given that the first rule that applies does: some rules never come to it,
and others do so for fewer nodes than they apply to.
-/

import Mathlib.Data.List.Nodup
import Storyboard.Classify.Rule
import Storyboard.Proofs.Number.Order

namespace Storyboard

namespace Rule

/-- The rules that are asked before a rule. -/
def before (rule : Rule) : List Rule := all.takeWhile (·.name ≠ rule.name)

/-- A rule decides on features when it applies and no rule before it does. -/
structure Decides (rule : Rule) (features : Features) : Prop where
  applies : rule.applies features
  first : ∀ earlier ∈ rule.before, earlier.applies features = false

/-- A rule is shadowed when one before it applies wherever it does. -/
def IsShadowed (rule : Rule) : Prop :=
  ∀ features, rule.applies features → ∃ earlier ∈ rule.before, earlier.applies features

theorem IsShadowed.not_decides {rule : Rule} (shadowed : rule.IsShadowed) (features : Features) :
    ¬rule.Decides features := by
  intro decides
  obtain ⟨earlier, asked, applies⟩ := shadowed features decides.applies
  rw [decides.first earlier asked] at applies
  exact Bool.false_ne_true applies

/-- Rules have names of their own. -/
theorem eq_of_name {rule other : Rule} (member : rule ∈ all) (among : other ∈ all) (same : rule.name = other.name) :
    rule = other := by
  have distinct : (all.map (·.name)).Nodup := by decide
  exact List.inj_on_of_nodup_map distinct member among same

/-- Rules have categories of their own. -/
theorem eq_of_category {rule other : Rule} (member : rule ∈ all) (among : other ∈ all)
    (same : rule.category = other.category) : rule = other := by
  have distinct : (all.map (·.category)).Nodup := by decide
  exact List.inj_on_of_nodup_map distinct member among same

/-- The rules that are asked before a rule stand in front of it. -/
theorem exists_after {rule : Rule} (member : rule ∈ all) : ∃ after, all = rule.before ++ rule :: after := by
  simp only [all, List.mem_cons, List.not_mem_nil, or_false] at member
  rcases member with rfl | rfl | rfl | rfl | rfl | rfl | rfl | rfl | rfl | rfl | rfl | rfl | rfl
  all_goals exact ⟨_, rfl⟩

/-- Only what stands in front of a rule is asked before it. -/
theorem before_subset {rule : Rule} {front behind : List Rule} (split : all = front ++ rule :: behind) :
    rule.before ⊆ front := by
  rw [before, split, List.takeWhile_append]
  split
  · simp
  · exact (List.takeWhile_prefix _).subset

/-- A rule decides exactly when it is the first one that applies. -/
theorem find?_eq_some_iff {rule : Rule} {features : Features} (member : rule ∈ all) :
    all.find? (·.applies features) = some rule ↔ rule.Decides features := by
  constructor
  · intro found
    obtain ⟨applies, front, behind, split, first⟩ := List.find?_eq_some_iff_append.mp found
    refine ⟨applies, fun earlier asked => ?_⟩
    simpa using first earlier (before_subset split asked)
  · intro decides
    obtain ⟨after, split⟩ := exists_after member
    rw [List.find?_eq_some_iff_append]
    exact ⟨decides.applies, rule.before, after, split, by simpa using decides.first⟩

end Rule

namespace Features

variable {rule : Rule}

/-- Either a rule decides on the classification, or none does. -/
theorem classify_cases (features : Features) :
    (∃ rule ∈ Rule.all, rule.Decides features ∧ features.classify = rule.classification features) ∨
      (features.classify.rule = "default" ∧ features.classify.category = "Container" ∧
        ∀ rule ∈ Rule.all, ¬rule.Decides features) := by
  unfold classify
  cases found : Rule.all.find? (·.applies features) with
  | some rule =>
      have member := List.mem_of_find?_eq_some found
      exact .inl ⟨rule, member, (Rule.find?_eq_some_iff member).mp found, rfl⟩
  | none =>
      refine .inr ⟨rfl, rfl, fun rule member decides => ?_⟩
      rw [← Rule.find?_eq_some_iff member, found] at decides
      cases decides

/-- A classification names a rule exactly when this rule decides. -/
theorem classify_rule_eq_iff (features : Features) (member : rule ∈ Rule.all) :
    features.classify.rule = rule.name ↔ rule.Decides features := by
  have named : ∀ rule ∈ Rule.all, rule.name ≠ "default" := by decide
  rcases features.classify_cases with ⟨other, among, decides, same⟩ | ⟨default, -, none⟩
  · rw [same]
    constructor
    · intro names
      exact Rule.eq_of_name among member names ▸ decides
    · intro alsoDecides
      have found := (Rule.find?_eq_some_iff member).mpr alsoDecides
      rw [(Rule.find?_eq_some_iff among).mpr decides, Option.some.injEq] at found
      rw [← found]
      rfl
  · rw [default]
    exact ⟨fun names => absurd names.symm (named rule member), fun decides => absurd decides (none rule member)⟩

/-- A classification has the category of a rule exactly when it names the rule. -/
theorem classify_category_eq_iff (features : Features) (member : rule ∈ Rule.all) :
    features.classify.category = rule.category ↔ features.classify.rule = rule.name := by
  have labelled : ∀ rule ∈ Rule.all, rule.name ≠ "default" ∧ rule.category ≠ "Container" := by decide
  rcases features.classify_cases with ⟨other, among, -, same⟩ | ⟨default, container, -⟩
  · rw [same]
    constructor
    · intro labels
      rw [Rule.eq_of_category among member labels]
      rfl
    · intro names
      rw [Rule.eq_of_name among member names]
      rfl
  · rw [default, container]
    obtain ⟨named, labelled⟩ := labelled rule member
    exact ⟨fun labels => absurd labels.symm labelled, fun names => absurd names.symm named⟩

end Features

namespace Rule

variable {features : Features}

/-- A rule with one list of conditions applies when all of them hold. -/
theorem applies_iff {rule : Rule} {conditions : List Condition} (single : rule.alternatives = [conditions]) :
    rule.applies features ↔ ∀ condition ∈ conditions, condition.holds features := by
  simp [applies, single, Condition.allHold]

/-- Whatever is less than fifty in both directions is an icon at the latest. -/
theorem applies_icon (narrow : features.width.less (.whole 50)) (low : features.height.less (.whole 50)) :
    icon.applies features := by
  simp [applies, icon, Condition.allHold, Condition.holds, narrow, low]

/-- Whatever has text is typography at the latest. -/
theorem applies_typography (text : features.hasText) : typography.applies features := by
  simp [applies, typography, Condition.allHold, Condition.holds, text]

/-- Nodes that are less than thirty in both directions are icons. -/
theorem isShadowed_of_small {rule : Rule} {conditions : List Condition} (single : rule.alternatives = [conditions])
    (small : [.narrowerThan 30, .lowerThan 30] ⊆ conditions) (asked : icon ∈ rule.before) : rule.IsShadowed := by
  intro features given
  rw [applies_iff single] at given
  have narrow : features.width.less (.whole 30) := given (.narrowerThan 30) (small (by simp))
  have low : features.height.less (.whole 30) := given (.lowerThan 30) (small (by simp))
  have narrower : features.width.less (.whole 50) := Number.less_whole_of_le narrow (by decide)
  have lower : features.height.less (.whole 50) := Number.less_whole_of_le low (by decide)
  exact ⟨icon, asked, applies_icon narrower lower⟩

/-- Nodes with text are typography. -/
theorem isShadowed_of_text {rule : Rule} {conditions : List Condition} (single : rule.alternatives = [conditions])
    (text : .hasText ∈ conditions) (asked : typography ∈ rule.before) : rule.IsShadowed := by
  intro features given
  rw [applies_iff single] at given
  exact ⟨typography, asked, applies_typography (given .hasText text)⟩

/-- Checkboxes and radio buttons are small enough for icons, and chips and tabs have text. -/
theorem isShadowed_of_mem : ∀ rule ∈ [checkbox, chip, radioButton, tab], rule.IsShadowed := by
  simp only [List.forall_mem_cons, List.not_mem_nil, false_imp_iff, implies_true, and_true]
  refine ⟨?_, ?_, ?_, ?_⟩
  · exact isShadowed_of_small rfl (by decide) (List.mem_of_getElem? (i := 4) rfl)
  · exact isShadowed_of_text rfl (by decide) (List.mem_of_getElem? (i := 2) rfl)
  · exact isShadowed_of_small rfl (by decide) (List.mem_of_getElem? (i := 4) rfl)
  · exact isShadowed_of_text rfl (by decide) (List.mem_of_getElem? (i := 2) rfl)

/-- A rule decides only on nodes without text when it is asked after typography. -/
theorem Decides.hasNoText {rule : Rule} (decides : rule.Decides features) (asked : typography ∈ rule.before) :
    features.hasText = false := by
  rw [← Bool.not_eq_true]
  intro text
  have silent := decides.first typography asked
  rw [applies_typography text] at silent
  exact Bool.false_ne_true silent.symm

/-- Sliders are flat rectangles without text that are too narrow for text fields. -/
theorem slider_decides_iff : slider.Decides features ↔
    features.type = .rectangle ∧ features.hasText = false ∧ (Number.whole 100).less features.width ∧
      features.width.atMost (.whole 150) ∧ features.height.less (.whole 20) := by
  constructor
  · intro decides
    have given := (applies_iff rfl).mp decides.applies
    have rectangle : features.type = .rectangle := of_decide_eq_true (given (.isType .rectangle) (by decide))
    have wide : (Number.whole 100).less features.width := given (.widerThan 100) (by decide)
    have flat : features.height.less (.whole 20) := given (.lowerThan 20) (by decide)
    have noText := decides.hasNoText (List.mem_of_getElem? (i := 2) rfl)
    have low : features.height.less (.whole 50) := Number.less_whole_of_le flat (by decide)
    have noField := decides.first textField (List.mem_of_getElem? (i := 3) rfl)
    have notWider : (Number.whole 150).less features.width = false := by
      simpa [applies, textField, Condition.allHold, Condition.holds, rectangle, noText, low] using noField
    have bounded := Number.atMost_of_not_less (Number.ne_nan_of_less wide).2 (Number.whole_ne_nan 150) notWider
    exact ⟨rectangle, noText, wide, bounded, flat⟩
  · rintro ⟨rectangle, noText, wide, bounded, flat⟩
    refine ⟨by simp [applies, slider, Condition.allHold, Condition.holds, rectangle, wide, flat], ?_⟩
    have above := Number.atMost_of_less wide
    have noField : (Number.whole 150).less features.width = false :=
      Number.not_whole_less_of_atMost bounded (Int.le_refl _)
    have noIcon : features.width.less (.whole 50) = false := Number.not_less_whole_of_atMost above (by decide)
    have noBox : features.width.less (.whole 30) = false := Number.not_less_whole_of_atMost above (by decide)
    show ∀ earlier ∈ [button, card, typography, textField, icon, checkbox, chip, dialog, list, radioButton], _
    simp [applies, button, card, typography, textField, icon, checkbox, chip, dialog, list, radioButton,
      Condition.allHold, Condition.holds, rectangle, noText, noField, noIcon, noBox]

/-- Toggles are low rectangles without text that are too wide for icons. -/
theorem toggle_decides_iff : toggle.Decides features ↔
    features.type = .rectangle ∧ features.hasText = false ∧ (Number.whole 50).atMost features.width ∧
      features.width.less (.whole 60) ∧ features.height.less (.whole 30) := by
  constructor
  · intro decides
    have given := (applies_iff rfl).mp decides.applies
    have rectangle : features.type = .rectangle := of_decide_eq_true (given (.isType .rectangle) (by decide))
    have narrow : features.width.less (.whole 60) := given (.narrowerThan 60) (by decide)
    have low : features.height.less (.whole 30) := given (.lowerThan 30) (by decide)
    have noText := decides.hasNoText (List.mem_of_getElem? (i := 2) rfl)
    have lower : features.height.less (.whole 50) := Number.less_whole_of_le low (by decide)
    have noIcon := decides.first icon (List.mem_of_getElem? (i := 4) rfl)
    have notNarrower : features.width.less (.whole 50) = false := by
      simpa [applies, icon, Condition.allHold, Condition.holds, rectangle, lower] using noIcon
    have bounded := Number.atMost_of_not_less (Number.whole_ne_nan 50) (Number.ne_nan_of_less narrow).1 notNarrower
    exact ⟨rectangle, noText, bounded, narrow, low⟩
  · rintro ⟨rectangle, noText, bounded, narrow, low⟩
    refine ⟨by simp [applies, toggle, Condition.allHold, Condition.holds, rectangle, narrow, low], ?_⟩
    have below := Number.atMost_of_less narrow
    have noField : (Number.whole 150).less features.width = false := Number.not_whole_less_of_atMost below (by decide)
    have noSlider : (Number.whole 100).less features.width = false :=
      Number.not_whole_less_of_atMost below (by decide)
    have noIcon : features.width.less (.whole 50) = false :=
      Number.not_less_whole_of_atMost bounded (Int.le_refl _)
    have noBox : features.width.less (.whole 30) = false := Number.not_less_whole_of_atMost bounded (by decide)
    show ∀ earlier ∈ [button, card, typography, textField, icon, checkbox, chip, dialog, list, radioButton, slider,
      tab], _
    simp [applies, button, card, typography, textField, icon, checkbox, chip, dialog, list, radioButton, slider, tab,
      Condition.allHold, Condition.holds, rectangle, noText, noField, noSlider, noIcon, noBox]

end Rule

/--
Checkboxes, chips, radio buttons and tabs never come up, since an earlier rule applies wherever theirs do. Sliders are
exactly the flat rectangles without text that are wider than 100 and at most 150, and toggles exactly the low ones that
are at least 50 wide and narrower than 60.
-/
theorem Features.classify_precedence (features : Features) :
    (∀ rule ∈ [Rule.checkbox, .chip, .radioButton, .tab], rule.IsShadowed ∧ features.classify.rule ≠ rule.name ∧
      features.classify.category ≠ rule.category) ∧
    (features.classify.category = "Slider" ↔
      features.type = .rectangle ∧ features.hasText = false ∧ (Number.whole 100).less features.width ∧
        features.width.atMost (.whole 150) ∧ features.height.less (.whole 20)) ∧
    (features.classify.category = "Toggle" ↔
      features.type = .rectangle ∧ features.hasText = false ∧ (Number.whole 50).atMost features.width ∧
        features.width.less (.whole 60) ∧ features.height.less (.whole 30)) := by
  have decided {rule : Rule} (member : rule ∈ Rule.all) :
      features.classify.category = rule.category ↔ rule.Decides features :=
    (features.classify_category_eq_iff member).trans (features.classify_rule_eq_iff member)
  have shadowedOnes : [Rule.checkbox, .chip, .radioButton, .tab] ⊆ Rule.all := by simp [Rule.all]
  have slider : Rule.slider ∈ Rule.all := List.mem_of_getElem? (i := 10) rfl
  have toggle : Rule.toggle ∈ Rule.all := List.mem_of_getElem? (i := 12) rfl
  refine ⟨fun rule member => ?_, (decided slider).trans Rule.slider_decides_iff,
    (decided toggle).trans Rule.toggle_decides_iff⟩
  have shadowed := Rule.isShadowed_of_mem rule member
  have silent := shadowed.not_decides features
  have known := shadowedOnes member
  exact ⟨shadowed, fun names => silent ((features.classify_rule_eq_iff known).mp names),
    fun labels => silent ((decided known).mp labels)⟩

end Storyboard
