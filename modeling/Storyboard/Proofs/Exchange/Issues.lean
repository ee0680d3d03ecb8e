/-
This file states which layers have no issue when they are written, and that nodes are written when no layer has any.
-/

import Storyboard.Classify.Annotate
import Storyboard.Exchange.Writer
import Storyboard.Proofs.Exchange.Complete
import Storyboard.Proofs.Outcome

namespace Storyboard.Exchange

open Schema

/-- A number has no issue exactly when the bounds admit it. -/
theorem numberIssue_double_iff (name : String) (bounds : Bounds) (value : Double) :
    numberIssue name bounds (.double value) = [] ↔ bounds.Admits value := by
  unfold Bounds.Admits
  cases violation : bounds.violationByDouble? value <;>
    simp [numberIssue, Number.json, doubleWithin, double, Checked.andThen, violation, Checked.fail, Checked.under,
      Checked.issues]

/-- A whole number has no issue exactly when it violates no bound. -/
theorem wholeIssue_whole_iff (name : String) (bounds : Bounds) (value : Int) :
    wholeIssue name bounds (.whole value) = [] ↔ bounds.violationByWhole? value = none := by
  cases violation : bounds.violationByWhole? value <;>
    simp [wholeIssue, Number.json, wholeWithin, whole, Checked.andThen, violation, Checked.fail, Checked.under,
      Checked.issues]

theorem layoutIssues_eq_nil {layout : Layout} (conforms : layout.Conforms) : layoutIssues layout = [] := by
  obtain ⟨x, y, width, height, rotation, opacity, rfl, wide, high, shown⟩ := conforms
  have free (value : Double) : Bounds.Admits {} value := rfl
  simp [layoutIssues, numberIssue_double_iff, wide, high, shown, free]

theorem paintIssues_eq_nil {paint : Paint} (within : paint.form.Conforms) : paintIssues paint = [] := by
  obtain ⟨red, green, blue, alpha, weight⟩ := within
  simp only [Paint.form] at red green blue alpha weight
  simp [paintIssues, numberIssue_double_iff, wholeIssue_whole_iff, alpha, weight, channelBounds_whole red,
    channelBounds_whole green, channelBounds_whole blue]

/-- A text style has no issue exactly when its size and its weight are positive. -/
theorem textStyleIssues_eq_nil_iff {style : TextStyle} {size : Double} {weight : Int}
    (sized : style.fontSize = .double size) (weighed : style.fontWeight = .whole weight) :
    textStyleIssues style = [] ↔ Double.zero.less size ∧ 0 < weight := by
  rw [textStyleIssues, sized, weighed, List.append_eq_nil_iff, numberIssue_double_iff, wholeIssue_whole_iff,
    fontBounds_admits_iff, fontBounds_whole_iff]

/-- A layer has no issue exactly when none of its parts has one. -/
theorem layerIssues_eq_nil_iff (layer : Layer) : layerIssues layer = [] ↔
    layoutIssues layer.layout = [] ∧ (∀ paint ∈ layer.styles.fills, paintIssues paint = []) ∧
      (∀ paint ∈ layer.styles.strokes, paintIssues paint = []) ∧
        (∀ style ∈ layer.styles.textStyle?, textStyleIssues style = []) ∧ cornerIssues layer.styles = [] := by
  have first (parts : List (List Issue)) :
      (parts.find? (!·.isEmpty)).getD [] = [] ↔ ∀ part ∈ parts, part = [] := by
    induction parts with
    | nil => simp
    | cons part rest ih => cases part <;> simp [ih]
  simp only [layerIssues, first, List.append_assoc, List.forall_mem_append, List.forall_mem_map, List.mem_singleton,
    forall_eq, Option.mem_toList, Option.mem_def]

/-- A layer with a layout, paints and corners within bounds has no issue exactly when its text style has none. -/
theorem layerIssues_eq_nil_iff_textStyle {layer : Layer} (layout : layer.layout.Conforms)
    (fills : ∀ paint ∈ layer.styles.fills, paint.IsComplete)
    (strokes : ∀ paint ∈ layer.styles.strokes, paint.IsComplete)
    (corners : sizeBounds.Admits layer.styles.cornerRadius) :
    layerIssues layer = [] ↔ ∀ style ∈ layer.styles.textStyle?, textStyleIssues style = [] := by
  have placed := layoutIssues_eq_nil layout
  have filled (paint) (member : paint ∈ layer.styles.fills) := paintIssues_eq_nil (fills paint member).within
  have stroked (paint) (member : paint ∈ layer.styles.strokes) := paintIssues_eq_nil (strokes paint member).within
  have bent : cornerIssues layer.styles = [] := (numberIssue_double_iff _ _ _).mpr corners
  rw [layerIssues_eq_nil_iff]
  exact ⟨fun ⟨_, _, _, styled, _⟩ => styled, fun styled => ⟨placed, filled, stroked, styled, bent⟩⟩

/-- A complete layer is written without an issue. -/
theorem layerIssues_eq_nil {layer : Layer} (complete : layer.IsComplete) : layerIssues layer = [] := by
  refine (layerIssues_eq_nil_iff_textStyle complete.layout complete.fills complete.strokes complete.cornerRadius).mpr
    fun style given => ?_
  obtain ⟨-, ⟨size, sized, large⟩, weight, weighed, heavy⟩ := complete.textStyle style given
  exact (textStyleIssues_eq_nil_iff sized weighed).mpr ⟨large, heavy⟩

/-- The classification of a layer has no issue. -/
theorem layerIssues_classified (layer : Layer) : layerIssues layer.classified = layerIssues layer := rfl

/-- A node is written when its layer has no issue and its children are written. -/
theorem writeNode_eq_ok (layer : Layer) (children : List Node) (written : Json) :
    writeNode (.node layer children) = .ok written ↔
      layerIssues layer = [] ∧ ∃ inputs, writeNodes children = .ok inputs ∧ layerJson layer inputs = written := by
  rw [writeNode]
  split
  · rename_i clean
    simp only [clean, true_and, bind_eq_ok, pure_eq_ok]
  · rename_i unclean
    refine ⟨fun failed => ?_, fun success => (unclean success.1).elim⟩
    simp at failed

theorem writeNodes_cons_eq_ok (node : Node) (rest : List Node) (written : List Json) :
    writeNodes (node :: rest) = .ok written ↔
      ∃ first, writeNode node = .ok first ∧ ∃ others, writeNodes rest = .ok others ∧ first :: others = written := by
  simp only [writeNodes, bind_eq_ok, pure_eq_ok]

mutual

/-- A node can be written exactly when none of its layers has an issue. -/
theorem writeNode_isOk_iff : ∀ node : Tree Layer,
    (∃ written, writeNode node = .ok written) ↔ ∀ layer ∈ node.preorder, layerIssues layer = []
  | .node layer children => by
      rw [Tree.preorder, List.forall_mem_cons, ← writeNodes_isOk_iff children]
      simp only [writeNode_eq_ok]
      exact ⟨fun ⟨_, clean, inputs, below, _⟩ => ⟨clean, inputs, below⟩,
        fun ⟨clean, inputs, below⟩ => ⟨_, clean, inputs, below, rfl⟩⟩

/-- Nodes can be written exactly when none of their layers has an issue. -/
theorem writeNodes_isOk_iff : ∀ nodes : List (Tree Layer),
    (∃ written, writeNodes nodes = .ok written) ↔ ∀ layer ∈ Forest.preorder nodes, layerIssues layer = []
  | [] => by simp [writeNodes, Forest.preorder]
  | node :: rest => by
      rw [Forest.preorder, List.forall_mem_append, ← writeNode_isOk_iff node, ← writeNodes_isOk_iff rest]
      simp only [writeNodes_cons_eq_ok]
      exact ⟨fun ⟨_, first, onFirst, others, onOthers, _⟩ => ⟨⟨first, onFirst⟩, others, onOthers⟩,
        fun ⟨⟨first, onFirst⟩, others, onOthers⟩ => ⟨_, first, onFirst, others, onOthers, rfl⟩⟩

end

end Storyboard.Exchange
