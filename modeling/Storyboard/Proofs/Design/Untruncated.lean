/-
This file states that no cut is silent: a design that is built without a report of one stays the same under a greater
depth limit.
-/

import Storyboard.Proofs.Design.Depth

namespace Storyboard

namespace Config

variable {config : Config} {limit : Number}

/-- The same configuration under a depth limit that is not lower. -/
def deepened (config : Config) (limit : Number) (more : config.maxDepth.atMost limit) : Config :=
  { config with
    maxDepth := limit
    hasNoFault := by
      have checked := config.hasNoFault
      have kept : limit.less .one → config.maxDepth.less .one := Number.less_of_atMost_of_less more
      unfold ConfigFault.of? at checked ⊢
      split at checked
      · simp at checked
      · rename_i enough
        rwa [if_neg fun low => enough (kept low)] }

/-- Records make the same layers under another depth limit. -/
@[simp] theorem layer_deepened (more : config.maxDepth.atMost limit) (record : Record) (type : NodeType)
    (id : String) : record.layer type id (config.deepened limit more) = record.layer type id config := rfl

@[simp] theorem layerAt_deepened (more : config.maxDepth.atMost limit) (record : Record) (type : NodeType)
    (path : Path) : record.layerAt type path (config.deepened limit more) = record.layerAt type path config := rfl

@[simp] theorem isVisual_deepened (more : config.maxDepth.atMost limit) (layer : Layer) :
    layer.isVisual (config.deepened limit more) = layer.isVisual config := rfl

@[simp] theorem layer_form_deepened (more : config.maxDepth.atMost limit) (form : LayerForm) :
    form.layer (config.deepened limit more) = form.layer config := rfl

/-- What opens to its children under a limit does so under a greater one. -/
theorem opens_deepened (more : config.maxDepth.atMost limit) {type : NodeType} {depth : Nat}
    (opens : config.opens type depth) : (config.deepened limit more).opens type depth := by
  simp only [Config.opens, allows, Bool.and_eq_true, Bool.not_eq_true'] at opens ⊢
  refine ⟨opens.1, Bool.eq_false_iff.mpr fun low => ?_⟩
  have lower := Number.atMost_trans more low
  rw [opens.2] at lower
  exact Bool.false_ne_true lower

/-- What is closed without a report of a cut is a text or has nothing below it. -/
theorem isLeaf_of_uncut {α β : Type} {type : NodeType} {depth : Nat} {children : List α} {inside silent cut : β}
    (reported : cut ≠ silent)
    (uncut : (if config.opens type depth then inside
      else if type = .text ∨ children.isEmpty then silent else cut) = silent)
    (closed : config.opens type depth = false) : type = .text ∨ children.isEmpty := by
  rw [closed, if_neg Bool.false_ne_true] at uncut
  split at uncut
  · assumption
  · exact absurd uncut reported

/-- Where no cut is reported, a greater limit opens the same node, unless nothing is below it. -/
theorem opens_deepened_eq_or_nil {α : Type} (more : config.maxDepth.atMost limit) {type : NodeType} {depth : Nat}
    {children : List α} (uncut : config.opens type depth = false → type = .text ∨ children.isEmpty) :
    (config.deepened limit more).opens type depth = config.opens type depth ∨ children = [] := by
  cases opens : config.opens type depth with
  | true => exact .inl (opens_deepened more opens)
  | false =>
      rcases uncut opens with text | empty
      · exact .inl (by simp [Config.opens, text])
      · exact .inr (List.isEmpty_iff.mp empty)

end Config

variable {config : Config} {limit : Number}

mutual

/-- An outline in which nothing is cut looks the same under a greater limit. -/
theorem Outline.deepened_eq (more : config.maxDepth.atMost limit) (path : Path) (depth : Nat) :
    ∀ outline : Outline, outline.truncations config path depth = .ok [] →
      outline.arrange (config.deepened limit more) path depth = outline.arrange config path depth ∧
        outline.reached (config.deepened limit more) path depth = outline.reached config path depth ∧
          outline.truncations (config.deepened limit more) path depth = .ok []
  | .node record children, uncut => by
      rw [Outline.truncations] at uncut
      rw [Outline.arrange, Outline.arrange, Outline.reached, Outline.reached, Outline.truncations]
      cases role : record.role with
      | ignored => exact ⟨rfl, rfl, rfl⟩
      | container =>
          rw [role] at uncut
          exact Outline.deepened_eqFrom more path depth 0 children uncut
      | shown type =>
          dsimp only
          rw [role] at uncut
          dsimp only at uncut
          have isLeaf := Config.isLeaf_of_uncut (fun same => by simp [map_eq_ok] at same) uncut
          rcases Config.opens_deepened_eq_or_nil more isLeaf with same | rfl
          · rw [same]
            simp only [Config.layerAt_deepened, Config.isVisual_deepened]
            cases opens : config.opens type depth with
            | true =>
                rw [opens, if_pos rfl] at uncut
                obtain ⟨arranged, reached, reported⟩ :=
                  Outline.deepened_eqFrom more path (depth + 1) 0 children uncut
                rw [arranged, reached, reported]
                exact ⟨rfl, rfl, rfl⟩
            | false => exact ⟨rfl, rfl, by rw [if_neg Bool.false_ne_true, if_pos (isLeaf opens)]⟩
          · -- Nothing is below the record, so that it does not count whether it opens.
            cases config.opens type depth <;> cases (config.deepened limit more).opens type depth <;>
              exact ⟨rfl, rfl, by simp [Outline.truncationsFrom]⟩
      | unwritten => simp [role] at uncut

/-- The children of a record in which nothing is cut look the same under a greater limit. -/
theorem Outline.deepened_eqFrom (more : config.maxDepth.atMost limit) (path : Path) (depth index : Nat) :
    ∀ outlines : List Outline, Outline.truncationsFrom config path depth index outlines = .ok [] →
      Outline.arrangeFrom (config.deepened limit more) path depth index outlines =
          Outline.arrangeFrom config path depth index outlines ∧
        Outline.reachedFrom (config.deepened limit more) path depth index outlines =
            Outline.reachedFrom config path depth index outlines ∧
          Outline.truncationsFrom (config.deepened limit more) path depth index outlines = .ok []
  | [], _ => by simp [Outline.arrangeFrom, Outline.reachedFrom, Outline.truncationsFrom]
  | child :: rest, uncut => by
      simp only [Outline.truncationsFrom, bind_eq_ok, pure_eq_ok] at uncut
      obtain ⟨first, onFirst, others, onOthers, silent⟩ := uncut
      obtain ⟨rfl, rfl⟩ := List.append_eq_nil_iff.mp silent
      obtain ⟨arranged, reached, reported⟩ := Outline.deepened_eq more (path.child index) depth child onFirst
      obtain ⟨arrangedRest, reachedRest, reportedRest⟩ :=
        Outline.deepened_eqFrom more path depth (index + 1) rest onOthers
      rw [Outline.arrangeFrom, Outline.arrangeFrom, Outline.reachedFrom, Outline.reachedFrom, Outline.truncationsFrom,
        arranged, reached, reported, arrangedRest, reachedRest, reportedRest]
      exact ⟨rfl, rfl, rfl⟩

end

mutual

/-- A node in exchange form in which nothing is cut is the same under a greater limit. -/
theorem LayerForm.deepened_eq (more : config.maxDepth.atMost limit) (depth : Nat) :
    ∀ tree : Tree LayerForm, LayerForm.truncations config depth tree = [] →
      LayerForm.node (config.deepened limit more) depth tree = LayerForm.node config depth tree ∧
        LayerForm.truncations (config.deepened limit more) depth tree = []
  | .node form children, uncut => by
      rw [LayerForm.truncations] at uncut
      rw [LayerForm.node, LayerForm.node, LayerForm.truncations, Config.layer_form_deepened]
      have isLeaf := Config.isLeaf_of_uncut (List.cons_ne_nil _ _) uncut
      rcases Config.opens_deepened_eq_or_nil more isLeaf with same | rfl
      · rw [same]
        cases opens : config.opens form.type depth with
        | true =>
            rw [opens, if_pos rfl] at uncut
            obtain ⟨made, reported⟩ := LayerForm.deepened_eqAll more (depth + 1) children uncut
            rw [made, reported]
            exact ⟨rfl, rfl⟩
        | false => exact ⟨rfl, by rw [if_neg Bool.false_ne_true, if_pos (isLeaf opens)]⟩
      · simp [LayerForm.nodes, LayerForm.allTruncations]

/-- Nodes in exchange form in which nothing is cut are the same under a greater limit. -/
theorem LayerForm.deepened_eqAll (more : config.maxDepth.atMost limit) (depth : Nat) :
    ∀ trees : List (Tree LayerForm), LayerForm.allTruncations config depth trees = [] →
      LayerForm.nodes (config.deepened limit more) depth trees = LayerForm.nodes config depth trees ∧
        LayerForm.allTruncations (config.deepened limit more) depth trees = []
  | [], _ => ⟨rfl, rfl⟩
  | tree :: rest, uncut => by
      rw [LayerForm.allTruncations, List.append_eq_nil_iff] at uncut
      obtain ⟨onFirst, onRest⟩ := uncut
      obtain ⟨made, reported⟩ := LayerForm.deepened_eq more depth tree onFirst
      obtain ⟨madeRest, reportedRest⟩ := LayerForm.deepened_eqAll more depth rest onRest
      rw [LayerForm.nodes, LayerForm.nodes, LayerForm.allTruncations, made, reported, madeRest, reportedRest]
      exact ⟨rfl, rfl⟩

end

/-- A second pass merges what it found into the same screens, as both limits leave room below them. -/
theorem Fallback.merge_deepened (more : config.maxDepth.atMost limit) (two : (Number.whole 2).atMost config.maxDepth)
    (screens : List Node) (added : List Layer) :
    merge (config.deepened limit more) screens added = merge config screens added := by
  have room : Number.one.less config.maxDepth := Number.less_of_lt two (by decide)
  have further : Number.one.less (config.deepened limit more).maxDepth :=
    Number.less_of_lt (Number.atMost_trans two more) (by decide)
  have same : host? (config.deepened limit more) screens = host? config screens := by
    funext layer
    rw [host?, host?, if_pos further, if_pos room]
  rw [merge, merge, same]

theorem Fallback.candidates_deepened (more : config.maxDepth.atMost limit) (known : List String)
    (sightings : List Sighting) :
    candidates (config.deepened limit more) known sightings = candidates config known sightings := by
  induction sightings generalizing known with
  | nil => rfl
  | cons sighting rest ih =>
      rw [candidates, candidates]
      simp only [ih]
      rfl

namespace Document

/-- Roots in which nothing is cut look the same under a greater limit. -/
theorem deepened_eqRoots (more : config.maxDepth.atMost limit) (index : Nat) (outlines : List Outline)
    (uncut : truncationsOfRoots config index outlines = .ok []) :
    arrangeRoots (config.deepened limit more) index outlines = arrangeRoots config index outlines ∧
      reachedOfRoots (config.deepened limit more) index outlines = reachedOfRoots config index outlines ∧
        truncationsOfRoots (config.deepened limit more) index outlines = .ok [] := by
  induction outlines generalizing index with
  | nil => exact ⟨rfl, rfl, rfl⟩
  | cons root rest ih =>
      simp only [truncationsOfRoots, bind_eq_ok, pure_eq_ok] at uncut
      obtain ⟨first, onFirst, others, onOthers, silent⟩ := uncut
      obtain ⟨rfl, rfl⟩ := List.append_eq_nil_iff.mp silent
      obtain ⟨arranged, reached, reported⟩ := Outline.deepened_eq more (.ofIndex index) 0 root onFirst
      obtain ⟨arrangedRest, reachedRest, reportedRest⟩ := ih (index + 1) onOthers
      rw [arrangeRoots, arrangeRoots, reachedOfRoots, reachedOfRoots, truncationsOfRoots, arranged, reached, reported,
        arrangedRest, reachedRest, reportedRest]
      exact ⟨rfl, rfl, rfl⟩

/-- The design of roots in which nothing is cut is the same under a greater limit. -/
theorem designOf_deepened (more : config.maxDepth.atMost limit) (two : (Number.whole 2).atMost config.maxDepth)
    (outlines : List Outline) (uncut : truncationsOfRoots config 0 outlines = .ok []) :
    designOf (config.deepened limit more) outlines = designOf config outlines := by
  obtain ⟨arranged, reached, reported⟩ := deepened_eqRoots more 0 outlines uncut
  rw [designOf, designOf, arranged, reached, reported, uncut]
  simp only [Fallback.candidates_deepened, Fallback.merge_deepened more two]
  rfl

/-- A design of roots that tells of no cut is made without one. -/
theorem truncationsOfRoots_of_designOf {outlines : List Outline} {design : Design}
    (success : designOf config outlines = .ok design)
    (uncut : ∀ diagnostic ∈ design.diagnostics, diagnostic.code ≠ "depth_exceeded") :
    truncationsOfRoots config 0 outlines = .ok [] := by
  obtain ⟨screens, truncations, -, reported, result⟩ := designOf_eq_ok success
  have told : truncations ⊆ design.diagnostics := by
    split at result
    · obtain ⟨found, -, -, rfl⟩ := result
      exact List.subset_append_left _ _
    · obtain rfl := result
      exact List.Subset.refl _
  obtain rfl : truncations = [] := List.eq_nil_iff_forall_not_mem.mpr fun diagnostic member =>
    uncut diagnostic (told member) (truncationsOfRoots_code reported diagnostic member)
  exact reported

/-- A raw document that is built without a report of a cut gives the same design under a greater limit. -/
theorem normalize_deepened (more : config.maxDepth.atMost limit) (two : (Number.whole 2).atMost config.maxDepth)
    {raw : Json} {design : Design} (built : normalize config raw = .ok design)
    (uncut : ∀ diagnostic ∈ design.diagnostics, diagnostic.code ≠ "depth_exceeded") :
    normalize (config.deepened limit more) raw = .ok design := by
  obtain ⟨outlines, found, success, -⟩ := normalize_eq_ok built
  have silent := truncationsOfRoots_of_designOf success uncut
  rw [← built, normalize, normalize, found]
  simp only [mapError_ok, bind, Except.bind, designOf_deepened more two outlines silent]

end Document

mutual

/-- Depth is all that is reported of a node in exchange form. -/
theorem LayerForm.truncations_code (config : Config) (depth : Nat) :
    ∀ (tree : Tree LayerForm) (diagnostic : Diagnostic), diagnostic ∈ LayerForm.truncations config depth tree →
      diagnostic.code = "depth_exceeded"
  | .node form children, diagnostic, member => by
      rw [LayerForm.truncations] at member
      split at member
      · exact LayerForm.allTruncations_code config (depth + 1) children diagnostic member
      · split at member
        · simp at member
        · obtain rfl := List.mem_singleton.mp member
          rfl

/-- Depth is all that is reported of nodes in exchange form. -/
theorem LayerForm.allTruncations_code (config : Config) (depth : Nat) :
    ∀ (trees : List (Tree LayerForm)) (diagnostic : Diagnostic),
      diagnostic ∈ LayerForm.allTruncations config depth trees → diagnostic.code = "depth_exceeded"
  | [], diagnostic, member => by simp [LayerForm.allTruncations] at member
  | tree :: rest, diagnostic, member => by
      rw [LayerForm.allTruncations, List.mem_append] at member
      rcases member with first | later
      · exact LayerForm.truncations_code config depth tree diagnostic first
      · exact LayerForm.allTruncations_code config depth rest diagnostic later

end

/-- A design that is read without a report of a cut is read the same under a greater limit. -/
theorem Exchange.read_deepened (more : config.maxDepth.atMost limit) {source : Json} {design : Design}
    (built : read config source = .ok design)
    (uncut : ∀ diagnostic ∈ design.diagnostics, diagnostic.code ≠ "depth_exceeded") :
    read (config.deepened limit more) source = .ok design := by
  obtain ⟨forms, checked, rfl⟩ := read_eq_ok built
  have silent : LayerForm.allTruncations config 0 forms = [] := by
    refine List.eq_nil_iff_forall_not_mem.mpr fun diagnostic member => ?_
    exact uncut diagnostic member (LayerForm.allTruncations_code config 0 forms diagnostic member)
  obtain ⟨made, reported⟩ := LayerForm.deepened_eqAll more 0 forms silent
  rw [read, checked, Checked.map, Checked.toExcept, Design.ofForms, Design.ofForms, made, reported, silent]

/--
A design that is built under a limit of at least two without a report of a cut is built the same, with the same
diagnostics, under every greater limit.
-/
theorem Design.ofSource_deepened (more : config.maxDepth.atMost limit)
    (two : (Number.whole 2).atMost config.maxDepth) {source : Json} {design : Design}
    (built : Design.ofSource config source = .ok design)
    (uncut : ∀ diagnostic ∈ design.diagnostics, diagnostic.code ≠ "depth_exceeded") :
    Design.ofSource (config.deepened limit more) source = .ok design := by
  rw [Design.ofSource] at built ⊢
  split at built
  · rename_i isForm
    rw [if_pos isForm, mapError_eq_ok]
    exact Exchange.read_deepened more ((mapError_eq_ok _ _ _).mp built) uncut
  · rename_i isRaw
    rw [if_neg isRaw, mapError_eq_ok]
    exact Document.normalize_deepened more two ((mapError_eq_ok _ _ _).mp built) uncut

/-- A text in a text fits under a limit of two, so that it is the same under a limit of ten. -/
theorem Design.ofSource_deepened_nested :
    ∃ (more : Config.shallow.maxDepth.atMost (.whole 10)) (design : Design),
      (Number.whole 2).atMost Config.shallow.maxDepth ∧
        Design.ofSource .shallow (.object [("children", .array (Document.nested 2))]) = .ok design ∧
        design.depth = 2 ∧ (∀ diagnostic ∈ design.diagnostics, diagnostic.code ≠ "depth_exceeded") ∧
          Design.ofSource (Config.shallow.deepened (.whole 10) more)
            (.object [("children", .array (Document.nested 2))]) = .ok design := by
  have more : Config.shallow.maxDepth.atMost (.whole 10) := by decide +kernel
  have two : (Number.whole 2).atMost Config.shallow.maxDepth := by decide +kernel
  obtain ⟨design, built, holds⟩ := exists_of_any
    (Design.ofSource .shallow (.object [("children", .array (Document.nested 2))]))
    (fun design => design.depth == 2 && design.diagnostics.all fun diagnostic => diagnostic.code ≠ "depth_exceeded")
    (by decide +kernel)
  obtain ⟨deep, silent⟩ := Bool.and_eq_true_iff.mp holds
  have uncut : ∀ diagnostic ∈ design.diagnostics, diagnostic.code ≠ "depth_exceeded" := by simpa using silent
  exact ⟨more, design, two, built, beq_iff_eq.mp deep, uncut, Design.ofSource_deepened more two built uncut⟩

end Storyboard
