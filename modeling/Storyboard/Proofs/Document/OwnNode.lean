/-
This file states when a record that is looked at alone is judged by itself: always, unless it gives way to a single node
that bears its id.
-/

import Storyboard.Proofs.Document.Answer

namespace Storyboard.Outline

variable {config : Config} {path : Path} {outline : Outline}

/-- A record that is looked at alone is judged by itself. -/
structure IsJudged (config : Config) (path : Path) (outline : Outline) : Prop where
  /-- Nothing is given for a container and for what is not drawn. -/
  unshown : (∀ type, outline.value.role ≠ .shown type) → outline.node? config path = .ok none
  /-- A shown record gives a node with its own layer on top when it counts, and nothing otherwise. -/
  shown : ∀ type, outline.value.role = .shown type →
    ∃ layer, outline.value.layerAt type path config = .ok layer ∧
      if layer.isVisual config then ∃ below, outline.node? config path = .ok (some (.node layer below))
      else outline.node? config path = .ok none

/-- A record that does not count gives way to a single node that bears its id. -/
def HasNamesake (config : Config) (path : Path) (outline : Outline) : Prop :=
  ∃ type layer node, outline.value.role = .shown type ∧
    outline.value.layerAt type path config = .ok layer ∧ layer.isVisual config = false ∧
      outline.arrange config path 0 = .ok [node] ∧ outline.value.idAt path = .ok node.value.id

/-- A shown record is the first one in view, and its layer is on top of its nodes if it counts. -/
theorem arrange_eq_ok_of_shown {depth : Nat} {type : NodeType} {nodes : List Node}
    (role : outline.value.role = .shown type) (arranged : outline.arrange config path depth = .ok nodes) :
    ∃ layer below inside, outline.value.layerAt type path config = .ok layer ∧
      (nodes = if layer.isVisual config then [.node layer below] else below) ∧
        outline.reached config path depth = ⟨outline.value, type, path⟩ :: Forest.preorder inside ∧
          Sighting.nodes config inside = .ok below := by
  obtain ⟨record, children⟩ := outline
  rw [Tree.value_node] at role ⊢
  rw [arrange_eq, view, role, Sighting.nodes_singleton] at arranged
  simp only [bind_eq_ok, pure_eq_ok] at arranged
  obtain ⟨layer, made, below, reached, same⟩ := arranged
  refine ⟨layer, below, _, (Sighting.layer_eq_ok_iff.mp made).2, same.symm, ?_, reached⟩
  rw [← preorder_view, view, role]
  simp only [Forest.preorder, Tree.preorder, List.append_nil]

/-- The node that stands for a shown record is the single one of its arrangement, if that has its id. -/
theorem node?_eq_of_arrange {type : NodeType} {nodes : List Node} {id : String}
    (role : outline.value.role = .shown type) (arranged : outline.arrange config path 0 = .ok nodes)
    (named : outline.value.idAt path = .ok id) :
    outline.node? config path = .ok (match nodes with
      | [node] => if node.value.id = id then some node else none
      | _ => none) := by
  rw [node?, role]
  simp only [arranged, named]
  match nodes with
  | [] => rfl
  | [node] => rfl
  | _ :: _ :: _ => rfl

/-- A record whose single node bears its id, although it does not count, shares the id with another record in view. -/
theorem not_nodup_ids_of_hasNamesake (namesake : HasNamesake config path outline) :
    ¬((outline.reached config path 0).map (·.id)).Nodup := by
  obtain ⟨type, layer, node, role, made, hidden, arranged, same⟩ := namesake
  obtain ⟨own, below, inside, again, nodes, reached, arrangedBelow⟩ := arrange_eq_ok_of_shown role arranged
  obtain rfl : layer = own := Except.ok.inj (made.symm.trans again)
  rw [hidden, if_neg Bool.false_ne_true] at nodes
  -- The node is made of a record below, which bears its id.
  have listed := Sighting.preorder_nodes config inside
  rw [arrangedBelow, ← nodes] at listed
  obtain ⟨layers, each, kept⟩ := (bind_eq_ok _ _ _).mp listed.symm
  have member : node.value ∈ layers.filter (·.isVisual config) := by
    rw [(pure_eq_ok _ _).mp kept]
    exact Forest.mem_preorder_of_mem (List.mem_singleton_self node) node.value_mem_preorder
  obtain ⟨sighting, among, drawn⟩ := exists_of_mem_mapM each (List.mem_filter.mp member).1
  have ownId : Sighting.id ⟨outline.value, type, path⟩ = outline.value.idAt path := if_neg (by simp [role])
  rw [reached, List.map_cons, List.nodup_cons, ownId, same]
  exact fun distinct => distinct.1 (List.mem_map.mpr ⟨sighting, among, Sighting.id_eq_ok_of_layer drawn⟩)

/-- The first pass succeeds when all numbers in the records in view can be read. -/
theorem arrange_isOk {depth : Nat} (default : ∃ weight, config.defaultFontWeight.truncated = .ok weight)
    (readable : ∀ sighting ∈ outline.reached config path depth, ∀ value ∈ sighting.measures,
      Measure.isReadable value) : ∃ nodes, outline.arrange config path depth = .ok nodes := by
  have reads := Sighting.visualLayers_reads default (outline.reached config path depth)
  rw [← preorder_arrange, Reads.map_iff] at reads
  refine reads.isOk fun value member => ?_
  obtain ⟨sighting, reached, measured⟩ := List.mem_flatMap.mp member
  exact readable sighting reached value measured

/-- The type of a record whose nodes can be made is written out. -/
theorem role_ne_unwritten {depth : Nat} {nodes : List Node}
    (arranged : outline.arrange config path depth = .ok nodes) : outline.value.role ≠ .unwritten := by
  obtain ⟨record, children⟩ := outline
  intro role
  rw [Tree.value_node] at role
  simp [arrange, role] at arranged

theorem node?_of_not_shown (role : ∀ type, outline.value.role ≠ .shown type)
    (written : outline.value.role ≠ .unwritten) : outline.node? config path = .ok none := by
  rw [node?]
  split
  · rename_i type shown
    exact absurd shown (role type)
  · rename_i unwritten
    exact absurd unwritten written
  · rfl

/-- A record that gives way to a single node with its id has this node given in its place. -/
theorem node?_of_hasNamesake (namesake : HasNamesake config path outline) :
    ∃ node, outline.node? config path = .ok (some node) ∧ outline.arrange config path 0 = .ok [node] := by
  obtain ⟨type, layer, node, role, made, hidden, arranged, same⟩ := namesake
  have given := node?_eq_of_arrange role arranged same
  exact ⟨node, by rw [given]; simp, arranged⟩

/-- A record without a namesake is judged by itself once its nodes can be made. -/
theorem isJudged_of_not_hasNamesake {nodes : List Node} (arranged : outline.arrange config path 0 = .ok nodes)
    (unlike : ¬HasNamesake config path outline) : IsJudged config path outline where
  unshown role := node?_of_not_shown role (role_ne_unwritten arranged)
  shown type role := by
    obtain ⟨layer, below, inside, made, shape, -⟩ := arrange_eq_ok_of_shown role arranged
    have named := (Record.layerAt_eq_ok_iff.mp made).1
    have given := node?_eq_of_arrange role arranged named
    refine ⟨layer, made, ?_⟩
    split
    · rename_i counts
      rw [if_pos counts] at shape
      subst shape
      exact ⟨below, by rw [given]; simp⟩
    · rename_i hidden
      rw [given]
      split
      · rename_i node single
        have other : node.value.id ≠ layer.id := fun same =>
          unlike ⟨type, layer, node, role, made, by simpa using hidden, single, same ▸ named⟩
        rw [if_neg other]
      · rfl

/--
When all numbers in the records in view can be read, a record is judged by itself exactly when it does not give way to
a single node that bears its id. Such a node is given in its place, which takes two records in view with the same id.
-/
theorem isJudged_iff (default : ∃ weight, config.defaultFontWeight.truncated = .ok weight)
    (readable : ∀ sighting ∈ outline.reached config path 0, ∀ value ∈ sighting.measures,
      Measure.isReadable value) :
    (IsJudged config path outline ↔ ¬HasNamesake config path outline) ∧
      (HasNamesake config path outline → ∃ node, outline.node? config path = .ok (some node) ∧
        outline.arrange config path 0 = .ok [node]) ∧
      (HasNamesake config path outline → ¬((outline.reached config path 0).map (·.id)).Nodup) := by
  obtain ⟨nodes, arranged⟩ := arrange_isOk default readable
  refine ⟨⟨fun judged namesake => ?_, isJudged_of_not_hasNamesake arranged⟩, node?_of_hasNamesake,
    not_nodup_ids_of_hasNamesake⟩
  obtain ⟨node, given, -⟩ := node?_of_hasNamesake namesake
  obtain ⟨type, layer, -, role, made, hidden, -⟩ := namesake
  obtain ⟨own, again, answer⟩ := judged.shown type role
  obtain rfl : layer = own := Except.ok.inj (made.symm.trans again)
  rw [hidden, if_neg Bool.false_ne_true, given] at answer
  simp at answer

/-- A group without colour that gives way to a text with another id is judged by itself. -/
theorem isJudged_hoisted : Config.standard.defaultFontWeight.truncated = .ok 400 ∧
    (∀ sighting ∈ hoisted.reached .standard (.ofIndex 0) 0, ∀ value ∈ sighting.measures, Measure.isReadable value) ∧
      IsJudged .standard (.ofIndex 0) hoisted ∧ hoisted.node? .standard (.ofIndex 0) = .ok none := by
  have readable : ∀ sighting ∈ hoisted.reached .standard (.ofIndex 0) 0, ∀ value ∈ sighting.measures,
      Measure.isReadable value := by
    have all : (hoisted.reached .standard (.ofIndex 0) 0).all (·.measures.all Measure.isReadable) := by
      decide +kernel
    simpa only [List.all_eq_true] using all
  have distinct : ((hoisted.reached .standard (.ofIndex 0) 0).map (·.id)).Nodup := by decide +kernel
  obtain ⟨judged, -, shared⟩ := isJudged_iff ⟨400, rfl⟩ readable
  obtain ⟨answer, given, nothing⟩ := exists_of_any (hoisted.node? .standard (.ofIndex 0)) Option.isNone
    (by decide +kernel)
  obtain rfl := Option.isNone_iff_eq_none.mp nothing
  exact ⟨rfl, readable, judged.mpr fun namesake => shared namesake distinct, given⟩

/-- A group without colour and a text in it, under one id. -/
def twins : Outline :=
  .node ⟨[("id", .string "twin"), ("type", .string "GROUP")]⟩ [
    .node ⟨[("id", .string "twin"), ("type", .string "TEXT"), ("characters", .string "Hello")]⟩ []]

/-- The text is given in the place of the group, which does not count. -/
theorem not_isJudged_twins : ¬IsJudged .standard (.ofIndex 0) twins := by
  intro judged
  have role : twins.value.role = .shown .group := by decide +kernel
  obtain ⟨layer, made, answer⟩ := judged.shown .group role
  obtain ⟨own, again, hidden⟩ := exists_of_any
    (twins.value.layerAt .group (.ofIndex 0) .standard) (!·.isVisual .standard) (by decide +kernel)
  obtain rfl : layer = own := Except.ok.inj (made.symm.trans again)
  obtain ⟨given, found, isText⟩ := exists_of_any (twins.node? .standard (.ofIndex 0))
    (·.any (·.value.content.text = "Hello")) (by decide +kernel)
  rw [Bool.not_eq_true'] at hidden
  rw [hidden, if_neg Bool.false_ne_true, found] at answer
  obtain rfl := Except.ok.inj answer
  simp at isText

end Storyboard.Outline
