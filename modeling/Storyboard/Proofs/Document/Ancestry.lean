/-
This file states that the nodes of an arrangement stand above and beside each other as their records do in the outline,
also when records between them give way.
-/

import Storyboard.Proofs.Document.Position
import Storyboard.Proofs.Document.View
import Storyboard.Proofs.Tree.Subtrees

namespace Storyboard

namespace Path

variable {upper lower middle left right path : Path} {index other : Nat}

theorem Extends.trans (low : lower.Extends middle) (high : middle.Extends upper) : lower.Extends upper := by
  obtain ⟨steps, rfl⟩ := low
  obtain ⟨others, rfl⟩ := high
  exact ⟨others ++ steps, by simp⟩

/-- A path leads down from another one through one of its children. -/
def IsBelow (lower upper : Path) : Prop := ∃ index, lower.Extends (upper.child index)

theorem IsBelow.extends (below : lower.IsBelow upper) : lower.Extends upper := by
  obtain ⟨index, extended⟩ := below
  exact extended.of_child

/-- No path leads below those that lead on from it. -/
theorem IsBelow.not_extends (below : lower.IsBelow upper) : ¬upper.Extends lower := by
  rintro ⟨others, same⟩
  obtain ⟨index, steps, rfl⟩ := below
  have long := congrArg (·.steps.length) same
  simp [child] at long

/-- Paths through different children do not lead below each other. -/
theorem not_isBelow_of_ne (onLeft : left.Extends (path.child index)) (onRight : right.Extends (path.child other))
    (apart : index ≠ other) : ¬left.IsBelow right :=
  fun below => apart (onLeft.index_unique (below.extends.trans onRight))

/-- A path comes before another one in the order of the document: where they part, it goes through an earlier child. -/
def Precedes (left right : Path) : Prop :=
  ∃ fork first second, first < second ∧ left.Extends (child fork first) ∧ right.Extends (child fork second)

end Path

mutual

/-- The path of a record in view leads to it from the top of its outline. -/
theorem Outline.at?_of_mem_reached (config : Config) (path : Path) (depth : Nat) :
    ∀ (outline : Outline) (sighting : Sighting), sighting ∈ outline.reached config path depth →
      ∃ steps, sighting.path = { path with steps := path.steps ++ steps } ∧
        (outline.at? steps).map Tree.value = some sighting.record
  | .node record children, sighting, member => by
      rw [Outline.reached] at member
      cases role : record.role with
      | ignored => simp [role] at member
      | container =>
          rw [role] at member
          obtain ⟨position, child, steps, found, placed, leads⟩ :=
            Outline.at?_of_mem_reachedFrom config path depth 0 children sighting member
          exact ⟨position :: steps, by simpa using placed, by rw [Tree.at?, Tree.children_node, found]; exact leads⟩
      | shown type =>
          simp only [role, List.mem_cons] at member
          rcases member with rfl | inside
          · exact ⟨[], by simp, rfl⟩
          · split at inside
            · obtain ⟨position, child, steps, found, placed, leads⟩ :=
                Outline.at?_of_mem_reachedFrom config path (depth + 1) 0 children sighting inside
              exact ⟨position :: steps, by simpa using placed,
                by rw [Tree.at?, Tree.children_node, found]; exact leads⟩
            · simp at inside
      | unwritten =>
          simp only [role, List.mem_singleton] at member
          subst member
          exact ⟨[], by simp, rfl⟩

/-- The path of a record in view leads to it from one of the children of a record. -/
theorem Outline.at?_of_mem_reachedFrom (config : Config) (path : Path) (depth index : Nat) :
    ∀ (outlines : List Outline) (sighting : Sighting),
      sighting ∈ Outline.reachedFrom config path depth index outlines →
        ∃ position child steps, outlines[position]? = some child ∧
          sighting.path = { path with steps := path.steps ++ (index + position) :: steps } ∧
            (child.at? steps).map Tree.value = some sighting.record
  | [], sighting, member => by simp [Outline.reachedFrom] at member
  | child :: rest, sighting, member => by
      rw [Outline.reachedFrom, List.mem_append] at member
      rcases member with first | later
      · obtain ⟨steps, placed, leads⟩ :=
          Outline.at?_of_mem_reached config (path.child index) depth child sighting first
        exact ⟨0, child, steps, rfl, by simpa [Path.child] using placed, leads⟩
      · obtain ⟨position, other, steps, found, placed, leads⟩ :=
          Outline.at?_of_mem_reachedFrom config path depth (index + 1) rest sighting later
        exact ⟨position + 1, other, steps, found, by rw [placed, Nat.add_right_comm, Nat.add_assoc], leads⟩

end

namespace Sighting

/-- Of some records, exactly those stand above a record at whose places its own is below, the nearest one first. -/
structure Ascends (sightings : List Sighting) (lineage : Lineage Sighting) : Prop where
  above_iff : ∀ other ∈ sightings, other ∈ lineage.above ↔ lineage.value.path.IsBelow other.path
  nearest : lineage.above.Pairwise fun near far => near.path.IsBelow far.path

variable {sightings whole : List Sighting} {lineage : Lineage Sighting} {keeps : Sighting → Bool}

/-- Further records make no difference when they neither stand above a record nor at a place above its own. -/
theorem Ascends.widen (ascends : Ascends sightings lineage)
    (covered : ∀ other ∈ whole, other ∈ sightings ∨
      other ∉ lineage.above ∧ ¬lineage.value.path.IsBelow other.path) : Ascends whole lineage where
  above_iff other member := by
    rcases covered other member with inside | ⟨notAbove, notBelow⟩
    · exact ascends.above_iff other inside
    · exact ⟨fun above => absurd above notAbove, fun below => absurd below notBelow⟩
  nearest := ascends.nearest

/-- Records that are taken out leave the others as they were. -/
theorem Ascends.sieve (ascends : Ascends sightings lineage) :
    Ascends (sightings.filter keeps) (lineage.sieve keeps) where
  above_iff other member := by
    obtain ⟨inside, kept⟩ := List.mem_filter.mp member
    have same := ascends.above_iff other inside
    simpa [Lineage.sieve, kept] using same
  nearest := ascends.nearest.filter _

/-- Nothing stands above a record when all others are below it. -/
theorem Ascends.top {top : Sighting} (under : ∀ other ∈ sightings, other.path.IsBelow top.path) :
    Ascends (top :: sightings) ⟨top, []⟩ where
  above_iff other member := by
    refine iff_of_false List.not_mem_nil fun below => below.not_extends ?_
    rcases List.mem_cons.mp member with rfl | inside
    · exact .refl _
    · exact (under other inside).extends
  nearest := .nil

/-- A record above all others stands above each of them, behind those that stood there. -/
theorem Ascends.under {top : Sighting} (ascends : Ascends sightings lineage)
    (under : ∀ other ∈ sightings, other.path.IsBelow top.path) (inside : lineage.value ∈ sightings)
    (above : lineage.above ⊆ sightings) : Ascends (top :: sightings) (lineage.below [top]) where
  above_iff other member := by
    rw [Lineage.below, List.mem_append, List.mem_singleton]
    rcases List.mem_cons.mp member with rfl | among
    · exact iff_of_true (.inr rfl) (under _ inside)
    · have different : other ≠ top := by
        rintro rfl
        exact (under other among).not_extends (.refl _)
      rw [ascends.above_iff other among, or_iff_left different]
  nearest := by
    rw [Lineage.below, List.pairwise_append]
    refine ⟨ascends.nearest, List.pairwise_singleton _ _, fun near member far last => ?_⟩
    rw [List.mem_singleton.mp last]
    exact under near (above member)

end Sighting

/-- The records in view among the children of a record stand below its place. -/
theorem Outline.isBelow_of_mem_reachedFrom {config : Config} {path : Path} {depth index : Nat}
    {outlines : List Outline} {sighting : Sighting}
    (member : sighting ∈ Outline.reachedFrom config path depth index outlines) : sighting.path.IsBelow path := by
  obtain ⟨position, -, extended⟩ :=
    Outline.extends_of_mem_reachedFrom config path depth index outlines sighting member
  exact ⟨position, extended⟩

/-- Records in view in a child and in a later one stand apart: neither is below the other, and the first comes first. -/
theorem Outline.apart_of_mem_reachedFrom (config : Config) (path : Path) (depth index : Nat) (child : Outline)
    (rest : List Outline) : ∀ near ∈ child.reached config (path.child index) depth,
      ∀ far ∈ Outline.reachedFrom config path depth (index + 1) rest,
        near ≠ far ∧ ¬near.path.IsBelow far.path ∧ ¬far.path.IsBelow near.path ∧ near.path.Precedes far.path := by
  intro near first far later
  have onFirst := Outline.extends_of_mem_reached config (path.child index) depth child near first
  obtain ⟨position, further, onLater⟩ :=
    Outline.extends_of_mem_reachedFrom config path depth (index + 1) rest far later
  have different : index ≠ position := by omega
  refine ⟨?_, Path.not_isBelow_of_ne onFirst onLater different, Path.not_isBelow_of_ne onLater onFirst different.symm,
    path, index, position, by omega, onFirst, onLater⟩
  rintro rfl
  exact different (onFirst.index_unique onLater)

open Sighting

mutual

/-- What stands above a record in the view of an outline are the records in view at the places above its own. -/
theorem Outline.ascends_view (config : Config) (path : Path) (depth : Nat) :
    ∀ (outline : Outline) (lineage : Lineage Sighting),
      lineage ∈ Forest.lineages [] (outline.view config path depth) →
        Ascends (outline.reached config path depth) lineage
  | .node record children, lineage, member => by
      rw [Outline.view] at member
      rw [Outline.reached]
      cases role : record.role with
      | ignored => simp [role, Forest.lineages] at member
      | container =>
          rw [role] at member
          exact Outline.ascends_viewFrom config path depth 0 children lineage member
      | shown type =>
          rw [role] at member
          simp only [Forest.lineages, Tree.lineages, List.append_nil, List.mem_cons] at member
          have below : ∀ sighting ∈ (if config.opens type depth then
              Outline.reachedFrom config path (depth + 1) 0 children else []), sighting.path.IsBelow path := by
            split
            · exact fun sighting => Outline.isBelow_of_mem_reachedFrom
            · exact fun sighting none => absurd none List.not_mem_nil
          rcases member with rfl | inside
          · exact .top below
          · by_cases opens : config.opens type depth
            · have far := Forest.lineages_append [] [(⟨record, type, path⟩ : Sighting)]
                (Outline.viewFrom config path (depth + 1) 0 children)
              rw [List.nil_append] at far
              rw [if_pos opens, far] at inside
              rw [if_pos opens] at below
              obtain ⟨inner, among, rfl⟩ := List.mem_map.mp inside
              have ascends := Outline.ascends_viewFrom config path (depth + 1) 0 children inner among
              obtain ⟨value, above⟩ := Forest.subset_of_mem_lineages among
              rw [Outline.preorder_viewFrom] at value above
              simp only [if_pos opens]
              exact ascends.under below value above
            · simp [opens, Forest.lineages] at inside
      | unwritten =>
          simp only [role, Tree.leaf, Forest.lineages, Tree.lineages, List.append_nil, List.mem_singleton] at member
          subst member
          exact .top fun sighting none => absurd none List.not_mem_nil

/-- What stands above a record in the view of the children of a record are those in view at the places above its own. -/
theorem Outline.ascends_viewFrom (config : Config) (path : Path) (depth index : Nat) :
    ∀ (outlines : List Outline) (lineage : Lineage Sighting),
      lineage ∈ Forest.lineages [] (Outline.viewFrom config path depth index outlines) →
        Ascends (Outline.reachedFrom config path depth index outlines) lineage
  | [], lineage, member => by simp [Outline.viewFrom, Forest.lineages] at member
  | child :: rest, lineage, member => by
      have apart := Outline.apart_of_mem_reachedFrom config path depth index child rest
      rw [Outline.viewFrom, Forest.lineages_of_append, List.mem_append] at member
      rw [Outline.reachedFrom]
      rcases member with onFirst | onLater
      · have ascends := Outline.ascends_view config (path.child index) depth child lineage onFirst
        obtain ⟨value, above⟩ := Forest.subset_of_mem_lineages onFirst
        rw [Outline.preorder_view] at value above
        refine ascends.widen fun other member => (List.mem_append.mp member).imp_right fun inRest => ?_
        exact ⟨fun stands => (apart other (above stands) other inRest).1 rfl, (apart _ value other inRest).2.1⟩
      · have ascends := Outline.ascends_viewFrom config path depth (index + 1) rest lineage onLater
        obtain ⟨value, above⟩ := Forest.subset_of_mem_lineages onLater
        rw [Outline.preorder_viewFrom] at value above
        refine ascends.widen fun other member => (List.mem_append.mp member).symm.imp_right fun inFirst => ?_
        exact ⟨fun stands => (apart other inFirst other (above stands)).1 rfl, (apart other inFirst _ value).2.2.1⟩

end

/-- Trees of records stand beside each other in the order of the document, at every level. -/
def Sighting.Ordered (sightings : Forest Sighting) : Prop :=
  ∀ row ∈ Forest.rows sightings, row.Pairwise fun left right => left.value.path.Precedes right.value.path

namespace Sighting

theorem ordered_nil : Ordered [] := by
  intro row member
  obtain rfl := List.mem_singleton.mp member
  exact .nil

theorem ordered_singleton {sighting : Sighting} {below : Forest Sighting} (ordered : Ordered below) :
    Ordered [.node sighting below] := by
  intro row member
  rw [Forest.rows, Forest.subtrees, Tree.subtrees, Forest.subtrees, List.append_nil, List.map_cons] at member
  rcases List.mem_cons.mp member with rfl | inside
  · exact List.pairwise_singleton _ _
  · exact ordered row inside

/-- Trees of records are in order when those on the left come before those on the right. -/
theorem ordered_append {left right : Forest Sighting} (onLeft : Ordered left) (onRight : Ordered right)
    (before : ∀ first ∈ left, ∀ second ∈ right, first.value.path.Precedes second.value.path) :
    Ordered (left ++ right) := by
  intro row member
  rw [Forest.rows, Forest.subtrees_append, List.map_append, List.mem_cons, List.mem_append] at member
  rcases member with rfl | inLeft | inRight
  · exact List.pairwise_append.mpr
      ⟨onLeft left List.mem_cons_self, onRight right List.mem_cons_self, before⟩
  · exact onLeft row (List.mem_cons_of_mem _ inLeft)
  · exact onRight row (List.mem_cons_of_mem _ inRight)

end Sighting

mutual

/-- The records in view that are not taken out of an outline stand beside each other in the order of the document. -/
theorem Outline.ordered_view (keeps : Sighting → Bool) (config : Config) (path : Path) (depth : Nat) :
    ∀ outline : Outline, Ordered (Forest.sieve keeps (outline.view config path depth))
  | .node record children => by
      rw [Outline.view]
      cases role : record.role with
      | ignored => exact ordered_nil
      | container => exact Outline.ordered_viewFrom keeps config path depth 0 children
      | shown type =>
          have below : Ordered (Forest.sieve keeps
              (if config.opens type depth then Outline.viewFrom config path (depth + 1) 0 children else [])) := by
            split
            · exact Outline.ordered_viewFrom keeps config path (depth + 1) 0 children
            · exact ordered_nil
          simp only [Forest.sieve_singleton, Tree.sieve]
          split
          · exact ordered_singleton below
          · exact below
      | unwritten =>
          simp only [Tree.leaf, Forest.sieve_singleton, Tree.sieve]
          split
          · exact ordered_singleton ordered_nil
          · exact ordered_nil

/-- The records that are not taken out of the children of a record stand in the order of the document. -/
theorem Outline.ordered_viewFrom (keeps : Sighting → Bool) (config : Config) (path : Path) (depth index : Nat) :
    ∀ outlines : List Outline,
      Ordered (Forest.sieve keeps (Outline.viewFrom config path depth index outlines))
  | [] => ordered_nil
  | child :: rest => by
      rw [Outline.viewFrom, Forest.sieve_append]
      refine ordered_append (Outline.ordered_view keeps config (path.child index) depth child)
        (Outline.ordered_viewFrom keeps config path depth (index + 1) rest) fun first onFirst second onLater => ?_
      have left := Forest.mem_preorder_of_mem onFirst first.value_mem_preorder
      have right := Forest.mem_preorder_of_mem onLater second.value_mem_preorder
      rw [Forest.preorder_sieve, Outline.preorder_view] at left
      rw [Forest.preorder_sieve, Outline.preorder_viewFrom] at right
      exact (Outline.apart_of_mem_reachedFrom config path depth index child rest _ (List.mem_filter.mp left).1 _
        (List.mem_filter.mp right).1).2.2.2

end

namespace Outline

/-- The records of an outline that are left after the first pass, each one above those that are left below it. -/
def survivors (config : Config) (path : Path) (depth : Nat) (outline : Outline) : Forest Sighting :=
  Forest.sieve (·.counts config) (outline.view config path depth)

/-- Records stand above and beside each other as they do in their outline. -/
structure KeepsAncestry (path : Path) (outline : Outline) (survivors : Forest Sighting) : Prop where
  /-- The path of a record leads to it from the top of the outline. -/
  placed : ∀ sighting ∈ Forest.preorder survivors, ∃ steps,
    sighting.path = { path with steps := path.steps ++ steps } ∧
      (outline.at? steps).map Tree.value = some sighting.record
  /-- A record stands above another one exactly when it does so in the outline, and the nearest one is the parent. -/
  ascends : ∀ lineage ∈ Forest.lineages [] survivors, Sighting.Ascends (Forest.preorder survivors) lineage
  /-- Every list of children is in the order of the outline. -/
  ordered : Sighting.Ordered survivors

/--
The nodes of an outline are the layers of the records in view that count, in the shape in which these records stand:
each one below those records that count and stand above it in the outline, the nearest one being its parent, and each
list of children in the order of the outline.
-/
theorem arrange_keepsAncestry {config : Config} {path : Path} {depth : Nat} {outline : Outline} {nodes : List Node}
    (arranged : outline.arrange config path depth = .ok nodes) :
    Forest.traverse (·.layer config) (outline.survivors config path depth) = .ok nodes ∧
      Forest.preorder (outline.survivors config path depth) =
        (outline.reached config path depth).filter (·.counts config) ∧
      KeepsAncestry path outline (outline.survivors config path depth) := by
  have listed : Forest.preorder (outline.survivors config path depth) =
      (outline.reached config path depth).filter (·.counts config) := by
    rw [survivors, Forest.preorder_sieve, preorder_view]
  refine ⟨?_, listed, ⟨fun sighting member => ?_, fun lineage member => ?_, ?_⟩⟩
  · rw [arrange_eq, Sighting.nodes, map_eq_ok] at arranged
    obtain ⟨layers, made, rfl⟩ := arranged
    exact Forest.traverse_sieve (·.isVisual config) (outline.view config path depth) layers made
  · rw [listed] at member
    exact at?_of_mem_reached config path depth outline sighting (List.mem_filter.mp member).1
  · rw [listed]
    have sieved := Forest.lineages_sieve (·.counts config) [] (outline.view config path depth)
    rw [List.filter_nil] at sieved
    rw [survivors, sieved] at member
    obtain ⟨inner, among, rfl⟩ := List.mem_map.mp member
    exact (ascends_view config path depth outline inner (List.mem_filter.mp among).1).sieve
  · exact ordered_view (·.counts config) config path depth outline

/-- A page with a wrapper without size around a section that holds a text, and with a text beside the wrapper. -/
def wrapped : Outline :=
  let box : Json := .object [("width", .int 300), ("height", .int 300)]
  .node ⟨[("id", .string "page"), ("type", .string "FRAME"), ("absoluteBoundingBox", box)]⟩ [
    .node ⟨[("id", .string "wrapper"), ("type", .string "GROUP")]⟩ [
      .node ⟨[("id", .string "section"), ("type", .string "SECTION")]⟩ [
        .node ⟨[("id", .string "inner"), ("type", .string "TEXT"), ("characters", .string "Inside")]⟩ []]],
    .node ⟨[("id", .string "sibling"), ("type", .string "TEXT"), ("characters", .string "Beside")]⟩ []]

/-- The text inside the wrapper becomes a child of the page, in front of the other one. -/
theorem arrange_keepsAncestry_wrapped :
    ∃ nodes, wrapped.arrange .standard (.ofIndex 0) 0 = .ok nodes ∧
      nodes.map (fun node => (node.value.id, List.map (·.value.id) node.children)) =
          [("page", ["inner", "sibling"])] ∧
      Forest.traverse (·.layer .standard) (wrapped.survivors .standard (.ofIndex 0) 0) = .ok nodes ∧
        KeepsAncestry (.ofIndex 0) wrapped (wrapped.survivors .standard (.ofIndex 0) 0) := by
  obtain ⟨nodes, arranged, listed⟩ := exists_of_any (wrapped.arrange .standard (.ofIndex 0) 0) (fun nodes =>
    nodes.map (fun node => (node.value.id, List.map (·.value.id) node.children)) = [("page", ["inner", "sibling"])])
    (by decide +kernel)
  obtain ⟨drawn, -, kept⟩ := arrange_keepsAncestry arranged
  exact ⟨nodes, arranged, of_decide_eq_true listed, drawn, kept⟩

end Outline

end Storyboard
