/-
This file states where added layers are put: below the first screen that accepts them, or after all screens.
-/

import Storyboard.Document.Fallback
import Storyboard.Proofs.Number.Order
import Storyboard.Proofs.Tree.Forest

namespace Storyboard.Fallback

variable {config : Config} {screens : List Node} {added : List Layer} {layer : Layer}

/-- A screen accepts a layer when it is not text, its box holds the corner of the layer, and children may stand
below screens. -/
def Accepts (config : Config) (layer : Layer) (screen : Node) : Prop :=
  Number.one.less config.maxDepth ∧ screen.value.type ≠ .text ∧
    screen.value.layout.contains layer.layout.x layer.layout.y

/-- The layers that the screen at a position takes. -/
def takenAt (config : Config) (screens : List Node) (added : List Layer) (index : Nat) : List Layer :=
  added.filter (host? config screens · = some index)

/-- The layers that no screen takes. -/
def unplaced (config : Config) (screens : List Node) (added : List Layer) : List Layer :=
  added.filter (host? config screens · = none)

theorem merge_eq (config : Config) (screens : List Node) (added : List Layer) :
    merge config screens added =
      screens.mapIdx (fun index screen =>
        .node screen.value (screen.children ++ (takenAt config screens added index).map Tree.leaf)) ++
      (unplaced config screens added).map Tree.leaf := rfl

/-- The host of a layer is the first screen that accepts it. -/
theorem host?_eq_some {index : Nat} (hosted : host? config screens layer = some index) :
    (∃ screen, screens[index]? = some screen ∧ Accepts config layer screen) ∧
      ∀ earlier < index, ∀ other, screens[earlier]? = some other → ¬Accepts config layer other := by
  unfold host? at hosted
  split at hosted
  · rename_i deep
    obtain ⟨inside, accepts, first⟩ := List.findIdx?_eq_some_iff_getElem.mp hosted
    simp only [Bool.and_eq_true, decide_eq_true_eq] at accepts first
    refine ⟨⟨screens[index], List.getElem?_eq_getElem inside, deep, accepts⟩, ?_⟩
    intro earlier before other found accepted
    obtain ⟨bounded, rfl⟩ := List.getElem?_eq_some_iff.mp found
    exact first earlier before accepted.2
  · simp at hosted

/-- A layer without a host is accepted by no screen. -/
theorem host?_eq_none (homeless : host? config screens layer = none) :
    ∀ screen ∈ screens, ¬Accepts config layer screen := by
  intro screen member accepted
  rw [host?, if_pos accepted.1, List.findIdx?_eq_none_iff] at homeless
  have refused := homeless screen member
  simp only [Bool.and_eq_false_iff, decide_eq_false_iff_not] at refused
  rcases refused with isText | outside
  · exact isText accepted.2.1
  · simp [accepted.2.2] at outside

/-- The screen at a position keeps its layer and its children, and the layers that it takes follow. -/
theorem getElem?_merge {index : Nat} {screen : Node} (found : screens[index]? = some screen) :
    (merge config screens added)[index]? =
      some (.node screen.value (screen.children ++ (takenAt config screens added index).map Tree.leaf)) := by
  obtain ⟨inside, -⟩ := List.getElem?_eq_some_iff.mp found
  rw [merge_eq, List.getElem?_append_left (by simpa using inside), List.getElem?_mapIdx, found]
  rfl

/-- The layers without a host follow after all screens. -/
theorem drop_merge : (merge config screens added).drop screens.length =
    (unplaced config screens added).map Tree.leaf := by
  rw [merge_eq, List.drop_append_of_le_length (by simp)]
  simp

/-- A screen of the result is a screen with the layers that it takes, or a leaf of its own. -/
theorem mem_merge {screen : Node} (member : screen ∈ merge config screens added) :
    (∃ index original, screens[index]? = some original ∧
      screen = .node original.value (original.children ++ (takenAt config screens added index).map Tree.leaf)) ∨
    ∃ layer ∈ unplaced config screens added, screen = Tree.leaf layer := by
  rw [merge_eq, List.mem_append, List.mem_mapIdx, List.mem_map] at member
  rcases member with ⟨index, inside, rfl⟩ | ⟨layer, homeless, rfl⟩
  · exact .inl ⟨index, screens[index], List.getElem?_eq_getElem inside, rfl⟩
  · exact .inr ⟨layer, homeless, rfl⟩

/-- A layer that a screen takes is one of the added layers, and the screen is the first to accept it. -/
theorem mem_takenAt {index : Nat} (member : layer ∈ takenAt config screens added index) :
    layer ∈ added ∧ host? config screens layer = some index := by
  simpa [takenAt] using member

theorem mem_unplaced (member : layer ∈ unplaced config screens added) :
    layer ∈ added ∧ host? config screens layer = none := by
  simpa [unplaced] using member

/-- The layers of two tests that exclude each other are those of either test. -/
theorem filter_append_filter_perm {keeps also : Layer → Bool} (apart : ∀ layer, keeps layer → also layer = false)
    (layers : List Layer) :
    (layers.filter keeps ++ layers.filter also).Perm (layers.filter fun layer => keeps layer || also layer) := by
  have split := List.filter_append_perm keeps (layers.filter fun layer => keeps layer || also layer)
  rw [List.filter_filter, List.filter_filter] at split
  have onKept : (fun layer => keeps layer && (keeps layer || also layer)) = keeps := by
    funext layer
    cases keeps layer <;> rfl
  have onOthers : (fun layer => !keeps layer && (keeps layer || also layer)) = also := by
    funext layer
    cases kept : keeps layer with
    | true => simp [apart layer kept]
    | false => simp
  rw [onKept, onOthers] at split
  exact split

/-- The position lies in a range of positions. -/
def inRange (start count : Nat) (place : Option Nat) : Bool :=
  place.any fun index => decide (start ≤ index ∧ index < start + count)

/-- Screens with what they take hold their own layers and all layers placed among them. -/
theorem preorder_hosted_perm (place : Layer → Option Nat) (screens : List Node) (added : List Layer) (start : Nat) :
    (Forest.preorder (screens.mapIdx fun index screen =>
      .node screen.value
        (screen.children ++ (added.filter (place · = some (index + start))).map Tree.leaf))).Perm
      (Forest.preorder screens ++ added.filter fun layer => inRange start screens.length (place layer)) := by
  induction screens generalizing start with
  | nil =>
      have nowhere : (fun layer => inRange start 0 (place layer)) = fun _ => false := by
        funext layer
        cases place layer <;> simp [inRange]
      simp [Forest.preorder, nowhere]
  | cons screen rest ih =>
      obtain ⟨value, children⟩ := screen
      have apart : ∀ layer, decide (place layer = some start) = true →
          inRange (start + 1) rest.length (place layer) = false := by
        intro layer here
        simp only [inRange, of_decide_eq_true here, Option.any_some, decide_eq_false_iff_not]
        omega
      have both : (fun layer => inRange start (rest.length + 1) (place layer)) = fun layer =>
          decide (place layer = some start) || inRange (start + 1) rest.length (place layer) := by
        funext layer
        cases place layer with
        | none => rfl
        | some index =>
            rw [Bool.eq_iff_iff]
            simp [inRange]
            omega
      have parts := filter_append_filter_perm apart added
      rw [← both] at parts
      have others := ih (start + 1)
      simp only [List.mapIdx_cons, Nat.zero_add, Nat.add_right_comm _ 1 start, Nat.add_assoc] at others ⊢
      simp only [Forest.preorder, Tree.preorder, Tree.value_node, Tree.children_node, Forest.preorder_append,
        Forest.preorder_leaves, List.cons_append, List.append_assoc, List.length_cons]
      refine .cons value (.append_left _ ?_)
      refine (others.append_left _).trans ?_
      exact (List.perm_append_comm_assoc _ _ _).trans (parts.append_left _)

/-- The layers of the result are those of the screens and the added ones. -/
theorem preorder_merge_perm (config : Config) (screens : List Node) (added : List Layer) :
    (Forest.preorder (merge config screens added)).Perm (Forest.preorder screens ++ added) := by
  have hosted := preorder_hosted_perm (host? config screens) screens added 0
  have covered : (fun layer => !inRange 0 screens.length (host? config screens layer)) =
      fun layer => decide (host? config screens layer = none) := by
    funext layer
    cases place : host? config screens layer with
    | none => rfl
    | some index =>
        obtain ⟨⟨screen, found, -⟩, -⟩ := host?_eq_some place
        obtain ⟨inside, -⟩ := List.getElem?_eq_some_iff.mp found
        simp [inRange, inside]
  have parts := List.filter_append_perm (fun layer => inRange 0 screens.length (host? config screens layer)) added
  rw [covered] at parts
  rw [merge_eq, Forest.preorder_append, Forest.preorder_leaves]
  refine (hosted.append_right _).trans ?_
  rw [List.append_assoc]
  exact parts.append_left _

/-- Every added layer counts once. -/
theorem size_merge (config : Config) (screens : List Node) (added : List Layer) :
    Forest.size (merge config screens added) = Forest.size screens + added.length := by
  simpa [Forest.size] using (preorder_merge_perm config screens added).length_eq

/-- Dropping what screens have taken gives them back. -/
theorem prune_hosted {keeps : Layer → Bool} (taken : Nat → List Layer)
    (dropped : ∀ index, ∀ layer ∈ taken index, keeps layer = false)
    (kept : ∀ layer ∈ Forest.preorder screens, keeps layer = true) :
    Forest.prune keeps (screens.mapIdx fun index screen =>
      .node screen.value (screen.children ++ (taken index).map Tree.leaf)) = screens := by
  induction screens generalizing taken with
  | nil => simp [Forest.prune]
  | cons screen rest ih =>
      obtain ⟨value, children⟩ := screen
      have top : keeps value = true := kept value (by simp [Forest.preorder, Tree.preorder])
      have below : Forest.prune keeps children = children := Forest.prune_eq_self children fun layer member =>
        kept layer (by simp [Forest.preorder, Tree.preorder, member])
      have others := ih (fun index => taken (index + 1)) (fun index => dropped (index + 1)) fun layer member =>
        kept layer (by simp [Forest.preorder, member])
      simp only [List.mapIdx_cons, Tree.value_node, Tree.children_node, Forest.prune, Tree.prune,
        Forest.prune_append, top, if_true, below, Forest.prune_leaves (dropped 0), List.append_nil, others]

/-- Dropping the added layers gives the screens back, when their own layers are kept. -/
theorem prune_merge {keeps : Layer → Bool} (kept : ∀ layer ∈ Forest.preorder screens, keeps layer = true)
    (dropped : ∀ layer ∈ added, keeps layer = false) : Forest.prune keeps (merge config screens added) = screens := by
  have gone : Forest.prune keeps ((unplaced config screens added).map Tree.leaf) = [] :=
    Forest.prune_leaves fun layer member => dropped layer (mem_unplaced member).1
  rw [merge_eq, Forest.prune_append, gone, List.append_nil]
  exact prune_hosted _ (fun index layer member => dropped layer (mem_takenAt member).1) kept

/-- No screen is deeper than before, or than two when it takes a layer. -/
theorem depth_merge_le (config : Config) (screens : List Node) (added : List Layer) (bound : Nat)
    (shallow : Forest.depth screens ≤ bound) (positive : 1 ≤ bound)
    (room : Number.one.less config.maxDepth → 2 ≤ bound) : Forest.depth (merge config screens added) ≤ bound := by
  rw [Forest.depth_le_iff] at shallow ⊢
  intro screen member
  rcases mem_merge member with ⟨index, original, found, rfl⟩ | ⟨layer, homeless, rfl⟩
  · obtain ⟨value, children⟩ := original
    have before := shallow _ (List.mem_of_getElem? found)
    have leaves := Forest.depth_leaves_le (takenAt config screens added index)
    simp only [Tree.depth, Tree.children_node, Forest.depth_append] at before ⊢
    cases taken : takenAt config screens added index with
    | nil => simpa [Forest.depth] using before
    | cons layer others =>
        have hosted : layer ∈ takenAt config screens added index := by simp [taken]
        obtain ⟨⟨screen, -, deep, -⟩, -⟩ := host?_eq_some (mem_takenAt hosted).2
        have two := room deep
        rw [taken] at leaves
        omega
  · simpa using positive

end Storyboard.Fallback
