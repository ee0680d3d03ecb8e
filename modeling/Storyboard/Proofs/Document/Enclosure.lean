/-
This file puts consecutive children of a raw node into a container, and states that the screens of a document stay the
same.
-/

import Storyboard.Proofs.Document.PlainView

namespace Storyboard

namespace Json

/-- The place of a field among those of an object, where no earlier field has its name. -/
structure Slot (name : String) where
  before : List (String × Json)
  after : List (String × Json)
  first : name ∉ before.map (·.1)

namespace Slot

variable {name : String} (slot : Slot name) (value : Json)

/-- The fields of the object when a value stands in the place. -/
def fields : List (String × Json) := slot.before ++ (name, value) :: slot.after

theorem lookup_before : slot.before.lookup name = none :=
  List.lookup_eq_none_iff.mpr fun field member =>
    bne_iff_ne.mpr fun same => slot.first (List.mem_map.mpr ⟨field, member, same.symm⟩)

theorem field_fields : field (slot.fields value) name = value := by
  rw [field, fields, List.lookup_append, lookup_before, List.lookup_cons_self]
  rfl

/-- The other fields do not depend on the value. -/
theorem field_fields_congr (other : Json) {key : String} (different : key ≠ name) :
    field (slot.fields value) key = field (slot.fields other) key := by
  simp only [field, fields, List.lookup_append, List.lookup_cons, beq_eq_false_iff_ne.mpr different]

theorem sortedNames_fields (other : Json) :
    Document.sortedNames (slot.fields value) = Document.sortedNames (slot.fields other) := by
  simp only [Document.sortedNames, fields, List.map_append, List.map_cons]

/-- A field in which other records stand is none of the own fields of a record. -/
theorem own_fields (other : Json) (holder : name ∈ Record.holderNames) :
    Record.own ⟨slot.fields value⟩ = Record.own ⟨slot.fields other⟩ := by
  simp only [Record.own, fields, List.filter_append, List.filter_cons, holder, not_true, decide_false,
    Bool.false_eq_true, if_false]

end Slot

/--
A raw node, and the same node where consecutive children of it or of a node below it stand in a container, which takes
their place.
-/
inductive Enclosed : Json → Json → Prop
  | here (slot : Slot "children") (before segment after : List Json) {container : List (String × Json)}
      (role : (Record.mk container).role = .container) (held : field container "children" = .array segment) :
      Enclosed (.object (slot.fields (.array (before ++ segment ++ after))))
        (.object (slot.fields (.array (before ++ .object container :: after))))
  | deeper (slot : Slot "children") (before after : List Json) {child changed : Json} (inner : Enclosed child changed) :
      Enclosed (.object (slot.fields (.array (before ++ child :: after))))
        (.object (slot.fields (.array (before ++ changed :: after))))

/-- A map of nodes, and the same map where consecutive children of a node stand in a container. -/
inductive EnclosedEntry : List (String × Json) → List (String × Json) → Prop
  | mk {name : String} (slot : Slot name) (entry : Slot "document") {node changed : Json}
      (inner : Enclosed node changed) :
      EnclosedEntry (slot.fields (.object (entry.fields node))) (slot.fields (.object (entry.fields changed)))

end Json

namespace Outline

open Json

theorem childrenOf_eq (fields : List (String × Json)) : childrenOf fields = ofItems (field fields "children") := by
  induction fields with
  | nil => rfl
  | cons field rest ih =>
      obtain ⟨name, value⟩ := field
      rw [childrenOf, Json.field, List.lookup_cons]
      by_cases same : name = "children"
      · simp [same]
      · rw [if_neg same, beq_eq_false_iff_ne.mpr (Ne.symm same), ih]
        rfl

theorem ofList_append (left right : List Json) : ofList (left ++ right) = ofList left ++ ofList right := by
  induction left with
  | nil => rfl
  | cons item rest ih =>
      rw [List.cons_append, ofList, ofList, ih]
      cases ofJson? item <;> rfl

theorem ofList_object (fields : List (String × Json)) (rest : List Json) :
    ofList (.object fields :: rest) = [.node ⟨fields⟩ (childrenOf fields)] ++ ofList rest :=
  rfl

/-- The children of a node stand in their place. -/
theorem childrenOf_fields (slot : Slot "children") (items : List Json) :
    childrenOf (slot.fields (.array items)) = ofList items := by
  rw [childrenOf_eq, slot.field_fields, ofItems]

end Outline

open Outline

/-- Only the lists of children of the two nodes differ, and they look alike. -/
theorem Json.Enclosed.exists_alike {node changed : Json} (enclosed : Json.Enclosed node changed) :
    ∃ (slot : Json.Slot "children") (items others : List Json), node = .object (slot.fields (.array items)) ∧
      changed = .object (slot.fields (.array others)) ∧ Alike (ofList items) (ofList others) := by
  induction enclosed with
  | here slot before segment after role held =>
      refine ⟨slot, _, _, rfl, rfl, ?_⟩
      have contained := Alike.container role (ofList segment)
      rw [List.append_assoc, ofList_append, ofList_append, ofList_append, ofList_object, childrenOf_eq, held, ofItems]
      exact (Alike.refl _).append (contained.append (.refl _))
  | deeper slot before after inner ih =>
      obtain ⟨inside, items, others, rfl, rfl, alike⟩ := ih
      refine ⟨slot, _, _, rfl, rfl, ?_⟩
      have same := Alike.node (inside.own_fields (.array items) (.array others) (by decide)) alike
      rw [ofList_append, ofList_append, ofList_object, ofList_object, childrenOf_fields, childrenOf_fields]
      exact (Alike.refl _).append (same.append (.refl _))

namespace Document

open Json

/-- A raw document, and the same document where consecutive children of a node stand in a container. -/
inductive Enclosed : Json → Json → Prop
  | children {raw changed : Json} (inner : Json.Enclosed raw changed) : Enclosed raw changed
  | document (slot : Slot "document") {node changed : Json} (inner : Json.Enclosed node changed) :
      Enclosed (.object (slot.fields node)) (.object (slot.fields changed))
  | entry {entries changed : List (String × Json)} (inner : EnclosedEntry entries changed) :
      Enclosed (.object entries) (.object changed)
  | nodes (slot : Slot "nodes") {entries changed : List (String × Json)} (inner : EnclosedEntry entries changed) :
      Enclosed (.object (slot.fields (.object entries))) (.object (slot.fields (.object changed)))

/-- Two outcomes of the search for roots: roots that look alike, or the same fault. -/
inductive RootsAlike : Except ShapeFault (List Outline) → Except ShapeFault (List Outline) → Prop
  | ok {left right : List Outline} (alike : Alike left right) : RootsAlike (.ok left) (.ok right)
  | error (fault : ShapeFault) : RootsAlike (.error fault) (.error fault)

theorem RootsAlike.of_eq {left right : Except ShapeFault (List Outline)} (same : left = right) :
    RootsAlike left right := by
  subst same
  cases left with
  | ok outlines => exact .ok (.refl outlines)
  | error fault => exact .error fault

/-- The nodes of the map in a wrapper, which may hold nothing but null. -/
def wrappedOutlines? (wrapper : Json) : Option (List Outline) :=
  match wrapper with
  | .object entries => if entries.all (·.2.isNull) then some [] else entryOutlines? entries
  | _ => none

section Shape

variable {fields inner : List (String × Json)} {items : List Json}

/-- The children of the document come first. -/
theorem roots_of_document (top : (field fields "document").fields? = some inner) :
    roots (.object fields) = ((field inner "children").items?.map ofList).elim (.error .noChildren) .ok := by
  rw [roots]
  split
  · rename_i document
    obtain rfl := Option.some.inj ((congrArg fields? document).symm.trans top)
    cases field _ "children" <;> rfl
  · rename_i bare
    cases document : field fields "document" with
    | object others => exact absurd document (bare others)
    | _ => simp [document, fields?] at top

theorem roots_fields (slot : Slot "document") (inner : List (String × Json)) :
    roots (.object (slot.fields (.object inner))) =
      ((field inner "children").items?.map ofList).elim (.error .noChildren) .ok :=
  roots_of_document (congrArg fields? (slot.field_fields _))

/-- Without a document, the children of the whole are taken. -/
theorem roots_of_children (bare : (field fields "document").fields? = none)
    (top : (field fields "children").items? = some items) : roots (.object fields) = .ok (ofList items) := by
  rw [roots]
  split
  · rename_i document
    simp [document, fields?] at bare
  · cases children : field fields "children" with
    | array others =>
        obtain rfl := Option.some.inj ((congrArg items? children).symm.trans top)
        rfl
    | _ => simp [children, items?] at top

/-- Without a document and children, the entries of a map are taken. -/
theorem roots_of_entries (bare : (field fields "document").fields? = none)
    (childless : (field fields "children").items? = none) :
    roots (.object fields) = ((wrappedOutlines? (field fields "nodes")).or (entryOutlines? fields)).elim
      (.error (.unknownFields (sortedNames fields))) .ok := by
  rw [roots]
  split
  · rename_i document
    simp [document, fields?] at bare
  · split
    · rename_i children
      simp [children, items?] at childless
    · cases field fields "nodes" with
      | object entries =>
          dsimp only [wrappedOutlines?]
          by_cases nulls : entries.all (·.2.isNull)
          · rw [if_pos nulls]
            rfl
          · rw [if_neg nulls]
            cases (entryOutlines? entries).or (entryOutlines? fields) <;> rfl
      | _ => cases entryOutlines? fields <;> rfl

end Shape

/-- Two nodes that may be missing look alike when both are missing or both look alike. -/
def NodesAlike (left right : Option Outline) : Prop := Option.Rel (fun one other => Alike [one] [other]) left right

theorem NodesAlike.refl (node : Option Outline) : NodesAlike node node := by
  cases node with
  | none => exact .none
  | some outline => exact .some (.refl _)

/-- Two lists of roots that may be missing look alike when both are missing or both look alike. -/
def ListsAlike (left right : Option (List Outline)) : Prop := Option.Rel Alike left right

theorem ListsAlike.refl (list : Option (List Outline)) : ListsAlike list list := by
  cases list with
  | none => exact .none
  | some outlines => exact .some (.refl outlines)

theorem ListsAlike.or {left right first second : Option (List Outline)} (alike : ListsAlike left right)
    (others : ListsAlike first second) : ListsAlike (left.or first) (right.or second) := by
  cases alike with
  | none => exact others
  | some same => exact .some same

theorem ListsAlike.roots {left right : Option (List Outline)} (alike : ListsAlike left right) (fault : ShapeFault) :
    RootsAlike (left.elim (.error fault) .ok) (right.elim (.error fault) .ok) := by
  cases alike with
  | none => exact .error fault
  | some same => exact .ok same

/-- Objects with the same document and children have roots that look alike when the maps in them do. -/
theorem rootsAlike_of_entries {fields others : List (String × Json)} (names : sortedNames fields = sortedNames others)
    (document : field fields "document" = field others "document")
    (children : (field fields "children").items? = (field others "children").items?)
    (wrapped : ListsAlike (wrappedOutlines? (field fields "nodes")) (wrappedOutlines? (field others "nodes")))
    (entries : ListsAlike (entryOutlines? fields) (entryOutlines? others)) :
    RootsAlike (roots (.object fields)) (roots (.object others)) := by
  cases bare : (field fields "document").fields? with
  | some inner => exact .of_eq ((roots_of_document bare).trans (roots_of_document (document ▸ bare)).symm)
  | none =>
      cases childless : (field fields "children").items? with
      | some items =>
          have also := children ▸ childless
          exact .of_eq ((roots_of_children bare childless).trans (roots_of_children (document ▸ bare) also).symm)
      | none =>
          rw [roots_of_entries bare childless, roots_of_entries (document ▸ bare) (children ▸ childless), names]
          exact (wrapped.or entries).roots _

/-- The nodes of a map with an entry that is not null. -/
theorem entryOutlines?_fields {name : String} (slot : Slot name) {value : Json} (filled : value.isNull = false) :
    entryOutlines? (slot.fields value) = ((slot.before.map (·.2)).filter (!·.isNull) ++
      value :: (slot.after.map (·.2)).filter (!·.isNull)).mapM entryOutline? := by
  simp only [entryOutlines?, Slot.fields, List.map_append, List.map_cons, List.filter_append, List.filter_cons, filled,
    Bool.not_false, if_true]
  exact if_neg (by simp)

/-- Maps in which one entry holds nodes that look alike, and the other entries are the same, have such nodes. -/
theorem entryOutlines?_alike {name : String} (slot : Slot name) {value other : Json} (filled : value.isNull = false)
    (also : other.isNull = false) (alike : NodesAlike (entryOutline? value) (entryOutline? other)) :
    ListsAlike (entryOutlines? (slot.fields value)) (entryOutlines? (slot.fields other)) := by
  rw [entryOutlines?_fields slot filled, entryOutlines?_fields slot also]
  simp only [List.mapM_append, List.mapM_cons]
  generalize entryOutline? value = first at alike
  generalize entryOutline? other = second at alike
  cases ((slot.before.map (·.2)).filter (!·.isNull)).mapM entryOutline? with
  | none => exact .none
  | some front =>
      cases alike with
      | none => exact .none
      | some same =>
          cases ((slot.after.map (·.2)).filter (!·.isNull)).mapM entryOutline? with
          | none => exact .none
          | some back => exact .some ((Alike.refl front).append (same.append (.refl back)))

/-- A wrapper whose map is not empty has the nodes of its map. -/
theorem wrappedOutlines?_fields {name : String} (slot : Slot name) {value : Json} (filled : value.isNull = false) :
    wrappedOutlines? (.object (slot.fields value)) = entryOutlines? (slot.fields value) := by
  simp [wrappedOutlines?, Slot.fields, filled]

/-- A node looks like the same node with a container below it. -/
theorem ofJson?_alike {node changed : Json} (inner : Json.Enclosed node changed) :
    NodesAlike (ofJson? node) (ofJson? changed) := by
  obtain ⟨slot, items, others, rfl, rfl, alike⟩ := inner.exists_alike
  rw [← childrenOf_fields slot, ← childrenOf_fields slot] at alike
  exact .some (.node (slot.own_fields _ _ (by decide)) alike)

theorem entryOutline?_object (fields : List (String × Json)) :
    entryOutline? (.object fields) = ofJson? (field fields "document") :=
  rfl

/-- A document inside a node does not depend on the children of the node. -/
theorem entryOutline?_eq_of_enclosed {node changed : Json} (inner : Json.Enclosed node changed) :
    entryOutline? node = entryOutline? changed := by
  obtain ⟨slot, items, others, rfl, rfl, -⟩ := inner.exists_alike
  rw [entryOutline?_object, entryOutline?_object, slot.field_fields_congr (.array items) (.array others) (by decide)]

/-- A node in a map may stand under the name of a document, so that the map itself is taken for an entry. -/
theorem entryOutline?_alike {entries changed : List (String × Json)} (inner : EnclosedEntry entries changed) :
    NodesAlike (entryOutline? (.object entries)) (entryOutline? (.object changed)) := by
  obtain @⟨name, slot, entry, node, changed, inner⟩ := inner
  rw [entryOutline?_object, entryOutline?_object]
  by_cases same : name = "document"
  · subst same
    have children : childrenOf (entry.fields node) = childrenOf (entry.fields changed) := by
      rw [childrenOf_eq, childrenOf_eq, entry.field_fields_congr node changed (by decide)]
    have below : Alike (childrenOf (entry.fields node)) (childrenOf (entry.fields changed)) := children ▸ .refl _
    rw [slot.field_fields, slot.field_fields]
    exact .some (.node (entry.own_fields node changed (by decide)) below)
  · rw [slot.field_fields_congr _ (.object (entry.fields changed)) (Ne.symm same)]
    exact .refl _

/-- The nodes of a map look alike with a container below one of them. -/
theorem listsAlike_of_enclosedEntry {entries changed : List (String × Json)} (inner : EnclosedEntry entries changed) :
    ListsAlike (entryOutlines? entries) (entryOutlines? changed) := by
  obtain @⟨name, slot, entry, node, changed, inner⟩ := inner
  refine entryOutlines?_alike slot rfl rfl ?_
  rw [entryOutline?_object, entryOutline?_object, entry.field_fields, entry.field_fields]
  exact ofJson?_alike inner

/-- A node that is taken for a map holds the same nodes whatever its children are. -/
theorem wrappedOutlines?_alike (entry : Slot "document") {node changed : Json} (inner : Json.Enclosed node changed) :
    ListsAlike (wrappedOutlines? (.object (entry.fields node)))
      (wrappedOutlines? (.object (entry.fields changed))) := by
  have same := entryOutline?_eq_of_enclosed inner
  obtain ⟨slot, items, others, rfl, rfl, -⟩ := inner.exists_alike
  rw [wrappedOutlines?_fields entry rfl, wrappedOutlines?_fields entry rfl]
  exact entryOutlines?_alike entry rfl rfl (same ▸ .refl _)

/-- The roots of a document that is a map of nodes look alike with a container below one of them. -/
theorem rootsAlike_of_enclosedEntry {entries changed : List (String × Json)} (inner : EnclosedEntry entries changed) :
    RootsAlike (roots (.object entries)) (roots (.object changed)) := by
  have listed := listsAlike_of_enclosedEntry inner
  obtain @⟨name, slot, entry, node, changed, inner⟩ := inner
  -- The entry may bear one of the names that are looked for first.
  by_cases onDocument : name = "document"
  · subst onDocument
    rw [roots_fields, roots_fields, entry.field_fields_congr node changed (by decide)]
    exact .of_eq rfl
  · refine rootsAlike_of_entries (slot.sortedNames_fields _ _) (slot.field_fields_congr _ _ (Ne.symm onDocument)) ?_ ?_
      listed
    · by_cases onChildren : name = "children"
      · subst onChildren
        rw [slot.field_fields, slot.field_fields]
        rfl
      · rw [slot.field_fields_congr _ (.object (entry.fields changed)) (Ne.symm onChildren)]
    · by_cases onNodes : name = "nodes"
      · subst onNodes
        rw [slot.field_fields, slot.field_fields]
        exact wrappedOutlines?_alike entry inner
      · rw [slot.field_fields_congr _ (.object (entry.fields changed)) (Ne.symm onNodes)]
        exact .refl _

/-- The roots of a document look like those of the same document with a container below one of them. -/
theorem rootsAlike_of_enclosed {raw changed : Json} (enclosed : Enclosed raw changed) :
    RootsAlike (roots raw) (roots changed) := by
  cases enclosed with
  | children inner =>
      obtain ⟨slot, items, others, rfl, rfl, alike⟩ := inner.exists_alike
      have document := slot.field_fields_congr (.array items) (.array others) (show "document" ≠ "children" by decide)
      have children (list : List Json) := congrArg items? (slot.field_fields (.array list))
      cases bare : (field (slot.fields (.array items)) "document").fields? with
      | some inner => exact .of_eq ((roots_of_document bare).trans (roots_of_document (document ▸ bare)).symm)
      | none =>
          rw [roots_of_children bare (children items), roots_of_children (document ▸ bare) (children others)]
          exact .ok alike
  | document slot inner =>
      obtain ⟨below, items, others, rfl, rfl, alike⟩ := inner.exists_alike
      rw [roots_fields, roots_fields, below.field_fields, below.field_fields]
      exact .ok alike
  | entry inner => exact rootsAlike_of_enclosedEntry inner
  | nodes slot inner =>
      have listed := listsAlike_of_enclosedEntry inner
      refine rootsAlike_of_entries (slot.sortedNames_fields _ _) (slot.field_fields_congr _ _ (by decide))
        (congrArg items? (slot.field_fields_congr _ _ (by decide))) ?_
        (entryOutlines?_alike slot rfl rfl (entryOutline?_alike inner))
      rw [slot.field_fields, slot.field_fields]
      obtain @⟨name, below, entry, node, changed, inner⟩ := inner
      rw [wrappedOutlines?_fields below rfl, wrappedOutlines?_fields below rfl]
      exact listed

variable {config : Config} {raw changed : Json}

/-- Every record in view of a raw document gives itself an id. -/
def IsNamed (config : Config) (raw : Json) : Prop :=
  ∀ outlines, roots raw = .ok outlines → ∀ sighting ∈ reachedOfRoots config 0 outlines, sighting.IsNamed

/--
A container takes no part in the screens of a document in which all records in view give themselves an id: when it takes
the place of consecutive children, both documents have the same screens, or none for the same reason.
-/
theorem outcome_eq_of_enclosed (named : IsNamed config raw) (enclosed : Enclosed raw changed) :
    outcome config changed = outcome config raw := by
  have found := rootsAlike_of_enclosed enclosed
  rw [outcome_eq, outcome_eq]
  unfold IsNamed at named
  generalize roots raw = before at found named
  generalize roots changed = after at found
  cases found with
  | error fault => rfl
  | ok alike => exact congrArg outcomeOf (screens_designOf_of_alike alike (named _ rfl))

/-- Two texts in a group that does not count, and a small box beside their page. -/
def greetings (texts : List Json) : Json :=
  .object [("children", .array [
    .object [
      ("id", .string "page"),
      ("type", .string "FRAME"),
      ("absoluteBoundingBox", square 0 0 100),
      ("children", .array [.object [("id", .string "group"), ("children", .array texts)]])],
    .object [("id", .string "box"), ("absoluteBoundingBox", square 200 200 6)]])]

/-- A text under its own id. -/
def textNode (id text : String) : Json :=
  .object [("id", .string id), ("type", .string "TEXT"), ("characters", .string text)]

/-- The texts of the group. -/
def texts : List Json := [textNode "first" "Hello", textNode "second" "World"]

/-- A section without an id that holds the texts. -/
def textSection : List (String × Json) := [("type", .string "SECTION"), ("children", .array texts)]

theorem enclosed_greetings : Enclosed (greetings texts) (greetings [.object textSection]) := by
  have role : (Record.mk textSection).role = .container := by decide +kernel
  have group := Json.Enclosed.here ⟨[("id", .string "group")], [], by decide⟩ [] texts [] role rfl
  have page := Json.Enclosed.deeper
    ⟨[("id", .string "page"), ("type", .string "FRAME"), ("absoluteBoundingBox", square 0 0 100)], [], by decide⟩
    [] [] group
  exact .children (.deeper ⟨[], [], by decide⟩ [] [.object [("id", .string "box"), _]] page)

/-- A section around the texts below a group that gives way to them makes no difference. -/
theorem outcome_greetings : IsNamed .standard (greetings texts) ∧
    Enclosed (greetings texts) (greetings [.object textSection]) ∧
      outcome .standard (greetings [.object textSection]) = outcome .standard (greetings texts) ∧
        ∃ screens, outcome .standard (greetings texts) = .ok screens ∧
          (Forest.preorder screens).map (·.id) = ["page", "first", "second", "box"] := by
  have isNamed : IsNamed .standard (greetings texts) := by
    intro outlines found sighting member
    have all : (roots (greetings texts)).toOption.all fun outlines =>
        (reachedOfRoots .standard 0 outlines).all (·.IsNamed) := by decide +kernel
    rw [found] at all
    exact of_decide_eq_true (List.all_eq_true.mp all sighting member)
  obtain ⟨screens, built, listed⟩ := exists_of_any (outcome .standard (greetings texts)) (fun screens =>
    (Forest.preorder screens).map (·.id) = ["page", "first", "second", "box"]) (by decide +kernel)
  exact ⟨isNamed, enclosed_greetings, outcome_eq_of_enclosed isNamed enclosed_greetings, screens, built,
    of_decide_eq_true listed⟩

end Document

end Storyboard
