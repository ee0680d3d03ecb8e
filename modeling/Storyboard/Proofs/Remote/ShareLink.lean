/-
This file builds share links, and states that the reference that is read from a link is the one it was built from.
-/

import Storyboard.Proofs.Markup.Pieces
import Storyboard.Proofs.Text.Percent
import Storyboard.Remote.Reference

namespace Storyboard.Remote

open Text

/-- The kinds of pages that share links open. -/
inductive LinkKind where
  | file
  | design
  | proto
  deriving DecidableEq, Repr

def LinkKind.name : LinkKind → String
  | .file => "file"
  | .design => "design"
  | .proto => "proto"

/-- A character that ends no part of a link. -/
def isLinkText (character : Char) : Bool := character ≠ '?' && !Reference.endsParameter character

/-- A parameter of a link that is not named `node-id`, where the first equals sign ends the name of a parameter. -/
structure Parameter where
  name : String
  value : String
  name_inside : ∀ character ∈ name.toList, isLinkText character
  value_inside : ∀ character ∈ value.toList, isLinkText character
  other : name.toList.takeWhile (· ≠ '=') ≠ "node-id".toList

def Parameter.text (parameter : Parameter) : String := parameter.name ++ "=" ++ parameter.value

/-- A node id as links spell it, with hyphens for colons. -/
def encodeNodeId (id : String) : String :=
  Percent.encode (String.ofList (id.toList.map fun character => if character = ':' then '-' else character))

structure ShareLink where
  kind : LinkKind
  key : String
  title : String
  /-- The parameters in front of the node id. -/
  before : List Parameter
  nodeId? : Option String
  /-- The parameters behind the node id. -/
  behind : List Parameter
  key_filled : key ≠ ""
  key_inside : ∀ character ∈ key.toList, character.isAlphanum
  title_inside : ∀ character ∈ title.toList, isLinkText character
  nodeId_inside : ∀ id ∈ nodeId?, id ≠ "" ∧ '-' ∉ id.toList

namespace ShareLink

/-- The part of a link in front of its parameters. -/
def address (link : ShareLink) : String :=
  "https://www.figma.com/" ++ link.kind.name ++ "/" ++ link.key ++ "/" ++ link.title

theorem toList_address (link : ShareLink) : link.address.toList = "https://www.figma.com/".toList ++
    (link.kind.name.toList ++ '/' :: (link.key.toList ++ '/' :: link.title.toList)) := by
  have slash : "/".toList = ['/'] := rfl
  delta address
  simp only [String.toList_append, slash, List.append_assoc, List.cons_append, List.nil_append]

/-- The parameters of a link in their order. -/
def parameters (link : ShareLink) : List String :=
  link.before.map Parameter.text ++
    (link.nodeId?.toList.map ("node-id=" ++ encodeNodeId ·) ++ link.behind.map Parameter.text)

def text (link : ShareLink) : String := link.address ++ "?" ++ "&".intercalate link.parameters

end ShareLink

namespace Reference

section FirstOf

variable {α : Type} {read? : List Char → Option α}

theorem firstOf?_of_some {characters : List Char} {answer : α} (read : read? characters = some answer) :
    firstOf? read? characters = some answer := by
  cases characters with
  | nil => exact read
  | cons character rest => rw [firstOf?, read]

theorem firstOf?_cons_of_none {character : Char} {rest : List Char} (nothing : read? (character :: rest) = none) :
    firstOf? read? (character :: rest) = firstOf? read? rest := by
  rw [firstOf?, nothing]

/-- Characters at which nothing can be read are passed over. -/
theorem firstOf?_append {front : List Char}
    (quiet : ∀ character ∈ front, ∀ rest, read? (character :: rest) = none) (rest : List Char) :
    firstOf? read? (front ++ rest) = firstOf? read? rest := by
  induction front with
  | nil => rfl
  | cons character front ih =>
      rw [List.forall_mem_cons] at quiet
      rw [List.cons_append, firstOf?_cons_of_none (quiet.1 _), ih quiet.2]

end FirstOf

/-- No file key is read at a character that opens no mark. -/
theorem readFileKey?_of_ne {character : Char} (other : character ≠ '/') (rest : List Char) :
    readFileKey? (character :: rest) = none := by
  have unmarked : ∀ mark ∈ fileMarks, after? mark (character :: rest) = none := by
    simp [fileMarks, after?, other.symm]
  simp only [fileMarks, List.forall_mem_cons] at unmarked
  simp only [readFileKey?, fileMarks, List.firstM, unmarked]
  rfl

theorem endsParameter_of_isUnreserved {character : Char} (unreserved : Percent.isUnreserved character) :
    endsParameter character = false := by
  refine eq_false_of_ne_true fun ends => ?_
  rcases Bool.or_eq_true_iff.mp ends with ampersand | hash
  · obtain rfl := of_decide_eq_true ampersand
    exact absurd unreserved (by decide)
  · obtain rfl := of_decide_eq_true hash
    exact absurd unreserved (by decide)

/-- The file key in an address is found, whatever comes behind it. -/
theorem firstOf?_readFileKey?_address (link : ShareLink) (rest : List Char) :
    firstOf? readFileKey? (link.address.toList ++ rest) = some link.key := by
  have quiet {front : List Char} (unmarked : '/' ∉ front) :
      ∀ character ∈ front, ∀ rest, readFileKey? (character :: rest) = none := fun character member =>
    readFileKey?_of_ne fun slash => unmarked (slash ▸ member)
  have skipped (behind : List Char) : firstOf? readFileKey? ("https://www.figma.com/".toList ++ behind) =
      firstOf? readFileKey? ('/' :: behind) := by
    have parted : "https://www.figma.com/".toList =
        "https:".toList ++ '/' :: '/' :: ("www.figma.com".toList ++ ['/']) := by decide +kernel
    rw [parted, List.append_assoc, firstOf?_append (quiet (by decide)), List.cons_append, firstOf?_cons_of_none rfl,
      List.cons_append, firstOf?_cons_of_none rfl, List.append_assoc, firstOf?_append (quiet (by decide)),
      List.singleton_append]
  have marked (behind : List Char) : readFileKey? ('/' :: (link.kind.name.toList ++ '/' :: behind)) =
      if (behind.takeWhile Char.isAlphanum).isEmpty then none
      else some (String.ofList (behind.takeWhile Char.isAlphanum)) := by
    cases link.kind <;> rfl
  have taken := takeWhile_append_of_ends link.key_inside
    (ends_cons (by decide : Char.isAlphanum '/' = false) (link.title.toList ++ rest))
  have filled : link.key.toList.isEmpty = false := by
    rw [List.isEmpty_eq_false_iff, ne_eq, String.toList_eq_nil_iff]
    exact link.key_filled
  rw [ShareLink.toList_address, List.append_assoc, skipped]
  refine firstOf?_of_some ?_
  simp only [List.append_assoc, List.cons_append]
  rw [marked, taken, filled, String.ofList_toList]
  rfl

/-- No node id is read at a character inside a part of a link. -/
theorem readNodeId?_of_isLinkText {character : Char} (inside : isLinkText character) (rest : List Char) :
    readNodeId? (character :: rest) = none := by
  have unmarked : ¬(character = '?' ∨ endsParameter character) := by
    have both := Bool.and_eq_true_iff.mp inside
    rw [not_or]
    exact ⟨of_decide_eq_true both.1, by simpa using both.2⟩
  rw [readNodeId?, if_neg unmarked]
  rfl

/-- No node id is read in an address, whatever comes behind it. -/
theorem firstOf?_readNodeId?_address (link : ShareLink) (rest : List Char) :
    firstOf? readNodeId? (link.address.toList ++ rest) = firstOf? readNodeId? rest := by
  have key : ∀ character ∈ link.key.toList, isLinkText character := by
    intro character member
    have alphanumeric := link.key_inside character member
    refine Bool.and_eq_true_iff.mpr ⟨decide_eq_true ?_, ?_⟩
    · rintro rfl
      exact absurd alphanumeric (by decide)
    · rw [endsParameter_of_isUnreserved (by rw [Percent.isUnreserved, alphanumeric, Bool.true_or])]
      rfl
  refine firstOf?_append (fun character member => readNodeId?_of_isLinkText ?_) rest
  rw [ShareLink.toList_address] at member
  revert character
  simp only [List.forall_mem_append, List.forall_mem_cons]
  have kind : ∀ character ∈ link.kind.name.toList, isLinkText character := by
    cases link.kind <;> exact List.all_eq_true.mp (by decide)
  exact ⟨List.all_eq_true.mp (by decide), kind, rfl, key, rfl, link.title_inside⟩

/-- Another parameter is passed over. -/
theorem firstOf?_readNodeId?_parameter (parameter : Parameter) (rest : List Char) :
    firstOf? readNodeId? ('&' :: (parameter.text.toList ++ rest)) = firstOf? readNodeId? rest := by
  have spelled : parameter.text.toList = parameter.name.toList ++ '=' :: parameter.value.toList := by
    rw [Parameter.text, String.toList_append, String.toList_append, List.append_assoc]
    rfl
  have quiet : ∀ character ∈ parameter.text.toList, ∀ rest, readNodeId? (character :: rest) = none := by
    intro character member
    refine readNodeId?_of_isLinkText ?_
    rw [spelled, List.mem_append, List.mem_cons] at member
    rcases member with inName | rfl | inValue
    · exact parameter.name_inside _ inName
    · rfl
    · exact parameter.value_inside _ inValue
  have unmarked : after? "node-id=" (parameter.text.toList ++ rest) = none := by
    refine if_neg fun marked => parameter.other ?_
    obtain ⟨tail, same⟩ := List.isPrefixOf_iff_prefix.mp marked
    have names := congrArg (List.takeWhile (· ≠ '=')) same
    rw [spelled, List.append_assoc, List.cons_append, takeWhile_append_cons (by decide)] at names
    exact names.symm
  have nothing : readNodeId? ('&' :: (parameter.text.toList ++ rest)) = none := by
    rw [readNodeId?, if_pos (by decide), unmarked]
    rfl
  rw [firstOf?_cons_of_none nothing, firstOf?_append quiet]

theorem firstOf?_readNodeId?_parameters (parameters : List Parameter) (rest : List Char) :
    firstOf? readNodeId? ((parameters.map Parameter.text).flatMap (fun text => '&' :: text.toList) ++ rest) =
      firstOf? readNodeId? rest := by
  induction parameters with
  | nil => rfl
  | cons parameter parameters ih =>
      rw [List.map_cons, List.flatMap_cons, List.append_assoc, List.cons_append, firstOf?_readNodeId?_parameter, ih]

theorem after?_append (mark : String) (rest : List Char) : after? mark (mark.toList ++ rest) = some rest := by
  rw [after?, if_pos (List.isPrefixOf_iff_prefix.mpr (List.prefix_append _ _)), ← String.length_toList, List.drop_left]

/-- A node id is read up to the end of its parameter. -/
theorem readNodeId?_append {value : String} (filled : value ≠ "")
    (inside : ∀ character ∈ value.toList, endsParameter character = false) {rest : List Char}
    (ends : ∀ character ∈ rest.head?, (!endsParameter character) = false) :
    readNodeId? ('&' :: (("node-id=" ++ value).toList ++ rest)) = some value := by
  have taken : (value.toList ++ rest).takeWhile (!endsParameter ·) = value.toList :=
    takeWhile_append_of_ends (fun character member => by rw [inside character member]; rfl) ends
  have some : value.toList.isEmpty = false := by
    rw [List.isEmpty_eq_false_iff, ne_eq, String.toList_eq_nil_iff]
    exact filled
  rw [readNodeId?, if_pos (by decide), String.toList_append, List.append_assoc, after?_append]
  dsimp only [Option.bind_eq_bind, Option.bind_some]
  rw [taken, some, String.ofList_toList]
  rfl

/-- The first mark of a query may be read as one of the others. -/
theorem firstOf?_readNodeId?_query (parameters : List String) :
    firstOf? readNodeId? ("?" ++ "&".intercalate parameters).toList =
      firstOf? readNodeId? (parameters.flatMap fun text => '&' :: text.toList) := by
  cases parameters with
  | nil => rfl
  | cons first others =>
      have spelled : ("?" ++ "&".intercalate (first :: others)).toList =
          '?' :: (first.toList ++ others.flatMap fun text => '&' :: text.toList) := by
        rw [String.toList_append, String.toList_intercalate, List.map_cons, intercalate_cons, List.flatMap_map]
        rfl
      rw [spelled, List.flatMap_cons, List.cons_append]
      rfl

section Encoded

variable {id : String}

theorem encodeNodeId_ne_empty (filled : id ≠ "") : encodeNodeId id ≠ "" := by
  intro nothing
  have decoded := congrArg Percent.decode nothing
  rw [encodeNodeId, Percent.decode_encode] at decoded
  have spelled := congrArg String.toList decoded
  rw [String.toList_ofList] at spelled
  exact filled (String.toList_eq_nil_iff.mp (List.map_eq_nil_iff.mp spelled))

theorem endsParameter_encodeNodeId : ∀ character ∈ (encodeNodeId id).toList, endsParameter character = false := by
  intro character member
  rcases Percent.forall_mem_encode _ character member with unreserved | rfl
  · exact endsParameter_of_isUnreserved unreserved
  · rfl

/-- Decoding an encoded node id gives the id back. -/
theorem decodeNodeId_encodeNodeId (plain : '-' ∉ id.toList) : decodeNodeId (encodeNodeId id) = id := by
  have restored : ∀ character ∈ id.toList, ((fun character => if character = '-' then ':' else character) ∘
      fun character => if character = ':' then '-' else character) character = character := by
    intro character member
    have other : character ≠ '-' := fun same => plain (same ▸ member)
    grind
  rw [decodeNodeId, encodeNodeId, Percent.decode_encode, String.toList_ofList, List.map_map,
    List.map_congr_left restored, List.map_id', String.ofList_toList]

end Encoded

/-- The node id in a share link is found where there is one. -/
theorem firstOf?_readNodeId?_text (link : ShareLink) :
    firstOf? readNodeId? link.text.toList = link.nodeId?.map encodeNodeId := by
  have quiet := firstOf?_readNodeId?_address link
  have behind := firstOf?_readNodeId?_parameters link.behind []
  rw [List.append_nil] at behind
  have spelled : link.text.toList = link.address.toList ++ ("?" ++ "&".intercalate link.parameters).toList := by
    rw [ShareLink.text, String.append_assoc, String.toList_append]
  rw [spelled, quiet, firstOf?_readNodeId?_query, ShareLink.parameters, List.flatMap_append,
    firstOf?_readNodeId?_parameters, List.flatMap_append]
  cases found : link.nodeId? with
  | none => exact behind
  | some id =>
      have filled := encodeNodeId_ne_empty (link.nodeId_inside id found).1
      have own : [("node-id=" ++ encodeNodeId id)].flatMap (fun text => '&' :: text.toList) =
          '&' :: ("node-id=" ++ encodeNodeId id).toList := List.append_nil _
      have ends : ∀ character ∈ ((link.behind.map Parameter.text).flatMap fun text => '&' :: text.toList).head?,
          (!endsParameter character) = false := by
        cases link.behind with
        | nil => nofun
        | cons parameter parameters => exact ends_cons (by decide) _
      rw [Option.toList_some, List.map_singleton, own, List.cons_append]
      exact firstOf?_of_some (readNodeId?_append filled endsParameter_encodeNodeId ends)

/--
The reference in a share link names the file and the node that the link was built for. Without parameters a link names
the file alone.
-/
theorem ofLink?_text (link : ShareLink) :
    ofLink? link.text = some { fileKey := link.key, nodeId? := link.nodeId? } ∧
      ofLink? link.address = some { fileKey := link.key } := by
  have quiet := firstOf?_readNodeId?_address link []
  have key := firstOf?_readFileKey?_address link
  constructor
  · have decoded : (link.nodeId?.map encodeNodeId).map decodeNodeId = link.nodeId? := by
      cases found : link.nodeId? with
      | none => rfl
      | some id => exact congrArg some (decodeNodeId_encodeNodeId (link.nodeId_inside id found).2)
    have front : link.text.toList = link.address.toList ++ ("?" ++ "&".intercalate link.parameters).toList := by
      rw [ShareLink.text, String.append_assoc, String.toList_append]
    rw [ofLink?, firstOf?_readNodeId?_text, decoded, front, key]
    rfl
  · have whole := key []
    rw [List.append_nil] at quiet whole
    rw [ofLink?, quiet, whole]
    rfl

/-- A link with more of what looks like file keys and node ids. -/
def crowdedLink : ShareLink where
  kind := .proto
  key := "kEy7"
  title := "Über/file/x9"
  before := [
    { name := "from", value := "node-id=8-1", name_inside := List.all_eq_true.mp (by decide),
      value_inside := List.all_eq_true.mp (by decide), other := by decide }]
  nodeId? := some "I4:22;9:ß"
  behind := [
    { name := "node-ids", value := "1", name_inside := List.all_eq_true.mp (by decide),
      value_inside := List.all_eq_true.mp (by decide), other := by decide }]
  key_filled := by decide
  key_inside := List.all_eq_true.mp (by decide)
  title_inside := List.all_eq_true.mp (by decide +kernel)
  nodeId_inside := by decide

/-- Neither the title of a link nor its other parameters are taken for the reference. -/
theorem ofLink?_text_crowded :
    crowdedLink.text =
        "https://www.figma.com/proto/kEy7/Über/file/x9?from=node-id=8-1&node-id=I4-22%3B9-%C3%9F&node-ids=1" ∧
      ofLink? crowdedLink.text = some { fileKey := "kEy7", nodeId? := some "I4:22;9:ß" } :=
  ⟨by decide +kernel, (ofLink?_text crowdedLink).1⟩

end Reference

end Storyboard.Remote
