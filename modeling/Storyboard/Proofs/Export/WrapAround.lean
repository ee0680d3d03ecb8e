/-
This file states that moves between screens wrap around, and that a script which computes its position from the text of
each move goes the same way.
-/

import Mathlib.Data.List.Infix
import Storyboard.Export.Navigation
import Storyboard.Proofs.Export.Arithmetic
import Storyboard.Proofs.Outcome

namespace Storyboard.Navigation

variable {count : Int}

/-- How far a move goes on. -/
def Move.step : Move → Int
  | .next => 1
  | .previous => -1

/-- The move back. -/
def Move.opposite : Move → Move
  | .next => .previous
  | .previous => .next

/-- How far moves go on together: each one to the next screen by one, each one to the previous screen by one back. -/
def net (moves : List Move) : Int := moves.count .next - moves.count .previous

theorem net_nil : net [] = 0 := rfl

theorem net_cons (move : Move) (rest : List Move) : net (move :: rest) = move.step + net rest := by
  cases move <;> simp [net, Move.step] <;> omega

/-- With a screen to move to, a move goes on by its step and wraps around. -/
theorem Move.apply_eq (inhabited : 1 ≤ count) (move : Move) (position : Int) :
    move.apply count position = .ok ((position + move.step) % count) := by
  have positive : ¬count < 1 := by omega
  have wrapped (value : Int) : value.fmod count = value % count := Int.fmod_eq_emod_of_nonneg value (by omega)
  cases move <;> simp [Move.apply, positive, wrapped, Move.step, Int.sub_eq_add_neg]

theorem positions_cons (inhabited : 1 ≤ count) (start : Int) (move : Move) (rest : List Move) :
    positions count start (move :: rest) =
      ((start + move.step) % count :: ·) <$> positions count ((start + move.step) % count) rest := by
  rw [positions, Move.apply_eq inhabited]
  change positions count ((start + move.step) % count) rest >>= _ = _
  cases positions count ((start + move.step) % count) rest <;> rfl

/-- The position after each of several moves is where all moves up to there lead together. -/
theorem positions_eq (inhabited : 1 ≤ count) (start : Int) (moves : List Move) :
    positions count start moves = .ok (moves.inits.tail.map fun done => (start + net done) % count) := by
  induction moves generalizing start with
  | nil => rfl
  | cons move rest ih =>
      have onward : (fun done => ((start + move.step) % count + net done) % count) =
          fun done => (start + net (move :: done)) % count := by
        funext done
        rw [Int.emod_add_emod, net_cons, Int.add_assoc]
      have alone : (start + net [move]) % count = (start + move.step) % count := by
        rw [net_cons, net_nil, Int.add_zero]
      have starts : rest.inits = [] :: rest.inits.tail := by cases rest <;> rfl
      rw [positions_cons inhabited, ih, onward, List.inits_cons, List.tail_cons, starts, List.map_cons, List.map_cons,
        List.map_map, alone]
      rfl

/-- The last of several positions is where all moves lead together. -/
theorem getLast?_positions (inhabited : 1 ≤ count) (start : Int) {moves : List Move} (moved : moves ≠ []) :
    (positions count start moves).map List.getLast? = .ok (some ((start + net moves) % count)) := by
  have whole : moves.inits.tail.getLast? = some moves := by
    obtain ⟨before, last, rfl⟩ := (List.eq_nil_or_concat moves).resolve_left moved
    have starts : before.inits = [] :: before.inits.tail := by cases before <;> rfl
    rw [List.concat_eq_append, List.inits_append, starts]
    simp
  rw [positions_eq inhabited]
  change Except.ok (List.getLast? _) = _
  rw [List.getLast?_map, whole]
  rfl

/-- The positions that a script computes: for each move, what the script's text for it is worth when it is read. -/
def scriptPositions (index screens : String) (count position : Int) : List Move → Option (List Int)
  | [] => some []
  | move :: rest => do
      let expression ← Expression.read? index screens (move.expression.text index screens)
      let after := expression.value position count
      return after :: (← scriptPositions index screens count after rest)

/-- On a screen, the expression of a move has the value of the move, as it never divides a negative number. -/
theorem Move.value_expression {position : Int} (within : 0 ≤ position ∧ position < count) (move : Move) :
    move.expression.value position count = (position + move.step) % count := by
  cases move with
  | next =>
      change (position + 1).tmod count = (position + 1) % count
      exact Int.tmod_eq_emod_of_nonneg (by omega)
  | previous =>
      change (position - 1 + count).tmod count = (position + -1) % count
      rw [Int.tmod_eq_emod_of_nonneg (by omega), Int.add_emod_right, Int.sub_eq_add_neg]

/-- From a screen on, a script goes the same way. -/
theorem scriptPositions_eq {index screens : String} (indexNamed : Expression.isName index)
    (screensNamed : Expression.isName screens) (different : index ≠ screens) {position : Int}
    (within : 0 ≤ position ∧ position < count) (moves : List Move) :
    scriptPositions index screens count position moves = (positions count position moves).toOption := by
  have inhabited : 1 ≤ count := by omega
  induction moves generalizing position with
  | nil => rfl
  | cons move rest ih =>
      have reached : 0 ≤ (position + move.step) % count ∧ (position + move.step) % count < count :=
        ⟨Int.emod_nonneg _ (by omega), Int.emod_lt_of_pos _ (by omega)⟩
      have onward := ih reached
      rw [scriptPositions, Expression.read?_text indexNamed screensNamed different, positions_cons inhabited,
        Option.bind_eq_bind, Option.bind_some, Move.value_expression within]
      dsimp only
      rw [onward]
      cases positions count ((position + move.step) % count) rest <;> rfl

/-- The scripts of all formats use such names. -/
example : [("currentScreen", "screenCount"), ("index", "screenCount"),
    ("this.currentScreen", "this.screenCount")].all fun (index, screens) =>
      Expression.isName index && Expression.isName screens && index != screens := by decide

/--
Moves wrap around a number of screens: they end where they come to together, which is a screen. A move to the next
screen and one to the previous screen undo each other, and as many moves on as there are screens lead back. A script
that starts at the first screen goes the same way, under all names of its position and of the number of screens.
-/
structure WrapsAround (count : Int) : Prop where
  reached : ∀ start moves,
    positions count start moves = .ok (moves.inits.tail.map fun done => (start + net done) % count)
  last : ∀ start moves, moves ≠ [] → ((positions count start moves).map List.getLast?) =
    .ok (some ((start + net moves) % count))
  within : ∀ start moves, ∀ after ∈ (positions count start moves).toOption,
    ∀ position ∈ after, 0 ≤ position ∧ position < count
  undone : ∀ position, 0 ≤ position → position < count → ∀ move : Move,
    ((positions count position [move, move.opposite]).map List.getLast?) = .ok (some position)
  round : ∀ position, 0 ≤ position → position < count →
    ((positions count position (List.replicate count.toNat .next)).map List.getLast?) = .ok (some position)
  scripted : ∀ index screens, Expression.isName index → Expression.isName screens → index ≠ screens →
    ∀ moves, scriptPositions index screens count 0 moves = (positions count 0 moves).toOption

/-- Where there is a screen, moves wrap around. -/
theorem wrapsAround_iff (count : Int) : WrapsAround count ↔ 1 ≤ count := by
  refine ⟨fun wraps => ?_, fun inhabited => ?_⟩
  · by_contra none
    have nowhere : count < 1 := by omega
    have refused := wraps.reached 0 [.next]
    simp [positions, Move.apply, nowhere, bind, Except.bind] at refused
  have inside (position : Int) (lower : 0 ≤ position) (upper : position < count) {moves : List Move}
      (moved : moves ≠ []) (back : net moves % count = 0) :
      (positions count position moves).map List.getLast? = .ok (some position) := by
    rw [getLast?_positions inhabited position moved, Int.add_emod, back, Int.add_zero, Int.emod_emod,
      Int.emod_eq_of_lt lower upper]
  exact {
    reached := positions_eq inhabited
    last := fun start moves moved => getLast?_positions inhabited start moved
    within := by
      intro start moves after found position member
      rw [positions_eq inhabited] at found
      obtain rfl := Option.some.inj found
      obtain ⟨done, -, rfl⟩ := List.mem_map.mp member
      exact ⟨Int.emod_nonneg _ (by omega), Int.emod_lt_of_pos _ (by omega)⟩
    undone := by
      intro position lower upper move
      refine inside position lower upper (by simp) ?_
      cases move <;> rfl
    round := by
      intro position lower upper
      have moved : List.replicate count.toNat Move.next ≠ [] := by
        rw [Ne, List.replicate_eq_nil_iff]
        omega
      refine inside position lower upper moved ?_
      have steps : net (List.replicate count.toNat .next) = count := by
        simp [net, List.count_replicate]
        omega
      rw [steps, Int.emod_self]
    scripted := fun index screens indexNamed screensNamed different moves =>
      scriptPositions_eq indexNamed screensNamed different ⟨Int.le_refl 0, by omega⟩ moves }

end Storyboard.Navigation
