import Mathlib.Data.List.Basic
import Mathlib.Data.List.Perm.Subperm
import Mathlib.Tactic.Common
import PoweredUp.Foundation.Transition

/-!
# Conveyors

Items are put down, loaded in batches, moved one by one to a queue and taken from
its front.  Several batches may be under way at the same time, each in a lane of its
own.  No item is duplicated or made up, none is lost unless it is thrown away, and
with one batch at a time the items also stay in order.
-/

namespace Conveyor

open Transition

universe u

/-- Items that are put down, under way in lanes, and queued. -/
structure Belt (α : Type u) where
  inbound : List α
  lanes : List (List α)
  queue : List α

/-- What happens to a belt. -/
inductive Move (α : Type u) where
  | idle
  | push (item : α)
  | load
  | transfer
  | discard
  | unload
  | take (item : α)
  | clear

variable {α : Type u}

/-- One move. -/
inductive Step : Belt α → Move α → Belt α → Prop where
  | idle (belt : Belt α) : Step belt .idle belt
  | push {inbound : List α} {lanes : List (List α)} {queue : List α} (item : α) :
      Step ⟨inbound, lanes, queue⟩ (.push item) ⟨inbound ++ [item], lanes, queue⟩
  | load {inbound : List α} {lanes : List (List α)} {queue : List α} :
      Step ⟨inbound, lanes, queue⟩ .load ⟨[], lanes ++ [inbound], queue⟩
  | transfer {inbound lane : List α} {front back : List (List α)} {queue : List α} {item : α} :
      Step ⟨inbound, front ++ (item :: lane) :: back, queue⟩ .transfer
        ⟨inbound, front ++ lane :: back, queue ++ [item]⟩
  | discard {inbound lane : List α} {front back : List (List α)} {queue : List α} {item : α} :
      Step ⟨inbound, front ++ (item :: lane) :: back, queue⟩ .discard
        ⟨inbound, front ++ lane :: back, queue⟩
  | unload {inbound : List α} {front back : List (List α)} {queue : List α} :
      Step ⟨inbound, front ++ [] :: back, queue⟩ .unload ⟨inbound, front ++ back, queue⟩
  | take {inbound : List α} {lanes : List (List α)} {queue : List α} {item : α} :
      Step ⟨inbound, lanes, item :: queue⟩ (.take item) ⟨inbound, lanes, queue⟩
  | clear {inbound : List α} {lanes : List (List α)} {queue : List α} :
      Step ⟨inbound, lanes, queue⟩ .clear ⟨inbound, lanes, []⟩

namespace Move

/-- The item a move puts down. -/
def pushed : Move α → List α
  | .push item => [item]
  | _ => []

/-- The item a move takes away. -/
def taken : Move α → List α
  | .take item => [item]
  | _ => []

/-- Moves that throw nothing away. -/
def Keeps : Move α → Prop
  | .discard | .clear => False
  | _ => True

end Move

namespace Belt

/-- All items, those to be taken first in front. -/
def contents (belt : Belt α) : List α :=
  belt.queue ++ (belt.lanes.flatten ++ belt.inbound)

end Belt

/-! ## Any number of lanes -/

theorem Step.taken_perm {belt next : Belt α} {move : Move α} (moved : Step belt move next)
    (keeps : move.Keeps) : (move.taken ++ next.contents).Perm (belt.contents ++ move.pushed) := by
  classical
  rw [List.perm_iff_count]
  intro item
  cases moved with
  | discard => exact keeps.elim
  | clear => exact keeps.elim
  | _ =>
      simp only [Move.taken, Move.pushed, Belt.contents, List.flatten_append, List.flatten_cons,
        List.flatten_nil, List.count_append, List.count_cons, List.count_nil]
      omega

/-- Every item put down is taken or still there. -/
theorem run_perm {belt final : Belt α} {moves : List (Move α)} (ran : Run Step belt moves final)
    (keeps : ∀ move ∈ moves, move.Keeps) :
    (moves.flatMap Move.taken ++ final.contents).Perm
      (belt.contents ++ moves.flatMap Move.pushed) := by
  induction ran with
  | stop => simp
  | @move moves belt' next move _ moved ih =>
      have step := moved.taken_perm (keeps move (by simp))
      have front := ih fun move member => keeps move (List.mem_append_left _ member)
      rw [List.flatMap_append, List.flatMap_append, List.flatMap_singleton, List.flatMap_singleton,
        List.append_assoc, ← List.append_assoc belt.contents]
      refine (step.append_left _).trans ?_
      rw [← List.append_assoc]
      exact front.append_right _

/-! ## One lane at a time -/

/-- A move that loads nothing as long as a batch is under way. -/
def SerialStep (belt : Belt α) (move : Move α) (next : Belt α) : Prop :=
  Step belt move next ∧ (move = .load → belt.lanes = [])

theorem SerialStep.lanes_le {belt next : Belt α} {move : Move α}
    (moved : SerialStep belt move next) (single : belt.lanes.length ≤ 1) :
    next.lanes.length ≤ 1 := by
  obtain ⟨stepped, serial⟩ := moved
  cases stepped with
  | load =>
      obtain rfl := serial rfl
      exact Nat.le_refl 1
  | transfer =>
      rw [List.length_append, List.length_cons] at single ⊢
      exact single
  | discard =>
      rw [List.length_append, List.length_cons] at single ⊢
      exact single
  | unload =>
      rw [List.length_append, List.length_cons] at single
      rw [List.length_append]
      omega
  | _ => exact single

/-- The only lane of a belt has no neighbours. -/
private theorem only_lane {front back : List (List α)} {lane : List α}
    (single : (front ++ lane :: back).length ≤ 1) : front = [] ∧ back = [] := by
  rw [List.length_append, List.length_cons] at single
  exact ⟨List.length_eq_zero_iff.mp (by omega), List.length_eq_zero_iff.mp (by omega)⟩

theorem SerialStep.taken_eq {belt next : Belt α} {move : Move α}
    (moved : SerialStep belt move next) (single : belt.lanes.length ≤ 1) (keeps : move.Keeps) :
    move.taken ++ next.contents = belt.contents ++ move.pushed := by
  obtain ⟨stepped, serial⟩ := moved
  cases stepped with
  | load =>
      obtain rfl := serial rfl
      simp [Move.taken, Move.pushed, Belt.contents]
  | transfer =>
      obtain ⟨rfl, rfl⟩ := only_lane single
      simp [Move.taken, Move.pushed, Belt.contents]
  | discard => exact keeps.elim
  | clear => exact keeps.elim
  | _ => simp [Move.taken, Move.pushed, Belt.contents]

theorem run_lanes_le {belt final : Belt α} {moves : List (Move α)}
    (ran : Run SerialStep belt moves final) (single : belt.lanes.length ≤ 1) :
    final.lanes.length ≤ 1 :=
  ran.invariant single fun _ _ _ _ held moved => moved.lanes_le held

/-- Everything put down is taken in order, or still there in order. -/
theorem run_eq {belt final : Belt α} {moves : List (Move α)}
    (ran : Run SerialStep belt moves final) (single : belt.lanes.length ≤ 1)
    (keeps : ∀ move ∈ moves, move.Keeps) :
    moves.flatMap Move.taken ++ final.contents = belt.contents ++ moves.flatMap Move.pushed := by
  induction ran with
  | stop => simp
  | @move moves belt' next move ran moved ih =>
      have step := moved.taken_eq (run_lanes_le ran single) (keeps move (by simp))
      have front := ih fun move member => keeps move (List.mem_append_left _ member)
      rw [List.flatMap_append, List.flatMap_append, List.flatMap_singleton, List.flatMap_singleton,
        List.append_assoc, step, ← List.append_assoc, front, List.append_assoc]

end Conveyor
