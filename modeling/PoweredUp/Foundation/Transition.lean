import Mathlib.Data.List.Forall2
import Mathlib.Data.List.Induction
import Mathlib.Tactic.Common

/-!
# Labelled transitions

A system that moves from state to state under labels, its runs, and the rules that
carry an invariant or a simulation along a run.
-/

namespace Transition

universe u v w x

variable {σ : Type u} {ℓ : Type v}

/-- A run with its labels in order. -/
inductive Run (step : σ → ℓ → σ → Prop) (start : σ) : List ℓ → σ → Prop where
  | stop : Run step start [] start
  | move {labels : List ℓ} {state next : σ} {label : ℓ} (ran : Run step start labels state)
      (moved : step state label next) : Run step start (labels ++ [label]) next

namespace Run

variable {step : σ → ℓ → σ → Prop} {start final : σ} {labels : List ℓ}

/-- What holds at the start and is kept by every step holds at the end. -/
theorem invariant {holds : σ → Prop} (ran : Run step start labels final)
    (initially : holds start)
    (keeps : ∀ state label next, label ∈ labels → holds state → step state label next →
      holds next) : holds final := by
  induction ran with
  | stop => exact initially
  | move _ moved ih =>
      refine keeps _ _ _ (by simp) (ih fun state label next member => ?_) moved
      exact keeps state label next (List.mem_append_left _ member)

/-- One step first. -/
theorem head {next : σ} {label : ℓ} (moved : step start label next)
    (ran : Run step next labels final) : Run step start (label :: labels) final := by
  induction ran with
  | stop => exact .move .stop moved
  | move _ later ih => exact .move ih later

theorem trans {middle : σ} {more : List ℓ} (first : Run step start labels middle)
    (second : Run step middle more final) : Run step start (labels ++ more) final := by
  induction second with
  | stop =>
      rw [List.append_nil]
      exact first
  | move _ moved ih =>
      rw [← List.append_assoc]
      exact .move ih moved

/-- A run under weaker conditions. -/
theorem mono {step' : σ → ℓ → σ → Prop} (ran : Run step start labels final)
    (weaker : ∀ state label next, step state label next → step' state label next) :
    Run step' start labels final := by
  induction ran with
  | stop => exact .stop
  | move _ moved ih => exact .move ih (weaker _ _ _ moved)

/-- The last step of a run. -/
theorem last {label : ℓ} (ran : Run step start (labels ++ [label]) final) :
    ∃ state, Run step start labels state ∧ step state label final := by
  obtain ⟨all, equality⟩ : ∃ all, all = labels ++ [label] := ⟨_, rfl⟩
  rw [← equality] at ran
  cases ran with
  | stop => simp at equality
  | move ran moved =>
      obtain ⟨rfl, same⟩ := List.append_inj' equality rfl
      cases same
      exact ⟨_, ran, moved⟩

/-- A run can be cut in two. -/
theorem split {more : List ℓ} (ran : Run step start (labels ++ more) final) :
    ∃ middle, Run step start labels middle ∧ Run step middle more final := by
  induction more using List.reverseRecOn generalizing final with
  | nil => exact ⟨final, by rwa [List.append_nil] at ran, .stop⟩
  | append_singleton more label ih =>
      rw [← List.append_assoc] at ran
      obtain ⟨state, ran, moved⟩ := ran.last
      obtain ⟨middle, first, second⟩ := ih ran
      exact ⟨middle, first, .move second moved⟩

/-- An empty run goes nowhere. -/
theorem eq_of_nil (ran : Run step start [] final) : final = start := by
  obtain ⟨labels, equality⟩ : ∃ labels : List ℓ, labels = [] := ⟨_, rfl⟩
  rw [← equality] at ran
  cases ran with
  | stop => rfl
  | move _ _ => simp at equality

/-- The first step of a run. -/
theorem first {label : ℓ} (ran : Run step start (label :: labels) final) :
    ∃ state, step start label state ∧ Run step state labels final := by
  rw [← List.singleton_append] at ran
  obtain ⟨state, front, later⟩ := ran.split
  rw [← List.nil_append [label]] at front
  obtain ⟨_, stopped, moved⟩ := front.last
  rw [stopped.eq_of_nil] at moved
  exact ⟨state, moved, later⟩

/-- A run seen through a view of the states.  Every step is seen as a step of the
other system whose label is related to its own; the invariant is what makes it one. -/
theorem simulate {τ : Type w} {m : Type x} {step' : τ → m → τ → Prop} {holds : σ → Prop}
    {see : σ → τ} (related : ℓ → m → Prop) (ran : Run step start labels final)
    (initially : holds start)
    (sees : ∀ state label next, label ∈ labels → holds state → step state label next →
      holds next ∧ ∃ seen, related label seen ∧ step' (see state) seen (see next)) :
    holds final ∧ ∃ seen, List.Forall₂ related labels seen ∧
      Run step' (see start) seen (see final) := by
  induction ran with
  | stop => exact ⟨initially, [], .nil, .stop⟩
  | @move labels state next label _ moved ih =>
      obtain ⟨held, seen, matches', ran'⟩ := ih fun state label next member =>
        sees state label next (List.mem_append_left _ member)
      obtain ⟨holdsNext, last, relatedLast, stepped⟩ := sees state label next (by simp) held moved
      exact ⟨holdsNext, seen ++ [last], List.rel_append matches' (.cons relatedLast .nil),
        .move ran' stepped⟩

end Run

end Transition
