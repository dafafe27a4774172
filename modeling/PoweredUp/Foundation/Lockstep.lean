import PoweredUp.Foundation.Checked

/-!
# Machines in lock step

A machine answers every input with an output and a new state, and may panic.  Two
machines that are given the same inputs are compared by a relation on their states
and a requirement on the two outputs for each input; both may depend on the inputs
before it.
-/

namespace Lockstep

open Rust

universe u v

variable {σ τ ο π : Type u} {ι : Type v}

/-- A run: the outputs in order and the final state. -/
def run (step : σ → ι → Checked (ο × σ)) (self : σ) : List ι → Checked (List ο × σ)
  | [] => return ([], self)
  | input :: inputs => do
      let (output, self) ← step self input
      let (outputs, self) ← run step self inputs
      return (output :: outputs, self)

theorem run_nil (step : σ → ι → Checked (ο × σ)) (self : σ) :
    run step self [] = .ret ([], self) := rfl

theorem run_cons {step : σ → ι → Checked (ο × σ)} {self self' final : σ} {input : ι}
    {inputs : List ι} {output : ο} {outputs : List ο}
    (first : step self input = .ret (output, self'))
    (rest : run step self' inputs = .ret (outputs, final)) :
    run step self (input :: inputs) = .ret (output :: outputs, final) := by
  simp only [run, first, Checked.ret_bind, rest, Checked.pure_eq_ret]

/-- Two runs have an output for every input, and the requirement holds at every
input after those before it. -/
structure Agree (requirement : List ι → ι → ο → π → Prop) (past inputs : List ι)
    (left : List ο) (right : List π) : Prop where
  length_left : left.length = inputs.length
  length_right : right.length = inputs.length
  at_input : ∀ i input output output', inputs[i]? = some input → left[i]? = some output →
    right[i]? = some output' → requirement (past ++ inputs.take i) input output output'

namespace Agree

variable {requirement : List ι → ι → ο → π → Prop} {past inputs : List ι}
variable {left : List ο} {right : List π}

theorem nil (past : List ι) : Agree requirement past [] [] [] where
  length_left := rfl
  length_right := rfl
  at_input _ _ _ _ found := by cases found

theorem cons {input : ι} {output : ο} {output' : π}
    (first : requirement past input output output')
    (rest : Agree requirement (past ++ [input]) inputs left right) :
    Agree requirement past (input :: inputs) (output :: left) (output' :: right) where
  length_left := congrArg Nat.succ rest.length_left
  length_right := congrArg Nat.succ rest.length_right
  at_input i later answer answer' found answered answered' := by
    cases i with
    | zero =>
        cases found
        cases answered
        cases answered'
        rw [List.take_zero, List.append_nil]
        exact first
    | succ i =>
        have agreed := rest.at_input i later answer answer' found answered answered'
        rw [List.append_assoc] at agreed
        exact agreed

end Agree

/-- Related machines answer an input as required and stay related. -/
def Simulates (step : σ → ι → Checked (ο × σ)) (step' : τ → ι → Checked (π × τ))
    (related : List ι → σ → τ → Prop) (requirement : List ι → ι → ο → π → Prop) : Prop :=
  ∀ past self other input, related past self other →
    ∃ output next output' next', step self input = .ret (output, next) ∧
      step' other input = .ret (output', next') ∧ requirement past input output output' ∧
      related (past ++ [input]) next next'

/-- Related machines run to the end, agree at every input and stay related. -/
theorem Simulates.run {step : σ → ι → Checked (ο × σ)} {step' : τ → ι → Checked (π × τ)}
    {related : List ι → σ → τ → Prop} {requirement : List ι → ι → ο → π → Prop}
    (simulates : Simulates step step' related requirement) (inputs : List ι) {past : List ι}
    {self : σ} {other : τ} (start : related past self other) :
    ∃ outputs final outputs' final', Lockstep.run step self inputs = .ret (outputs, final) ∧
      Lockstep.run step' other inputs = .ret (outputs', final') ∧
      Agree requirement past inputs outputs outputs' ∧ related (past ++ inputs) final final' := by
  induction inputs generalizing past self other with
  | nil =>
      refine ⟨[], self, [], other, run_nil step self, run_nil step' other, .nil past, ?_⟩
      rw [List.append_nil]
      exact start
  | cons input inputs ih =>
      obtain ⟨output, next, output', next', stepped, stepped', required, stays⟩ :=
        simulates past self other input start
      obtain ⟨outputs, final, outputs', final', ran, ran', agree, ends⟩ := ih stays
      rw [List.append_assoc] at ends
      exact ⟨output :: outputs, final, output' :: outputs', final', run_cons stepped ran,
        run_cons stepped' ran', .cons required agree, ends⟩

end Lockstep
