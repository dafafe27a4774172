import PoweredUp.Foundation.Checked

/-!
# Reading until a condition holds

`readUntil` is the loop that takes items from a source while a stop condition on
its state fails.  Its meaning is given by prefixes of the source: it succeeds
exactly when some prefix leads to a stopping state, and it then consumes the
shortest such prefix and nothing beyond it.
-/

namespace Rust

universe u

variable {β σ : Type u}

/-- `while !stop(state) { state = step(state, source.next()?) }`: whether the
condition was reached, the unread items and the final state. -/
def readUntil (stop : σ → Bool) (step : σ → β → Checked σ) :
    List β → σ → Checked (Bool × List β × σ)
  | [], state => .ret (stop state, [], state)
  | item :: source, state =>
      if stop state then
        .ret (true, item :: source, state)
      else do
        let state ← step state item
        readUntil stop step source state

variable {stop : σ → Bool} {step : σ → β → Checked σ}

/-- Reading `consumed` leads to a stopping state, and no proper prefix of it
does. -/
structure StopsFirst (stop : σ → Bool) (step : σ → β → Checked σ) (start : σ)
    (consumed : List β) (final : σ) : Prop where
  reads : consumed.foldlM step start = .ret final
  stops : stop final = true
  first : ∀ shorter, shorter <+: consumed → shorter ≠ consumed →
    ∀ state, shorter.foldlM step start = .ret state → stop state = false

theorem StopsFirst.nil {start : σ} (stops : stop start = true) :
    StopsFirst stop step start [] start where
  reads := rfl
  stops := stops
  first := fun _ isPrefix proper => absurd (List.prefix_nil.mp isPrefix) proper

theorem StopsFirst.cons {start middle final : σ} {item : β} {consumed : List β}
    (goesOn : stop start = false) (moves : step start item = .ret middle)
    (rest : StopsFirst stop step middle consumed final) :
    StopsFirst stop step start (item :: consumed) final where
  reads := by simp [List.foldlM_cons, moves, rest.reads]
  stops := rest.stops
  first := by
    intro shorter isPrefix proper state reads
    cases shorter with
    | nil =>
        cases reads
        exact goesOn
    | cons first shorter =>
        obtain ⟨rfl, tailPrefix⟩ := List.cons_prefix_cons.mp isPrefix
        simp only [List.foldlM_cons, moves, Checked.ret_bind] at reads
        exact rest.first shorter tailPrefix (fun equal => proper (equal ▸ rfl)) state reads

/-- Success consumes the shortest prefix that reaches the condition. -/
theorem stopsFirst_of_readUntil {source rest : List β} {start final : σ}
    (outcome : readUntil stop step source start = .ret (true, rest, final)) :
    ∃ consumed, source = consumed ++ rest ∧ StopsFirst stop step start consumed final := by
  induction source generalizing start with
  | nil =>
      simp only [readUntil, Checked.ret.injEq, Prod.mk.injEq] at outcome
      obtain ⟨stops, rfl, rfl⟩ := outcome
      exact ⟨[], rfl, .nil stops⟩
  | cons item source ih =>
      cases stopped : stop start with
      | true =>
          simp only [readUntil, stopped, if_true, Checked.ret.injEq, Prod.mk.injEq] at outcome
          obtain ⟨-, rfl, rfl⟩ := outcome
          exact ⟨[], rfl, .nil stopped⟩
      | false =>
          simp only [readUntil, stopped, Bool.false_eq_true, if_false] at outcome
          obtain ⟨middle, moves, remaining⟩ := Checked.bind_eq_ret.mp outcome
          obtain ⟨consumed, rfl, stops⟩ := ih remaining
          exact ⟨item :: consumed, rfl, stops.cons stopped moves⟩

/-- Failure means that the source ran out before the condition was reached. -/
theorem readUntil_false {source rest : List β} {start final : σ}
    (outcome : readUntil stop step source start = .ret (false, rest, final)) :
    ∀ consumed, consumed <+: source →
      ∀ state, consumed.foldlM step start = .ret state → stop state = false := by
  induction source generalizing start with
  | nil =>
      simp only [readUntil, Checked.ret.injEq, Prod.mk.injEq] at outcome
      intro consumed isPrefix state reads
      cases List.prefix_nil.mp isPrefix
      cases reads
      exact outcome.1
  | cons item source ih =>
      cases stopped : stop start with
      | true => simp [readUntil, stopped] at outcome
      | false =>
          simp only [readUntil, stopped, Bool.false_eq_true, if_false] at outcome
          obtain ⟨middle, moves, remaining⟩ := Checked.bind_eq_ret.mp outcome
          intro consumed isPrefix state reads
          cases consumed with
          | nil =>
              cases reads
              exact stopped
          | cons first consumed =>
              obtain ⟨rfl, tailPrefix⟩ := List.cons_prefix_cons.mp isPrefix
              simp only [List.foldlM_cons, moves, Checked.ret_bind] at reads
              exact ih remaining consumed tailPrefix state reads

/-- The loop does not panic when reading the whole source does not. -/
theorem readUntil_returns {source : List β} {start : σ}
    (reads : (source.foldlM step start).Returns) :
    (readUntil stop step source start).Returns := by
  induction source generalizing start with
  | nil => simp [readUntil]
  | cons item source ih =>
      rw [List.foldlM_cons] at reads
      obtain ⟨middle, moves, remaining⟩ := Checked.returns_bind.mp reads
      simp only [readUntil, moves, Checked.ret_bind]
      split
      · simp
      · exact ih remaining

end Rust
