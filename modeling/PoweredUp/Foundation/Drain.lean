import PoweredUp.Foundation.Checked

/-!
# Calling until `None`

A stateful operation `next : σ → Checked (Option α × σ)` is called repeatedly
until it answers `None`: this is how `std::iter::from_fn(next).collect()` and a
caller's polling loop both consume it.  `Drains` is the loop itself, a finite run
of calls; `drain` is its executable form, bounded by a number of calls.  `Calls`
is a run that may be left at any point.
-/

namespace Rust

universe u v

variable {α σ : Type u}

/-- A finite run of calls that ends at the first `None`. -/
inductive Drains (next : σ → Checked (Option α × σ)) : σ → List α → σ → Prop where
  | done {start stop : σ} :
      next start = .ret (none, stop) → Drains next start [] stop
  | more {start middle stop : σ} {item : α} {items : List α} :
      next start = .ret (some item, middle) → Drains next middle items stop →
        Drains next start (item :: items) stop

namespace Drains

variable {next : σ → Checked (Option α × σ)}

/-- The loop is deterministic: what it collects and where it stops are
functions of the state it starts from. -/
theorem unique {start stop stop' : σ} {items items' : List α}
    (left : Drains next start items stop) (right : Drains next start items' stop') :
    items = items' ∧ stop = stop' := by
  induction left generalizing items' with
  | done leftCall =>
      cases right with
      | done rightCall =>
          rw [leftCall] at rightCall
          cases rightCall
          exact ⟨rfl, rfl⟩
      | more rightCall _ =>
          rw [leftCall] at rightCall
          cases rightCall
  | more leftCall _ ih =>
      cases right with
      | done rightCall =>
          rw [leftCall] at rightCall
          cases rightCall
      | more rightCall rightRest =>
          rw [leftCall] at rightCall
          cases rightCall
          obtain ⟨itemsEqual, stopEqual⟩ := ih rightRest
          exact ⟨congrArg _ itemsEqual, stopEqual⟩

/-- Only the first call of a run depends on the state it starts from. -/
theorem of_first_eq {start start' stop : σ} {items : List α}
    (same : next start = next start') (run : Drains next start' items stop) :
    Drains next start items stop := by
  cases run with
  | done call => exact .done (same.trans call)
  | more call rest => exact .more (same.trans call) rest

/-- Every run makes a first call. -/
theorem returns {start stop : σ} {items : List α} (run : Drains next start items stop) :
    (next start).Returns := by
  cases run with
  | done call => exact ⟨_, call⟩
  | more call _ => exact ⟨_, call⟩

end Drains

/-- Any number of calls, with the items they delivered. -/
inductive Calls (next : σ → Checked (Option α × σ)) : σ → List α → σ → Prop where
  | stop (state : σ) : Calls next state [] state
  | call {start middle stop : σ} {answer : Option α} {items : List α} :
      next start = .ret (answer, middle) → Calls next middle items stop →
        Calls next start (answer.toList ++ items) stop

/-- A run until `None` passes every prefix of what it delivers. -/
theorem Drains.calls {next : σ → Checked (Option α × σ)} {start stop : σ} {items front : List α}
    (run : Drains next start items stop) (isPrefix : front <+: items) :
    ∃ middle, Calls next start front middle := by
  induction run generalizing front with
  | done =>
      obtain rfl := List.prefix_nil.mp isPrefix
      exact ⟨_, .stop _⟩
  | more called _ ih =>
      cases front with
      | nil => exact ⟨_, .stop _⟩
      | cons first rest =>
          obtain ⟨rfl, restPrefix⟩ := List.cons_prefix_cons.mp isPrefix
          obtain ⟨middle, calls⟩ := ih restPrefix
          exact ⟨middle, .call called calls⟩

/-- At most `fuel` calls of `next`. -/
def drain (next : σ → Checked (Option α × σ)) : Nat → σ → Checked (List α × σ)
  | 0, state => .ret ([], state)
  | fuel + 1, state => do
      match ← next state with
      | (none, state) => return ([], state)
      | (some item, state) =>
          let (items, state) ← drain next fuel state
          return (item :: items, state)

/-- When every item delivered makes a measure of the state smaller, more calls
than the measure are enough, and the bounded loop is the unbounded one. -/
theorem drains_of_drain {next : σ → Checked (Option α × σ)} (measure : σ → Nat)
    (decreases : ∀ {state state' : σ} {item : α},
      next state = .ret (some item, state') → measure state' < measure state)
    {fuel : Nat} {start stop : σ} {items : List α} (enough : measure start < fuel)
    (collected : drain next fuel start = .ret (items, stop)) :
    Drains next start items stop := by
  induction fuel generalizing start items with
  | zero => omega
  | succ fuel ih =>
      simp only [drain] at collected
      cases call : next start with
      | panic reason => simp [call] at collected
      | ret answer =>
          obtain ⟨answered, middle⟩ := answer
          cases answered with
          | none =>
              simp only [call, Checked.ret_bind, Checked.pure_eq_ret] at collected
              cases collected
              exact .done call
          | some item =>
              simp only [call, Checked.ret_bind] at collected
              obtain ⟨⟨rest, last⟩, remaining, equality⟩ := Checked.bind_eq_ret.mp collected
              cases equality
              have smaller := decreases call
              exact .more call (ih (by omega) remaining)

end Rust
