import PoweredUp.Ble.Delivery

/-!
# The calls of the mock transport

When the mock transport accepts a call and what it records, in terms of the calls
before it.
-/

namespace PoweredUp

open Transition

namespace MockSystem

/-- A connection was opened and not closed since. -/
def LinkedAfter (past : List Event) : Prop :=
  ∃ front back, past = front ++ (.connect, .result (.ok ())) :: back ∧
    ∀ event ∈ back, event.1 ≠ .disconnect

/-- The value that a call writes. -/
def Event.accepted : Event → List (Uuid × Bytes)
  | (.write characteristic data, .result (.ok ())) => [(characteristic, data)]
  | _ => []

theorem not_linkedAfter_nil : ¬LinkedAfter [] := by
  rintro ⟨front, back, equality, _⟩
  cases front <;> cases equality

/-- Only an accepted `connect` and a `disconnect` matter to the connection. -/
theorem linkedAfter_append (past : List Event) (event : Event) :
    LinkedAfter (past ++ [event]) ↔
      event = (.connect, .result (.ok ())) ∨ (LinkedAfter past ∧ event.1 ≠ .disconnect) := by
  constructor
  · rintro ⟨front, back, equality, quiet⟩
    cases back using List.reverseRecOn with
    | nil =>
        obtain ⟨_, last⟩ := List.append_inj' equality rfl
        exact .inl (List.singleton_inj.mp last)
    | append_singleton back last _ =>
        rw [← List.cons_append, ← List.append_assoc] at equality
        obtain ⟨rfl, same⟩ := List.append_inj' equality rfl
        cases same
        refine .inr ⟨⟨front, back, rfl, fun event member => ?_⟩, quiet _ (by simp)⟩
        exact quiet event (List.mem_append_left _ member)
  · rintro (rfl | ⟨⟨front, back, rfl, quiet⟩, keeps⟩)
    · exact ⟨past, [], rfl, fun _ => nofun⟩
    · refine ⟨front, back ++ [event], by simp, fun other member => ?_⟩
      rcases List.mem_append.mp member with old | new
      · exact quiet other old
      · cases List.mem_singleton.mp new
        exact keeps

/-- What the calls so far mean for the state. -/
theorem run_link {past : List Event} {self : MockSystem} (ran : Run Acts {} past self) :
    (self.inner.connected = true ↔ LinkedAfter past) ∧
      self.inner.written = past.flatMap Event.accepted := by
  induction ran with
  | stop => exact ⟨iff_of_false Bool.false_ne_true not_linkedAfter_nil, rfl⟩
  | @move past state next event _ acts ih =>
      obtain ⟨linked, written⟩ := ih
      rw [linkedAfter_append, ← linked, List.flatMap_append, List.flatMap_singleton, ← written]
      cases acts.does with
      | connect =>
          rw [connect]
          split
          · rename_i connected
            exact ⟨by simp [connected], (List.append_nil _).symm⟩
          · exact ⟨by simp, (List.append_nil _).symm⟩
      | disconnect => exact ⟨by simp [disconnect], (List.append_nil _).symm⟩
      | write uuid data =>
          rw [write]
          split
          · exact ⟨by simp, rfl⟩
          · exact ⟨by simp, (List.append_nil _).symm⟩
      | subscribe uuid =>
          rw [subscribe]
          split <;> exact ⟨by simp, (List.append_nil _).symm⟩
      | _ => exact ⟨by simp [pushInbound, flushInbound, dropReceiver], (List.append_nil _).symm⟩

/-- The answers that are right with and without a connection. -/
def Answers (linked : Prop) : MockCall → MockAnswer → Prop
  | .connect, answer =>
      (linked → answer = .result (.error (.ble "already connected"))) ∧
        (¬linked → answer = .result (.ok ()))
  | .disconnect, answer => answer = .result (.ok ())
  | .write _ _, answer =>
      (linked → answer = .result (.ok ())) ∧
        (¬linked → answer = .result (.error (.ble "not connected")))
  | .subscribe _, answer =>
      (linked → ∃ number, answer = .receiver (.ok number)) ∧
        (¬linked → answer = .receiver (.error (.ble "not connected")))
  | _, _ => True

theorem does_answers {self next : MockSystem} {event : Event} (does : self.Does event next) :
    Answers (self.inner.connected = true) event.1 event.2 := by
  cases does with
  | connect =>
      rw [connect]
      split <;> simp [Answers, *]
  | disconnect => rfl
  | write uuid data =>
      rw [write]
      split <;> simp [Answers, *]
  | subscribe uuid =>
      rw [subscribe]
      split <;> simp [Answers, *]
  | _ => trivial

/-- In every run, the calls are answered by whether a connection was opened and not
closed since, and the transport records the accepted writes, all of them in order. -/
theorem calls_answered {events : List Event} {final : MockSystem}
    (ran : Run Acts {} events final) :
    (∀ past call answer rest, events = past ++ (call, answer) :: rest →
      Answers (LinkedAfter past) call answer) ∧
    final.written = events.flatMap Event.accepted ∧
    ∀ characteristic, final.writtenTo characteristic =
      valuesOf characteristic (events.flatMap Event.accepted) := by
  have written := (run_link ran).2
  refine ⟨?_, written, fun characteristic => by rw [writtenTo, written, valuesOf]⟩
  rintro past call answer rest rfl
  rw [List.append_cons] at ran
  obtain ⟨_, first, _⟩ := ran.split
  obtain ⟨state, first, acts⟩ := first.last
  have answers := does_answers acts.does
  rwa [(run_link first).1] at answers

/-- A write without a connection is refused, and one after a connect is recorded. -/
theorem calls_answered_write :
    ∃ final, Run Acts {} [(.write lpf2All [1], .result (.error (.ble "not connected"))),
      (.connect, .result (.ok ())), (.write lpf2All [2], .result (.ok ()))] final ∧
      final.written = [(lpf2All, [2])] ∧ final.writtenTo lpf2All = [[2]] := by
  have ran : Run Acts {} [(.write lpf2All [1], .result (.error (.ble "not connected"))),
      (.connect, .result (.ok ())), (.write lpf2All [2], .result (.ok ()))]
      { opened with inner.written := [(lpf2All, [2])] } :=
    .head rfl (.head rfl (.head rfl .stop))
  obtain ⟨_, written, byCharacteristic⟩ := calls_answered ran
  exact ⟨_, ran, written, byCharacteristic lpf2All⟩

end MockSystem

end PoweredUp
