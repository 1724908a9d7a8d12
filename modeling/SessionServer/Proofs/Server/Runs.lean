import SessionServer.Server.Operation

/-!
Runs of a server: what a run in two parts does, and when operations read the clock.
-/

namespace SessionServer.Server

/-- The time at which an operation reads the clock. -/
def Operation.reading? : Operation → Option Nat
  | .isRevoked _ now | .purge now | .cleanUp now | .validate _ now | .validateToken _ now
  | .logout _ now | .recheck _ now | .issue _ now _ _ => some now
  | .request moment _ => moment.clock
  | _ => none

/-- A bound on the readings of a run is one on the first reading and on the readings of the rest. -/
theorem readings_le_cons {α : Type} {reading? : α → Option Nat} {first : α} {rest : List α}
    {later : Nat} :
    (∀ reading ∈ (first :: rest).filterMap reading?, reading ≤ later) ↔
      (∀ reading, reading? first = some reading → reading ≤ later) ∧
        ∀ reading ∈ rest.filterMap reading?, reading ≤ later := by
  rw [List.filterMap_cons]
  cases reads : reading? first with
  | none => simp
  | some time => simp

/-- While the clock does not go back, there is a time between the first reading and those of the rest. -/
theorem exists_next {α : Type} {reading? : α → Option Nat} {first : α} {rest : List α} {last : Nat}
    (order : ∀ now ∈ (first :: rest).filterMap reading?, last ≤ now)
    (ordered : ((first :: rest).filterMap reading?).Pairwise (· ≤ ·)) :
    ∃ next, last ≤ next ∧ (∀ now, reading? first = some now → last ≤ now ∧ now ≤ next) ∧
      (∀ now ∈ rest.filterMap reading?, next ≤ now) ∧
      (rest.filterMap reading?).Pairwise (· ≤ ·) := by
  rw [List.filterMap_cons] at order ordered
  cases reads : reading? first with
  | none =>
    rw [reads] at order ordered
    exact ⟨last, Nat.le_refl last, nofun, order, ordered⟩
  | some time =>
    rw [reads] at order ordered
    obtain ⟨earliest, later⟩ := List.pairwise_cons.mp ordered
    have after : last ≤ time := order time List.mem_cons_self
    refine ⟨time, after, ?_, earliest, later⟩
    rintro now ⟨⟩
    exact ⟨after, Nat.le_refl time⟩

/-- An outcome that no error has comes from a result without an error. -/
theorem Operation.of_outcome {ε α : Type} {fail : ε → Outcome} {succeed : α → Outcome}
    {result : Except ε α} {observed : Outcome} (given : outcome fail succeed result = observed)
    (sound : ∀ error, fail error ≠ observed) :
    ∃ value, result = .ok value ∧ succeed value = observed := by
  cases result with
  | ok value => exact ⟨value, rfl, given⟩
  | error error => exact absurd given (sound error)

namespace State

theorem step_request_fst (state : State) (moment : Endpoint.Moment) (asked : Http.Request) :
    (state.step (.request moment asked)).1 =
      { state with site := (Endpoint.handle state.site moment asked).1 } := rfl

theorem step_request (state : State) (moment : Endpoint.Moment) (asked : Http.Request) :
    (state.step (.request moment asked)).2 = .response (Endpoint.handle state.site moment asked).2 := rfl

theorem run_cons (state : State) (operation : Operation) (rest : List Operation) :
    state.run (operation :: rest) =
      (((state.step operation).1.run rest).1,
        (state.step operation).2 :: ((state.step operation).1.run rest).2) := rfl

theorem run_append (state : State) (first rest : List Operation) :
    state.run (first ++ rest) =
      (((state.run first).1.run rest).1, (state.run first).2 ++ ((state.run first).1.run rest).2) := by
  induction first generalizing state with
  | nil => rfl
  | cons operation others ih => simp only [List.cons_append, run_cons, ih]

@[simp] theorem run_length (state : State) (operations : List Operation) :
    (state.run operations).2.length = operations.length := by
  induction operations generalizing state with
  | nil => rfl
  | cons operation rest ih => simp only [run_cons, List.length_cons, ih]

/-- The outcome of an operation in a run is that of its step after the operations before it. -/
theorem run_getElem? (state : State) (before : List Operation) (operation : Operation)
    (after : List Operation) :
    (state.run (before ++ operation :: after)).2[before.length]? =
      some (((state.run before).1.step operation).2) := by
  rw [run_append, run_cons, List.getElem?_append_right (Nat.le_of_eq (run_length state before)),
    run_length, Nat.sub_self, List.getElem?_cons_zero]

end State

end SessionServer.Server
