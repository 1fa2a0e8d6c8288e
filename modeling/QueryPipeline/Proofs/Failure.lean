/-!
# Results that can fail

Whether a result is given does not depend on what is done with it afterwards, and a list of results
is given where each of them is.
-/

namespace QueryPipeline

variable {ε α β : Type}

/-- A result that holds something is given. -/
theorem eq_ok_of_toOption {result : Except ε α} {a : α}
    (holds : result.toOption = some a) : result = .ok a := by
  cases result with
  | error failure => cases holds
  | ok b =>
    cases holds
    rfl

/-- The failure of a result that is not given. -/
def failure? : Except ε α → Option ε
  | .error failure => some failure
  | .ok _ => none

/-- A result that has a failure is that failure. -/
theorem eq_error_of_failure? {result : Except ε α} {failure : ε}
    (fails : failure? result = some failure) : result = .error failure := by
  cases result with
  | error other => exact congrArg Except.error (Option.some.inj fails)
  | ok a => cases fails

/-- A result in two parts is given through a result of the first. -/
theorem bind_eq_ok {result : Except ε α} {next : α → Except ε β} {b : β}
    (given : result.bind next = .ok b) : ∃ a, result = .ok a ∧ next a = .ok b := by
  cases result with
  | error failure => cases given
  | ok a => exact ⟨a, rfl, given⟩

/-- A result that is worked on is given through the result. -/
theorem map_eq_ok {result : Except ε α} {f : α → β} {b : β}
    (given : result.map f = .ok b) : ∃ a, result = .ok a ∧ f a = b := by
  cases result with
  | error failure => cases given
  | ok a => exact ⟨a, rfl, Except.ok.inj given⟩

/-- A result whose failures are renamed is given where it was. -/
theorem mapError_eq_ok {φ : Type} {result : Except ε α} {rename : ε → φ} {a : α}
    (given : result.mapError rename = .ok a) : result = .ok a := by
  cases result with
  | error failure => cases given
  | ok b => exact congrArg Except.ok (Except.ok.inj given)

/-- No result is given by a failure. -/
theorem not_exists_error_eq_ok (failure : ε) :
    ¬∃ a : α, (.error failure : Except ε α) = .ok a := by
  intro given
  obtain ⟨a, same⟩ := given
  cases same

/-- A result that is worked on is given where the result is. -/
theorem exists_map_eq_ok_iff {result : Except ε α} {f : α → β} :
    (∃ b, result.map f = .ok b) ↔ ∃ a, result = .ok a := by
  constructor
  · intro given
    obtain ⟨b, worked⟩ := given
    obtain ⟨a, first, -⟩ := map_eq_ok worked
    exact ⟨a, first⟩
  · intro given
    obtain ⟨a, first⟩ := given
    exact ⟨f a, by rw [first]; rfl⟩

/-- The results of a list are given where each of them is. -/
theorem exists_mapM_eq_ok_iff {f : α → Except ε β} {items : List α} :
    (∃ results, items.mapM f = .ok results) ↔ ∀ item ∈ items, ∃ result, f item = .ok result := by
  induction items with
  | nil => exact iff_of_true ⟨[], rfl⟩ fun item mem => absurd mem List.not_mem_nil
  | cons item rest ih =>
    rw [List.mapM_cons, List.forall_mem_cons, ← ih]
    constructor
    · intro given
      obtain ⟨results, both⟩ := given
      obtain ⟨result, first, others⟩ := bind_eq_ok both
      obtain ⟨tail, last, -⟩ := bind_eq_ok others
      exact ⟨⟨result, first⟩, tail, last⟩
    · intro given
      obtain ⟨⟨result, first⟩, tail, last⟩ := given
      exact ⟨result :: tail, by rw [first, last]; rfl⟩

end QueryPipeline
