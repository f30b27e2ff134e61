/-!
# Outcomes of steps that can fail

Readers and queries answer with a result or with an error.  A sequence of steps fails with the
error of the first step that fails, and a search answers with the first that it finds.

**Results.**
* `map_eq_ok_iff`, `map_eq_error_iff`, `mapError_eq_ok_iff`, `mapError_eq_error_iff`: a change
  of the result or of the error lets the same steps succeed and fail.
* `bind_eq_ok_iff`, `bind_eq_error_iff`: two steps succeed if both do, and fail as the first
  that fails.
* `error?_bind`: the error of two steps, where that of the second is known beforehand.
* `findSome?_cons_eq_or`: a search answers with the first that is found.
-/

namespace KernelLaunch

section Outcomes

variable {ε α β φ : Type} {x : Except ε α} {k : α → Except ε β}

/-- The error of an outcome, if there is one. -/
def error? : Except ε α → Option ε
  | .ok _ => none
  | .error e => some e

theorem error?_eq_some_iff {e : ε} : error? x = some e ↔ x = .error e := by
  cases x <;> simp [error?]

theorem error?_eq_none_iff : error? x = none ↔ ∃ a, x = .ok a := by
  cases x <;> simp [error?]

theorem map_eq_ok_iff {f : α → β} {b : β} : x.map f = .ok b ↔ ∃ a, x = .ok a ∧ b = f a := by
  cases x with
  | error e => exact ⟨fun h => (by cases h), fun ⟨_, h, _⟩ => (by cases h)⟩
  | ok a =>
      constructor
      · intro h
        cases h
        exact ⟨a, rfl, rfl⟩
      · intro ⟨_, h, hb⟩
        cases h
        cases hb
        rfl

theorem map_eq_error_iff {f : α → β} {e : ε} : x.map f = .error e ↔ x = .error e := by
  cases x with
  | error d => exact ⟨fun h => (by cases h; rfl), fun h => (by cases h; rfl)⟩
  | ok a => exact ⟨fun h => (by cases h), fun h => (by cases h)⟩

theorem mapError_eq_ok_iff {f : ε → φ} {a : α} : x.mapError f = .ok a ↔ x = .ok a := by
  cases x with
  | error e => exact ⟨fun h => (by cases h), fun h => (by cases h)⟩
  | ok b => exact ⟨fun h => (by cases h; rfl), fun h => (by cases h; rfl)⟩

theorem mapError_eq_error_iff {f : ε → φ} {e : φ} :
    x.mapError f = .error e ↔ ∃ d, x = .error d ∧ e = f d := by
  cases x with
  | error d =>
      constructor
      · intro h
        cases h
        exact ⟨d, rfl, rfl⟩
      · intro ⟨_, h, he⟩
        cases h
        cases he
        rfl
  | ok a => exact ⟨fun h => (by cases h), fun ⟨_, h, _⟩ => (by cases h)⟩

theorem error?_mapError (f : ε → φ) : error? (x.mapError f) = (error? x).map f := by
  cases x <;> rfl

/-- Two steps succeed if both do. -/
theorem bind_eq_ok_iff {b : β} : x >>= k = .ok b ↔ ∃ a, x = .ok a ∧ k a = .ok b := by
  cases x with
  | error e => exact ⟨fun h => (by cases h), fun ⟨_, h, _⟩ => (by cases h)⟩
  | ok a => exact ⟨fun h => ⟨a, rfl, h⟩, fun ⟨_, h, hk⟩ => (by cases h; exact hk)⟩

/-- Two steps fail as the first that fails. -/
theorem bind_eq_error_iff {e : ε} :
    x >>= k = .error e ↔ x = .error e ∨ ∃ a, x = .ok a ∧ k a = .error e := by
  cases x with
  | error f =>
      constructor
      · intro h
        cases h
        exact .inl rfl
      · rintro (h | ⟨_, h, _⟩) <;> cases h
        rfl
  | ok a =>
      constructor
      · intro h
        exact .inr ⟨a, rfl, h⟩
      · rintro (h | ⟨_, h, hk⟩) <;> cases h
        exact hk

/-- Of two steps the second is reported only if the first has no error. -/
theorem error?_bind {f? : Option ε} (hk : ∀ a, error? (k a) = f?) :
    error? (x >>= k) = (error? x).or f? := by
  cases x with
  | error e => rfl
  | ok a => exact hk a

end Outcomes

section Searches

/-- A search answers with what it finds in the first place, or else in the others. -/
theorem findSome?_cons_eq_or
    {α β : Type}
    (f : α → Option β)
    (a : α)
    (as : List α) :
    (a :: as).findSome? f = (f a).or (as.findSome? f) := by
  rw [List.findSome?_cons]
  cases f a <;> rfl

end Searches

end KernelLaunch
