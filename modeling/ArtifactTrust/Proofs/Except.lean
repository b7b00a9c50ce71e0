/-!
# Computations that may fail

When a sequence of checks succeeds, check by check.
-/

namespace ArtifactTrust

set_option autoImplicit false

variable {ε α β : Type}

theorem bind_eq_ok_iff {x : Except ε α} {f : α → Except ε β} {b : β} :
    (x >>= f) = .ok b ↔ ∃ a, x = .ok a ∧ f a = .ok b := by
  cases x with
  | error e =>
    constructor
    · intro h
      cases h
    · rintro ⟨a, h, -⟩
      cases h
  | ok a =>
    constructor
    · intro h
      exact ⟨a, rfl, h⟩
    · rintro ⟨a', h, hf⟩
      cases h
      exact hf

theorem seq_eq_ok_iff {x : Except ε Unit} {f : Unit → Except ε β} {b : β} :
    (x >>= f) = .ok b ↔ x = .ok () ∧ f () = .ok b := by
  rw [bind_eq_ok_iff]
  constructor
  · rintro ⟨u, hx, hf⟩
    exact ⟨hx, hf⟩
  · rintro ⟨hx, hf⟩
    exact ⟨(), hx, hf⟩

theorem exists_ok_of_isOk {x : Except ε α} (h : x.isOk = true) : ∃ a, x = .ok a := by
  cases x with
  | ok a => exact ⟨a, rfl⟩
  | error e => cases h

theorem bind_ok (a : α) (f : α → Except ε β) : (Except.ok a >>= f) = f a := rfl

/-- A check that refuses under a condition lets what follows succeed only without it. -/
theorem refuse_bind_eq_ok_iff {c : Prop} [Decidable c] {e : ε} {k : Unit → Except ε β} {b : β} :
    (if c then throw e >>= k else k ()) = .ok b ↔ ¬ c ∧ k () = .ok b := by
  by_cases h : c
  · simp only [h, if_true, not_true_eq_false, false_and, iff_false]
    intro refused
    cases refused
  · simp only [h, if_false, not_false_eq_true, true_and]

theorem when_bind_eq_ok_iff {c : Prop} [Decidable c] {x : Except ε Unit}
    {k : Unit → Except ε β} {b : β} :
    (if c then x >>= k else k ()) = .ok b ↔ (c → x = .ok ()) ∧ k () = .ok b := by
  by_cases h : c
  · simp only [h, if_true, seq_eq_ok_iff, true_implies]
  · simp only [h, if_false, false_implies, true_and]

theorem refuse_eq_ok_iff {c : Prop} [Decidable c] {e : ε} :
    (if c then throw e else pure ()) = (.ok () : Except ε Unit) ↔ ¬ c := by
  by_cases h : c
  · simp only [h, if_true, not_true_eq_false, iff_false]
    intro refused
    cases refused
  · simp only [h, if_false, not_false_eq_true, iff_true]
    rfl

end ArtifactTrust
