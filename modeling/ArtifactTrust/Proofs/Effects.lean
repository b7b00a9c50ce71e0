import ArtifactTrust.Verification.Walk

/-!
# Actions in a world

Nothing is known of the monad that repositories, verifiers and files act in. Here it is `StateM σ`,
where every answer may depend on the state and change it; `answer` is one run of an action.
-/

namespace ArtifactTrust

set_option autoImplicit false

variable {σ ε α β : Type}

/-- What an action answers in a state of the world, and the state that it leaves behind. -/
def answer (x : ExceptT ε (StateM σ) α) (s : σ) : Except ε α × σ := x.run.run s

@[simp] theorem answer_pure (a : α) (s : σ) :
    answer (pure a : ExceptT ε (StateM σ) α) s = (.ok a, s) := rfl

@[simp] theorem answer_mk_pure (r : Except ε α) (s : σ) :
    answer (ExceptT.mk (pure r) : ExceptT ε (StateM σ) α) s = (r, s) := rfl

theorem answer_mk (x : StateM σ (Except ε α)) (s : σ) : answer (ExceptT.mk x) s = x.run s := rfl

@[simp] theorem answer_lift (x : StateM σ α) (s : σ) :
    answer (ExceptT.lift x : ExceptT ε (StateM σ) α) s = (.ok (x.run s).1, (x.run s).2) := rfl

theorem answer_lift_run {ε' : Type} (x : ExceptT ε' (StateM σ) α) (s : σ) :
    answer (ExceptT.lift x.run : ExceptT ε (StateM σ) (Except ε' α)) s =
      (.ok (answer x s).1, (answer x s).2) := rfl

/-- The first action is run; where it fails there is no second one. -/
theorem answer_bind (x : ExceptT ε (StateM σ) α) (f : α → ExceptT ε (StateM σ) β) (s : σ) :
    answer (x >>= f) s =
      match answer x s with
      | (.ok a, t) => answer (f a) t
      | (.error e, t) => (.error e, t) := by
  simp only [answer, ExceptT.run_bind, StateT.run_bind]
  rcases h : StateT.run x.run s with ⟨r, t⟩
  cases r with
  | ok a => rfl
  | error e => rfl

theorem answer_bind_of_ok {x : ExceptT ε (StateM σ) α} {f : α → ExceptT ε (StateM σ) β} {s t : σ}
    {a : α} (h : answer x s = (.ok a, t)) : answer (x >>= f) s = answer (f a) t := by
  rw [answer_bind, h]

theorem answer_bind_of_error {x : ExceptT ε (StateM σ) α} {f : α → ExceptT ε (StateM σ) β}
    {s t : σ} {e : ε} (h : answer x s = (.error e, t)) : answer (x >>= f) s = (.error e, t) := by
  rw [answer_bind, h]

theorem answer_bind_eq_ok_iff {x : ExceptT ε (StateM σ) α} {f : α → ExceptT ε (StateM σ) β}
    {s u : σ} {b : β} :
    answer (x >>= f) s = (.ok b, u) ↔
      ∃ a t, answer x s = (.ok a, t) ∧ answer (f a) t = (.ok b, u) := by
  rw [answer_bind]
  rcases h : answer x s with ⟨r, t⟩
  cases r with
  | ok a =>
    constructor
    · intro hb
      exact ⟨a, t, rfl, hb⟩
    · rintro ⟨a', t', ha, hb⟩
      cases ha
      exact hb
  | error e =>
    constructor
    · intro hb
      cases hb
    · rintro ⟨a, t', ha, -⟩
      cases ha

theorem answer_asking (x : ExceptT RepositoryError (StateM σ) α) (s : σ) :
    answer (Verifier.asking x) s =
      match answer x s with
      | (.ok a, t) => (.ok a, t)
      | (.error cause, t) => (.error (.repository cause), t) := by
  simp only [answer, Verifier.asking, ExceptT.run_mk, StateT.run_bind]
  rcases h : StateT.run x.run s with ⟨r, t⟩
  cases r with
  | ok a => rfl
  | error e => rfl

theorem answer_asking_eq_ok_iff {x : ExceptT RepositoryError (StateM σ) α} {s t : σ} {a : α} :
    answer (Verifier.asking x) s = (.ok a, t) ↔ answer x s = (.ok a, t) := by
  rw [answer_asking]
  rcases answer x s with ⟨r, u⟩
  cases r with
  | ok b => simp
  | error cause => simp

end ArtifactTrust
