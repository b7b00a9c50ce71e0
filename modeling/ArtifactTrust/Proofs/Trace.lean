import ArtifactTrust.Proofs.Effects

/-!
# Actions and what they write down

`Traced P x twin` says that the twin answers as the action does, adds to a record and looks at
nothing in it, and that `P` holds of what it adds and what is answered.
-/

namespace ArtifactTrust

set_option autoImplicit false

variable {Event σ ε ε' α β : Type}

def Traced (P : List Event → Except ε α → Prop) (x : ExceptT ε (StateM σ) α)
    (twin : ExceptT ε (StateM (List Event × σ)) α) : Prop :=
  ∀ s, ∃ log, P log (answer x s).1 ∧
    ∀ before, answer twin (before, s) = ((answer x s).1, (before ++ log, (answer x s).2))

/-- An action that is written down as one event, which may say what was answered. -/
def noting (event : Except ε α → Event) (x : ExceptT ε (StateM σ) α) :
    ExceptT ε (StateM (List Event × σ)) α :=
  ExceptT.mk fun (log, s) => ((answer x s).1, (log ++ [event (answer x s).1], (answer x s).2))

namespace Traced

variable {P Q : List Event → Except ε α → Prop} {x : ExceptT ε (StateM σ) α}
  {x' : ExceptT ε (StateM (List Event × σ)) α}

theorem noted (event : Except ε α → Event) (x : ExceptT ε (StateM σ) α) :
    Traced (fun log r => log = [event r]) x (noting event x) := by
  intro s
  exact ⟨_, rfl, fun before => rfl⟩

theorem settled {r : Except ε α} (holds : P [] r) :
    Traced P (ExceptT.mk (pure r) : ExceptT ε (StateM σ) α) (ExceptT.mk (pure r)) := by
  intro s
  refine ⟨[], holds, fun before => ?_⟩
  rw [List.append_nil]
  rfl

theorem mono (h : Traced P x x') (weaker : ∀ log r, P log r → Q log r) : Traced Q x x' := by
  intro s
  obtain ⟨log, holds, same⟩ := h s
  exact ⟨log, weaker log _ holds, same⟩

/-- A twin writes down the same whatever was written down before. -/
theorem answer_eq (h : Traced P x x') (before : List Event) (s : σ) :
    answer x' (before, s) =
        ((answer x s).1, (before ++ (answer x' ([], s)).2.1, (answer x s).2)) ∧
      P (answer x' ([], s)).2.1 (answer x s).1 := by
  obtain ⟨log, holds, same⟩ := h s
  have own : (answer x' ([], s)).2.1 = log := by
    rw [same, List.nil_append]
  rw [own]
  exact ⟨same before, holds⟩

/-- Two actions in a row write down one after the other, unless the first one fails. -/
theorem bind {R : List Event → Except ε β → Prop} {S : α → List Event → Except ε β → Prop}
    {f : α → ExceptT ε (StateM σ) β} {f' : α → ExceptT ε (StateM (List Event × σ)) β}
    (hx : Traced P x x') (hf : ∀ a, Traced (S a) (f a) (f' a))
    (fails : ∀ log e, P log (.error e) → R log (.error e))
    (joins : ∀ a first second r, P first (.ok a) → S a second r → R (first ++ second) r) :
    Traced R (x >>= f) (x' >>= f') := by
  intro s
  obtain ⟨first, holds, same⟩ := hx s
  rcases hr : answer x s with ⟨r, t⟩
  rw [hr] at holds same
  cases r with
  | error e =>
    refine ⟨first, ?_, fun before => ?_⟩
    · rw [answer_bind_of_error hr]
      exact fails first e holds
    · rw [answer_bind_of_error hr, answer_bind_of_error (same before)]
  | ok a =>
    obtain ⟨second, later, follows⟩ := hf a t
    refine ⟨first ++ second, ?_, fun before => ?_⟩
    · rw [answer_bind_of_ok hr]
      exact joins a first second _ holds later
    · rw [answer_bind_of_ok hr, answer_bind_of_ok (same before), follows, List.append_assoc]

theorem bind_silent {L : List Event → Prop} {f : α → ExceptT ε (StateM σ) β}
    {f' : α → ExceptT ε (StateM (List Event × σ)) β} (hx : Traced (fun log _ => L log) x x')
    (hf : ∀ a, Traced (fun log _ => log = []) (f a) (f' a)) :
    Traced (fun log _ => L log) (x >>= f) (x' >>= f') := by
  refine hx.bind hf (fun log e holds => holds) ?_
  rintro a first second r holds rfl
  rw [List.append_nil]
  exact holds

/-- What holds of everything that each of two actions writes down. -/
theorem bind_all {K : Event → Prop} {f : α → ExceptT ε (StateM σ) β}
    {f' : α → ExceptT ε (StateM (List Event × σ)) β}
    (hx : Traced (fun log _ => ∀ event ∈ log, K event) x x')
    (hf : ∀ a, Traced (fun log _ => ∀ event ∈ log, K event) (f a) (f' a)) :
    Traced (fun log _ => ∀ event ∈ log, K event) (x >>= f) (x' >>= f') := by
  refine hx.bind hf (fun log e all => all) ?_
  intro a first second r here there event mem
  rcases List.mem_append.mp mem with mem | mem
  · exact here event mem
  · exact there event mem

/-- The failure of an action is looked at, and what comes next depends on it. -/
theorem lift (h : Traced P x x') :
    Traced (ε := ε') (fun log r => ∃ own, r = .ok own ∧ P log own) (ExceptT.lift x.run)
      (ExceptT.lift x'.run) := by
  intro s
  obtain ⟨log, holds, same⟩ := h s
  refine ⟨log, ⟨(answer x s).1, rfl, holds⟩, fun before => ?_⟩
  have run := same before
  unfold answer at run
  rw [answer_lift, answer_lift, run]

theorem map {R : List Event → Except ε β → Prop} (h : Traced P x x') (f : α → β)
    (kept : ∀ log r, P log r → R log (r.map f)) : Traced R (f <$> x) (f <$> x') := by
  rw [← bind_pure_comp, ← bind_pure_comp]
  refine h.bind (S := fun a log r => log = [] ∧ r = .ok (f a)) (fun a => settled ⟨rfl, rfl⟩)
    (fun log e holds => kept log _ holds) ?_
  rintro a first second r holds ⟨rfl, rfl⟩
  rw [List.append_nil]
  exact kept first _ holds

end Traced

end ArtifactTrust
