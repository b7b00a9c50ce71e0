import ArtifactTrust.Proofs.Effects

/-!
# The calls of a run

A repository and a verifier that write down every call made to them. `Goes` states at once what an
action answers and which calls its recorded twin writes down.
-/

namespace ArtifactTrust

set_option autoImplicit false

inductive Call where
  | resolve (name : String)
  | listSignatures (subject : Descriptor)
  | fetchManifest (d : Descriptor)
  | fetchBlob (d : Descriptor)
  | skipLevel (options : VerifyOptions)
  | verify (target : Descriptor) (envelope : ByteArray) (options : VerifyOptions)

def Call.isVerify : Call → Bool
  | verify .. => true
  | _ => false

def Call.options? : Call → Option VerifyOptions
  | skipLevel options => some options
  | verify _ _ options => some options
  | _ => none

/-- Calls that put no more envelopes to the verifier than a limit allows, and that ask it with
one set of options only. -/
structure Bounded (options : VerifyOptions) (limit : Nat) (calls : List Call) : Prop where
  few : calls.countP Call.isVerify ≤ limit
  asks : ∀ call ∈ calls, ∀ asked, call.options? = some asked → asked = options

theorem Bounded.append {options : VerifyOptions} {m n : Nat} {c d : List Call}
    (hc : Bounded options m c) (hd : Bounded options n d) : Bounded options (m + n) (c ++ d) := by
  refine ⟨?_, ?_⟩
  · rw [List.countP_append]
    exact Nat.add_le_add hc.few hd.few
  · intro call mem
    rcases List.mem_append.mp mem with mem | mem
    · exact hc.asks call mem
    · exact hd.asks call mem

theorem Bounded.mono {options : VerifyOptions} {m n : Nat} {c : List Call}
    (hc : Bounded options m c) (h : m ≤ n) : Bounded options n c :=
  ⟨Nat.le_trans hc.few h, hc.asks⟩

variable {σ ε α β : Type}

/-- An action in a world that also holds the calls so far, to which it adds one. -/
def noted (call : Call) (x : ExceptT ε (StateM σ) α) : ExceptT ε (StateM (List Call × σ)) α :=
  ExceptT.mk fun (calls, s) => ((answer x s).1, (calls ++ [call], (answer x s).2))

def Repository.recorded (r : Repository (StateM σ)) : Repository (StateM (List Call × σ)) where
  resolve name := noted (.resolve name) (r.resolve name)
  fetchManifest d := noted (.fetchManifest d) (r.fetchManifest d)
  fetchBlob d := noted (.fetchBlob d) (r.fetchBlob d)
  listSignatures d := noted (.listSignatures d) (r.listSignatures d)

def Verifier.recorded (v : Verifier (StateM σ)) : Verifier (StateM (List Call × σ)) where
  skipLevel options := noted (.skipLevel options) (v.skipLevel options)
  verify target envelope options :=
    noted (.verify target envelope options) (v.verify target envelope options)

/-- An action answers `r` in the state `s` and leaves `t` behind, and so does its twin, which
writes down `calls`. -/
structure Goes (x : ExceptT ε (StateM σ) α) (twin : ExceptT ε (StateM (List Call × σ)) α) (s : σ)
    (calls : List Call) (r : Except ε α) (t : σ) : Prop where
  answers : answer x s = (r, t)
  records : ∀ before, answer twin (before, s) = (r, (before ++ calls, t))

namespace Goes

variable {s t u : σ} {a : α} {e : ε} {c d : List Call}

theorem pure (r : Except ε α) (s : σ) :
    Goes (ExceptT.mk (Pure.pure r)) (ExceptT.mk (Pure.pure r)) s [] r s := by
  refine ⟨rfl, fun before => ?_⟩
  rw [List.append_nil, answer_mk_pure]

theorem noted {x : ExceptT ε (StateM σ) α} {r : Except ε α} (call : Call)
    (h : answer x s = (r, t)) : Goes x (noted call x) s [call] r t := by
  refine ⟨h, fun before => ?_⟩
  change ((answer x s).1, (before ++ [call], (answer x s).2)) = _
  rw [h]

theorem bind {x : ExceptT ε (StateM σ) α} {x' : ExceptT ε (StateM (List Call × σ)) α}
    {f : α → ExceptT ε (StateM σ) β} {f' : α → ExceptT ε (StateM (List Call × σ)) β}
    {r : Except ε β} (hx : Goes x x' s c (.ok a) t) (hf : Goes (f a) (f' a) t d r u) :
    Goes (x >>= f) (x' >>= f') s (c ++ d) r u := by
  refine ⟨?_, fun before => ?_⟩
  · rw [answer_bind_of_ok hx.answers, hf.answers]
  · rw [answer_bind_of_ok (hx.records before), hf.records, List.append_assoc]

theorem bind_error {x : ExceptT ε (StateM σ) α} {x' : ExceptT ε (StateM (List Call × σ)) α}
    (f : α → ExceptT ε (StateM σ) β) (f' : α → ExceptT ε (StateM (List Call × σ)) β)
    (hx : Goes x x' s c (.error e) t) : Goes (x >>= f) (x' >>= f') s c (.error e) t := by
  refine ⟨?_, fun before => ?_⟩
  · rw [answer_bind_of_error hx.answers]
  · rw [answer_bind_of_error (hx.records before)]

theorem asking {x : ExceptT RepositoryError (StateM σ) α}
    {x' : ExceptT RepositoryError (StateM (List Call × σ)) α} {r : Except RepositoryError α}
    (h : Goes x x' s c r t) :
    Goes (Verifier.asking x) (Verifier.asking x') s c (r.mapError .repository) t := by
  refine ⟨?_, fun before => ?_⟩
  · rw [answer_asking, h.answers]
    cases r <;> rfl
  · rw [answer_asking, h.records]
    cases r <;> rfl

theorem lift {x : ExceptT ε (StateM σ) α} {x' : ExceptT ε (StateM (List Call × σ)) α}
    {r : Except ε α} (ε' : Type) (h : Goes x x' s c r t) :
    Goes (ε := ε') (ExceptT.lift x.run) (ExceptT.lift x'.run) s c (.ok r) t := by
  refine ⟨?_, fun before => ?_⟩
  · have := h.answers
    unfold answer at this
    rw [answer_lift, this]
  · have := h.records before
    unfold answer at this
    rw [answer_lift, this]

end Goes

end ArtifactTrust
