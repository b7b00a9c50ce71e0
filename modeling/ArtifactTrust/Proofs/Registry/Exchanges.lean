import ArtifactTrust.Proofs.Trace
import ArtifactTrust.Registry.Client

/-!
# The requests of a client

A network that writes down every exchange. Redirects make several exchanges of one request, which
`Issues` takes together again; `Confined` says of an action which requests it issues.
-/

namespace ArtifactTrust

set_option autoImplicit false

open Registry

/-- A request, and its answer if one came. -/
structure Exchange where
  request : Request
  answer : Option Answer

def Exchange.redirect? (e : Exchange) : Option Url :=
  (e.answer.bind (Registry.redirect? e.request.url)).bind Except.toOption

def Request.sentTo (request : Request) (next : Url) : Request :=
  { request with
    url := next
    authorization := if request.url.sameServer next then request.authorization else none }

/-- The exchanges of one request that may be redirected so often. -/
inductive Chain : Nat → Request → List Exchange → Prop
  | last {limit : Nat} {request : Request} {answer : Option Answer}
      (ends : (Exchange.mk request answer).redirect? = none ∨ limit = 0) :
      Chain limit request [⟨request, answer⟩]
  | next {limit : Nat} {request : Request} {answer : Option Answer} {url : Url}
      {rest : List Exchange} (redirects : (Exchange.mk request answer).redirect? = some url)
      (more : Chain limit (request.sentTo url) rest) :
      Chain (limit + 1) request (⟨request, answer⟩ :: rest)

theorem Chain.exists_cons {limit : Nat} {request : Request} {log : List Exchange}
    (chain : Chain limit request log) : ∃ answer rest, log = ⟨request, answer⟩ :: rest := by
  cases chain with
  | last ends => exact ⟨_, [], rfl⟩
  | next redirects more => exact ⟨_, _, rfl⟩

/-- The requests that a client issues of itself, out of all exchanges: those at the start of a
chain of redirects. -/
inductive Issues : List Exchange → List Request → Prop
  | nil : Issues [] []
  | cons {request : Request} {chain log : List Exchange} {requests : List Request}
      (chained : Chain maxRedirects request chain) (rest : Issues log requests) :
      Issues (chain ++ log) (request :: requests)

theorem Issues.append {a b : List Exchange} {p q : List Request} (ha : Issues a p)
    (hb : Issues b q) : Issues (a ++ b) (p ++ q) := by
  induction ha with
  | nil => exact hb
  | cons chained rest ih =>
    rw [List.append_assoc, List.cons_append]
    exact .cons chained ih

theorem Issues.eq_map {log : List Exchange} {requests : List Request}
    (issues : Issues log requests) (direct : ∀ e ∈ log, e.redirect? = none) :
    requests = log.map Exchange.request := by
  induction issues with
  | nil => rfl
  | cons chained rest ih =>
    have later := ih fun e mem => direct e (List.mem_append_right _ mem)
    cases chained with
    | last ends => rw [later, List.map_append, List.map_cons, List.map_nil, List.singleton_append]
    | next redirects more =>
      rw [direct _ (List.mem_append_left _ List.mem_cons_self)] at redirects
      cases redirects

variable {σ ε α β : Type}

def Network.recorded (n : Network (StateM σ)) : Network (StateM (List Exchange × σ)) where
  send request := fun (log, s) =>
    (((n.send request).run s).1, (log ++ [⟨request, ((n.send request).run s).1⟩],
      ((n.send request).run s).2))
  pause d := fun (log, s) => ((), (log, ((n.pause d).run s).2))

/-- An action beside the record, which it leaves as it is. -/
def beside (x : ExceptT ε (StateM σ) α) : ExceptT ε (StateM (List Exchange × σ)) α :=
  ExceptT.mk fun (log, s) => ((answer x s).1, (log, (answer x s).2))

def Verifier.beside (v : Verifier (StateM σ)) : Verifier (StateM (List Exchange × σ)) where
  skipLevel options := ArtifactTrust.beside (v.skipLevel options)
  verify target envelope options := ArtifactTrust.beside (v.verify target envelope options)

/-- An action answers as its twin does, which writes down exchanges, and all requests that it
issues are of a kind. -/
def Confined (P : Request → Prop) (x : ExceptT ε (StateM σ) α)
    (twin : ExceptT ε (StateM (List Exchange × σ)) α) : Prop :=
  ∀ s, ∃ log requests, Issues log requests ∧ (∀ q ∈ requests, P q) ∧
    ∀ before, answer twin (before, s) = ((answer x s).1, (before ++ log, (answer x s).2))

namespace Confined

variable {P Q : Request → Prop} {x : ExceptT ε (StateM σ) α}
  {x' : ExceptT ε (StateM (List Exchange × σ)) α}

theorem of_silent (silent : ∀ s before, answer x' (before, s) =
    ((answer x s).1, (before, (answer x s).2))) : Confined P x x' := by
  intro s
  refine ⟨[], [], .nil, ?_, fun before => ?_⟩
  · intro q mem
    cases mem
  · rw [silent, List.append_nil]

theorem settled (r : Except ε α) :
    Confined P (ExceptT.mk (pure r) : ExceptT ε (StateM σ) α) (ExceptT.mk (pure r)) :=
  of_silent fun _ _ => rfl

theorem unrecorded (x : ExceptT ε (StateM σ) α) : Confined P x (beside x) :=
  of_silent fun _ _ => rfl

theorem mono (h : Confined P x x') (weaker : ∀ q, P q → Q q) : Confined Q x x' := by
  intro s
  obtain ⟨log, requests, issues, kind, same⟩ := h s
  exact ⟨log, requests, issues, fun q mem => weaker q (kind q mem), same⟩

/-- What comes second may depend on what the first action can answer. -/
theorem bind {f : α → ExceptT ε (StateM σ) β} {f' : α → ExceptT ε (StateM (List Exchange × σ)) β}
    (hx : Confined P x x')
    (hf : ∀ a, (∃ s t, answer x s = (.ok a, t)) → Confined P (f a) (f' a)) :
    Confined P (x >>= f) (x' >>= f') := by
  intro s
  obtain ⟨first, asked, issues, kind, same⟩ := hx s
  rcases hr : answer x s with ⟨r, t⟩
  rw [hr] at same
  cases r with
  | error e =>
    refine ⟨first, asked, issues, kind, fun before => ?_⟩
    rw [answer_bind_of_error hr, answer_bind_of_error (same before)]
  | ok a =>
    obtain ⟨second, more, others, alike, follows⟩ := hf a ⟨s, t, hr⟩ t
    refine ⟨first ++ second, asked ++ more, issues.append others, ?_, fun before => ?_⟩
    · intro q mem
      rcases List.mem_append.mp mem with mem | mem
      · exact kind q mem
      · exact alike q mem
    · rw [answer_bind_of_ok hr, answer_bind_of_ok (same before), follows, List.append_assoc]

theorem failed (e : ε) (f : α → ExceptT ε (StateM σ) β)
    (f' : α → ExceptT ε (StateM (List Exchange × σ)) β) :
    Confined P (ExceptT.mk (pure (.error e)) >>= f) (ExceptT.mk (pure (.error e)) >>= f') := by
  refine bind (settled (.error e)) fun a answered => ?_
  obtain ⟨s, t, answered⟩ := answered
  cases answered

theorem lift {ε' : Type} (h : Confined P x x') :
    Confined (ε := ε') P (ExceptT.lift x.run) (ExceptT.lift x'.run) := by
  intro s
  obtain ⟨log, requests, issues, kind, same⟩ := h s
  refine ⟨log, requests, issues, kind, fun before => ?_⟩
  have run := same before
  unfold answer at run
  rw [answer_lift, answer_lift, run]

theorem asking {x : ExceptT RepositoryError (StateM σ) α}
    {x' : ExceptT RepositoryError (StateM (List Exchange × σ)) α} (h : Confined P x x') :
    Confined P (Verifier.asking x) (Verifier.asking x') := by
  intro s
  obtain ⟨log, requests, issues, kind, same⟩ := h s
  refine ⟨log, requests, issues, kind, fun before => ?_⟩
  rw [answer_asking, answer_asking, same before]
  rcases answer x s with ⟨r, t⟩
  cases r <;> rfl

end Confined

/-! ### The client -/

section Client

variable (network : Network (StateM σ))

theorem answer_send (limit : Nat) (request : Request) (s : σ) :
    answer (send network limit request) s =
      match ((network.send request).run s).1 with
      | none => (.error (sendingError request.url), ((network.send request).run s).2)
      | some a =>
        match redirect? request.url a with
        | none => (.ok a, ((network.send request).run s).2)
        | some next =>
          match limit with
          | 0 => (.error (redirectError request.url), ((network.send request).run s).2)
          | limit + 1 =>
            match next with
            | .error foreign => (.error (admissionError foreign), ((network.send request).run s).2)
            | .ok next => answer (send network limit (request.sentTo next))
                ((network.send request).run s).2 := by
  rw [send, answer_bind, answer_lift]
  rcases (network.send request).run s with ⟨a, t⟩
  cases a with
  | none => rfl
  | some a =>
    simp only
    cases redirect? request.url a with
    | none => rfl
    | some next =>
      cases limit with
      | zero => rfl
      | succ limit => cases next <;> rfl

/-- The exchanges of one request that may be redirected so often, and what comes of them. -/
inductive Sends : Nat → Request → List Exchange → Except RepositoryError Answer → Prop
  | unanswered {limit : Nat} {request : Request} :
      Sends limit request [⟨request, none⟩] (.error (sendingError request.url))
  | answered {limit : Nat} {request : Request} {a : Answer}
      (ends : redirect? request.url a = none) : Sends limit request [⟨request, some a⟩] (.ok a)
  | astray {request : Request} {a : Answer} {next : Except String Url}
      (redirects : redirect? request.url a = some next) :
      Sends 0 request [⟨request, some a⟩] (.error (redirectError request.url))
  | abroad {limit : Nat} {request : Request} {a : Answer} {foreign : String}
      (redirects : redirect? request.url a = some (.error foreign)) :
      Sends (limit + 1) request [⟨request, some a⟩] (.error (admissionError foreign))
  | next {limit : Nat} {request : Request} {a : Answer} {url : Url} {rest : List Exchange}
      {r : Except RepositoryError Answer} (redirects : redirect? request.url a = some (.ok url))
      (more : Sends limit (request.sentTo url) rest r) :
      Sends (limit + 1) request (⟨request, some a⟩ :: rest) r

theorem Sends.chain {limit : Nat} {request : Request} {log : List Exchange}
    {r : Except RepositoryError Answer} (sends : Sends limit request log r) :
    Chain limit request log := by
  -- What stands behind an answer is read off from how the answer redirects.
  have follows {request : Request} {a : Answer} {next : Option (Except String Url)}
      (redirects : redirect? request.url a = next) :
      (Exchange.mk request (some a)).redirect? = next.bind Except.toOption :=
    congrArg (Option.bind · Except.toOption) redirects
  induction sends with
  | unanswered => exact .last (.inl rfl)
  | answered ends => exact .last (.inl (follows ends))
  | astray redirects => exact .last (.inr rfl)
  | abroad redirects => exact .last (.inl (follows redirects))
  | next redirects more ih => exact .next (follows redirects) ih

theorem traced_send (limit : Nat) (request : Request) :
    Traced (Sends limit request) (send network limit request)
      (send network.recorded limit request) := by
  intro s
  -- The answer is looked at before the limit is, so the split into cases is left to the end.
  induction limit using Nat.strongRecOn generalizing request s with
  | ind limit ih =>
    rcases hs : (network.send request).run s with ⟨a, t⟩
    have sent (before : List Exchange) : (network.recorded.send request).run (before, s) =
        (a, (before ++ [⟨request, a⟩], t)) := by
      change (((network.send request).run s).1, _) = _
      rw [hs]
    have alone := answer_send network limit request s
    have recorded (before : List Exchange) :=
      answer_send network.recorded limit request (before, s)
    simp only [hs] at alone
    simp only [sent] at recorded
    simp only [alone, recorded]
    clear alone recorded
    cases a with
    | none => exact ⟨[⟨request, none⟩], .unanswered, fun before => rfl⟩
    | some a =>
      simp only
      cases redirects : redirect? request.url a with
      | none => exact ⟨[⟨request, some a⟩], .answered redirects, fun before => rfl⟩
      | some next =>
        simp only
        cases limit with
        | zero => exact ⟨[⟨request, some a⟩], .astray redirects, fun before => rfl⟩
        | succ limit =>
          cases next with
          | error foreign => exact ⟨[⟨request, some a⟩], .abroad redirects, fun before => rfl⟩
          | ok next =>
            obtain ⟨log, sends, same⟩ :=
              ih limit (Nat.lt_succ_self limit) (request.sentTo next) t
            refine ⟨⟨request, some a⟩ :: log, .next redirects sends, fun before => ?_⟩
            simp only [same, List.append_assoc, List.singleton_append]

/-- A request for a URL that is written like this, apart from a user that it may name. -/
def Aimed (text : String) (q : Request) : Prop :=
  ∃ url, Url.parse text = .ok url ∧ (q.url = url ∨ q.url = url.withoutUser)

/-- The user that a URL names is no part of its path. -/
theorem Aimed.path {text : String} {q : Request} (aimed : Aimed text q) :
    ∃ url, Url.parse text = .ok url ∧ q.url.path = url.path := by
  obtain ⟨url, parsed, same⟩ := aimed
  refine ⟨url, parsed, ?_⟩
  rcases same with same | same
  · rw [same]
  · rw [same]
    rfl

end Client

end ArtifactTrust
