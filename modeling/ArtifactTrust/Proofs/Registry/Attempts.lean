import ArtifactTrust.Proofs.Registry.Exchanges

/-!
# Attempts

Every attempt but the last one failed in a way that may pass, and the last one did not, or it was
the last one allowed.
-/

namespace ArtifactTrust

set_option autoImplicit false

open Registry

variable {σ α β : Type} {P : List Exchange → Except RepositoryError Answer → Prop}

/-- Whether a result is an error that counts as one that may pass. -/
def isTransient (r : Except RepositoryError α) : Bool :=
  match r with
  | .ok _ => false
  | .error e => e.transient

/-! ### One attempt -/

/-- What an operation asks a registry for. -/
structure Inquiry where
  method : Method
  url : String
  accept : String
  what : String

/-- The request for an inquiry, if it can be built. -/
def Inquiry.request? (settings : RegistrySettings) (i : Inquiry) : Option Request :=
  match Url.parse i.url with
  | .error _ => none
  | .ok url =>
    if settings.authorization.all isHeaderValue ∧
        Request.admits (addressed settings url).2 = true then
      some ⟨i.method, (addressed settings url).2, i.accept, (addressed settings url).1⟩
    else none

theorem Inquiry.request?_withMethod (settings : RegistrySettings) (i : Inquiry) (method : Method) :
    { i with method := method }.request? settings =
      (i.request? settings).map fun q => { q with method := method } := by
  unfold request?
  simp only
  cases Url.parse i.url with
  | error fault => rfl
  | ok url =>
    simp only
    split
    · rfl
    · rfl

/-- The exchanges of an attempt at an inquiry, and what comes of them. -/
inductive Inquiry.Attempted (settings : RegistrySettings) (i : Inquiry) :
    List Exchange → Except RepositoryError Answer → Prop
  | unbuilt (reason : String) (unbuildable : i.request? settings = none) :
      Attempted settings i [] (.error (.network reason))
  | sent {request : Request} {log : List Exchange} {r : Except RepositoryError Answer}
      (built : i.request? settings = some request) (sends : Sends maxRedirects request log r) :
      Attempted settings i log (r.bind (judge i.what))

section Attempt

variable {m : Type → Type} [Monad m] {settings : RegistrySettings} {i : Inquiry}

theorem attempt_of_built {request : Request} (built : i.request? settings = some request)
    (network : Network m) :
    attempt network settings i.method i.url i.accept i.what =
      (send network maxRedirects request >>= fun a => ExceptT.mk (pure (judge i.what a))) := by
  unfold Inquiry.request? at built
  unfold attempt
  cases parsed : Url.parse i.url with
  | error fault =>
    rw [parsed] at built
    cases built
  | ok url =>
    simp only [parsed] at built ⊢
    split at built
    · rename_i admitted
      cases built
      simp only [admitted.1, admitted.2, if_true]
    · cases built

theorem attempt_of_unbuildable (unbuildable : i.request? settings = none) :
    ∃ reason, ∀ {m : Type → Type} [Monad m] (network : Network m),
      attempt network settings i.method i.url i.accept i.what =
        ExceptT.mk (pure (.error (.network reason))) := by
  unfold Inquiry.request? at unbuildable
  unfold attempt
  cases parsed : Url.parse i.url with
  | error fault => exact ⟨_, fun network => rfl⟩
  | ok url =>
    rw [parsed] at unbuildable
    by_cases usable : settings.authorization.all isHeaderValue = true
    · by_cases admitted : Request.admits (addressed settings url).2 = true
      · simp [usable, admitted] at unbuildable
      · simp only [usable, admitted, if_true]
        exact ⟨_, fun network => rfl⟩
    · simp only [usable]
      exact ⟨_, fun network => rfl⟩

end Attempt

theorem traced_attempt (settings : RegistrySettings) (i : Inquiry)
    (network : Network (StateM σ)) :
    Traced (i.Attempted settings) (attempt network settings i.method i.url i.accept i.what)
      (attempt network.recorded settings i.method i.url i.accept i.what) := by
  cases built : i.request? settings with
  | none =>
    obtain ⟨reason, refused⟩ := attempt_of_unbuildable built
    rw [refused, refused]
    exact Traced.settled (.unbuilt reason built)
  | some request =>
    rw [attempt_of_built built, attempt_of_built built]
    refine (traced_send network maxRedirects request).bind
      (S := fun a log r => log = [] ∧ r = judge i.what a)
      (fun a => Traced.settled ⟨rfl, rfl⟩) (fun log e sends => .sent built sends) ?_
    rintro a log rest r sends ⟨rfl, rfl⟩
    rw [List.append_nil]
    exact .sent built sends

/-! ### Attempts in a row -/

structure Attempt where
  exchanges : List Exchange
  result : Except RepositoryError Answer

/-- Attempts one after the other, of which so many may be repetitions, and what comes of them. -/
inductive Tries (P : List Exchange → Except RepositoryError Answer → Prop) :
    Nat → List Attempt → Except RepositoryError Answer → Prop
  | last {limit : Nat} {a : Attempt} (made : P a.exchanges a.result)
      (ends : isTransient a.result = false ∨ limit = 0) : Tries P limit [a] a.result
  | again {limit : Nat} {a : Attempt} {rest : List Attempt} {r : Except RepositoryError Answer}
      (made : P a.exchanges a.result) (failed : isTransient a.result = true)
      (more : Tries P limit rest r) : Tries P (limit + 1) (a :: rest) r

theorem traced_pause (network : Network (StateM σ)) (d : Delay) :
    Traced (fun log r => log = [] ∧ r = .ok ())
      (ExceptT.lift (network.pause d) : ExceptT RepositoryError (StateM σ) Unit)
      (ExceptT.lift (network.recorded.pause d)) := by
  intro s
  refine ⟨[], ⟨rfl, rfl⟩, fun before => ?_⟩
  rw [List.append_nil]
  rfl

/-- After an attempt, the rest of them, if there are more. -/
theorem traced_retrying (network : Network (StateM σ))
    {action : ExceptT RepositoryError (StateM σ) Answer}
    {action' : ExceptT RepositoryError (StateM (List Exchange × σ)) Answer}
    (attempted : Traced P action action') (retries limit : Nat) :
    Traced (fun log r => ∃ attempts, Tries P limit attempts r ∧
        log = attempts.flatMap Attempt.exchanges)
      (retrying network.pause action retries limit)
      (retrying network.recorded.pause action' retries limit) := by
  -- The induction is on the repetitions that are left. With none left the attempt is the last one
  -- whatever comes of it; otherwise what follows depends on whether its failure may pass.
  induction limit generalizing retries with
  | zero =>
    unfold retrying
    refine attempted.lift.bind (S := fun own log r => log = [] ∧ r = own) ?_ ?_ ?_
    · intro own
      cases own with
      | ok a => exact Traced.settled ⟨rfl, rfl⟩
      | error e =>
        simp only
        cases e.transient with
        | false => exact Traced.settled ⟨rfl, rfl⟩
        | true => exact Traced.settled ⟨rfl, rfl⟩
    · rintro log e ⟨own, same, -⟩
      cases same
    · rintro own log rest r ⟨_, same, made⟩ ⟨rfl, rfl⟩
      cases same
      exact ⟨[⟨log, _⟩], .last made (.inr rfl), by simp⟩
  | succ limit ih =>
    unfold retrying
    refine attempted.lift.bind (S := fun own log r =>
      (isTransient own = false ∧ log = [] ∧ r = own) ∨
      (isTransient own = true ∧ ∃ attempts, Tries P limit attempts r ∧
        log = attempts.flatMap Attempt.exchanges)) ?_ ?_ ?_
    · intro own
      cases own with
      | ok a => exact Traced.settled (.inl ⟨rfl, rfl, rfl⟩)
      | error e =>
        simp only
        cases transient : e.transient with
        | false => exact Traced.settled (.inl ⟨transient, rfl, rfl⟩)
        | true =>
          refine (traced_pause network _).bind (fun _ => ih (retries + 1)) ?_ ?_
          · rintro log e ⟨-, same⟩
            cases same
          · rintro _ log rest r ⟨rfl, -⟩ more
            exact .inr ⟨transient, more⟩
    · rintro log e ⟨own, same, -⟩
      cases same
    · rintro own log rest r ⟨_, same, made⟩ next
      cases same
      rcases next with ⟨ends, rfl, rfl⟩ | ⟨failed, attempts, more, rfl⟩
      · exact ⟨[⟨log, _⟩], .last made (.inl ends), by simp⟩
      · exact ⟨⟨log, own⟩ :: attempts, .again made failed more, by simp⟩

namespace Tries

variable {limit n : Nat} {attempts : List Attempt} {r : Except RepositoryError Answer}
  {a : Attempt}

theorem made (tries : Tries P limit attempts r) : ∀ a ∈ attempts, P a.exchanges a.result := by
  induction tries with
  | last made ends =>
    intro a mem
    rw [List.mem_singleton.mp mem]
    exact made
  | again made failed more ih =>
    intro a mem
    rcases List.mem_cons.mp mem with rfl | mem
    · exact made
    · exact ih a mem

/-- Attempts are given up after a failure that may pass only when all of them are used up. -/
theorem length_eq (tries : Tries P limit attempts r) (failed : isTransient r = true) :
    attempts.length = limit + 1 := by
  induction tries with
  | last made ends =>
    rcases ends with ends | rfl
    · rw [ends] at failed
      cases failed
    · rfl
  | again made own more ih => rw [List.length_cons, ih failed]

theorem lt_length (tries : Tries P limit attempts r) (there : attempts[n]? = some a)
    (failed : isTransient a.result = true) (left : n < limit) : n + 1 < attempts.length := by
  induction tries generalizing n with
  | last made ends =>
    cases n with
    | zero =>
      cases there
      rcases ends with ends | rfl
      · rw [ends] at failed
        cases failed
      · exact absurd left (Nat.not_lt_zero 0)
    | succ n => cases there
  | again made own more ih =>
    rw [List.length_cons]
    cases n with
    | zero => cases more <;> simp
    | succ n =>
      have later := ih there (Nat.lt_of_succ_lt_succ left)
      omega

/-- There is no attempt after one that did not fail in a way that may pass. -/
theorem eq_length (tries : Tries P limit attempts r) (there : attempts[n]? = some a)
    (settled : isTransient a.result = false) : n + 1 = attempts.length := by
  induction tries generalizing n with
  | last made ends =>
    cases n with
    | zero => rfl
    | succ n => cases there
  | again made failed more ih =>
    cases n with
    | zero =>
      cases there
      rw [settled] at failed
      cases failed
    | succ n => rw [List.length_cons, ih there]

end Tries

/-! ### The requests of attempts -/

theorem Inquiry.aimed {settings : RegistrySettings} {i : Inquiry} {q : Request}
    (built : i.request? settings = some q) : Aimed i.url q := by
  unfold request? at built
  cases parsed : Url.parse i.url with
  | error fault =>
    rw [parsed] at built
    cases built
  | ok url =>
    simp only [parsed] at built
    split at built
    · cases built
      refine ⟨url, parsed, ?_⟩
      unfold addressed
      cases url.user? with
      | none => exact .inl rfl
      | some user => exact .inr rfl
    · cases built

theorem Tries.exists_issues {settings : RegistrySettings} {i : Inquiry} {limit : Nat}
    {attempts : List Attempt} {r : Except RepositoryError Answer}
    (tries : Tries (i.Attempted settings) limit attempts r) :
    ∃ requests, Issues (attempts.flatMap Attempt.exchanges) requests ∧
      ∀ q ∈ requests, Aimed i.url q := by
  have one {a : Attempt} (attempted : i.Attempted settings a.exchanges a.result) :
      ∃ requests, Issues a.exchanges requests ∧ ∀ q ∈ requests, Aimed i.url q := by
    obtain ⟨log, result⟩ := a
    cases attempted with
    | unbuilt reason unbuildable => exact ⟨[], .nil, nofun⟩
    | @sent q _ _ built sends =>
      refine ⟨[q], ?_, ?_⟩
      · have issues := Issues.cons sends.chain .nil
        rwa [List.append_nil] at issues
      · intro own mem
        rw [List.mem_singleton.mp mem]
        exact Inquiry.aimed built
  induction tries with
  | last made ends =>
    rw [List.flatMap_singleton]
    exact one made
  | again made failed more ih =>
    obtain ⟨first, issues, aimed⟩ := one made
    obtain ⟨others, more, alike⟩ := ih
    refine ⟨first ++ others, issues.append more, ?_⟩
    intro q mem
    rcases List.mem_append.mp mem with mem | mem
    · exact aimed q mem
    · exact alike q mem

/-! ### How an attempt ends -/

/-- How a network ends an attempt: without an answer, or with one. -/
def Attempt.answer? (a : Attempt) : Option (Option Answer) :=
  a.exchanges.getLast?.map Exchange.answer

theorem redirect?_eq_none {a : Answer} (other : a.status < 300 ∨ 400 ≤ a.status) (url : Url) :
    redirect? url a = none := by
  unfold redirect?
  rw [if_neg]
  simp only [List.mem_cons, List.not_mem_nil, or_false]
  omega

theorem Sends.ne_nil {limit : Nat} {request : Request} {log : List Exchange}
    {r : Except RepositoryError Answer} (sends : Sends limit request log r) : log ≠ [] := by
  obtain ⟨answer, rest, rfl⟩ := sends.chain.exists_cons
  exact List.cons_ne_nil _ rest

/-- What comes of a chain of redirects depends on its end. -/
theorem Sends.outcome {limit : Nat} {request : Request} {log : List Exchange}
    {r : Except RepositoryError Answer} (sends : Sends limit request log r) {e : Exchange}
    (last : log.getLast? = some e) :
    (e.answer = none → isTransient r = true) ∧
      ∀ a, e.answer = some a → a.status < 300 ∨ 400 ≤ a.status → r = .ok a := by
  -- An answer that sends the request on has none of the statuses in question.
  have on {request : Request} {a b : Answer} {next : Except String Url}
      (redirects : redirect? request.url a = some next) (same : some a = some b) :
      ¬ (b.status < 300 ∨ 400 ≤ b.status) := by
    intro other
    cases same
    rw [redirect?_eq_none other] at redirects
    cases redirects
  induction sends with
  | unanswered =>
    cases last
    exact ⟨fun _ => rfl, nofun⟩
  | answered ends =>
    cases last
    refine ⟨nofun, fun a same other => ?_⟩
    cases same
    rfl
  | astray redirects =>
    cases last
    exact ⟨nofun, fun a same other => absurd other (on redirects same)⟩
  | abroad redirects =>
    cases last
    exact ⟨nofun, fun a same other => absurd other (on redirects same)⟩
  | next redirects more ih =>
    rw [List.getLast?_cons_of_ne_nil more.ne_nil] at last
    exact ih last

theorem judge_eq_ok_iff {what : String} {a b : Answer} :
    judge what a = .ok b ↔ a = b ∧ 200 ≤ b.status ∧ b.status < 300 := by
  unfold judge
  by_cases success : 200 ≤ a.status ∧ a.status < 300
  · rw [if_pos success, Except.ok.injEq]
    constructor
    · rintro rfl
      exact ⟨rfl, success⟩
    · exact And.left
  · rw [if_neg success]
    constructor
    · intro judged
      repeat' split at judged
      all_goals cases judged
    · rintro ⟨rfl, own⟩
      exact absurd own success

/-- The statuses of the answers that count as final, and of those that count as passing. -/
theorem isTransient_judge (what : String) (a : Answer) :
    isTransient (judge what a) = true ↔
      ¬ (200 ≤ a.status ∧ a.status < 300) ∧ a.status ∉ [401, 403, 404] := by
  simp only [List.mem_cons, List.not_mem_nil, or_false]
  unfold judge
  by_cases success : 200 ≤ a.status ∧ a.status < 300
  · simp [isTransient, success]
  by_cases refused : a.status = 401 ∨ a.status = 403
  · have final : a.status = 401 ∨ a.status = 403 ∨ a.status = 404 := by omega
    simp [isTransient, RepositoryError.transient, success, refused, final]
  by_cases missing : a.status = 404
  · simp [isTransient, RepositoryError.transient, missing]
  by_cases limited : a.status = 429
  · simp [isTransient, RepositoryError.transient, limited]
  · simp [isTransient, RepositoryError.transient, success, refused, missing, limited]

namespace Inquiry.Attempted

variable {settings : RegistrySettings} {i : Inquiry} {a : Attempt}

theorem exchanges_eq_nil_iff (attempted : i.Attempted settings a.exchanges a.result) :
    a.exchanges = [] ↔ i.request? settings = none := by
  obtain ⟨log, result⟩ := a
  cases attempted with
  | unbuilt reason unbuildable => exact ⟨fun _ => unbuildable, fun _ => rfl⟩
  | sent built sends =>
    constructor
    · intro nothing
      exact absurd nothing sends.ne_nil
    · intro unbuildable
      rw [built] at unbuildable
      cases unbuildable

theorem exists_last {answer : Option Answer} (ends : a.answer? = some answer) :
    ∃ e, a.exchanges.getLast? = some e ∧ e.answer = answer :=
  Option.map_eq_some_iff.mp ends

theorem isTransient_of_unanswered (attempted : i.Attempted settings a.exchanges a.result)
    (ends : a.answer? = some none) : isTransient a.result = true := by
  obtain ⟨e, last, none⟩ := exists_last ends
  obtain ⟨log, result⟩ := a
  cases attempted with
  | unbuilt reason unbuildable => cases last
  | @sent _ _ r built sends =>
    have failed := (sends.outcome last).1 none
    cases r with
    | ok b => cases failed
    | error own => exact failed

theorem result_of_answered (attempted : i.Attempted settings a.exchanges a.result) {b : Answer}
    (ends : a.answer? = some (some b)) (other : b.status < 300 ∨ 400 ≤ b.status) :
    a.result = judge i.what b := by
  obtain ⟨e, last, answered⟩ := exists_last ends
  obtain ⟨log, result⟩ := a
  cases attempted with
  | unbuilt reason unbuildable => cases last
  | sent built sends =>
    change Except.bind _ _ = _
    rw [(sends.outcome last).2 b answered other]
    rfl

end Inquiry.Attempted

/-- A failure that may pass: no answer came, or the registry asked for patience, or it failed
itself. -/
def Attempt.FailsPassing (a : Attempt) : Prop :=
  a.answer? = some none ∨
    ∃ b, a.answer? = some (some b) ∧ (b.status = 429 ∨ 500 ≤ b.status ∧ b.status < 600)

/-- A failure that will not pass: there was nothing to send, or the registry refused it. -/
def Attempt.FailsForGood (a : Attempt) : Prop :=
  a.exchanges = [] ∨
    ∃ b, a.answer? = some (some b) ∧ 400 ≤ b.status ∧ b.status < 500 ∧ b.status ≠ 429

theorem Attempt.FailsPassing.isTransient {settings : RegistrySettings} {i : Inquiry} {a : Attempt}
    (fails : a.FailsPassing) (attempted : i.Attempted settings a.exchanges a.result) :
    isTransient a.result = true := by
  rcases fails with unanswered | ⟨b, answered, status⟩
  · exact attempted.isTransient_of_unanswered unanswered
  · rw [attempted.result_of_answered answered (by omega), isTransient_judge]
    simp only [List.mem_cons, List.not_mem_nil, or_false]
    omega

namespace Tries

variable {settings : RegistrySettings} {i : Inquiry} {limit n : Nat} {attempts : List Attempt}
  {r : Except RepositoryError Answer} {a : Attempt}

theorem repeated (tries : Tries (i.Attempted settings) limit attempts r)
    (there : attempts[n]? = some a) (fails : a.FailsPassing) (left : n < limit) :
    n + 1 < attempts.length :=
  tries.lt_length there (fails.isTransient (tries.made a (List.mem_of_getElem? there))) left

/-- Nothing is sent after a failure that will not pass, if its status is one that is known. -/
theorem abandoned (tries : Tries (i.Attempted settings) limit attempts r)
    (there : attempts[n]? = some a) (fails : a.FailsForGood)
    (known : ∀ b, a.answer? = some (some b) → b.status ∈ [401, 403, 404]) :
    ∀ later ∈ attempts.drop (n + 1), later.exchanges = [] := by
  have attempted := tries.made a (List.mem_of_getElem? there)
  rcases fails with nothing | ⟨b, answered, -⟩
  · intro later mem
    have unbuildable := attempted.exchanges_eq_nil_iff.mp nothing
    exact (tries.made later (List.mem_of_mem_drop mem)).exchanges_eq_nil_iff.mpr unbuildable
  · have refused := known b answered
    have final : isTransient a.result = false := by
      have status : b.status < 300 ∨ 400 ≤ b.status := by
        simp only [List.mem_cons, List.not_mem_nil, or_false] at refused
        omega
      rw [attempted.result_of_answered answered status, Bool.eq_false_iff, ne_eq,
        isTransient_judge]
      exact fun passing => passing.2 refused
    rw [tries.eq_length there final, List.drop_length]
    exact nofun

end Tries

end ArtifactTrust
