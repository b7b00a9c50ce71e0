import ArtifactTrust.Proofs.Registry.Attempts
import Mathlib.Data.Nat.Find
import Mathlib.Order.Bounds.Basic

/-!
# How often an exchange is repeated

The attempts at an exchange as one endless sequence, each in the world that those before it and the
waits leave. A repetition stops at the first place in it at which it can stop.
-/

namespace ArtifactTrust

set_option autoImplicit false

open Registry

variable {σ α : Type}

/-- The places in a sequence of outcomes at which a repetition can stop: the last one that is
allowed, and those of a success or of a failure that will not pass. -/
def endings (limit : Nat) (outcome : Nat → Except RepositoryError α) : Set Nat :=
  {n | n = limit ∨ isTransient (outcome n) = false}

theorem exists_isLeast_endings (limit : Nat) (outcome : Nat → Except RepositoryError α) :
    ∃ k, IsLeast (endings limit outcome) k := by
  have nonempty : ∃ n, n = limit ∨ isTransient (outcome n) = false := ⟨limit, .inl rfl⟩
  exact ⟨Nat.find nonempty, Nat.find_spec nonempty, fun n ends => Nat.find_min' nonempty ends⟩

/-! ### The sequence -/

section Sequence

variable (pause : Delay → StateM σ Unit) (action : ExceptT RepositoryError (StateM σ) α)

/-- The world before an attempt, if every attempt before it was made and every failure was followed
by the wait for the next one. -/
def worldBefore (s : σ) : Nat → σ
  | 0 => s
  | n + 1 =>
    match answer action (worldBefore s n) with
    | (.ok _, t) => t
    | (.error e, t) => ((pause (backoff (n + 1) e)).run t).2

def outcome (s : σ) (n : Nat) : Except RepositoryError α :=
  (answer action (worldBefore pause action s n)).1

end Sequence

section Run

variable {pause : Delay → StateM σ Unit} {action : ExceptT RepositoryError (StateM σ) α} {s t : σ}

theorem answer_retrying_zero (retries : Nat) :
    answer (retrying pause action retries 0) s = answer action s := by
  rw [retrying.eq_def, answer_bind_of_ok (answer_lift_run action s)]
  rcases answer action s with ⟨r, t⟩
  cases r with
  | ok a => rfl
  | error e =>
    simp only
    cases e.transient with
    | false => rfl
    | true => rfl

theorem answer_retrying_of_settled {r : Except RepositoryError α}
    (done : answer action s = (r, t)) (final : isTransient r = false) (retries limit : Nat) :
    answer (retrying pause action retries limit) s = (r, t) := by
  rw [retrying.eq_def, answer_bind_of_ok (answer_lift_run action s), done]
  cases r with
  | ok a => rfl
  | error e =>
    have lasting : e.transient = false := final
    simp only [lasting]
    rfl

theorem answer_retrying_of_transient {e : RepositoryError}
    (failed : answer action s = (.error e, t)) (passes : e.transient = true)
    (retries limit : Nat) :
    answer (retrying pause action retries (limit + 1)) s =
      answer (retrying pause action (retries + 1) limit)
        ((pause (backoff (retries + 1) e)).run t).2 := by
  rw [retrying.eq_def, answer_bind_of_ok (answer_lift_run action s), failed]
  simp only [passes, if_true]
  rw [answer_bind_of_ok (answer_lift _ t)]

theorem outcome_eq_error {n : Nat} (failed : isTransient (outcome pause action s n) = true) :
    ∃ e t, answer action (worldBefore pause action s n) = (.error e, t) ∧ e.transient = true ∧
      worldBefore pause action s (n + 1) = ((pause (backoff (n + 1) e)).run t).2 := by
  unfold outcome at failed
  rcases run : answer action (worldBefore pause action s n) with ⟨r, t⟩
  rw [run] at failed
  cases r with
  | ok a => cases failed
  | error e => exact ⟨e, t, rfl, failed, by rw [worldBefore, run]⟩

/-- The repetition from some place of the sequence on is the attempt at the first place behind it
at which it can stop. -/
theorem answer_retrying_from {n limit k : Nat}
    (first : IsLeast {i | n ≤ i ∧ i ∈ endings (n + limit) (outcome pause action s)} k) :
    answer (retrying pause action n limit) (worldBefore pause action s n) =
      answer action (worldBefore pause action s k) := by
  -- The induction is on the repetitions that are left, while the place where they begin moves on.
  induction limit generalizing n with
  | zero =>
    have here : k = n := Nat.le_antisymm (first.2 ⟨Nat.le_refl n, .inl rfl⟩) first.1.1
    rw [here]
    exact answer_retrying_zero n
  | succ limit ih =>
    cases failed : isTransient (outcome pause action s n) with
    | false =>
      have here : k = n := Nat.le_antisymm (first.2 ⟨Nat.le_refl n, .inr failed⟩) first.1.1
      rw [here]
      exact answer_retrying_of_settled (Prod.eta _).symm failed n (limit + 1)
    | true =>
      obtain ⟨e, t, run, passes, next⟩ := outcome_eq_error failed
      rw [answer_retrying_of_transient run passes, ← next]
      obtain ⟨⟨reached, ends⟩, least⟩ := first
      have place : n + 1 + limit = n + (limit + 1) := by omega
      refine ih ⟨⟨?_, ?_⟩, fun i later => least ⟨Nat.le_of_succ_le later.1, ?_⟩⟩
      · refine Nat.lt_of_le_of_ne reached ?_
        rintro rfl
        rcases ends with last | settled
        · omega
        · rw [failed] at settled
          cases settled
      · rw [place]
        exact ends
      · rw [← place]
        exact later.2

/-- A repetition is the attempt at the least place at which it can stop: the result of that
attempt, and the world that it leaves. -/
theorem answer_retrying {limit k : Nat}
    (first : IsLeast (endings limit (outcome pause action s)) k) :
    answer (retrying pause action 0 limit) s = answer action (worldBefore pause action s k) := by
  refine answer_retrying_from (n := 0) (s := s) ?_
  rw [Nat.zero_add]
  exact ⟨⟨Nat.zero_le k, first.1⟩, fun i ends => first.2 ends.2⟩

end Run

/-! ### Any outcomes -/

/-- An attempt with outcomes that are given, in a world that counts the attempts. -/
def scripted (outcomes : Nat → Except RepositoryError α) :
    ExceptT RepositoryError (StateM Nat) α :=
  ExceptT.mk fun n => (outcomes n, n + 1)

def unpaused : Delay → StateM Nat Unit := fun _ => pure ()

theorem worldBefore_scripted (outcomes : Nat → Except RepositoryError α) (n : Nat) :
    worldBefore unpaused (scripted outcomes) 0 n = n := by
  induction n with
  | zero => rfl
  | succ n ih =>
    rw [worldBefore, ih]
    have run : answer (scripted outcomes) n = (outcomes n, n + 1) := rfl
    rw [run]
    cases outcomes n with
    | ok a => rfl
    | error e => rfl

theorem outcome_scripted (outcomes : Nat → Except RepositoryError α) :
    outcome unpaused (scripted outcomes) 0 = outcomes := by
  funext n
  unfold outcome
  rw [worldBefore_scripted]
  rfl

/-! ### A counter of limited size -/

section Counter

variable {m : Type → Type} [Monad m]

/-- The repetition with a counter of 32 bits, which goes on from zero where it would be too large,
and which is compared with the limit each time. -/
def counting (pause : Delay → m Unit) (action : ExceptT RepositoryError m α)
    (limit retries : UInt32) : ExceptT RepositoryError m α := do
  match ← ExceptT.lift action.run with
  | .ok a => return a
  | .error e =>
    if left : e.transient = true ∧ retries < limit then
      ExceptT.lift (pause (backoff (retries + 1).toNat e))
      counting pause action limit (retries + 1)
    else throw e
termination_by limit.toNat - retries.toNat
decreasing_by
  have := UInt32.lt_iff_toNat_lt.mp left.2
  have := limit.toNat_lt
  rw [UInt32.toNat_add]
  change limit.toNat - (retries.toNat + 1) % 2 ^ 32 < _
  omega

/-- The counter never goes beyond the limit, so it counts what is left as any number does. -/
theorem counting_eq_retrying (pause : Delay → m Unit) (action : ExceptT RepositoryError m α)
    (limit retries : UInt32) :
    counting pause action limit retries =
      retrying pause action retries.toNat (limit.toNat - retries.toNat) := by
  induction hleft : limit.toNat - retries.toNat generalizing retries with
  | zero =>
    have used : ¬ retries < limit := by
      rw [UInt32.lt_iff_toNat_lt]
      omega
    rw [counting, retrying]
    congr 1
    funext r
    cases r with
    | ok a => rfl
    | error e => simp [used]
  | succ left ih =>
    have unused : retries < limit := by
      rw [UInt32.lt_iff_toNat_lt]
      omega
    have small := limit.toNat_lt
    have next : (retries + 1).toNat = retries.toNat + 1 := by
      rw [UInt32.toNat_add]
      change (retries.toNat + 1) % 2 ^ 32 = _
      omega
    rw [counting, retrying]
    congr 1
    funext r
    cases r with
    | ok a => rfl
    | error e =>
      simp only [unused, and_true, dite_eq_ite]
      rw [ih (retries + 1) (by omega), next]

end Counter

/-! ### Requests -/

section Requests

variable (settings : RegistrySettings) (i : Inquiry) (network : Network (StateM σ))

namespace Inquiry

def attemptIn (s : σ) : Attempt :=
  ⟨(answer (attempt network.recorded settings i.method i.url i.accept i.what) ([], s)).2.1,
    (answer (attempt network settings i.method i.url i.accept i.what) s).1⟩

/-- The world before each of the attempts at an inquiry. -/
def worldAt : σ → Nat → σ :=
  worldBefore network.pause (attempt network settings i.method i.url i.accept i.what)

/-- The attempts at an inquiry, as if there were no end to them. -/
def attemptsFrom (s : σ) (n : Nat) : Attempt :=
  i.attemptIn settings network (i.worldAt settings network s n)

theorem attempted_attemptIn (s : σ) :
    i.Attempted settings (i.attemptIn settings network s).exchanges
      (i.attemptIn settings network s).result :=
  ((traced_attempt settings i network).answer_eq [] s).2

end Inquiry

theorem Inquiry.Attempted.head?_eq {settings : RegistrySettings} {i : Inquiry}
    {log : List Exchange} {r : Except RepositoryError Answer}
    (attempted : i.Attempted settings log r) :
    log.head?.map Exchange.request = i.request? settings := by
  cases attempted with
  | unbuilt reason unbuildable => exact unbuildable.symm
  | sent built sends =>
    obtain ⟨answer, rest, rfl⟩ := sends.chain.exists_cons
    exact built.symm

variable {settings : RegistrySettings} {i : Inquiry} {network : Network (StateM σ)}

theorem answer_request {s : σ} {k : Nat}
    (first : IsLeast (endings settings.maxRetries.toNat fun n =>
      (i.attemptsFrom settings network s n).result) k) :
    answer (request network settings i.method i.url i.accept i.what) s =
      answer (attempt network settings i.method i.url i.accept i.what)
        (i.worldAt settings network s k) :=
  answer_retrying first

theorem worldBefore_recorded (before : List Exchange) (s : σ) (n : Nat) :
    worldBefore network.recorded.pause
        (attempt network.recorded settings i.method i.url i.accept i.what) (before, s) n =
      (before ++ (List.range n).flatMap fun j => (i.attemptsFrom settings network s j).exchanges,
        i.worldAt settings network s n) := by
  induction n with
  | zero =>
    rw [List.range_zero, List.flatMap_nil, List.append_nil]
    rfl
  | succ n ih =>
    have twin := ((traced_attempt settings i network).answer_eq
      (before ++ (List.range n).flatMap fun j => (i.attemptsFrom settings network s j).exchanges)
      (i.worldAt settings network s n)).1
    rw [worldBefore, ih, twin, List.range_succ, List.flatMap_append, List.flatMap_singleton,
      ← List.append_assoc]
    unfold Inquiry.worldAt
    rw [worldBefore]
    rcases answer (attempt network settings i.method i.url i.accept i.what)
      (worldBefore network.pause
        (attempt network settings i.method i.url i.accept i.what) s n) with ⟨r, t⟩
    cases r with
    | ok a => rfl
    | error e => rfl

theorem answer_request_recorded {s : σ} {k : Nat}
    (first : IsLeast (endings settings.maxRetries.toNat fun n =>
      (i.attemptsFrom settings network s n).result) k) (before : List Exchange) :
    answer (request network.recorded settings i.method i.url i.accept i.what) (before, s) =
      ((i.attemptsFrom settings network s k).result,
        (before ++ (List.range (k + 1)).flatMap fun n =>
            (i.attemptsFrom settings network s n).exchanges,
          (answer (request network settings i.method i.url i.accept i.what) s).2)) := by
  have asked := answer_request first
  have outcomes : outcome network.recorded.pause
      (attempt network.recorded settings i.method i.url i.accept i.what) (before, s) =
      fun n => (i.attemptsFrom settings network s n).result := by
    funext n
    unfold outcome
    rw [worldBefore_recorded, ((traced_attempt settings i network).answer_eq _ _).1]
    rfl
  rw [← outcomes] at first
  have run := answer_retrying first
  rw [worldBefore_recorded, ((traced_attempt settings i network).answer_eq _ _).1] at run
  rw [asked, List.range_succ, List.flatMap_append, List.flatMap_singleton, ← List.append_assoc]
  exact run

end Requests

/-- Whatever its attempts come to, a request is made of the attempts up to the first one that
succeeds, fails for good or is the last one allowed; it comes to what that one comes to. Each of
its attempts begins with the same request, and a counter of 32 bits is large enough for them. -/
theorem request_attempts :
    (∀ (limit : UInt32) (outcomes : Nat → Except RepositoryError Answer), ∃ k,
      IsLeast (endings limit.toNat outcomes) k ∧
        answer (retrying unpaused (scripted outcomes) 0 limit.toNat) 0 = (outcomes k, k + 1)) ∧
    ∀ (settings : RegistrySettings) (i : Inquiry) (network : Network (StateM σ)) (s : σ),
      request network settings i.method i.url i.accept i.what =
          counting network.pause (attempt network settings i.method i.url i.accept i.what)
            settings.maxRetries 0 ∧
        (∀ n, (i.attemptsFrom settings network s n).exchanges.head?.map Exchange.request =
          i.request? settings) ∧
        ∃ k, IsLeast (endings settings.maxRetries.toNat fun n =>
            (i.attemptsFrom settings network s n).result) k ∧
          answer (request network settings i.method i.url i.accept i.what) s =
            answer (attempt network settings i.method i.url i.accept i.what)
              (i.worldAt settings network s k) ∧
          ∀ before, answer (request network.recorded settings i.method i.url i.accept i.what)
              (before, s) =
            ((i.attemptsFrom settings network s k).result,
              (before ++ (List.range (k + 1)).flatMap fun n =>
                  (i.attemptsFrom settings network s n).exchanges,
                (answer (request network settings i.method i.url i.accept i.what) s).2)) := by
  refine ⟨fun limit outcomes => ?_, fun settings i network s => ⟨?_, fun n => ?_, ?_⟩⟩
  · obtain ⟨k, first⟩ := exists_isLeast_endings limit.toNat outcomes
    refine ⟨k, first, ?_⟩
    rw [← outcome_scripted outcomes] at first
    rw [answer_retrying first, worldBefore_scripted]
    rfl
  · exact (counting_eq_retrying _ _ settings.maxRetries 0).symm
  · exact (i.attempted_attemptIn settings network _).head?_eq
  · obtain ⟨k, first⟩ := exists_isLeast_endings settings.maxRetries.toNat fun n =>
      (i.attemptsFrom settings network s n).result
    exact ⟨k, first, answer_request first, answer_request_recorded first⟩

/-- Two refusals that may pass and then an answer, where three repetitions are allowed. -/
example : answer (retrying unpaused (scripted fun n =>
    if n < 2 then .error (.rateLimited none) else .ok n) 0 3) 0 = (.ok 2, 3) := by
  decide +kernel

end ArtifactTrust
