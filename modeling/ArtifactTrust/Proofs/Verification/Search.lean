import ArtifactTrust.Proofs.Verification.Calls
import Mathlib.Order.Bounds.Basic
import Mathlib.Order.Nat

/-!
# The search for a signature

The search ends at the first step within its limit that is not a rejection, makes no call of a later
step, and where there is no such step it fails for one of two reasons.
-/

namespace ArtifactTrust

set_option autoImplicit false

/-- What becomes of one signature. -/
inductive Verdict where
  | accept (outcome : Outcome)
  | reject
  | abort (cause : VerificationError)
deriving DecidableEq

/-- How a verdict ends the search. A rejection does not. -/
inductive Verdict.Ends : Verdict → Except VerificationError Outcome → Prop where
  | accept (outcome : Outcome) : Ends (.accept outcome) (.ok outcome)
  | abort (cause : VerificationError) : Ends (.abort cause) (.error cause)

/-- The verdict on one signature, the calls made for it, and the state left behind. -/
structure Step (σ : Type) where
  verdict : Verdict
  calls : List Call
  state : σ

namespace Verifier

variable {σ : Type} (verifier : Verifier (StateM σ)) (repository : Repository (StateM σ))
  (options : VerifyOptions) (target : Descriptor)

/-- A signature is rejected if its manifest has no envelope or the verifier says so. Any other
failure is passed on. -/
def step (signature : Descriptor) (s : σ) : Step σ :=
  match answer (repository.fetchManifest signature) s with
  | (.error cause, t) => ⟨.abort (.repository cause), [.fetchManifest signature], t⟩
  | (.ok manifest, t) =>
    match manifest.layers.find? (·.mediaType = MediaType.envelope) with
    | none => ⟨.reject, [.fetchManifest signature], t⟩
    | some layer =>
      match answer (repository.fetchBlob layer) t with
      | (.error cause, u) =>
        ⟨.abort (.repository cause), [.fetchManifest signature, .fetchBlob layer], u⟩
      | (.ok envelope, u) =>
        let calls := [.fetchManifest signature, .fetchBlob layer, .verify target envelope options]
        match answer (verifier.verify target envelope options) u with
        | (.ok outcome, w) => ⟨.accept outcome, calls, w⟩
        | (.error cause, w) => ⟨if cause.isRejection then .reject else .abort cause, calls, w⟩

/-- The steps for signatures one after another, each in the state that the one before leaves. -/
def steps : List Descriptor → σ → List (Step σ)
  | [], _ => []
  | signature :: rest, s =>
    let x := step verifier repository options target signature s
    x :: steps rest x.state

def stateAfter (s : σ) (xs : List (Step σ)) : σ := (xs.getLast?.map Step.state).getD s

/-- The steps within a limit that end a search. -/
def ending (limit : Nat) (xs : List (Step σ)) : Set Nat :=
  {i | i < limit ∧ ∃ x r, xs[i]? = some x ∧ x.verdict.Ends r}

def exhausted (options : VerifyOptions) (limit found : Nat) : NoSignature :=
  if limit < found then .limit options.maxAttempts else .allRejected options.reference

/-- Both sides of a run of the whole verification. -/
def Runs (s : σ) (calls : List Call) (r : Except VerificationError (Descriptor × List Outcome))
    (t : σ) : Prop :=
  Goes (verifier.run repository options) (verifier.recorded.run repository.recorded options) s
    calls r t

end Verifier

def Verdict.attempted : Verdict → Except VerificationError (Option Outcome)
  | accept outcome => .ok (some outcome)
  | reject => .ok none
  | abort cause => .error cause

namespace Verifier

variable {σ : Type} {verifier : Verifier (StateM σ)} {repository : Repository (StateM σ)}
  {options : VerifyOptions} {target : Descriptor}

theorem stateAfter_cons (s : σ) (x : Step σ) (xs : List (Step σ)) :
    stateAfter s (x :: xs) = stateAfter x.state xs := by
  cases xs with
  | nil => rfl
  | cons y ys => simp [stateAfter, List.getLast?_cons]

variable (verifier repository options target) in
theorem goes_attempt (signature : Descriptor) (s : σ) :
    let x := step verifier repository options target signature s
    Goes (verifier.attempt repository options target signature)
      (verifier.recorded.attempt repository.recorded options target signature) s
      x.calls x.verdict.attempted x.state := by
  unfold step attempt
  rcases hm : answer (repository.fetchManifest signature) s with ⟨manifest, t⟩
  have fetched := (Goes.noted (.fetchManifest signature) hm).asking
  cases manifest with
  | error cause => exact fetched.bind_error _ _
  | ok manifest =>
    simp only
    cases hl : manifest.layers.find? (·.mediaType = MediaType.envelope) with
    | none =>
      refine fetched.bind (d := []) ?_
      simp only [hl]
      exact Goes.pure _ t
    | some layer =>
      simp only
      rcases hb : answer (repository.fetchBlob layer) t with ⟨envelope, u⟩
      have blob := (Goes.noted (.fetchBlob layer) hb).asking
      cases envelope with
      | error cause =>
        refine fetched.bind (d := [.fetchBlob layer]) ?_
        simp only [hl]
        exact blob.bind_error _ _
      | ok envelope =>
        simp only
        rcases hv : answer (verifier.verify target envelope options) u with ⟨verdict, w⟩
        have judged := (Goes.noted (.verify target envelope options) hv).lift VerificationError
        cases verdict with
        | ok outcome =>
          refine fetched.bind (d := [.fetchBlob layer, .verify target envelope options]) ?_
          simp only [hl]
          exact blob.bind (judged.bind (d := []) (Goes.pure _ w))
        | error cause =>
          refine fetched.bind (d := [.fetchBlob layer, .verify target envelope options]) ?_
          simp only [hl]
          refine blob.bind (judged.bind (d := []) ?_)
          cases hr : cause.isRejection with
          | true =>
            simp only [hr, if_true]
            exact Goes.pure (.ok none) w
          | false =>
            simp only [hr, Bool.false_eq_true, if_false]
            exact Goes.pure (.error cause) w

theorem goes_search_cons_of_ends {signature : Descriptor} {rest : List Descriptor} {s : σ}
    {limit : Nat} {r : Except VerificationError Outcome}
    (ends : (step verifier repository options target signature s).verdict.Ends r) :
    Goes (verifier.search repository options target (limit + 1) (signature :: rest))
      (verifier.recorded.search repository.recorded options target (limit + 1) (signature :: rest))
      s (step verifier repository options target signature s).calls r
      (step verifier repository options target signature s).state := by
  have attempted := goes_attempt verifier repository options target signature s
  generalize step verifier repository options target signature s = x at attempted ends
  obtain ⟨verdict, calls, t⟩ := x
  simp only at attempted ends ⊢
  rw [← List.append_nil calls]
  cases ends with
  | accept outcome => exact attempted.bind (Goes.pure _ t)
  | abort cause =>
    rw [List.append_nil]
    exact attempted.bind_error _ _

theorem goes_search_cons_of_reject {signature : Descriptor} {rest : List Descriptor} {s t : σ}
    {limit : Nat} {calls : List Call} {r : Except VerificationError Outcome}
    (rejects : (step verifier repository options target signature s).verdict = .reject)
    (goes : Goes (verifier.search repository options target limit rest)
      (verifier.recorded.search repository.recorded options target limit rest)
      (step verifier repository options target signature s).state calls r t) :
    Goes (verifier.search repository options target (limit + 1) (signature :: rest))
      (verifier.recorded.search repository.recorded options target (limit + 1) (signature :: rest))
      s ((step verifier repository options target signature s).calls ++ calls) r t := by
  have attempted := goes_attempt verifier repository options target signature s
  simp only [rejects] at attempted
  exact attempted.bind goes

theorem isLeast_ending_zero {x : Step σ} {xs : List (Step σ)} {limit k : Nat}
    {r : Except VerificationError Outcome} (ends : x.verdict.Ends r)
    (first : IsLeast (ending (limit + 1) (x :: xs)) k) : k = 0 :=
  Nat.le_zero.mp (first.2 ⟨Nat.succ_pos limit, x, r, rfl, ends⟩)

theorem isLeast_ending_succ {x : Step σ} {xs : List (Step σ)} {limit k : Nat}
    (rejects : x.verdict = .reject) (first : IsLeast (ending (limit + 1) (x :: xs)) k) :
    ∃ j, k = j + 1 ∧ IsLeast (ending limit xs) j := by
  obtain ⟨⟨hk, y, r, hy, ends⟩, least⟩ := first
  cases k with
  | zero =>
    cases hy
    rw [rejects] at ends
    cases ends
  | succ j =>
    refine ⟨j, rfl, ⟨Nat.lt_of_succ_lt_succ hk, y, r, by simpa using hy, ends⟩, ?_⟩
    rintro i ⟨hi, z, q, hz, endsz⟩
    have := least (show i + 1 ∈ ending (limit + 1) (x :: xs) from
      ⟨Nat.succ_lt_succ hi, z, q, by simpa using hz, endsz⟩)
    omega

theorem reject_of_not_ends {v : Verdict} (h : ∀ r, ¬ v.Ends r) : v = .reject := by
  cases v with
  | accept outcome => exact absurd (.accept outcome) (h _)
  | reject => rfl
  | abort cause => exact absurd (.abort cause) (h _)

/-- The search ends at the first step that ends it, and the steps behind that one are not made. -/
theorem goes_search_of_isLeast {signatures : List Descriptor} {s : σ} {limit k : Nat}
    {x : Step σ} {r : Except VerificationError Outcome}
    (first : IsLeast
      (ending limit (steps verifier repository options target signatures s)) k)
    (found : (steps verifier repository options target signatures s)[k]? = some x)
    (ends : x.verdict.Ends r) :
    Goes (verifier.search repository options target limit signatures)
      (verifier.recorded.search repository.recorded options target limit signatures) s
      (((steps verifier repository options target signatures s).take (k + 1)).flatMap Step.calls)
      r x.state := by
  induction signatures generalizing s limit k with
  | nil => simp [steps] at found
  | cons signature rest ih =>
    cases limit with
    | zero => exact absurd first.1.1 (Nat.not_lt_zero k)
    | succ limit =>
      by_cases h : ∃ q, (step verifier repository options target signature s).verdict.Ends q
      · obtain ⟨q, hq⟩ := h
        obtain rfl := isLeast_ending_zero hq first
        cases found
        simpa [steps] using goes_search_cons_of_ends ends
      · have rejects := reject_of_not_ends (not_exists.mp h)
        obtain ⟨j, rfl, later⟩ := isLeast_ending_succ rejects first
        simp only [steps, List.take_succ_cons, List.flatMap_cons]
        exact goes_search_cons_of_reject rejects (ih later (by simpa [steps] using found))

/-- Where no step within the limit ends the search, all of them are made. -/
theorem goes_search_of_empty {signatures : List Descriptor} {s : σ} {limit : Nat}
    (none : ending limit (steps verifier repository options target signatures s) = ∅) :
    Goes (verifier.search repository options target limit signatures)
      (verifier.recorded.search repository.recorded options target limit signatures) s
      (((steps verifier repository options target signatures s).take limit).flatMap Step.calls)
      (.error (.rejected (exhausted options limit signatures.length).message))
      (stateAfter s ((steps verifier repository options target signatures s).take limit)) := by
  induction signatures generalizing s limit with
  | nil =>
    have reason : exhausted options limit ([] : List Descriptor).length =
        .allRejected options.reference := if_neg (Nat.not_lt_zero limit)
    rw [reason, steps, List.take_nil]
    simp only [search]
    exact Goes.pure (.error _) s
  | cons signature rest ih =>
    cases limit with
    | zero =>
      have reason : exhausted options 0 (signature :: rest).length =
          .limit options.maxAttempts := if_pos (Nat.succ_pos rest.length)
      rw [reason, List.take_zero]
      exact Goes.pure (.error _) s
    | succ limit =>
      have rejects : (step verifier repository options target signature s).verdict = .reject := by
        apply reject_of_not_ends
        intro q hq
        have : 0 ∈ ending (limit + 1)
            (steps verifier repository options target (signature :: rest) s) :=
          ⟨Nat.succ_pos limit, _, q, rfl, hq⟩
        rw [none] at this
        exact this
      have later : ending limit (steps verifier repository options target rest
          (step verifier repository options target signature s).state) = ∅ := by
        refine Set.eq_empty_of_forall_notMem ?_
        rintro i ⟨hi, z, q, hz, hq⟩
        have : i + 1 ∈ ending (limit + 1)
            (steps verifier repository options target (signature :: rest) s) :=
          ⟨Nat.succ_lt_succ hi, z, q, by simpa [steps] using hz, hq⟩
        rw [none] at this
        exact this
      simp only [steps, List.take_succ_cons, List.flatMap_cons, stateAfter_cons]
      have := goes_search_cons_of_reject rejects (ih later)
      simpa [exhausted] using this

/-! ### How often the verifier is called -/

theorem bounded_step (signature : Descriptor) (s : σ) :
    Bounded options 1 (step verifier repository options target signature s).calls := by
  unfold step
  rcases answer (repository.fetchManifest signature) s with ⟨manifest, t⟩
  cases manifest with
  | error cause => exact ⟨Nat.zero_le 1, by simp [Call.options?]⟩
  | ok manifest =>
    simp only
    cases manifest.layers.find? (·.mediaType = MediaType.envelope) with
    | none => exact ⟨Nat.zero_le 1, by simp [Call.options?]⟩
    | some layer =>
      simp only
      rcases answer (repository.fetchBlob layer) t with ⟨envelope, u⟩
      cases envelope with
      | error cause => exact ⟨Nat.zero_le 1, by simp [Call.options?]⟩
      | ok envelope =>
        simp only
        rcases answer (verifier.verify target envelope options) u with ⟨verdict, w⟩
        cases verdict with
        | ok outcome => exact ⟨Nat.le_refl 1, by simp [Call.options?]⟩
        | error cause => exact ⟨Nat.le_refl 1, by simp [Call.options?]⟩

theorem bounded_steps (n : Nat) (signatures : List Descriptor) (s : σ) :
    Bounded options n
      (((steps verifier repository options target signatures s).take n).flatMap Step.calls) := by
  induction signatures generalizing n s with
  | nil => exact ⟨by simp [steps], by simp [steps]⟩
  | cons signature rest ih =>
    cases n with
    | zero => exact ⟨by simp, by simp⟩
    | succ n =>
      simp only [steps, List.take_succ_cons, List.flatMap_cons]
      rw [Nat.add_comm]
      exact (bounded_step signature s).append (ih n _)

variable (verifier repository options target) in
/-- Whatever its end, a search puts no more envelopes to the verifier than its limit. -/
theorem exists_goes_search (limit : Nat) (signatures : List Descriptor) (s : σ) :
    ∃ calls r t,
      Goes (verifier.search repository options target limit signatures)
        (verifier.recorded.search repository.recorded options target limit signatures) s
        calls r t ∧ Bounded options limit calls := by
  rcases Set.eq_empty_or_nonempty
    (ending limit (steps verifier repository options target signatures s)) with none | some
  · exact ⟨_, _, _, goes_search_of_empty none, bounded_steps limit signatures s⟩
  · classical
    have first := some.isLeast_natFind
    obtain ⟨hk, x, r, found, ends⟩ := first.1
    refine ⟨_, _, _, goes_search_of_isLeast first found ends, ?_⟩
    exact (bounded_steps _ signatures s).mono hk

end Verifier

end ArtifactTrust
