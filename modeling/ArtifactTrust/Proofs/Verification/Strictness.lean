import ArtifactTrust.Proofs.Policy.Rules
import ArtifactTrust.Proofs.Verification.Masking

/-!
# Weaker policies

The weaker policy accepts what the stronger one accepts. Until it accepts, both runs reject the same
signatures and leave the same state behind.
-/

namespace ArtifactTrust

set_option autoImplicit false

variable {σ : Type}

/-- How much a check may reject under an action. -/
def Action.strength : Action → Nat
  | .skip => 0
  | .log => 1
  | .enforce => 2

theorem Action.strength_le (a : Action) : a.strength ≤ Action.enforce.strength := by
  cases a <;> decide

theorem Action.enforce_of_strength_le {a : Action}
    (h : Action.enforce.strength ≤ a.strength) : a = .enforce := by
  cases a with
  | enforce => rfl
  | log => exact absurd h (by decide)
  | skip => exact absurd h (by decide)

namespace Statement

/-- No check may reject more under one statement than under the other. -/
def NoStronger (w s : Statement) : Prop :=
  ∀ check, (w.action check).strength ≤ (s.action check).strength

theorem action_of_unskipped {s : Statement} (h : s.level ≠ .skip) (check : Check) :
    s.action check = (s.overrides.get? check).getD (s.level.action check) := if_neg h

theorem action_of_skipped {s : Statement} (h : s.level = .skip) (check : Check) :
    s.action check = .skip := if_pos h

theorem action_integrity {s : Statement} (fixed : s.overrides.integrity = none)
    (h : s.level ≠ .skip) : s.action .integrity = .enforce := by
  rw [action_of_unskipped h, show s.overrides.get? .integrity = none from fixed,
    Option.getD_none]
  cases hl : s.level with
  | skip => exact absurd hl h
  | strict => rfl
  | permissive => rfl
  | audit => rfl

/-- Only a skipped verification is no stronger than a skipped one, as integrity is enforced at
any other level. -/
theorem NoStronger.skip {w s : Statement} (weaker : w.NoStronger s)
    (fixed : w.overrides.integrity = none) (skips : s.level = .skip) : w.level = .skip := by
  by_contra h
  have weak := weaker .integrity
  rw [action_integrity fixed h, action_of_skipped skips] at weak
  exact absurd weak (by decide)

theorem noStronger_of_strict {w s : Statement} (strict : s.level = .strict)
    (alike : w.overrides = s.overrides) : w.NoStronger s := by
  intro check
  by_cases skips : w.level = .skip
  · rw [action_of_skipped skips]
    exact Nat.zero_le _
  have judges : s.level ≠ .skip := by
    rw [strict]
    decide
  rw [action_of_unskipped skips, action_of_unskipped judges, alike]
  cases s.overrides.get? check with
  | some action => exact Nat.le_refl _
  | none =>
    have enforced : s.level.action check = .enforce := by
      rw [strict]
      cases check <;> rfl
    rw [Option.getD_none, Option.getD_none, enforced]
    exact Action.strength_le _

end Statement

namespace Policy

/-- Two policies that differ in nothing but the level and the overrides of the statement that
governs a reference. -/
structure Regraded (p q : Policy) (reference : String) (s w : Statement) : Prop where
  governs : p.statement? reference = some s
  version : q.version = p.version
  statements : ∃ before after, p.statements = before ++ s :: after ∧
    q.statements = before ++ w :: after
  restated : w = { s with level := w.level, overrides := w.overrides }

theorem find?_replaced {f : Statement → Bool} {before after : List Statement}
    {s w : Statement} (fresh : s ∉ before) (same : f w = f s)
    (found : (before ++ s :: after).find? f = some s) :
    (before ++ w :: after).find? f = some w := by
  rw [List.find?_append] at found ⊢
  cases earlier : before.find? f with
  | some e =>
    rw [earlier, Option.some_or] at found
    cases found
    exact absurd (List.mem_of_find?_eq_some earlier) fresh
  | none =>
    have holds : f s = true := by
      rw [earlier, Option.none_or] at found
      exact List.find?_some found
    rw [Option.none_or, List.find?_cons_of_pos (same.trans holds)]

theorem find?_replaced_none {f : Statement → Bool} {before after : List Statement}
    {s w : Statement} (same : f w = f s) (absent : (before ++ s :: after).find? f = none) :
    (before ++ w :: after).find? f = none := by
  rw [List.find?_eq_none] at absent ⊢
  intro x mem
  rcases List.mem_append.mp mem with mem | mem
  · exact absent x (List.mem_append_left _ mem)
  rcases List.mem_cons.mp mem with rfl | mem
  · rw [same]
    exact absent s (List.mem_append_right _ List.mem_cons_self)
  · exact absent x (List.mem_append_right _ (List.mem_cons_of_mem _ mem))

variable {p q : Policy} {reference : String} {s w : Statement}

/-- The statement stays the governing one, as it is chosen by its scopes and no two statements
of a valid policy are the same. -/
theorem Regraded.governs_weaker (regraded : p.Regraded q reference s w) (valid : p.check = .ok ()) :
    q.statement? reference = some w := by
  obtain ⟨before, after, hp, hq⟩ := regraded.statements
  obtain ⟨-, -, checked⟩ := check_eq_ok_iff.mp valid
  rw [hp] at checked
  obtain ⟨-, names, -⟩ := checkStatement_eq_ok_iff.mp (checkStatement_of_append checked)
  have fresh : s ∉ before := fun mem => names s (by simpa using mem) rfl
  have scopes : w.scopes = s.scopes := by rw [regraded.restated]
  have wildcard : w.isWildcard = s.isWildcard := by
    unfold Statement.isWildcard
    rw [scopes]
  have governs := regraded.governs
  unfold statement? governing? at governs ⊢
  rw [hp] at governs
  rw [hq]
  have lists : w.scopes.contains (scopeOf reference) = s.scopes.contains (scopeOf reference) := by
    rw [scopes]
  cases listed : (before ++ s :: after).find? (·.scopes.contains (scopeOf reference)) with
  | some e =>
    rw [listed, Option.some_or] at governs
    cases governs
    rw [find?_replaced (f := fun e => e.scopes.contains (scopeOf reference)) fresh lists listed,
      Option.some_or]
  | none =>
    rw [listed, Option.none_or] at governs
    rw [find?_replaced_none (f := fun e => e.scopes.contains (scopeOf reference)) lists listed,
      Option.none_or, find?_replaced fresh wildcard governs]

theorem Regraded.integrity (regraded : p.Regraded q reference s w) (valid : q.check = .ok ()) :
    w.overrides.integrity = none := by
  obtain ⟨before, after, -, hq⟩ := regraded.statements
  obtain ⟨-, -, checked⟩ := check_eq_ok_iff.mp valid
  rw [hq] at checked
  exact (checkStatement_eq_ok_iff.mp (checkStatement_of_append checked)).2.2.2.1

end Policy

namespace Verifier

variable {strong weak : Verifier (StateM σ)} {repository : Repository (StateM σ)}
  {options : VerifyOptions} {target : Descriptor} {signatures : List Descriptor} {s t : σ}

/-- A verifier that accepts what the other one accepts, decides whatever the other one decides,
and leaves the same state behind. -/
structure Admits (weak strong : Verifier (StateM σ)) (options : VerifyOptions) : Prop where
  accepts : ∀ target document s outcome t,
    answer (strong.verify target document options) s = (.ok outcome, t) →
      ∃ own, answer (weak.verify target document options) s = (.ok own, t)
  rejects : ∀ target document s cause t,
    answer (strong.verify target document options) s = (.error cause, t) →
      cause.isRejection = true →
      (∃ own, answer (weak.verify target document options) s = (.ok own, t)) ∨
        ∃ own, own.isRejection = true ∧
          answer (weak.verify target document options) s = (.error own, t)

/-- What the weaker verifier makes of a signature that the stronger one accepts or rejects. -/
inductive Eased : Verdict → Verdict → Prop where
  | accept (outcome own : Outcome) : Eased (.accept outcome) (.accept own)
  | relax (own : Outcome) : Eased .reject (.accept own)
  | reject : Eased .reject .reject

theorem eased_step (admits : weak.Admits strong options) {signature : Descriptor}
    (settled : ∀ cause,
      (step strong repository options target signature s).verdict ≠ .abort cause) :
    Eased (step strong repository options target signature s).verdict
        (step weak repository options target signature s).verdict ∧
      (step weak repository options target signature s).state =
        (step strong repository options target signature s).state := by
  revert settled
  unfold step
  rcases answer (repository.fetchManifest signature) s with ⟨manifest, t⟩
  cases manifest with
  | error cause => exact fun settled => absurd rfl (settled _)
  | ok manifest =>
    simp only
    cases manifest.layers.find? (·.mediaType = MediaType.envelope) with
    | none => exact fun _ => ⟨.reject, rfl⟩
    | some layer =>
      simp only
      rcases answer (repository.fetchBlob layer) t with ⟨document, u⟩
      cases document with
      | error cause => exact fun settled => absurd rfl (settled _)
      | ok document =>
        simp only
        rcases judged : answer (strong.verify target document options) u with ⟨verdict, w⟩
        intro settled
        cases verdict with
        | ok outcome =>
          obtain ⟨own, accepted⟩ := admits.accepts target document u outcome w judged
          rw [accepted]
          exact ⟨.accept outcome own, rfl⟩
        | error cause =>
          cases rejection : cause.isRejection with
          | false =>
            simp only [rejection, Bool.false_eq_true, if_false] at settled
            exact absurd rfl (settled cause)
          | true =>
            simp only [rejection, if_true]
            rcases admits.rejects target document u cause w judged rejection with
              ⟨own, accepted⟩ | ⟨own, rejected, decided⟩
            · rw [accepted]
              exact ⟨.relax own, rfl⟩
            · rw [decided]
              simp only [rejected, if_true]
              exact ⟨.reject, trivial⟩

theorem answer_search_cons_of_reject {signature : Descriptor} {rest : List Descriptor}
    (rejects : (step strong repository options target signature s).verdict = .reject)
    (limit : Nat) :
    answer (strong.search repository options target (limit + 1) (signature :: rest)) s =
      answer (strong.search repository options target limit rest)
        (step strong repository options target signature s).state := by
  obtain ⟨c, r, u, goes, -⟩ := exists_goes_search strong repository options target limit rest
    (step strong repository options target signature s).state
  rw [(goes_search_cons_of_reject rejects goes).answers, goes.answers]

/-- The two searches go side by side up to the first signature that the weaker one accepts. -/
theorem search_of_admits (admits : weak.Admits strong options) {limit : Nat} {outcome : Outcome}
    (found : answer (strong.search repository options target limit signatures) s =
      (.ok outcome, t)) :
    ∃ own u, answer (weak.search repository options target limit signatures) s = (.ok own, u) := by
  induction signatures generalizing limit s with
  | nil =>
    unfold search at found
    cases found
  | cons signature rest ih =>
    cases limit with
    | zero => cases found
    | succ limit =>
      -- The stronger search is past this signature, so its step was no abort.
      have settled (cause : VerificationError) :
          (step strong repository options target signature s).verdict ≠ .abort cause := by
        intro aborts
        have ends : (step strong repository options target signature s).verdict.Ends
            (.error cause) := aborts ▸ .abort cause
        rw [(goes_search_cons_of_ends ends).answers] at found
        cases found
      obtain ⟨eased, same⟩ := eased_step admits settled
      have accepted {own : Outcome}
          (accepts : (step weak repository options target signature s).verdict = .accept own) :
          ∃ own u, answer (weak.search repository options target (limit + 1) (signature :: rest))
            s = (.ok own, u) := by
        have ends : (step weak repository options target signature s).verdict.Ends (.ok own) :=
          accepts ▸ .accept own
        exact ⟨own, _, (goes_search_cons_of_ends ends).answers⟩
      generalize strongly : (step strong repository options target signature s).verdict = a
        at eased
      generalize weakly : (step weak repository options target signature s).verdict = b at eased
      cases eased with
      | accept outcome own => exact accepted weakly
      | relax own => exact accepted weakly
      | reject =>
        rw [answer_search_cons_of_reject strongly, ← same] at found
        rw [answer_search_cons_of_reject weakly]
        exact ih found

end Verifier

namespace KeyVerifier

open Verifier

variable {v : KeyVerifier} {q : Policy} {s w : Statement} {options : VerifyOptions}
  {clock : StateM σ Time.Instant} {repository : Repository (StateM σ)}

theorem Accepts.weaken {now : Time.Instant} {target : Descriptor} {document : ByteArray}
    {o : Envelope.Opened} (stores : w.trustStores = s.trustStores) (weaker : w.NoStronger s)
    (accepts : Accepts v now s target document options o) :
    Accepts { v with policy := q } now w target document options o := by
  have enforced {check : Check} (h : w.action check = .enforce) : s.action check = .enforce :=
    Action.enforce_of_strength_le (h ▸ weaker check)
  refine ⟨accepts.isFor, ?_, fun h => accepts.unexpired (enforced h), accepts.metadata⟩
  intro h
  rw [stores]
  exact accepts.authentic (enforced h)

theorem admits_of_noStronger (governs : v.policy.statement? options.reference = some s)
    (judges : s.level ≠ .skip) (governsWeaker : q.statement? options.reference = some w)
    (judgesWeaker : w.level ≠ .skip) (stores : w.trustStores = s.trustStores)
    (weaker : w.NoStronger s) :
    Admits ({ v with policy := q }.withClock clock) (v.withClock clock) options := by
  refine ⟨?_, ?_⟩
  · intro target document u outcome t accepted
    rw [answer_withClock_verify, verify_of_governed governs judges] at accepted
    rw [answer_withClock_verify, verify_of_governed governsWeaker judgesWeaker]
    cases judged : v.judge (clock.run u).1 s target document options with
    | error rejection =>
      rw [judged] at accepted
      cases accepted
    | ok found =>
      obtain ⟨o, accepts, -⟩ := accepts_of_judge judged
      obtain ⟨own, h⟩ := exists_judge_of_accepts (accepts.weaken (q := q) stores weaker)
      have left : (clock.run u).2 = t := congrArg Prod.snd accepted
      rw [h, left]
      exact ⟨own, rfl⟩
  · intro target document u cause t rejected _
    have left : (clock.run u).2 = t := congrArg Prod.snd rejected
    rw [answer_withClock_verify]
    rcases verify_cases (v := { v with policy := q }) governsWeaker judgesWeaker (clock.run u).1
      target document with ⟨own, h⟩ | ⟨message, h⟩
    · exact .inl ⟨own, Prod.ext h left⟩
    · exact .inr ⟨.rejected message, rfl, Prod.ext h left⟩

theorem answer_skipLevel_of_skip (governs : v.policy.statement? options.reference = some s)
    (skips : s.level = .skip) (u : σ) :
    answer ((v.withClock clock).skipLevel options) u = (.ok (some .skip), u) := by
  rw [answer_withClock_level]
  unfold skipLevel
  rw [statement_eq_ok_iff.mpr governs, bind_ok, if_pos skips, skips]
  rfl

theorem run_of_noStronger {target : Descriptor} {outcomes : List Outcome} {s₀ t : σ}
    (governs : v.policy.statement? options.reference = some s)
    (governsWeaker : q.statement? options.reference = some w)
    (stores : w.trustStores = s.trustStores) (fixed : w.overrides.integrity = none)
    (weaker : w.NoStronger s)
    (succeeds : answer ((v.withClock clock).run repository options) s₀ =
      (.ok (target, outcomes), t)) :
    ∃ own u, answer (({ v with policy := q }.withClock clock).run repository options) s₀ =
      (.ok (target, own), u) := by
  obtain ⟨digest, s₁, level, s₂, pinned, resolves, asked, ended⟩ := found_of_run succeeds
  by_cases skips : w.level = .skip
  · have skipped : answer (({ v with policy := q }.withClock clock).skipLevel options) s₁ =
        (.ok (some .skip), s₁) := answer_skipLevel_of_skip governsWeaker skips s₁
    exact ⟨_, _, (runs_of_resolved pinned resolves
      (goes_settleResolved_of_skipped skipped)).answers⟩
  have judges : s.level ≠ .skip := fun h => skips (weaker.skip fixed h)
  rw [answer_withClock_skipLevel governs judges] at asked
  cases asked
  rcases ended with ⟨skipped, -⟩ | ⟨-, signatures, s₃, outcome, -, lists, found⟩
  · cases skipped
  have admits : Admits ({ v with policy := q }.withClock clock) (v.withClock clock) options :=
    admits_of_noStronger governs judges governsWeaker skips stores weaker
  obtain ⟨own, u, searched⟩ := search_of_admits admits found
  have unskipped := answer_withClock_skipLevel (v := { v with policy := q }) governsWeaker skips
    clock s₁
  exact ⟨[own], u, (answer_run_eq_ok_iff pinned resolves unskipped lists).mpr
    ⟨rfl, own, rfl, searched⟩⟩

/-- A verification that succeeds under a policy succeeds, for the same artifact, under one whose
governing statement is no stronger for any check. Coming from the strict level that is any level,
as long as the overrides stay. -/
theorem succeeds_weakened {target : Descriptor} {outcomes : List Outcome} {s₀ t : σ}
    (valid : v.policy.check = .ok ()) (validWeaker : q.check = .ok ())
    (regraded : v.policy.Regraded q options.reference s w)
    (succeeds : answer ((v.withClock clock).run repository options) s₀ =
      (.ok (target, outcomes), t)) :
    (w.NoStronger s →
      ∃ own u, answer (({ v with policy := q }.withClock clock).run repository options) s₀ =
        (.ok (target, own), u)) ∧
    (s.level = .strict → w.overrides = s.overrides →
      ∃ own u, answer (({ v with policy := q }.withClock clock).run repository options) s₀ =
        (.ok (target, own), u)) := by
  have stores : w.trustStores = s.trustStores := by rw [regraded.restated]
  have succeedsWeaker (weaker : w.NoStronger s) := run_of_noStronger regraded.governs
    (regraded.governs_weaker valid) stores (regraded.integrity validWeaker) weaker succeeds
  exact ⟨succeedsWeaker, fun strict alike =>
    succeedsWeaker (Statement.noStronger_of_strict strict alike)⟩

def auditStatement : Statement := { sampleStatement with level := .audit }

/-- What passes at the strict level passes an audit, which ends at the untrusted signature. -/
theorem succeeds_weakened_audit :
    ∃ target own u,
      answer (({ sampleVerifier with policy := ⟨"1.0", [auditStatement]⟩ }.withClock
        (pure sampleNow)).run (attachedRepository ["forged", "bare", "untrusted", "good"])
          attachedOptions) () =
          (.ok (target, own), u) := by
  have regraded : sampleVerifier.policy.Regraded ⟨"1.0", [auditStatement]⟩
      attachedOptions.reference sampleStatement auditStatement :=
    ⟨attached_governed, rfl, ⟨[], [], rfl, rfl⟩, rfl⟩
  have strictly : Succeeds (sampleVerifier.withClock (pure sampleNow))
      (attachedRepository ["forged", "bare", "untrusted", "good"]) attachedOptions () :=
    (succeeds_iff_of_holds attached_governed (by decide) attached_pinned
      (holds_attachedRepository _ sampleDigest) (by decide) (fun _ => rfl) ()).mpr
        ⟨attached "good", by simp, _, rfl, attached_good⟩
  obtain ⟨⟨target, outcomes⟩, t, succeeds⟩ := strictly
  exact ⟨target, (succeeds_weakened (by decide +kernel) (by decide +kernel) regraded
    succeeds).2 rfl rfl⟩

end KeyVerifier

end ArtifactTrust
