import ArtifactTrust.Policy.Document
import ArtifactTrust.Proofs.Except
import ArtifactTrust.Proofs.Text.Cut

/-!
# The rules for a trust policy

The checks go statement by statement. Behind that order are rules for each statement and for the
names and scopes of the whole document.
-/

namespace ArtifactTrust

set_option autoImplicit false

open Text

namespace Policy

theorem check_eq_ok_iff {p : Policy} :
    p.check = .ok () ↔
      p.version = supportedVersion ∧ p.statements ≠ [] ∧
      checkStatements [] p.statements = .ok () := by
  unfold check
  simp only [refuse_bind_eq_ok_iff, List.isEmpty_iff, ne_eq, Decidable.not_not]

theorem checkStatement_eq_ok_iff {earlier : List Statement} {s : Statement} :
    checkStatement earlier s = .ok () ↔
      (trim s.name.toList) ≠ [] ∧ (∀ e ∈ earlier, e.name ≠ s.name) ∧
      checkAllScopes earlier s = .ok () ∧ s.overrides.integrity = none ∧
      (s.level ≠ .skip → s.trustStores ≠ []) := by
  unfold checkStatement
  simp only [refuse_bind_eq_ok_iff, seq_eq_ok_iff, refuse_eq_ok_iff, List.isEmpty_iff,
    List.any_eq_true, decide_eq_true_eq, not_exists, not_and, Bool.not_eq_true,
    Option.isSome_eq_false_iff, Option.isNone_iff_eq_none, ne_eq]

/-- Each statement was checked behind those before it, the nearest one first. -/
theorem checkStatement_of_append {earlier before after : List Statement} {s : Statement}
    (h : checkStatements earlier (before ++ s :: after) = .ok ()) :
    checkStatement (before.reverse ++ earlier) s = .ok () := by
  induction before generalizing earlier with
  | nil => exact (seq_eq_ok_iff.mp h).1
  | cons first rest ih =>
    rw [List.reverse_cons, List.append_assoc]
    exact ih (seq_eq_ok_iff.mp h).2

theorem checkStatement_of_mem {earlier statements : List Statement} {s : Statement}
    (h : checkStatements earlier statements = .ok ()) (mem : s ∈ statements) :
    ∃ before, checkStatement before s = .ok () := by
  obtain ⟨before, after, rfl⟩ := List.append_of_mem mem
  exact ⟨_, checkStatement_of_append h⟩

theorem isScope_of_checkScopes {name scope : String} {used scopes : List String}
    (h : checkScopes name used scopes = .ok ()) (mem : scope ∈ scopes) : isScope scope = true := by
  induction scopes generalizing used with
  | nil => cases mem
  | cons first rest ih =>
    unfold checkScopes at h
    split at h
    · cases h
    rename_i hs
    split at h
    · cases h
    rcases List.mem_cons.mp mem with rfl | mem
    · simpa using hs
    · exact ih h mem

theorem scopes_of_checkAllScopes {earlier : List Statement} {s : Statement}
    (h : checkAllScopes earlier s = .ok ()) :
    s.scopes = [Statement.wildcard] ∨
      s.isWildcard = false ∧ ∀ scope ∈ s.scopes, isScope scope = true := by
  unfold checkAllScopes at h
  split at h
  · cases h
  rename_i hne
  split at h
  · rename_i hw
    split at h
    · cases h
    rename_i hl
    left
    unfold Statement.isWildcard at hw
    match hs : s.scopes with
    | [] => simp [hs] at hne
    | [scope] =>
      rw [hs] at hw
      simpa [eq_comm] using hw
    | _ :: _ :: _ => simp [hs] at hl
  · rename_i hw
    exact .inr ⟨by simpa using hw, fun scope mem => isScope_of_checkScopes h mem⟩

section Valid

variable {p : Policy} (valid : p.check = .ok ()) {s : Statement}
include valid

theorem scopes_of_mem (mem : s ∈ p.statements) :
    s.scopes = [Statement.wildcard] ∨
      s.isWildcard = false ∧ ∀ scope ∈ s.scopes, isScope scope = true := by
  obtain ⟨-, -, checked⟩ := check_eq_ok_iff.mp valid
  obtain ⟨before, hs⟩ := checkStatement_of_mem checked mem
  obtain ⟨-, -, hc, -⟩ := checkStatement_eq_ok_iff.mp hs
  exact scopes_of_checkAllScopes hc

theorem at_notMem_of_mem_scopes (mem : s ∈ p.statements) {scope : String}
    (lists : scope ∈ s.scopes) : '@' ∉ scope.toList := by
  rcases scopes_of_mem valid mem with wild | ⟨-, all⟩
  · rw [wild, List.mem_singleton] at lists
    rw [lists]
    decide
  · intro holds
    have clean := all scope lists
    unfold isScope at clean
    simp only [Bool.and_eq_true, List.all_eq_true] at clean
    exact absurd (clean.2 '@' holds) (by decide)

/-! ### Which statement governs -/

theorem governing?_of_at_mem {scope : String} (holds : '@' ∈ scope.toList) :
    p.governing? scope = p.statements.find? Statement.isWildcard := by
  have unlisted : p.statements.find? (·.scopes.contains scope) = none := by
    apply List.find?_eq_none.mpr
    intro s mem lists
    exact at_notMem_of_mem_scopes valid mem (List.contains_iff_mem.mp lists) holds
  unfold governing?
  rw [unlisted, Option.none_or]

theorem wildcard_eq_governing?_iff {scope : String} :
    p.statements.find? Statement.isWildcard = p.governing? scope ↔
      scope = Statement.wildcard ∨ ∀ s ∈ p.statements, scope ∉ s.scopes := by
  unfold governing?
  cases h : p.statements.find? (·.scopes.contains scope) with
  | none =>
    rw [Option.none_or]
    refine iff_of_true rfl (.inr fun s mem lists => ?_)
    exact List.find?_eq_none.mp h s mem (List.contains_iff_mem.mpr lists)
  | some s =>
    rw [Option.some_or]
    have lists : scope ∈ s.scopes := by simpa using List.find?_some h
    have mem := List.mem_of_find?_eq_some h
    constructor
    · intro wild
      left
      rcases scopes_of_mem valid mem with alone | ⟨other, -⟩
      · rw [alone, List.mem_singleton] at lists
        exact lists
      · rw [List.find?_some wild] at other
        cases other
    · rintro (rfl | unlisted)
      · exact h
      · exact absurd lists (unlisted s mem)

/-- The statement for a scope that is glued to a digest: the digest decides which one it is as
soon as it holds an at sign itself. -/
theorem statement?_glued (scope digest : String) :
    p.statement? (scope ++ "@" ++ digest) =
      if '@' ∈ digest.toList then p.statements.find? Statement.isWildcard
      else p.governing? scope := by
  change p.statement? (scope ++ String.singleton '@' ++ digest) = _
  unfold statement? scopeOf
  by_cases h : '@' ∈ digest.toList
  · rw [if_pos h]
    cases cut : cutLast? '@' digest with
    | none => exact absurd h (cutLast?_eq_none_iff.mp cut)
    | some sides =>
      obtain ⟨before, after⟩ := sides
      rw [cutLast?_glued_of_cut cut]
      apply governing?_of_at_mem valid
      simp
  · rw [if_neg h, cutLast?_glued h]

end Valid

end Policy

/-! ### The rules without their order -/

namespace Statement

theorem isWildcard_iff {s : Statement} : s.isWildcard = true ↔ wildcard ∈ s.scopes :=
  List.contains_iff_mem

/-- The rules for a statement on its own. -/
structure KeepsRules (s : Statement) : Prop where
  named : trim s.name.toList ≠ []
  governs : s.scopes ≠ []
  scopes : s.scopes = [wildcard] ∨
    s.isWildcard = false ∧ ∀ scope ∈ s.scopes, Policy.isScope scope = true
  integrity : s.overrides.integrity = none
  trusts : s.level ≠ .skip → s.trustStores ≠ []

end Statement

namespace Policy

/-- The rules for a policy: those for its statements, and that no name and no scope occurs twice
in the whole document. -/
structure KeepsRules (p : Policy) : Prop where
  version : p.version = supportedVersion
  stated : p.statements ≠ []
  statements : ∀ s ∈ p.statements, s.KeepsRules
  names : (p.statements.map Statement.name).Nodup
  scopes : (p.statements.flatMap Statement.scopes).Nodup

theorem checkScopes_eq_ok_iff {name : String} {used scopes : List String} :
    checkScopes name used scopes = .ok () ↔
      (∀ scope ∈ scopes, isScope scope = true) ∧ scopes.Nodup ∧ ∀ scope ∈ scopes, scope ∉ used := by
  induction scopes generalizing used with
  | nil => simp [checkScopes]
  | cons scope rest ih =>
    unfold checkScopes
    by_cases valid : isScope scope = true
    · by_cases fresh : scope ∈ used
      · simp [valid, fresh]
      · simp only [valid, Bool.not_true, Bool.false_eq_true, if_false, List.contains_iff_mem, fresh,
          ih, List.mem_cons, forall_eq_or_imp, true_and, List.nodup_cons, not_or, not_false_eq_true]
        constructor
        · rintro ⟨all, distinct, others⟩
          exact ⟨all, ⟨fun mem => (others scope mem).1 rfl, distinct⟩, fun s mem => (others s mem).2⟩
        · rintro ⟨all, ⟨absent, distinct⟩, others⟩
          exact ⟨all, distinct, fun s mem => ⟨fun same => absent (same ▸ mem), others s mem⟩⟩
    · simp [valid]

theorem checkAllScopes_eq_ok_iff {earlier : List Statement} {s : Statement} :
    checkAllScopes earlier s = .ok () ↔
      s.scopes ≠ [] ∧
      (s.scopes = [Statement.wildcard] ∨
        s.isWildcard = false ∧ ∀ scope ∈ s.scopes, isScope scope = true) ∧
      s.scopes.Nodup ∧ ∀ scope ∈ s.scopes, scope ∉ earlier.flatMap Statement.scopes := by
  constructor
  · intro h
    have shape := scopes_of_checkAllScopes h
    unfold checkAllScopes at h
    split at h
    · cases h
    rename_i some
    refine ⟨fun none => some (List.isEmpty_iff.mpr none), shape, ?_⟩
    split at h
    · rename_i wild
      -- A wildcard that was accepted has nothing beside it and none before it.
      split at h
      · cases h
      split at h
      · cases h
      rename_i first
      rcases shape with alone | ⟨other, -⟩
      · rw [alone]
        refine ⟨List.pairwise_singleton _ _, fun scope mem => ?_⟩
        rw [List.mem_singleton.mp mem, List.mem_flatMap]
        rintro ⟨e, before, lists⟩
        exact first (List.any_eq_true.mpr ⟨e, before, Statement.isWildcard_iff.mpr lists⟩)
      · rw [wild] at other
        cases other
    · exact (checkScopes_eq_ok_iff.mp h).2
  · rintro ⟨some, shape, distinct, fresh⟩
    unfold checkAllScopes
    rw [if_neg fun none => some (List.isEmpty_iff.mp none)]
    rcases shape with alone | ⟨other, all⟩
    · have wild : s.isWildcard = true := Statement.isWildcard_iff.mpr (by simp [alone])
      have single : ¬ 1 < s.scopes.length := by simp [alone]
      have first : ¬ earlier.any Statement.isWildcard = true := by
        intro h
        obtain ⟨e, before, lists⟩ := List.any_eq_true.mp h
        exact fresh Statement.wildcard (by simp [alone])
          (List.mem_flatMap.mpr ⟨e, before, Statement.isWildcard_iff.mp lists⟩)
      rw [if_pos wild, if_neg single, if_neg first]
    · rw [if_neg (by simp [other])]
      exact checkScopes_eq_ok_iff.mpr ⟨all, distinct, fresh⟩

/-- A statement passes behind others if it keeps its own rules and shares neither its name nor a
scope with any of them. -/
theorem checkStatement_eq_ok_iff_keepsRules {earlier : List Statement} {s : Statement} :
    checkStatement earlier s = .ok () ↔
      s.KeepsRules ∧ (∀ e ∈ earlier, e.name ≠ s.name) ∧ s.scopes.Nodup ∧
        ∀ scope ∈ s.scopes, scope ∉ earlier.flatMap Statement.scopes := by
  rw [checkStatement_eq_ok_iff, checkAllScopes_eq_ok_iff]
  constructor
  · rintro ⟨named, names, ⟨governs, scopes, distinct, fresh⟩, integrity, trusts⟩
    exact ⟨⟨named, governs, scopes, integrity, trusts⟩, names, distinct, fresh⟩
  · rintro ⟨⟨named, governs, scopes, integrity, trusts⟩, names, distinct, fresh⟩
    exact ⟨named, names, ⟨governs, scopes, distinct, fresh⟩, integrity, trusts⟩

theorem checkStatements_eq_ok_iff {earlier statements : List Statement} :
    checkStatements earlier statements = .ok () ↔
      (∀ s ∈ statements, s.KeepsRules) ∧
      ((statements.map Statement.name).Nodup ∧
        ∀ s ∈ statements, ∀ e ∈ earlier, e.name ≠ s.name) ∧
      (statements.flatMap Statement.scopes).Nodup ∧
        ∀ s ∈ statements, ∀ scope ∈ s.scopes, scope ∉ earlier.flatMap Statement.scopes := by
  induction statements generalizing earlier with
  | nil => simp [checkStatements]
  | cons first rest ih =>
    unfold checkStatements
    rw [seq_eq_ok_iff, checkStatement_eq_ok_iff_keepsRules, ih]
    simp only [List.forall_mem_cons, List.map_cons, List.nodup_cons, List.flatMap_cons,
      List.nodup_append, List.mem_append, not_or, List.mem_map, not_exists, not_and]
    constructor
    · rintro ⟨⟨keeps, names, distinct, fresh⟩, all, ⟨others, apart⟩, scopes, unshared⟩
      refine ⟨⟨keeps, all⟩, ⟨⟨fun s mem same => (apart s mem).1 same.symm, others⟩, names,
        fun s mem => (apart s mem).2⟩, ⟨distinct, scopes, ?_⟩, fresh, fun s mem scope lists =>
          (unshared s mem scope lists).2⟩
      intro scope lists twin among same
      obtain ⟨s, mem, listed⟩ := List.mem_flatMap.mp among
      exact (unshared s mem twin listed).1 (same ▸ lists)
    · rintro ⟨⟨keeps, all⟩, ⟨⟨alone, others⟩, names, apart⟩, ⟨distinct, scopes, disjoint⟩, fresh,
        unshared⟩
      refine ⟨⟨keeps, names, distinct, fresh⟩, all, ⟨others, fun s mem =>
        ⟨fun same => alone s mem same.symm, apart s mem⟩⟩, scopes, fun s mem scope lists =>
          ⟨fun listed => ?_, unshared s mem scope lists⟩⟩
      exact disjoint scope listed scope (List.mem_flatMap.mpr ⟨s, mem, lists⟩) rfl

theorem check_eq_ok_iff_keepsRules {p : Policy} : p.check = .ok () ↔ p.KeepsRules := by
  rw [check_eq_ok_iff, checkStatements_eq_ok_iff]
  constructor
  · rintro ⟨version, stated, statements, ⟨names, -⟩, scopes, -⟩
    exact ⟨version, stated, statements, names, scopes⟩
  · rintro ⟨version, stated, statements, names, scopes⟩
    exact ⟨version, stated, statements, ⟨names, by simp⟩, scopes, by simp⟩

end Policy

end ArtifactTrust
