import ArtifactTrust.Proofs.Policy.Selection
import Mathlib.Data.List.TakeWhile

/-!
# What a valid trust policy is

The rules one by one, over the document as a whole: none of them speaks of the order of the
statements. A check of the document succeeds under these rules and under no others.
-/

namespace ArtifactTrust

set_option autoImplicit false

open Text

theorem Text.trim_eq_nil_iff {cs : List Char} : trim cs = [] ↔ ∀ c ∈ cs, isBlank c = true := by
  unfold trim trimEnd trimStart
  rw [List.reverse_eq_nil_iff, List.dropWhile_eq_nil_iff]
  constructor
  · intro rest c mem
    rw [← List.takeWhile_append_dropWhile (p := isBlank) (l := cs)] at mem
    rcases List.mem_append.mp mem with mem | mem
    · exact List.all_eq_true.mp List.all_takeWhile c mem
    · exact rest c (List.mem_reverse.mpr mem)
  · intro all c mem
    exact all c ((List.dropWhile_sublist isBlank).mem (List.mem_reverse.mp mem))

namespace Policy

theorem isScope_iff {scope : String} :
    isScope scope = true ↔
      scope ≠ "" ∧ '@' ∉ scope.toList ∧ ∀ c ∈ scope.toList, isBlank c = false := by
  unfold isScope
  simp only [Bool.and_eq_true, Bool.not_eq_true', List.isEmpty_eq_false_iff, List.all_eq_true,
    bne_iff_ne, ne_eq, String.toList_eq_nil_iff]
  refine and_congr_right fun _ => ⟨fun clean => ?_, fun ⟨unmarked, solid⟩ c mem => ?_⟩
  · exact ⟨fun mem => (clean '@' mem).1 rfl, fun c mem => (clean c mem).2⟩
  · exact ⟨fun same => unmarked (same ▸ mem), solid c mem⟩

/-- The rules for a trust policy, of which none depends on the order of the statements. -/
structure Valid (p : Policy) : Prop where
  version : p.version = "1.0"
  stated : p.statements ≠ []
  named : ∀ s ∈ p.statements, ∃ c ∈ s.name.toList, isBlank c = false
  names : p.statements.Pairwise fun s t => s.name ≠ t.name
  governs : ∀ s ∈ p.statements, s.scopes ≠ []
  /-- Beside the wildcard there is no other scope. -/
  alone : ∀ s ∈ p.statements, "*" ∈ s.scopes → s.scopes = ["*"]
  wildcards : p.statements.countP (·.scopes.contains "*") ≤ 1
  scopes : ∀ s ∈ p.statements, ∀ scope ∈ s.scopes, scope ≠ "*" →
    scope ≠ "" ∧ '@' ∉ scope.toList ∧ ∀ c ∈ scope.toList, isBlank c = false
  once : ∀ s ∈ p.statements, ∀ scope ∈ s.scopes, scope ≠ "*" →
    (p.statements.flatMap Statement.scopes).count scope = 1
  integrity : ∀ s ∈ p.statements, s.overrides.integrity = none
  trusts : ∀ s ∈ p.statements, s.level ≠ .skip → s.trustStores ≠ []

variable {p : Policy}

theorem KeepsRules.valid (keeps : p.KeepsRules) : p.Valid where
  version := keeps.version
  stated := keeps.stated
  named s mem := by
    by_contra blank
    push Not at blank
    exact (keeps.statements s mem).named (trim_eq_nil_iff.mpr fun c among =>
      eq_true_of_ne_false (blank c among))
  names := List.pairwise_map.mp keeps.names
  governs s mem := (keeps.statements s mem).governs
  alone s mem wild := by
    rcases (keeps.statements s mem).scopes with alone | ⟨other, -⟩
    · exact alone
    · rw [Statement.isWildcard_iff.mpr wild] at other
      cases other
  wildcards := keeps.countP_le_one "*"
  scopes s mem scope lists other := by
    rcases (keeps.statements s mem).scopes with alone | ⟨-, all⟩
    · rw [alone, List.mem_singleton] at lists
      exact absurd lists other
    · exact isScope_iff.mp (all scope lists)
  once s mem scope lists _ :=
    List.count_eq_one_of_mem keeps.scopes (List.mem_flatMap.mpr ⟨s, mem, lists⟩)
  integrity s mem := (keeps.statements s mem).integrity
  trusts s mem := (keeps.statements s mem).trusts

/-- Where the wildcard stands alone, it is listed as often as there are statements that list it. -/
theorem count_wildcard {statements : List Statement}
    (alone : ∀ s ∈ statements, "*" ∈ s.scopes → s.scopes = ["*"]) :
    (statements.flatMap Statement.scopes).count "*" =
      statements.countP (·.scopes.contains "*") := by
  induction statements with
  | nil => rfl
  | cons s rest ih =>
    have others := ih fun t mem => alone t (List.mem_cons_of_mem s mem)
    rw [List.flatMap_cons, List.count_append, List.countP_cons, others, Nat.add_comm]
    by_cases wild : "*" ∈ s.scopes
    · simp [alone s List.mem_cons_self wild]
    · rw [List.count_eq_zero_of_not_mem wild]
      simp [wild]

theorem Valid.keepsRules (valid : p.Valid) : p.KeepsRules where
  version := valid.version
  stated := valid.stated
  statements s mem := by
    refine ⟨?_, valid.governs s mem, ?_, valid.integrity s mem, valid.trusts s mem⟩
    · intro nothing
      obtain ⟨c, among, solid⟩ := valid.named s mem
      rw [trim_eq_nil_iff.mp nothing c among] at solid
      cases solid
    · by_cases wild : "*" ∈ s.scopes
      · exact .inl (valid.alone s mem wild)
      · refine .inr ⟨Bool.eq_false_iff.mpr fun h => wild (Statement.isWildcard_iff.mp h), ?_⟩
        intro scope lists
        have other : scope ≠ "*" := fun same => wild (same ▸ lists)
        exact isScope_iff.mpr (valid.scopes s mem scope lists other)
  names := List.pairwise_map.mpr valid.names
  scopes := by
    apply List.nodup_iff_count_le_one.mpr
    intro scope
    by_cases wild : scope = "*"
    · rw [wild, count_wildcard valid.alone]
      exact valid.wildcards
    by_cases listed : scope ∈ p.statements.flatMap Statement.scopes
    · obtain ⟨s, mem, lists⟩ := List.mem_flatMap.mp listed
      exact Nat.le_of_eq (valid.once s mem scope lists wild)
    · rw [List.count_eq_zero_of_not_mem listed]
      exact Nat.zero_le 1

theorem Level.action_integrity {level : Level} (checks : level ≠ .skip) :
    level.action .integrity = .enforce := by
  cases level with
  | skip => exact absurd rfl checks
  | strict => rfl
  | permissive => rfl
  | audit => rfl

theorem Valid.action_integrity (valid : p.Valid) {s : Statement} (mem : s ∈ p.statements)
    (checks : s.level ≠ .skip) : s.action .integrity = .enforce := by
  have left : s.overrides.get? .integrity = none := valid.integrity s mem
  unfold Statement.action
  rw [if_neg checks, left]
  exact Level.action_integrity checks

/-- A check of a trust policy succeeds exactly if the policy is valid, and then no statement that
has anything checked forgives a failure of integrity. -/
theorem check_eq_ok_iff_valid (p : Policy) :
    (p.check = .ok () ↔ p.Valid) ∧
      (p.check = .ok () → ∀ s ∈ p.statements, s.level ≠ .skip →
        s.action .integrity = .enforce) := by
  have same : p.check = .ok () ↔ p.Valid :=
    check_eq_ok_iff_keepsRules.trans ⟨KeepsRules.valid, Valid.keepsRules⟩
  exact ⟨same, fun accepted s mem checks => (same.mp accepted).action_integrity mem checks⟩

/-- Overrides of the other checks leave the integrity check enforced. -/
def forgiving : Policy :=
  ⟨"1.0", [⟨"web", ["local/web", "local/api"], .audit, ⟨none, some .skip, some .skip⟩, ["team"]⟩,
    ⟨"rest", ["*"], .skip, .empty, []⟩]⟩

theorem check_eq_ok_iff_valid_forgiving :
    forgiving.Valid ∧ ∀ s ∈ forgiving.statements, s.level ≠ .skip →
      s.action .integrity = .enforce := by
  obtain ⟨valid, enforced⟩ := check_eq_ok_iff_valid forgiving
  have accepted : forgiving.check = .ok () := by decide +kernel
  exact ⟨valid.mp accepted, enforced accepted⟩

end Policy

end ArtifactTrust
