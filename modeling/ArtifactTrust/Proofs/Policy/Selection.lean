import ArtifactTrust.Proofs.Policy.Rules
import Mathlib.Data.List.Forall2
import Mathlib.Data.List.Nodup
import Mathlib.Data.List.Pairwise

/-!
# Selecting a statement

Under the rules for policies each search finds at most one statement, so the order in which a policy
was written down does not decide which statement governs.
-/

namespace ArtifactTrust

set_option autoImplicit false

/-- The same statement with its scopes in another order. -/
def Statement.Rescoped (s t : Statement) : Prop :=
  t = { s with scopes := t.scopes } ∧ s.scopes.Perm t.scopes

namespace Statement

variable {s t : Statement}

theorem Rescoped.mem_scopes_iff (rescoped : s.Rescoped t) (scope : String) :
    scope ∈ s.scopes ↔ scope ∈ t.scopes := rescoped.2.mem_iff

theorem Rescoped.keepsRules (rescoped : s.Rescoped t) (keeps : s.KeepsRules) : t.KeepsRules := by
  obtain ⟨same, scopes⟩ := rescoped
  rw [same]
  refine ⟨keeps.named, ?_, ?_, keeps.integrity, keeps.trusts⟩
  · intro none
    exact keeps.governs (scopes.trans (none ▸ .refl _)).eq_nil
  · rcases keeps.scopes with alone | ⟨other, all⟩
    · left
      rw [alone] at scopes
      exact (List.singleton_perm.mp scopes).symm
    · right
      refine ⟨?_, fun scope mem => all scope (scopes.mem_iff.mpr mem)⟩
      rw [Bool.eq_false_iff] at other ⊢
      intro wild
      exact other (isWildcard_iff.mpr (scopes.mem_iff.mpr (isWildcard_iff.mp wild)))

end Statement

namespace Policy

/-- The same policy with its statements in another order, and the scopes of each of them too. -/
structure Rearranged (p q : Policy) : Prop where
  version : q.version = p.version
  statements : ∃ shuffled, p.statements.Perm shuffled ∧
    List.Forall₂ Statement.Rescoped shuffled q.statements

variable {p q : Policy} {s : Statement} {scope reference : String}

/-! ### Statements one by one -/

theorem find?_forall₂ {R : Statement → Statement → Prop} {f : Statement → Bool}
    {l m : List Statement} (related : List.Forall₂ R l m) (same : ∀ s t, R s t → f s = f t) :
    Option.Rel R (l.find? f) (m.find? f) := by
  induction related with
  | nil => exact .none
  | @cons s t l m first rest ih =>
    cases h : f s with
    | true =>
      rw [List.find?_cons_of_pos h, List.find?_cons_of_pos ((same s t first).symm.trans h)]
      exact .some first
    | false =>
      rw [List.find?_cons_of_neg (by simp [h]),
        List.find?_cons_of_neg (by simp [← same s t first, h])]
      exact ih

/-- Policies whose statements list the same scopes, each in its place, select alike. -/
theorem statement?_forall₂ {R : Statement → Statement → Prop}
    (related : List.Forall₂ R p.statements q.statements)
    (same : ∀ s t, R s t → ∀ scope, scope ∈ s.scopes ↔ scope ∈ t.scopes) (reference : String) :
    Option.Rel R (p.statement? reference) (q.statement? reference) := by
  have lists (scope : String) (s t : Statement) (h : R s t) :
      s.scopes.contains scope = t.scopes.contains scope := by
    rw [Bool.eq_iff_iff, List.contains_iff_mem, List.contains_iff_mem]
    exact same s t h scope
  have listed := find?_forall₂ related (lists (scopeOf reference))
  have wild := find?_forall₂ (f := Statement.isWildcard) related (lists Statement.wildcard)
  unfold statement? governing?
  revert listed
  generalize p.statements.find? (·.scopes.contains (scopeOf reference)) = a
  generalize q.statements.find? (·.scopes.contains (scopeOf reference)) = b
  intro listed
  cases listed with
  | some h => exact .some h
  | none => exact wild

/-! ### Rules that stay -/

theorem KeepsRules.perm (keeps : p.KeepsRules) (version : q.version = p.version)
    (shuffled : p.statements.Perm q.statements) : q.KeepsRules := by
  refine ⟨version.trans keeps.version, ?_, ?_, ?_, ?_⟩
  · intro none
    rw [none] at shuffled
    exact keeps.stated shuffled.eq_nil
  · intro s mem
    exact keeps.statements s (shuffled.mem_iff.mpr mem)
  · exact (shuffled.map Statement.name).nodup_iff.mp keeps.names
  · exact (shuffled.flatMap_right Statement.scopes).nodup_iff.mp keeps.scopes

theorem KeepsRules.rescoped (keeps : p.KeepsRules) (version : q.version = p.version)
    (related : List.Forall₂ Statement.Rescoped p.statements q.statements) : q.KeepsRules := by
  obtain ⟨supported, stated, statements, names, scopes⟩ := keeps
  -- Statement by statement, the names are the same and the scopes the same but for their order.
  have both : (∀ s ∈ p.statements, s.KeepsRules) → (∀ t ∈ q.statements, t.KeepsRules) ∧
      q.statements.map Statement.name = p.statements.map Statement.name ∧
      (p.statements.flatMap Statement.scopes).Perm (q.statements.flatMap Statement.scopes) := by
    generalize p.statements = l at related
    generalize q.statements = m at related
    clear stated statements names scopes
    induction related with
    | nil =>
      intro _
      exact ⟨by simp, rfl, .refl _⟩
    | @cons s t l m first rest ih =>
      intro keeps
      obtain ⟨all, alike, moved⟩ := ih fun s mem => keeps s (List.mem_cons_of_mem _ mem)
      refine ⟨?_, ?_, ?_⟩
      · rw [List.forall_mem_cons]
        exact ⟨first.keepsRules (keeps s List.mem_cons_self), all⟩
      · rw [List.map_cons, List.map_cons, alike, first.1]
      · rw [List.flatMap_cons, List.flatMap_cons]
        exact first.2.append moved
  obtain ⟨all, alike, moved⟩ := both statements
  refine ⟨version.trans supported, ?_, all, alike ▸ names, moved.nodup_iff.mp scopes⟩
  intro none
  rw [none] at related
  exact stated (List.forall₂_nil_right_iff.mp related)

/-! ### At most one statement -/

theorem countP_contains_le_count (scope : String) (statements : List Statement) :
    statements.countP (·.scopes.contains scope) ≤
      (statements.flatMap Statement.scopes).count scope := by
  induction statements with
  | nil => exact Nat.le_refl _
  | cons s rest ih =>
    rw [List.countP_cons, List.flatMap_cons, List.count_append]
    split
    · rename_i lists
      have : 0 < s.scopes.count scope := List.count_pos_iff.mpr (List.contains_iff_mem.mp lists)
      omega
    · omega

theorem KeepsRules.countP_le_one (keeps : p.KeepsRules) (scope : String) :
    p.statements.countP (·.scopes.contains scope) ≤ 1 :=
  Nat.le_trans (countP_contains_le_count scope p.statements)
    (List.nodup_iff_count_le_one.mp keeps.scopes scope)

theorem KeepsRules.find?_eq_some_iff (keeps : p.KeepsRules) :
    p.statements.find? (·.scopes.contains scope) = some s ↔
      s ∈ p.statements ∧ scope ∈ s.scopes := by
  constructor
  · intro h
    exact ⟨List.mem_of_find?_eq_some h, by simpa using List.find?_some h⟩
  · rintro ⟨mem, lists⟩
    cases h : p.statements.find? (·.scopes.contains scope) with
    | none => exact absurd (List.contains_iff_mem.mpr lists) (List.find?_eq_none.mp h s mem)
    | some first =>
      have listed : scope ∈ first.scopes := by simpa using List.find?_some h
      have apart := (List.nodup_flatMap.mp keeps.scopes).2
      have symmetric : Std.Symm (Function.onFun List.Disjoint Statement.scopes) :=
        ⟨fun _ _ d _ here there => d there here⟩
      by_contra differ
      have other : first ≠ s := fun same => differ (same ▸ rfl)
      have disjoint := apart.forall (List.mem_of_find?_eq_some h) mem other
      exact disjoint listed lists

/-- The statement for a reference is the one that lists its scope, or else the wildcard. -/
theorem KeepsRules.statement?_eq_some_iff (keeps : p.KeepsRules) :
    p.statement? reference = some s ↔ s ∈ p.statements ∧ (scopeOf reference ∈ s.scopes ∨
      s.isWildcard = true ∧ ∀ t ∈ p.statements, scopeOf reference ∉ t.scopes) := by
  unfold statement? governing?
  cases h : p.statements.find? (·.scopes.contains (scopeOf reference)) with
  | some first =>
    obtain ⟨mem, lists⟩ := keeps.find?_eq_some_iff.mp h
    rw [Option.some_or, ← h, keeps.find?_eq_some_iff]
    refine and_congr_right fun _ => (or_iff_left ?_).symm
    rintro ⟨-, unlisted⟩
    exact unlisted first mem lists
  | none =>
    have unlisted (t : Statement) (mem : t ∈ p.statements) : scopeOf reference ∉ t.scopes :=
      fun lists => List.find?_eq_none.mp h t mem (List.contains_iff_mem.mpr lists)
    rw [Option.none_or]
    have wildcard : p.statements.find? (·.scopes.contains Statement.wildcard) = some s ↔
        s ∈ p.statements ∧ Statement.wildcard ∈ s.scopes := keeps.find?_eq_some_iff
    refine wildcard.trans (and_congr_right fun mem => ?_)
    rw [← Statement.isWildcard_iff]
    constructor
    · intro wild
      exact .inr ⟨wild, unlisted⟩
    · rintro (lists | ⟨wild, -⟩)
      · exact absurd lists (unlisted s mem)
      · exact wild

/-- The statement that governs a reference is a matter of the statements and not of the order they
stand in. At most one lists the scope of the reference and at most one is the wildcard, which
governs only what no statement lists. -/
theorem statement?_unambiguous (valid : p.check = .ok ()) (rearranged : p.Rearranged q)
    (reference : String) :
    q.check = .ok () ∧
    Option.Rel Statement.Rescoped (p.statement? reference) (q.statement? reference) ∧
    p.statements.countP (·.scopes.contains (scopeOf reference)) ≤ 1 ∧
    p.statements.countP Statement.isWildcard ≤ 1 ∧
    (∀ s, p.statement? reference = some s ↔ s ∈ p.statements ∧ (scopeOf reference ∈ s.scopes ∨
      s.isWildcard = true ∧ ∀ t ∈ p.statements, scopeOf reference ∉ t.scopes)) ∧
    (∀ s, p.statement? reference = some s → s.isWildcard = true →
      scopeOf reference ≠ Statement.wildcard → ∀ t ∈ p.statements, scopeOf reference ∉ t.scopes) := by
  have keeps := check_eq_ok_iff_keepsRules.mp valid
  obtain ⟨version, shuffled, moved, rescoped⟩ := rearranged
  have between : KeepsRules ⟨p.version, shuffled⟩ := keeps.perm rfl moved
  have same : p.statement? reference = statement? ⟨p.version, shuffled⟩ reference := by
    apply Option.ext
    intro s
    rw [keeps.statement?_eq_some_iff, between.statement?_eq_some_iff]
    simp only [moved.mem_iff]
  refine ⟨check_eq_ok_iff_keepsRules.mpr (between.rescoped version rescoped), ?_,
    keeps.countP_le_one _, keeps.countP_le_one Statement.wildcard,
    fun s => keeps.statement?_eq_some_iff, ?_⟩
  · rw [same]
    exact statement?_forall₂ rescoped (fun s t h => h.mem_scopes_iff) reference
  · intro s governs wild named
    obtain ⟨mem, lists | ⟨-, unlisted⟩⟩ := keeps.statement?_eq_some_iff.mp governs
    · rcases (keeps.statements s mem).scopes with alone | ⟨other, -⟩
      · rw [alone, List.mem_singleton] at lists
        exact absurd lists named
      · rw [wild] at other
        cases other
    · exact unlisted

def threeScopes : Policy :=
  ⟨"1.0", [⟨"web", ["local/web", "local/api"], .strict, .empty, ["team"]⟩,
    ⟨"rest", ["*"], .audit, .empty, ["team", "guests"]⟩, ⟨"db", ["local/db"], .skip, .empty, []⟩]⟩

def threeScopesBack : Policy :=
  ⟨"1.0", [⟨"db", ["local/db"], .skip, .empty, []⟩,
    ⟨"rest", ["*"], .audit, .empty, ["team", "guests"]⟩,
    ⟨"web", ["local/api", "local/web"], .strict, .empty, ["team"]⟩]⟩

/-- Read from the end, the statement for two scopes still governs both. -/
theorem statement?_unambiguous_back :
    threeScopesBack.check = .ok () ∧
      ∃ s t, threeScopes.statement? "local/api@d" = some s ∧
        threeScopesBack.statement? "local/api@d" = some t ∧ s.Rescoped t ∧ t.name = "web" := by
  have moved : threeScopes.Rearranged threeScopesBack := by
    refine ⟨rfl, threeScopes.statements.reverse, (List.reverse_perm _).symm, ?_⟩
    exact .cons ⟨rfl, .refl _⟩ (.cons ⟨rfl, .refl _⟩ (.cons ⟨rfl, .swap _ _ _⟩ .nil))
  obtain ⟨checked, same, -⟩ := statement?_unambiguous (by decide +kernel) moved "local/api@d"
  have found : threeScopesBack.statement? "local/api@d" =
      some ⟨"web", ["local/api", "local/web"], .strict, .empty, ["team"]⟩ := by decide +kernel
  refine ⟨checked, ?_⟩
  rw [found] at same ⊢
  generalize threeScopes.statement? "local/api@d" = first at same ⊢
  cases same with
  | some rescoped => exact ⟨_, _, rfl, rfl, rescoped, rfl⟩

end Policy

end ArtifactTrust
