import ArtifactTrust.Command.Program
import ArtifactTrust.Proofs.Command.Pairs
import ArtifactTrust.Proofs.Verification.Acceptance

/-!
# Arguments that make no request

The six rules are looked at in a fixed order, and the first one that is violated is reported before
anything of the world is looked at: such a run does nothing but write.
-/

namespace ArtifactTrust.Command

set_option autoImplicit false

/-- What arguments are held to. -/
inductive Rule where
  | reference
  | group
  | experiments
  | pluginConfig
  | userMetadata
  | credentials

namespace Rule

def inOrder : List Rule :=
  [reference, group, experiments, pluginConfig, userMetadata, credentials]

/-- Whether a rule is kept: a reference is given; the options for an image layout are given both or
not at all, and only where experiments are welcome; options that stand for maps are pairs; and a
name for the registry is given along with a password. -/
def Kept (a : VerifyArguments) (e : Experiments) : Rule → Prop
  | reference => a.reference.isSome
  | group => a.ociLayout = true ↔ a.scope.isSome
  | experiments => a.ociLayout = true ∨ a.scope.isSome → e.enabled = true
  | pluginConfig => ArePairs a.pluginConfig
  | userMetadata => ArePairs a.userMetadata
  | credentials => a.username.isSome ↔ a.password.isSome

/-- What is reported of a rule that is violated. -/
inductive Reports (a : VerifyArguments) : Rule → RequestFault → Prop
  | noReference : Reports a reference .noReference
  | noScope (given : a.ociLayout = true) : Reports a group .noScope
  | noLayout (given : a.scope.isSome) : Reports a group .noLayout
  | experimental : Reports a experiments (.experimental ["oci-layout", "scope"])
  | pluginConfig {fault : PairFault}
      (first : FirstFault "--plugin-config" a.pluginConfig fault) :
      Reports a pluginConfig (.pair fault)
  | userMetadata {fault : PairFault}
      (first : FirstFault "--user-metadata" a.userMetadata fault) :
      Reports a userMetadata (.pair fault)
  | noPassword (given : a.username.isSome) : Reports a credentials .noPassword
  | noUsername (given : a.password.isSome) : Reports a credentials .noUsername

/-- A rule is violated, and all that come before it are kept. -/
def FirstViolated (a : VerifyArguments) (e : Experiments) (rule : Rule) : Prop :=
  ∃ before after, inOrder = before ++ rule :: after ∧ (∀ earlier ∈ before, earlier.Kept a e) ∧
    ¬ rule.Kept a e

end Rule

variable {a : VerifyArguments} {e : Experiments} {option : String}
  {values : List String} {fault : RequestFault}

/-! ### Checks -/

theorem checkGroup_eq_ok_iff : a.checkGroup = .ok () ↔ Rule.group.Kept a e := by
  unfold VerifyArguments.checkGroup Rule.Kept
  cases a.ociLayout <;> cases a.scope <;> simp

theorem reports_of_checkGroup (fails : a.checkGroup = .error fault) :
    Rule.group.Reports a fault ∧ ¬ Rule.group.Kept a e := by
  refine ⟨?_, fun kept => ?_⟩
  · unfold VerifyArguments.checkGroup at fails
    rcases layout : a.ociLayout with _ | _ <;> rcases given : a.scope with _ | scope
    · simp [layout, given] at fails
    · simp only [layout, given, Except.error.injEq] at fails
      exact fails ▸ .noLayout (by rw [given]; rfl)
    · simp only [layout, given, Except.error.injEq] at fails
      exact fails ▸ .noScope layout
    · simp [layout, given] at fails
  · rw [checkGroup_eq_ok_iff.mpr kept] at fails
    cases fails

/-- Where the group is complete the check of experiments is about both options or about none. -/
theorem checkExperiments_of_kept (kept : Rule.group.Kept a e) :
    a.checkExperiments e =
      if a.scope.isSome then
        if e.enabled then .ok (some Experiments.warning)
        else .error (.experimental ["oci-layout", "scope"])
      else .ok none := by
  unfold Rule.Kept at kept
  unfold VerifyArguments.checkExperiments Experiments.check VerifyArguments.experimental
  rcases given : a.scope with _ | scope
  · have none : a.ociLayout = false := by simpa [given] using kept
    simp [none]
  · have layout : a.ociLayout = true := by simpa [given] using kept
    simp only [layout, if_true, Option.isSome_some]
    cases e.enabled <;> rfl

theorem exists_checkPairs_iff :
    (∃ labels, VerifyArguments.checkPairs option values = .ok labels) ↔ ArePairs values := by
  rw [← @exists_pairs_iff option]
  unfold VerifyArguments.checkPairs
  cases pairs option values with
  | ok labels => simp
  | error fault => simp

theorem firstFault_of_checkPairs (fails : VerifyArguments.checkPairs option values = .error fault) :
    ∃ own, fault = .pair own ∧ FirstFault option values own := by
  unfold VerifyArguments.checkPairs at fails
  cases made : pairs option values with
  | ok labels =>
    rw [made] at fails
    cases fails
  | error own =>
    rw [made] at fails
    cases fails
    exact ⟨own, rfl, firstFault_of_pairs made⟩

theorem checkCredentials_eq_ok_iff : a.checkCredentials = .ok () ↔ Rule.credentials.Kept a e := by
  unfold VerifyArguments.checkCredentials Rule.Kept
  cases a.username <;> cases a.password <;> simp

theorem reports_of_checkCredentials (fails : a.checkCredentials = .error fault) :
    Rule.credentials.Reports a fault ∧ ¬ Rule.credentials.Kept a e := by
  refine ⟨?_, fun kept => ?_⟩
  · unfold VerifyArguments.checkCredentials at fails
    rcases user : a.username with _ | username <;> rcases secret : a.password with _ | password
    · simp [user, secret] at fails
    · simp only [user, secret, Except.error.injEq] at fails
      exact fails ▸ .noUsername (by rw [secret]; rfl)
    · simp only [user, secret, Except.error.injEq] at fails
      exact fails ▸ .noPassword (by rw [user]; rfl)
    · simp [user, secret] at fails
  · rw [checkCredentials_eq_ok_iff.mpr kept] at fails
    cases fails

/-! ### Requests -/

/-- What is made of arguments: a request where every rule is kept, and otherwise a report of the
first rule that is violated. -/
inductive Judged (a : VerifyArguments) (e : Experiments) :
    Except RequestFault VerifyRequest → Prop
  | made {request : VerifyRequest} (kept : ∀ rule : Rule, rule.Kept a e)
      (scope : request.scope = a.scope)
      (source : request.source = if a.ociLayout then .layout else .registry) :
      Judged a e (.ok request)
  | refused {rule : Rule} {fault : RequestFault} (first : rule.FirstViolated a e)
      (reports : rule.Reports a fault) : Judged a e (.error fault)

theorem Rule.FirstViolated.not_kept {rule : Rule} (first : rule.FirstViolated a e) :
    ¬ ∀ rule : Rule, rule.Kept a e := by
  obtain ⟨-, -, -, -, violated⟩ := first
  exact fun kept => violated (kept rule)

theorem judged_assemble (reference : String) (given : Rule.reference.Kept a e)
    (group : Rule.group.Kept a e) (experiments : Rule.experiments.Kept a e) :
    Judged a e (a.assemble reference) := by
  unfold VerifyArguments.assemble
  cases plugin : VerifyArguments.checkPairs "--plugin-config" a.pluginConfig with
  | error fault =>
    obtain ⟨own, rfl, first⟩ := firstFault_of_checkPairs plugin
    exact .refused ⟨[.reference, .group, .experiments], _, rfl, by simp [*], first.not_arePairs⟩
      (.pluginConfig first)
  | ok pluginConfig =>
    have pluginKept : Rule.pluginConfig.Kept a e := exists_checkPairs_iff.mp ⟨_, plugin⟩
    cases metadata : VerifyArguments.checkPairs "--user-metadata" a.userMetadata with
    | error fault =>
      obtain ⟨own, rfl, first⟩ := firstFault_of_checkPairs metadata
      exact .refused ⟨[.reference, .group, .experiments, .pluginConfig], _, rfl, by simp [*],
        first.not_arePairs⟩ (.userMetadata first)
    | ok userMetadata =>
      have metadataKept : Rule.userMetadata.Kept a e := exists_checkPairs_iff.mp ⟨_, metadata⟩
      cases credentials : a.checkCredentials with
      | error fault =>
        obtain ⟨reports, violated⟩ := reports_of_checkCredentials (e := e) credentials
        exact .refused ⟨[.reference, .group, .experiments, .pluginConfig, .userMetadata], _, rfl,
          by simp [*], violated⟩ reports
      | ok _ =>
        refine .made (fun rule => ?_) rfl rfl
        cases rule with
        | reference => exact given
        | group => exact group
        | experiments => exact experiments
        | pluginConfig => exact pluginKept
        | userMetadata => exact metadataKept
        | credentials => exact checkCredentials_eq_ok_iff.mp credentials

/-- The rules on the options for an image layout, and the one before them, are kept, and the options
are given. -/
structure Warned (a : VerifyArguments) (e : Experiments) : Prop where
  reference : Rule.reference.Kept a e
  group : Rule.group.Kept a e
  experiments : Rule.experiments.Kept a e
  given : a.scope.isSome

instance (a : VerifyArguments) (e : Experiments) : Decidable (Warned a e) :=
  decidable_of_iff
    (a.reference.isSome ∧ (a.ociLayout = true ↔ a.scope.isSome) ∧
      (a.ociLayout = true ∨ a.scope.isSome → e.enabled = true) ∧ a.scope.isSome)
    ⟨fun ⟨reference, group, experiments, given⟩ => ⟨reference, group, experiments, given⟩,
      fun warned => ⟨warned.reference, warned.group, warned.experiments, warned.given⟩⟩

/-- A request is made of arguments, or a rule reported, and a warning goes with either exactly if
the options for an image layout are welcome and given. -/
theorem judged_request (a : VerifyArguments) (e : Experiments) :
    Judged a e (a.request e).2 ∧
      (a.request e).1 = if Warned a e then some Experiments.warning else none := by
  unfold VerifyArguments.request
  cases given : a.reference with
  | none =>
    have violated : ¬ Rule.reference.Kept a e := by simp [Rule.Kept, given]
    exact ⟨.refused ⟨[], _, rfl, nofun, violated⟩ .noReference,
      (if_neg fun warned => violated warned.reference).symm⟩
  | some reference =>
    have referenceKept : Rule.reference.Kept a e := by simp [Rule.Kept, given]
    cases group : a.checkGroup with
    | error fault =>
      obtain ⟨reports, violated⟩ := reports_of_checkGroup (e := e) group
      exact ⟨.refused ⟨[.reference], _, rfl, by simp [*], violated⟩ reports,
        (if_neg fun warned => violated warned.group).symm⟩
    | ok _ =>
      have groupKept : Rule.group.Kept a e := checkGroup_eq_ok_iff.mp group
      -- From here on the two options are given together, so the scope stands for both.
      simp only [checkExperiments_of_kept groupKept]
      by_cases hasScope : a.scope.isSome = true
      · by_cases enabled : e.enabled = true
        · have experimentsKept : Rule.experiments.Kept a e := fun _ => enabled
          simp only [hasScope, enabled, if_true]
          exact ⟨judged_assemble reference referenceKept groupKept experimentsKept,
            (if_pos ⟨referenceKept, groupKept, experimentsKept, hasScope⟩).symm⟩
        · have violated : ¬ Rule.experiments.Kept a e := fun kept => enabled (kept (.inr hasScope))
          simp only [hasScope, enabled, if_true]
          exact ⟨.refused ⟨[.reference, .group], _, rfl, by simp [*], violated⟩ .experimental,
            (if_neg fun warned => violated warned.experiments).symm⟩
      · have experimentsKept : Rule.experiments.Kept a e := by
          rintro (layout | given)
          · exact absurd (groupKept.mp layout) hasScope
          · exact absurd given hasScope
        simp only [hasScope]
        exact ⟨judged_assemble reference referenceKept groupKept experimentsKept,
          (if_neg fun warned => hasScope warned.given).symm⟩

theorem run_of_fault {m : Type → Type} [Monad m] [LawfulMonad m] (w : World m) {env : Environment}
    {fault : RequestFault} (refused : (a.request (.ofEnvironment env)).2 = .error fault) :
    w.run env (.verify a) =
      pure (1, ⟨"", (if Warned a (.ofEnvironment env) then Experiments.warning ++ "\n" else "") ++
        ("Error: " ++ fault.message ++ "\n")⟩) := by
  have warns := (judged_request a (.ofEnvironment env)).2
  rcases requested : a.request (.ofEnvironment env) with ⟨warning, request⟩
  rw [requested] at refused warns
  simp only at refused warns
  change (w.runVerify env a >>= fun result => pure (finish result)) = _
  unfold World.runVerify
  rw [requested, refused, warns]
  simp only [pure_bind]
  by_cases warned : Warned a (.ofEnvironment env)
  · simp only [warned, if_true]
    rfl
  · simp only [warned, if_false]
    rfl

/-- Arguments make a request exactly if they keep all rules. It is about an image layout if a scope
is given, and then a warning goes with it, and otherwise neither. Arguments that make none are
reported by the first rule that they violate; the run ends there with exit code 1 and without a word
on the output, and it is the same in every world and every environment that is as open to
experiments. -/
theorem request_result (a : VerifyArguments) (e : Experiments) :
    ((∃ request, (a.request e).2 = .ok request) ↔ ∀ rule : Rule, rule.Kept a e) ∧
    (∀ request, (a.request e).2 = .ok request →
      (request.source = .layout ↔ request.scope.isSome) ∧
      (a.request e).1 = if request.scope.isSome then some Experiments.warning else none) ∧
    ∀ fault, (a.request e).2 = .error fault →
      (∃ rule : Rule, rule.FirstViolated a e ∧ rule.Reports a fault) ∧
      ∀ (m : Type → Type) [Monad m] [LawfulMonad m] (w : World m) (env : Environment),
        Experiments.ofEnvironment env = e →
        w.run env (.verify a) =
          pure (1, ⟨"", (if Warned a e then Experiments.warning ++ "\n" else "") ++
            ("Error: " ++ fault.message ++ "\n")⟩) := by
  obtain ⟨judged, warns⟩ := judged_request a e
  refine ⟨?_, ?_, ?_⟩
  · cases result : (a.request e).2 with
    | ok request =>
      rw [result] at judged
      cases judged with
      | made kept => exact ⟨fun _ => kept, fun _ => ⟨request, rfl⟩⟩
    | error fault =>
      rw [result] at judged
      cases judged with
      | refused first => exact ⟨nofun, fun kept => absurd kept first.not_kept⟩
  · intro request made
    rw [made] at judged
    cases judged with
    | made kept scope source =>
      have group : a.ociLayout = true ↔ a.scope.isSome := kept .group
      rw [warns, source, scope]
      refine ⟨?_, ?_⟩
      · rw [← group]
        cases a.ociLayout <;> simp
      · by_cases hasScope : a.scope.isSome = true
        · rw [if_pos hasScope, if_pos ⟨kept .reference, kept .group, kept .experiments, hasScope⟩]
        · rw [if_neg hasScope, if_neg fun warned => hasScope warned.given]
  · intro fault refused
    refine ⟨?_, ?_⟩
    · rw [refused] at judged
      cases judged with
      | refused first reports => exact ⟨_, first, reports⟩
    · rintro m _ _ w env rfl
      exact run_of_fault w refused

/-- Arguments about an image layout, with pairs for the metadata. -/
def layoutArguments (userMetadata : List String) : VerifyArguments :=
  { VerifyArguments.empty with
    reference := some "layout:v1", userMetadata, ociLayout := true, scope := some "s" }

/-- Files of which none is there, and which note what is asked for. -/
def notedFiles : Files (StateM (List String)) where
  read path := ExceptT.mk fun asked => (.error .missing, asked ++ [path])
  list path := ExceptT.mk fun asked => (.error .missing, asked ++ [path])

def notedWorld : World (StateM (List String)) where
  files := notedFiles
  network := .unreachable
  clock := pure KeyVerifier.sampleNow

/-- Two names make a request, and one name given twice makes none. -/
theorem request_result_layout :
    (∀ rule : Rule, rule.Kept (layoutArguments ["a=1", "b=a=1"]) ⟨true⟩) ∧
    ((layoutArguments ["a=1", "b=a=1"]).request ⟨true⟩).1 = some Experiments.warning ∧
    (∃ rule : Rule, rule.FirstViolated (layoutArguments ["a=1", " a=2"]) ⟨true⟩ ∧
      rule.Reports (layoutArguments ["a=1", " a=2"]) (.pair (.sameName "--user-metadata" "a"))) ∧
    notedWorld.run (.ofList [(Experiments.switchVariable, Experiments.consent)])
        (.verify (layoutArguments ["a=1", " a=2"])) =
      pure (1, ⟨"", Experiments.warning ++
        "\nError: could not parse flag --user-metadata: key \"a\" duplicates\n"⟩) := by
  obtain ⟨makes, makesWith, -⟩ := request_result (layoutArguments ["a=1", "b=a=1"]) ⟨true⟩
  obtain ⟨reported, runs⟩ := (request_result (layoutArguments ["a=1", " a=2"]) ⟨true⟩).2.2
    (.pair (.sameName "--user-metadata" "a")) (by decide +kernel)
  refine ⟨makes.mp ⟨_, rfl⟩, (makesWith _ rfl).2, reported, ?_⟩
  have written : Experiments.warning ++ "\n" ++
      ("Error: " ++ (RequestFault.pair (.sameName "--user-metadata" "a")).message ++ "\n") =
    Experiments.warning ++
      "\nError: could not parse flag --user-metadata: key \"a\" duplicates\n" := by
    decide +kernel
  rw [runs _ notedWorld _ (by decide +kernel), if_pos (by decide), written]

end ArtifactTrust.Command
