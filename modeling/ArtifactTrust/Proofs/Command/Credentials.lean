import ArtifactTrust.Command.Program
import ArtifactTrust.Proofs.Command.Arguments
import ArtifactTrust.Proofs.NameMap

/-!
# Credentials that are set to nothing

The settings take a variable that is set to nothing for one that is not set, and the arguments take
it for a value. So a run with empty variables may differ from one without them.
-/

namespace ArtifactTrust.Command

set_option autoImplicit false

open RegistrySettings (usernameVariable passwordVariable basic)

variable {bare env : Environment} {name : String} {option : Option String}
  {given a : VerifyArguments} {words : List String}

/-! ### Environments -/

/-- A variable is as in another environment, or it is set to nothing and there it is not set. -/
def Blank (bare env : Environment) (name : String) : Prop :=
  env.get? name = bare.get? name ∨ bare.get? name = none ∧ env.get? name = some ""

/-- Two environments that are the same but for credentials that one of them sets to nothing. -/
structure Blanked (bare env : Environment) : Prop where
  username : Blank bare env usernameVariable
  password : Blank bare env passwordVariable
  others : ∀ name, name ≠ usernameVariable → name ≠ passwordVariable →
    env.get? name = bare.get? name

theorem Blank.nonempty?_eq (blank : Blank bare env name) :
    env.nonempty? name = bare.nonempty? name := by
  unfold Environment.nonempty?
  rcases blank with same | ⟨unset, empty⟩
  · rw [same]
  · rw [unset, empty]
    rfl

namespace Blanked

variable (blanked : Blanked bare env)
include blanked

/-- The settings from the environment make nothing of an empty variable. -/
theorem ofEnvironment_eq :
    RegistrySettings.ofEnvironment env = RegistrySettings.ofEnvironment bare := by
  have token : Blank bare env RegistrySettings.tokenVariable :=
    .inl (blanked.others _ (by decide) (by decide))
  have timeout := blanked.others RegistrySettings.timeoutVariable (by decide) (by decide)
  have retries := blanked.others RegistrySettings.maxRetriesVariable (by decide) (by decide)
  unfold RegistrySettings.ofEnvironment
  rw [blanked.username.nonempty?_eq, blanked.password.nonempty?_eq, token.nonempty?_eq, timeout,
    retries]

theorem experiments_eq : Experiments.ofEnvironment env = Experiments.ofEnvironment bare := by
  unfold Experiments.ofEnvironment
  rw [blanked.others Experiments.switchVariable (by decide) (by decide)]

theorem configDirectory?_eq : env.configDirectory? = bare.configDirectory? := by
  have directory := blanked.others Environment.directoryVariable (by decide) (by decide)
  have user := blanked.others Environment.userDirectoryVariable (by decide) (by decide)
  have home := blanked.others Environment.homeVariable (by decide) (by decide)
  unfold Environment.configDirectory? Environment.userDirectory? Environment.nonempty?
  rw [directory, user, home]

theorem settings_eq (a : VerifyArguments) : a.settings env = a.settings bare := by
  unfold VerifyArguments.settings
  rw [blanked.ofEnvironment_eq]

theorem run_eq {m : Type → Type} [Monad m] (w : World m) (a : VerifyArguments) :
    w.run env (.verify a) = w.run bare (.verify a) := by
  have answers (settings : RegistrySettings) (request : VerifyRequest) :
      w.answer env settings request = w.answer bare settings request := by
    unfold World.answer KeyVerifier.ofEnvironment
    rw [blanked.configDirectory?_eq]
  have runs : w.runVerify env a = w.runVerify bare a := by
    unfold World.runVerify
    simp only [blanked.experiments_eq, blanked.settings_eq, answers]
  unfold World.run
  simp only [runs]

end Blanked

/-! ### Options -/

/-- An option that is not given has a variable that is set to nothing in one environment and not
set in the other. -/
structure FilledIn (bare env : Environment) (name : String) (option : Option String) : Prop where
  missing : option = none
  unset : bare.get? name = none
  empty : env.get? name = some ""

abbrev NameFilledIn (bare env : Environment) (given : VerifyArguments) : Prop :=
  FilledIn bare env usernameVariable given.username

abbrev PasswordFilledIn (bare env : Environment) (given : VerifyArguments) : Prop :=
  FilledIn bare env passwordVariable given.password

theorem Blank.or_eq (blank : Blank bare env name) (kept : ¬ FilledIn bare env name option) :
    option.or (env.get? name) = option.or (bare.get? name) := by
  rcases blank with same | ⟨unset, empty⟩
  · rw [same]
  · cases option with
    | none => exact absurd ⟨rfl, unset, empty⟩ kept
    | some value => rfl

theorem FilledIn.or_env (filled : FilledIn bare env name option) :
    option.or (env.get? name) = some "" := by
  rw [filled.missing, filled.empty, Option.none_or]

theorem FilledIn.or_bare (filled : FilledIn bare env name option) :
    option.or (bare.get? name) = none := by
  rw [filled.missing, filled.unset, Option.none_or]

theorem withEnvironment_empty (a : VerifyArguments) : a.withEnvironment ∅ = a := by
  unfold VerifyArguments.withEnvironment
  rw [NameMap.get?_empty, NameMap.get?_empty, Option.or_none, Option.or_none]

/-- The environment is looked at when all words have been read. -/
theorem parse_eq_map (env : Environment) (words : List String) :
    VerifyArguments.parse env words =
      (VerifyArguments.parse ∅ words).map (·.withEnvironment env) := by
  unfold VerifyArguments.parse
  cases words.foldlM Reading.word ⟨VerifyArguments.empty, none, false⟩ with
  | error usage => rfl
  | ok r =>
    simp only [bind_ok]
    cases r.settle with
    | error usage => rfl
    | ok r =>
      simp only [bind_ok, withEnvironment_empty]
      by_cases both : (r.found.debug && r.found.verbose) = true
      · simp only [both, if_true]
        rfl
      · simp only [both]
        rfl

theorem parse_verify (env : Environment) (words : List String) :
    parse env ("verify" :: words) =
      (VerifyArguments.parse ∅ words).map fun given => .verify (given.withEnvironment env) := by
  change (VerifyArguments.parse env words >>= fun a => pure (Subcommand.verify a)) = _
  rw [parse_eq_map]
  cases VerifyArguments.parse ∅ words with
  | error usage => rfl
  | ok given => rfl

theorem withEnvironment_eq (blanked : Blanked bare env)
    (user : ¬ NameFilledIn bare env given) (secret : ¬ PasswordFilledIn bare env given) :
    given.withEnvironment env = given.withEnvironment bare := by
  unfold VerifyArguments.withEnvironment
  rw [blanked.username.or_eq user, blanked.password.or_eq secret]

/-! ### Settings -/

/-- The settings to which a name and a password are added, if both are there. -/
def VerifyArguments.base (a : VerifyArguments) (env : Environment) : RegistrySettings :=
  (RegistrySettings.ofEnvironment env).withPlain a.insecureRegistry

theorem base_eq (a : VerifyArguments) (env : Environment) :
    (if a.insecureRegistry then (RegistrySettings.ofEnvironment env).withPlain true
      else RegistrySettings.ofEnvironment env) = a.base env := by
  unfold VerifyArguments.base
  cases a.insecureRegistry with
  | true => rfl
  | false => rfl

theorem settings_of_both {user secret : String} (named : a.username = some user)
    (known : a.password = some secret) :
    a.settings env = (a.base env).withCredentials user secret := by
  unfold VerifyArguments.settings
  rw [named, known, ← base_eq]

theorem settings_of_nameless (nameless : a.username = none) : a.settings env = a.base env := by
  unfold VerifyArguments.settings
  rw [nameless, ← base_eq]

theorem isOk_checkCredentials_iff (a : VerifyArguments) :
    a.checkCredentials = .ok () ↔ (a.username.isSome ↔ a.password.isSome) :=
  checkCredentials_eq_ok_iff (e := ⟨false⟩)

/-! ### Two runs -/

/-- What a run makes of its credentials is the same in two environments: what is found wrong with
them, the settings, and what stands on the requests. -/
structure Alike (bare env : Environment) (given : VerifyArguments) : Prop where
  checked : (given.withEnvironment env).checkCredentials =
    (given.withEnvironment bare).checkCredentials
  settings : (given.withEnvironment env).settings env = (given.withEnvironment bare).settings bare
  addressed : ∀ url, Registry.addressed ((given.withEnvironment env).settings env) url =
    Registry.addressed ((given.withEnvironment bare).settings bare) url

theorem alike_of_eq (blanked : Blanked bare env)
    (same : given.withEnvironment env = given.withEnvironment bare) : Alike bare env given := by
  have settings := blanked.settings_eq (given.withEnvironment bare)
  refine ⟨by rw [same], by rw [same, settings], fun url => ?_⟩
  rw [same, settings]

/-- Where one of the two is filled in, it is complete with the other in one run only. -/
theorem checks_of_one (blanked : Blanked bare env)
    (one : ¬ (NameFilledIn bare env given ↔ PasswordFilledIn bare env given)) :
    (given.withEnvironment env).checkCredentials = .ok () ↔
      (given.withEnvironment bare).checkCredentials ≠ .ok () := by
  rw [ne_eq, isOk_checkCredentials_iff, isOk_checkCredentials_iff]
  unfold VerifyArguments.withEnvironment
  simp only
  by_cases user : NameFilledIn bare env given
  · have secret : ¬ PasswordFilledIn bare env given :=
      fun filled => one ⟨fun _ => filled, fun _ => user⟩
    rw [user.or_env, user.or_bare, blanked.password.or_eq secret]
    cases given.password.or (bare.get? passwordVariable) with
    | none => decide
    | some value => simp
  · have secret : PasswordFilledIn bare env given := by
      by_contra kept
      exact one ⟨fun filled => absurd filled user, fun filled => absurd filled kept⟩
    rw [secret.or_env, secret.or_bare, blanked.username.or_eq user]
    cases given.username.or (bare.get? usernameVariable) with
    | none => decide
    | some value => simp

/-- Where both are filled in, nothing is found wrong with them, and they are put into settings that
have neither of them otherwise. -/
theorem settings_of_filled (blanked : Blanked bare env)
    (user : NameFilledIn bare env given) (secret : PasswordFilledIn bare env given) :
    (given.withEnvironment bare).settings bare = given.base bare ∧
      (given.withEnvironment env).settings env = (given.base bare).withCredentials "" "" := by
  have base : given.base env = given.base bare := by
    unfold VerifyArguments.base
    rw [blanked.ofEnvironment_eq]
  refine ⟨settings_of_nameless user.or_bare, ?_⟩
  rw [settings_of_both user.or_env secret.or_env, ← base]
  rfl

theorem username_base (user : NameFilledIn bare env given) :
    (given.base bare).username = none := by
  change bare.nonempty? usernameVariable = none
  rw [Environment.nonempty?, user.unset]
  rfl

/-- A token goes before a name and a password, also before empty ones. -/
theorem authorization_of_filled (user : NameFilledIn bare env given) :
    (given.base bare).authorization =
        (RegistrySettings.ofEnvironment bare).token.map ("Bearer " ++ ·) ∧
      ((given.base bare).withCredentials "" "").authorization =
        some (((RegistrySettings.ofEnvironment bare).token.map ("Bearer " ++ ·)).getD
          (basic "" "")) := by
  have nameless := username_base user
  have token : (given.base bare).token = (RegistrySettings.ofEnvironment bare).token := rfl
  rw [← token]
  unfold RegistrySettings.authorization RegistrySettings.withCredentials
  rw [nameless]
  cases (given.base bare).token with
  | none => exact ⟨rfl, rfl⟩
  | some token => exact ⟨rfl, rfl⟩

theorem not_filledIn_of_alike (blanked : Blanked bare env) (alike : Alike bare env given) :
    ¬ NameFilledIn bare env given ∧ ¬ PasswordFilledIn bare env given := by
  have both : NameFilledIn bare env given ↔ PasswordFilledIn bare env given := by
    by_contra one
    have differ := checks_of_one blanked one
    rw [alike.checked] at differ
    exact (iff_not_self differ).elim
  have user : ¬ NameFilledIn bare env given := by
    intro user
    obtain ⟨without, within⟩ := settings_of_filled blanked user (both.mp user)
    have same := congrArg RegistrySettings.username alike.settings
    rw [within, without, username_base user] at same
    cases same
  exact ⟨user, fun secret => user (both.mpr secret)⟩

/-- Two environments, one of which sets a name or a password to nothing, where the other does not
set it. The settings from the environment are the same. What the command makes of the credentials is
the same, and then so is the whole run in every world, exactly if the option of each variable that
is set to nothing is given. Where one of the two is filled in, one of the runs is refused for it and
the other is not. Where both are, no run is refused, and requests bear an empty name and password
where they bear nothing in the other run, unless there is a token. -/
theorem alike_iff_not_filledIn (blanked : Blanked bare env) (words : List String) :
    RegistrySettings.ofEnvironment env = RegistrySettings.ofEnvironment bare ∧
    (∀ usage, VerifyArguments.parse ∅ words = .error usage →
      parse bare ("verify" :: words) = .error usage ∧
      parse env ("verify" :: words) = .error usage) ∧
    ∀ given, VerifyArguments.parse ∅ words = .ok given →
      parse bare ("verify" :: words) = .ok (.verify (given.withEnvironment bare)) ∧
      parse env ("verify" :: words) = .ok (.verify (given.withEnvironment env)) ∧
      (Alike bare env given ↔
        ¬ NameFilledIn bare env given ∧ ¬ PasswordFilledIn bare env given) ∧
      (Alike bare env given → ∀ (m : Type → Type) [Monad m] (w : World m),
        w.main env ("verify" :: words) = w.main bare ("verify" :: words)) ∧
      (¬ (NameFilledIn bare env given ↔ PasswordFilledIn bare env given) →
        ((given.withEnvironment env).checkCredentials = .ok () ↔
          (given.withEnvironment bare).checkCredentials ≠ .ok ())) ∧
      (NameFilledIn bare env given → PasswordFilledIn bare env given →
        (given.withEnvironment env).checkCredentials = .ok () ∧
        (given.withEnvironment bare).checkCredentials = .ok () ∧
        ((given.withEnvironment bare).settings bare).authorization =
          (RegistrySettings.ofEnvironment bare).token.map ("Bearer " ++ ·) ∧
        ((given.withEnvironment env).settings env).authorization =
          some (((RegistrySettings.ofEnvironment bare).token.map ("Bearer " ++ ·)).getD
            (basic "" ""))) := by
  refine ⟨blanked.ofEnvironment_eq, fun usage refused => ?_, fun given read => ?_⟩
  · rw [parse_verify, parse_verify, refused]
    exact ⟨rfl, rfl⟩
  have without : parse bare ("verify" :: words) = .ok (.verify (given.withEnvironment bare)) := by
    rw [parse_verify, read]
    rfl
  have within : parse env ("verify" :: words) = .ok (.verify (given.withEnvironment env)) := by
    rw [parse_verify, read]
    rfl
  refine ⟨without, within, ⟨not_filledIn_of_alike blanked, ?_⟩, ?_, checks_of_one blanked, ?_⟩
  · rintro ⟨user, secret⟩
    exact alike_of_eq blanked (withEnvironment_eq blanked user secret)
  · intro alike m _ w
    obtain ⟨user, secret⟩ := not_filledIn_of_alike blanked alike
    unfold World.main
    rw [without, within, withEnvironment_eq blanked user secret]
    exact blanked.run_eq w _
  · intro user secret
    obtain ⟨plain, filled⟩ := settings_of_filled blanked user secret
    obtain ⟨bears, bearsEmpty⟩ := authorization_of_filled user
    refine ⟨?_, ?_, by rw [plain, bears], by rw [filled, bearsEmpty]⟩
    · rw [isOk_checkCredentials_iff]
      unfold VerifyArguments.withEnvironment
      simp only [user.or_env, secret.or_env]
    · rw [isOk_checkCredentials_iff]
      unfold VerifyArguments.withEnvironment
      simp only [user.or_bare, secret.or_bare]

/-! ### Empty variables and options that are given -/

def emptyName : Environment := (∅ : Environment).insert usernameVariable ""

def emptyPair : Environment := emptyName.insert passwordVariable ""

theorem blanked_emptyName : Blanked ∅ emptyName := by
  refine ⟨.inr ⟨rfl, rfl⟩, .inl rfl, fun name user _ => ?_⟩
  rw [emptyName, NameMap.get?_insert, if_neg user]

theorem blanked_emptyPair : Blanked ∅ emptyPair := by
  refine ⟨.inr ⟨rfl, rfl⟩, .inr ⟨rfl, rfl⟩, fun name user secret => ?_⟩
  rw [emptyPair, NameMap.get?_insert, if_neg secret]
  exact blanked_emptyName.others name user secret

def namedWords : List String :=
  ["--username", "alice", "-psecret", "reg.example/team/app:v1"]

def namedArguments : VerifyArguments :=
  { VerifyArguments.empty with
    reference := some "reg.example/team/app:v1"
    username := some "alice"
    password := some "secret" }

/-- Empty variables do not count beside options. -/
theorem alike_iff_not_filledIn_named :
    Blanked ∅ emptyPair ∧ VerifyArguments.parse ∅ namedWords = .ok namedArguments ∧
      Alike ∅ emptyPair namedArguments ∧
      ∀ (m : Type → Type) [Monad m] (w : World m),
        w.main emptyPair ("verify" :: namedWords) = w.main ∅ ("verify" :: namedWords) := by
  have read : VerifyArguments.parse ∅ namedWords = .ok namedArguments := by decide +kernel
  obtain ⟨-, -, runs⟩ := alike_iff_not_filledIn blanked_emptyPair namedWords
  obtain ⟨-, -, alike_iff, same, -⟩ := runs namedArguments read
  have user : ¬ NameFilledIn ∅ emptyPair namedArguments := fun filled => nomatch filled.missing
  have secret : ¬ PasswordFilledIn ∅ emptyPair namedArguments :=
    fun filled => nomatch filled.missing
  have alike := alike_iff.mpr ⟨user, secret⟩
  exact ⟨blanked_emptyPair, read, alike, same alike⟩

/-- An empty name is refused for want of a password, and an empty name and an empty password are
sent, where nothing is refused and nothing is sent without the variables. -/
theorem empty_variables_matter :
    Blanked ∅ emptyName ∧ Blanked ∅ emptyPair ∧
    ∃ unset named paired,
      parse ∅ ["verify", "reg.example/team/app:v1"] = .ok (.verify unset) ∧
      parse emptyName ["verify", "reg.example/team/app:v1"] = .ok (.verify named) ∧
      parse emptyPair ["verify", "reg.example/team/app:v1"] = .ok (.verify paired) ∧
      unset.checkCredentials = .ok () ∧ named.checkCredentials = .error .noPassword ∧
      (unset.settings ∅).authorization = none ∧
      (paired.settings emptyPair).authorization = some "Basic Og==" := by
  have words : VerifyArguments.parse ∅ ["reg.example/team/app:v1"] =
      .ok { VerifyArguments.empty with reference := some "reg.example/team/app:v1" } := by
    decide +kernel
  have read (env : Environment) : parse env ["verify", "reg.example/team/app:v1"] =
      .ok (.verify ({ VerifyArguments.empty with
        reference := some "reg.example/team/app:v1" }.withEnvironment env)) := by
    rw [parse_verify, words]
    rfl
  exact ⟨blanked_emptyName, blanked_emptyPair, _, _, _, read ∅, read emptyName, read emptyPair,
    by decide +kernel, by decide +kernel, by decide +kernel, by decide +kernel⟩

end ArtifactTrust.Command
