import ArtifactTrust.Policy.Level
import ArtifactTrust.Text.Blank
import ArtifactTrust.Text.Cut
import ArtifactTrust.Text.Quoted

/-!
# Trust policies

A trust policy is a list of statements. A statement names the scopes it governs, the trust
stores whose keys count there, and how strict it is. `Policy.check` holds the rules for the
statements together; under them no scope is governed by two statements, so `Policy.statement?`
does not depend on their order.
-/

namespace ArtifactTrust

set_option autoImplicit false

open Json Text

structure Statement where
  name : String
  /-- The scopes that the statement governs; `*` governs whatever no other statement does. -/
  scopes : List String
  level : Level
  overrides : Overrides
  /-- The names of the trust stores whose keys count. -/
  trustStores : List String
deriving DecidableEq, Repr

structure Policy where
  version : String
  statements : List Statement
deriving DecidableEq, Repr

namespace Statement

def wildcard : String := "*"

def isWildcard (s : Statement) : Bool := s.scopes.contains wildcard

def action (s : Statement) (check : Check) : Action :=
  if s.level = .skip then .skip else (s.overrides.get? check).getD (s.level.action check)

def strictness? (v : Value) : Option (Level × Overrides) := do
  match ← v.fields? ["level", "override"] with
  | [level, overrides] =>
    return (← Value.required Record.ofValue? level,
      ← Value.orDefault .empty Overrides.ofValue? overrides)
  | _ => none

def ofValue? (v : Value) : Option Statement := do
  match ← v.fields? ["name", "registryScopes", "signatureVerification", "trustStores"] with
  | [name, scopes, strictness, trustStores] =>
    let name ← Value.required Value.asString? name
    let scopes ← Value.required (Value.asList? Value.asString?) scopes
    let (level, overrides) ← Value.required strictness? strictness
    let trustStores ← Value.orDefault [] (Value.asList? Value.asString?) trustStores
    return ⟨name, scopes, level, overrides, trustStores⟩
  | _ => none

def toValue (s : Statement) : Value :=
  let overrides :=
    if s.overrides = .empty then [] else [Value.member "override" s.overrides.toValue]
  .object
    [Value.member "name" (.ofString s.name),
      Value.member "registryScopes" (.array (s.scopes.map .ofString)),
      Value.member "signatureVerification"
        (.object (Value.member "level" (Record.toValue s.level) :: overrides)),
      Value.member "trustStores" (.array (s.trustStores.map .ofString))]

end Statement

namespace Policy

def supportedVersion : String := "1.0"

inductive Fault where
  | unreadable (path reason : String)
  | malformed
  | version (found : String)
  | empty
  | unnamed
  | sameName (name : String)
  | noScopes (name : String)
  | wildcardAndOthers (name : String)
  | secondWildcard
  | invalidScope (name scope : String)
  | sameScope (scope : String)
  | overridesIntegrity (name : String)
  | noTrustStore (name : String)
deriving DecidableEq, Repr

def Fault.message : Fault → String
  | unreadable path reason => "failed to read " ++ path ++ ": " ++ reason
  | malformed => "malformed trust policy: the document holds no trust policy"
  | version found =>
    "unsupported trust policy version " ++ quoted found ++ ", expected " ++ quoted supportedVersion
  | empty => "trust policy document has no statements"
  | unnamed => "statement name cannot be empty"
  | sameName name => "multiple statements use the same name " ++ quoted name
  | noScopes name => "statement " ++ quoted name ++ " has no registry scopes"
  | wildcardAndOthers name =>
    "statement " ++ quoted name ++ " uses wildcard scope \"*\" together with other scopes"
  | secondWildcard => "wildcard scope \"*\" is used by more than one statement"
  | invalidScope name scope =>
    "statement " ++ quoted name ++ " has invalid registry scope " ++ quoted scope
  | sameScope scope => "registry scope " ++ quoted scope ++ " is used by more than one statement"
  | overridesIntegrity name =>
    "statement " ++ quoted name ++ " overrides integrity, which is always enforced"
  | noTrustStore name => "statement " ++ quoted name ++ " needs at least one trust store"

def ofValue? (v : Value) : Option Policy := do
  match ← v.fields? ["version", "trustPolicies"] with
  | [version, statements] =>
    return ⟨← Value.required Value.asString? version,
      ← Value.required (Value.asList? Statement.ofValue?) statements⟩
  | _ => none

def toValue (p : Policy) : Value :=
  .object
    [Value.member "version" (.ofString p.version),
      Value.member "trustPolicies" (.array (p.statements.map Statement.toValue))]

instance : Record Policy := ⟨ofValue?, toValue⟩

/-- Whether a scope can be that of a reference: not empty, without blanks and without `@`. -/
def isScope (scope : String) : Bool :=
  !scope.toList.isEmpty && scope.toList.all fun c => c != '@' && !isBlank c

/-- Checks the scopes of a statement that is not the wildcard; `used` are the scopes before. -/
def checkScopes (name : String) (used : List String) : List String → Except Fault Unit
  | [] => .ok ()
  | scope :: rest =>
    if !isScope scope then .error (.invalidScope name scope)
    else if used.contains scope then .error (.sameScope scope)
    else checkScopes name (scope :: used) rest

/-- Checks the scopes of a statement behind the statements `earlier`. -/
def checkAllScopes (earlier : List Statement) (s : Statement) : Except Fault Unit :=
  if s.scopes.isEmpty then .error (.noScopes s.name)
  else if s.isWildcard then
    if 1 < s.scopes.length then .error (.wildcardAndOthers s.name)
    else if earlier.any Statement.isWildcard then .error .secondWildcard
    else .ok ()
  else checkScopes s.name (earlier.flatMap Statement.scopes) s.scopes

def checkStatement (earlier : List Statement) (s : Statement) : Except Fault Unit := do
  if (trim s.name.toList).isEmpty then throw .unnamed
  if earlier.any (·.name = s.name) then throw (.sameName s.name)
  checkAllScopes earlier s
  if s.overrides.integrity.isSome then throw (.overridesIntegrity s.name)
  if s.level ≠ .skip ∧ s.trustStores.isEmpty then throw (.noTrustStore s.name)

def checkStatements (earlier : List Statement) : List Statement → Except Fault Unit
  | [] => .ok ()
  | s :: rest => do
    checkStatement earlier s
    checkStatements (s :: earlier) rest

def check (p : Policy) : Except Fault Unit := do
  if p.version ≠ supportedVersion then throw (.version p.version)
  if p.statements.isEmpty then throw .empty
  checkStatements [] p.statements

def parse (document : ByteArray) : Except Fault Policy := do
  let some p := (decode? document : Option Policy) | throw .malformed
  p.check
  return p

/-- The scope of a reference `<scope>@<digest>`. -/
def scopeOf (reference : String) : String :=
  match cutLast? '@' reference with
  | some (scope, _) => scope
  | none => reference

/-- The statement for a scope: one that lists it, else the wildcard. -/
def governing? (p : Policy) (scope : String) : Option Statement :=
  (p.statements.find? (·.scopes.contains scope)).or (p.statements.find? Statement.isWildcard)

def statement? (p : Policy) (reference : String) : Option Statement :=
  p.governing? (scopeOf reference)

/-- Puts a name into ascending names, unless it is there. -/
def insertName (name : String) : List String → List String
  | [] => [name]
  | n :: rest =>
    if name < n then name :: n :: rest
    else if name = n then n :: rest
    else n :: insertName name rest

def trustStores (p : Policy) : List String :=
  (p.statements.flatMap Statement.trustStores).foldr insertName []

end Policy

end ArtifactTrust
