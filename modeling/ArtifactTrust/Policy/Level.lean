import ArtifactTrust.Json.Record

/-!
# Checks, actions and levels

A signature is put to three checks. A policy says for each of them what a failure leads to,
by a level that covers all three and by overrides of single checks.
-/

namespace ArtifactTrust

set_option autoImplicit false

open Json

inductive Check where
  /-- The envelope is well formed and signs this artifact. -/
  | integrity
  /-- A trusted key made the signature. -/
  | authenticity
  /-- The signature has not expired. -/
  | expiry
deriving DecidableEq, Repr

inductive Action where
  /-- The signature is rejected. -/
  | enforce
  /-- The failure is reported and the signature accepted. -/
  | log
  /-- Nothing: the check is not made. -/
  | skip
deriving DecidableEq, Repr

inductive Level where
  | strict
  | permissive
  | audit
  | skip
deriving DecidableEq, Repr

def Check.name : Check → String
  | integrity => "integrity"
  | authenticity => "authenticity"
  | expiry => "expiry"

def Action.name : Action → String
  | enforce => "enforce"
  | log => "log"
  | skip => "skip"

def Level.name : Level → String
  | strict => "strict"
  | permissive => "permissive"
  | audit => "audit"
  | skip => "skip"

def Check.ofName? (s : String) : Option Check :=
  [Check.integrity, .authenticity, .expiry].find? (·.name = s)

def Action.ofName? (s : String) : Option Action := [Action.enforce, .log, .skip].find? (·.name = s)

def Level.ofName? (s : String) : Option Level :=
  [Level.strict, .permissive, .audit, .skip].find? (·.name = s)

instance : Record Check := ⟨fun v => do Check.ofName? (← v.asName?), fun c => .ofString c.name⟩

instance : Record Action := ⟨fun v => do Action.ofName? (← v.asName?), fun a => .ofString a.name⟩

instance : Record Level := ⟨fun v => do Level.ofName? (← v.asName?), fun l => .ofString l.name⟩

/-- What a failed check leads to at a level. Below the strict level failures are forgiven in
turn, but never that of the integrity. -/
def Level.action : Level → Check → Action
  | .skip, _ => .skip
  | _, .integrity => .enforce
  | .strict, _ => .enforce
  | .permissive, .authenticity => .enforce
  | .permissive, .expiry => .log
  | .audit, _ => .log

structure Overrides where
  integrity : Option Action
  authenticity : Option Action
  expiry : Option Action
deriving DecidableEq, Repr

namespace Overrides

def empty : Overrides := ⟨none, none, none⟩

def get? (o : Overrides) : Check → Option Action
  | .integrity => o.integrity
  | .authenticity => o.authenticity
  | .expiry => o.expiry

def insert (o : Overrides) (check : Check) (action : Action) : Overrides :=
  match check with
  | .integrity => { o with integrity := some action }
  | .authenticity => { o with authenticity := some action }
  | .expiry => { o with expiry := some action }

/-- The overrides that members of an object name; of members for one check the last counts. -/
def ofMembers? (o : Overrides) : List (String × Value) → Option Overrides
  | [] => some o
  | (name, v) :: rest => do
    (o.insert (← Check.ofName? name) (← Record.ofValue? v)).ofMembers? rest

def ofValue? : Value → Option Overrides
  | .object members => do empty.ofMembers? (← Value.namedMembers? members)
  | _ => none

def toValue (o : Overrides) : Value :=
  .object <|
    Value.memberOf? Check.integrity.name Record.toValue o.integrity ++
    Value.memberOf? Check.authenticity.name Record.toValue o.authenticity ++
    Value.memberOf? Check.expiry.name Record.toValue o.expiry

end Overrides

end ArtifactTrust
