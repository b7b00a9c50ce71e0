import ArtifactTrust.Policy.Document
import ArtifactTrust.Policy.TrustStore
import ArtifactTrust.Signature.Envelope
import ArtifactTrust.Verification.Outcome

/-!
# Verifying one signature

A verifier accepts or rejects one envelope as a signature of an artifact. `KeyVerifier.verify`
does so under a trust policy: an envelope that is not well formed or is about another artifact
is always rejected, and whether one without a good signature or out of date is rejected is up
to the statement that governs the artifact. No content of an envelope makes it fail otherwise.
-/

namespace ArtifactTrust

set_option autoImplicit false

structure VerifyOptions where
  /-- The scope and the digest of the artifact, as `<scope>@<digest>`. -/
  reference : String
  /-- Settings that are passed on to the verifier. -/
  pluginConfig : Labels
  /-- How many signatures are looked at. -/
  maxAttempts : Nat
  /-- What the signer has to say about the artifact. -/
  userMetadata : Labels
deriving DecidableEq, Repr

/-- A judge of single signatures. -/
structure Verifier (m : Type → Type) where
  /-- The level of the governing statement, if verification is skipped under it. -/
  skipLevel : VerifyOptions → ExceptT VerificationError m (Option Level)
  /-- The outcome for an envelope as a signature of the artifact with a descriptor. -/
  verify : Descriptor → ByteArray → VerifyOptions → ExceptT VerificationError m Outcome

inductive IntegrityFault where
  | envelope (fault : Envelope.Fault)
  | otherDigest (signed target : String)
  | otherContent (signed target : Descriptor)
deriving DecidableEq, Repr

def IntegrityFault.message : IntegrityFault → String
  | envelope fault => fault.message
  | otherDigest signed target => "signature is for " ++ signed ++ ", not " ++ target
  | otherContent signed target =>
    "signed descriptor of " ++ target.digest ++ " does not match the artifact (size " ++
      toString signed.size.toNat ++ " vs " ++ toString target.size.toNat ++ ", media type " ++
      signed.mediaType ++ " vs " ++ target.mediaType ++ ")"

inductive Rejection where
  | integrity (fault : IntegrityFault)
  | enforced (check : Check) (failure : String)
  | metadata (name text : String)
deriving DecidableEq, Repr

def Rejection.message : Rejection → String
  | integrity fault => Check.integrity.name ++ " check failed: " ++ fault.message
  | enforced check failure => check.name ++ " check failed: " ++ failure
  | metadata name text =>
    "unable to find specified metadata " ++ name ++ "=" ++ text ++ " in the signature"

def Payload.checkTarget (p : Payload) (target : Descriptor) : Except IntegrityFault Unit :=
  if p.target.digest ≠ target.digest then .error (.otherDigest p.target.digest target.digest)
  else if p.target.size ≠ target.size ∨ p.target.mediaType ≠ target.mediaType then
    .error (.otherContent p.target target)
  else .ok ()

def Payload.expired? (p : Payload) (now : Time.Instant) : Option String :=
  match p.expiresAt with
  | some expiry =>
    if expiry ≤ now then some ("signature expired at " ++ expiry.offsetText) else none
  | none => none

def Envelope.openFor (target : Descriptor) (document : ByteArray) :
    Except IntegrityFault Envelope.Opened :=
  match Envelope.opened document with
  | .error fault => .error (.envelope fault)
  | .ok o =>
    match o.payload.checkTarget target with
    | .error fault => .error fault
    | .ok () => .ok o

/-- The result of a check under its action: a failure that is enforced rejects the signature,
and a check that is skipped leaves no result. -/
def CheckResult.settle (check : Check) (action : Action) (failure : Option String) :
    Except Rejection (List CheckResult) :=
  match action, failure with
  | .skip, _ => .ok []
  | .enforce, some reason => .error (.enforced check reason)
  | action, failure => .ok [⟨check, action, failure⟩]

def Payload.checkMetadata (p : Payload) : List (String × String) → Except Rejection Unit
  | [] => .ok ()
  | (name, text) :: rest =>
    if p.target.annotation? name = some text then p.checkMetadata rest
    else .error (.metadata name text)

/-- The verifier that trusts keys under a policy. -/
structure KeyVerifier where
  policy : Policy
  store : TrustStore

namespace KeyVerifier

def statement (v : KeyVerifier) (reference : String) : Except VerificationError Statement :=
  match v.policy.statement? reference with
  | some s => .ok s
  | none => .error (.noStatement reference)

def skipLevel (v : KeyVerifier) (options : VerifyOptions) :
    Except VerificationError (Option Level) := do
  let s ← v.statement options.reference
  return if s.level = .skip then some s.level else none

/-- Why an envelope does not count as signed by a key that a statement trusts, if so. -/
def unauthentic? (v : KeyVerifier) (s : Statement) (o : Envelope.Opened) : Option String :=
  match Envelope.signer o (v.store.keysIn s.trustStores) with
  | .ok _ => none
  | .error fault => some fault.message

def judge (v : KeyVerifier) (now : Time.Instant) (s : Statement) (target : Descriptor)
    (envelope : ByteArray) (options : VerifyOptions) : Except Rejection Outcome := do
  match Envelope.openFor target envelope with
  | .error fault => throw (.integrity fault)
  | .ok o =>
    let authenticity ←
      CheckResult.settle .authenticity (s.action .authenticity) (v.unauthentic? s o)
    let expiry ← CheckResult.settle .expiry (s.action .expiry) (o.payload.expired? now)
    o.payload.checkMetadata options.userMetadata.entries
    return ⟨s.level, ⟨.integrity, .enforce, none⟩ :: (authenticity ++ expiry), some o.payload⟩

def verify (v : KeyVerifier) (now : Time.Instant) (target : Descriptor) (envelope : ByteArray)
    (options : VerifyOptions) : Except VerificationError Outcome := do
  let s ← v.statement options.reference
  if s.level = .skip then return .skipped
  match v.judge now s target envelope options with
  | .ok outcome => return outcome
  | .error rejection => throw (.rejected rejection.message)

def withClock {m : Type → Type} [Monad m] (v : KeyVerifier) (clock : m Time.Instant) :
    Verifier m where
  skipLevel options := ExceptT.mk (pure (v.skipLevel options))
  verify target envelope options :=
    ExceptT.mk (do return v.verify (← clock) target envelope options)

end KeyVerifier

end ArtifactTrust
