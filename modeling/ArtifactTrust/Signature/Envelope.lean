import ArtifactTrust.Content.MediaType
import ArtifactTrust.Signature.Key
import ArtifactTrust.Signature.Payload

/-!
# Signed envelopes

An envelope carries a payload in Base64 and any number of signatures. What is signed is not
the payload alone but its authenticated encoding, which states the type of the payload and
both lengths, so that no two payloads share one encoding.
-/

namespace ArtifactTrust

set_option autoImplicit false

open Json Text Ed25519

structure KeySignature where
  /-- The id of the key that made it. -/
  keyId : String
  signature : String
deriving DecidableEq, Repr

/-- A payload with its signatures. -/
structure Envelope where
  payloadType : String
  payload : String
  signatures : List KeySignature
deriving DecidableEq, Repr

def KeySignature.ofValue? (v : Value) : Option KeySignature := do
  match ← v.fields? ["keyid", "sig"] with
  | [keyId, signature] =>
    return ⟨← Value.required Value.asString? keyId, ← Value.required Value.asString? signature⟩
  | _ => none

def KeySignature.toValue (s : KeySignature) : Value :=
  .object [Value.member "keyid" (.ofString s.keyId), Value.member "sig" (.ofString s.signature)]

namespace Envelope

def ofValue? (v : Value) : Option Envelope := do
  match ← v.fields? ["payloadType", "payload", "signatures"] with
  | [payloadType, payload, signatures] =>
    return ⟨← Value.required Value.asString? payloadType,
      ← Value.required Value.asString? payload,
      ← Value.required (Value.asList? KeySignature.ofValue?) signatures⟩
  | _ => none

def toValue (e : Envelope) : Value :=
  .object
    [Value.member "payloadType" (.ofString e.payloadType),
      Value.member "payload" (.ofString e.payload),
      Value.member "signatures" (.array (e.signatures.map KeySignature.toValue))]

instance : Record Envelope := ⟨ofValue?, toValue⟩

/-- The bytes of a string. -/
def utf8 (s : String) : List UInt8 := s.toUTF8.data.toList

/-- A length in decimal digits, and a blank behind it. -/
def lengthField (n : Nat) : List UInt8 := utf8 (toString n ++ " ")

/-- The authenticated encoding of a payload and its type: what is signed. -/
def authenticated (payloadType : String) (payload : List UInt8) : List UInt8 :=
  utf8 "DSSEv1 " ++ lengthField (utf8 payloadType).length ++ utf8 payloadType ++ utf8 " " ++
    lengthField payload.length ++ payload

inductive Fault where
  | malformed
  | payloadType (found : String)
  | unsigned
  | encoding (fault : Base64.Fault)
  | payload
  deriving DecidableEq, Repr

def Fault.message : Fault → String
  | malformed => "invalid DSSE envelope: the document holds no envelope"
  | payloadType found =>
    "payload type mismatch: expected " ++ MediaType.payload ++ ", got " ++ found
  | unsigned => "no signatures in envelope"
  | encoding fault => "invalid base64 payload: " ++ fault.message
  | payload => "invalid signature payload: the document holds no payload"

/-- An envelope with what it carries. -/
structure Opened where
  envelope : Envelope
  /-- The bytes that the signatures are about. -/
  content : List UInt8
  payload : Payload
deriving DecidableEq, Repr

def opened (document : ByteArray) : Except Fault Opened := do
  let some envelope := (decode? document : Option Envelope) | throw .malformed
  if envelope.payloadType ≠ MediaType.payload then throw (.payloadType envelope.payloadType)
  if envelope.signatures.isEmpty then throw .unsigned
  match Base64.decoded envelope.payload with
  | .error fault => throw (.encoding fault)
  | .ok content =>
    let some payload := (decode? ⟨content.toArray⟩ : Option Payload) | throw .payload
    return ⟨envelope, content, payload⟩

def sign (payload : Payload) (key : SigningKey) : Envelope :=
  let content := (Json.encode payload).data.toList
  ⟨MediaType.payload, Base64.encoded content,
    [⟨Signature.keyId key.publicBytes,
      Base64.encoded (key.sign (authenticated MediaType.payload content))⟩]⟩

end Envelope

inductive SignatureFault where
  | unknownKey (keyId : String)
  | encoding (fault : Base64.Fault)
  | size
  | mismatch
  | none
deriving DecidableEq, Repr

def SignatureFault.message : SignatureFault → String
  | unknownKey keyId => "key " ++ keyId ++ " is not in a trusted store"
  | encoding fault => "invalid base64 signature: " ++ fault.message
  | size => "invalid signature bytes: a signature has 64 bytes"
  | mismatch => "ed25519 verification failed"
  | none => "no valid signatures"

namespace KeySignature

def check (s : KeySignature) (key : PublicKey) (message : List UInt8) : Except SignatureFault Unit :=
  match Base64.decoded s.signature with
  | .error fault => .error (.encoding fault)
  | .ok bytes =>
    if bytes.length ≠ 64 then .error .size
    else if key.verifies message bytes then .ok ()
    else .error .mismatch

def checkAmong (s : KeySignature) (keys : List (String × PublicKey)) (message : List UInt8) :
    Except SignatureFault Unit :=
  match keys.lookup s.keyId with
  | some key => s.check key message
  | none => .error (.unknownKey s.keyId)

/-- The id of the key of the first good signature; where there is none, the fault of the last. -/
def firstGood (keys : List (String × PublicKey)) (message : List UInt8) :
    SignatureFault → List KeySignature → Except SignatureFault String
  | fault, [] => .error fault
  | _, s :: rest =>
    match s.checkAmong keys message with
    | .ok () => .ok s.keyId
    | .error fault => firstGood keys message fault rest

end KeySignature

def Envelope.signer (o : Envelope.Opened) (keys : List (String × PublicKey)) :
    Except SignatureFault String :=
  KeySignature.firstGood keys (Envelope.authenticated o.envelope.payloadType o.content) .none
    o.envelope.signatures

end ArtifactTrust
