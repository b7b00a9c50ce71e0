import ArtifactTrust.Digest
import ArtifactTrust.Ed25519.Signing
import ArtifactTrust.Text.Armor

/-!
# Public keys in files

A key file holds a public key as an armored key record, which names the kind of key before the
bytes of the key. The id of a key is the digest of its record, so it can be computed from the
key wherever the key came from.
-/

namespace ArtifactTrust.Signature

set_option autoImplicit false

open Ed25519

/-- The start of the record of an Ed25519 key, which says what kind of key follows. -/
def recordStart : List UInt8 :=
  [0x30, 0x2a, 0x30, 0x05, 0x06, 0x03, 0x2b, 0x65, 0x70, 0x03, 0x21, 0x00]

def keyRecord (key : List UInt8) : List UInt8 := recordStart ++ key

/-- The id of the key with these bytes. -/
def keyId (key : List UInt8) : String := Digest.ofContent .sha256 ⟨(keyRecord key).toArray⟩

def ofRecord? (bytes : List UInt8) : Option PublicKey := do
  PublicKey.ofBytes? (← Text.Armor.withoutStart? recordStart bytes)

def ofKeyFile? (text : String) : Option PublicKey := do
  ofRecord? (← Text.Armor.content? (Text.Armor.ascii "PUBLIC KEY") text.toUTF8.data.toList)

end ArtifactTrust.Signature
