import ArtifactTrust.Proofs.Digest.Content
import ArtifactTrust.Signature.Key

/-!
# Ids of keys

The id of a key is the hash of its record, so two keys have one id only where SHA-256 collides.
-/

namespace ArtifactTrust.Signature

set_option autoImplicit false

open Ed25519

variable {a b : List UInt8}

theorem keyRecord_inj : keyRecord a = keyRecord b ↔ a = b := List.append_right_inj recordStart

theorem keyId_eq (key : List UInt8) :
    keyId key = "sha256:" ++ Text.hex (Hash.sha256.ofWhole (keyRecord key)) := by
  rw [keyId, Digest.ofContent_eq, List.toList_toArray]
  rfl

theorem keyId_inj :
    keyId a = keyId b ↔
      Hash.sha256.ofWhole (keyRecord a) = Hash.sha256.ofWhole (keyRecord b) := by
  rw [keyId_eq, keyId_eq, String.append_right_inj, Text.hex_inj]

theorem bytes_of_ofBytes? {bytes : List UInt8} {key : PublicKey}
    (h : PublicKey.ofBytes? bytes = some key) : key.bytes = bytes := by
  unfold PublicKey.ofBytes? at h
  split at h
  · cases h
    rfl
  · cases h

theorem ofBytes?_bytes (key : PublicKey) : PublicKey.ofBytes? key.bytes = some key := by
  unfold PublicKey.ofBytes?
  split
  · exact congrArg some (PublicKey.ext rfl)
  · rename_i fails
    rw [key.decodes] at fails
    cases fails

/-- A key is read back from its record. -/
theorem ofRecord?_keyRecord (key : PublicKey) : ofRecord? (keyRecord key.bytes) = some key := by
  have prefixed : recordStart.isPrefixOf (keyRecord key.bytes) = true :=
    List.isPrefixOf_iff_prefix.mpr (List.prefix_append recordStart key.bytes)
  unfold ofRecord? Text.Armor.withoutStart?
  rw [if_pos prefixed, keyRecord, List.drop_left]
  exact ofBytes?_bytes key

end ArtifactTrust.Signature
