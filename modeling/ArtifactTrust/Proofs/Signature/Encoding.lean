import ArtifactTrust.Proofs.Text.Base64
import ArtifactTrust.Proofs.Text.Decimal
import ArtifactTrust.Signature.Envelope

/-!
# The authenticated encoding is read back

A length ends at its first blank, because digits are no blanks, and what comes behind it ends after
as many bytes. So a type or a payload may hold anything.
-/

namespace ArtifactTrust.Envelope

set_option autoImplicit false

open Text

/-- Where a value that was written ends can be told whatever is behind it. -/
def EndsItself {α : Type} (write : α → List UInt8) : Prop :=
  ∀ a b rest rest', write a ++ rest = write b ++ rest' → a = b ∧ rest = rest'

theorem EndsItself.injective {α : Type} {write : α → List UInt8} (ends : EndsItself write) :
    Function.Injective write := by
  intro a b same
  exact (ends a b [] [] (by rw [same])).1

/-! ### Bytes of a text -/

theorem utf8_append (s t : String) : utf8 (s ++ t) = utf8 s ++ utf8 t := by
  unfold utf8
  rw [String.toUTF8_eq_toByteArray, String.toByteArray_append, ByteArray.data_append,
    Array.toList_append]
  rfl

theorem utf8_injective : Function.Injective utf8 := fun _ _ => Base64.eq_of_utf8_eq

theorem utf8_of_ascii {s : String} (ascii : ∀ c ∈ s.toList, c.toNat < 128) :
    utf8 s = s.toList.map fun c => UInt8.ofNat c.toNat := by
  have small (c : Char) (mem : c ∈ s.toList) : (UInt8.ofNat c.toNat).toNat = c.toNat := by
    rw [UInt8.toNat_ofNat']
    exact Nat.mod_eq_of_lt (Nat.lt_trans (ascii c mem) (by decide))
  have again : (s.toList.map fun c => UInt8.ofNat c.toNat).map (fun b => Char.ofNat b.toNat) =
      s.toList := by
    rw [List.map_map]
    refine Eq.trans (List.map_congr_left fun c mem => ?_) (List.map_id s.toList)
    rw [Function.comp_apply, small c mem, Char.ofNat_toNat, id]
  have bytes : ∀ b ∈ s.toList.map fun c => UInt8.ofNat c.toNat, b.toNat < 128 := by
    intro b mem
    obtain ⟨c, listed, rfl⟩ := List.mem_map.mp mem
    rw [small c listed]
    exact ascii c listed
  have written := Base64.utf8_ofAscii bytes
  rw [again, String.ofList_toList] at written
  exact written

/-! ### Lengths -/

def blank : UInt8 := 32

theorem blank_notMem_digits (n : Nat) : blank ∉ utf8 (toString n) := by
  have digit (c : Char) (mem : c ∈ (toString n).toList) : 48 ≤ c.toNat ∧ c.toNat ≤ 57 :=
    toNat_of_isDigit (isDigit_of_mem_toString mem)
  rw [utf8_of_ascii fun c mem => Nat.lt_of_le_of_lt (digit c mem).2 (by decide)]
  intro mem
  obtain ⟨c, listed, same⟩ := List.mem_map.mp mem
  obtain ⟨low, high⟩ := digit c listed
  have value := congrArg UInt8.toNat same
  rw [UInt8.toNat_ofNat', Nat.mod_eq_of_lt (Nat.lt_of_le_of_lt high (by decide))] at value
  change c.toNat = 32 at value
  omega

theorem lengthField_eq (n : Nat) : lengthField n = utf8 (toString n) ++ [blank] := by
  unfold lengthField
  rw [utf8_append]
  rfl

theorem append_blank_inj {x y rest rest' : List UInt8} (hx : blank ∉ x) (hy : blank ∉ y)
    (same : x ++ blank :: rest = y ++ blank :: rest') : x = y ∧ rest = rest' := by
  induction x generalizing y with
  | nil =>
    cases y with
    | nil => exact ⟨rfl, (List.cons.inj same).2⟩
    | cons c y => exact absurd ((List.cons.inj same).1 ▸ List.mem_cons_self) hy
  | cons b x ih =>
    cases y with
    | nil => exact absurd ((List.cons.inj same).1 ▸ List.mem_cons_self) hx
    | cons c y =>
      obtain ⟨rfl, behind⟩ := List.cons.inj same
      obtain ⟨rfl, others⟩ := ih (fun mem => hx (List.mem_cons_of_mem b mem))
        (fun mem => hy (List.mem_cons_of_mem b mem)) behind
      exact ⟨rfl, others⟩

theorem toString_injective : Function.Injective (toString : Nat → String) := by
  intro m n same
  rw [← digitsValue_toString m, same, digitsValue_toString]

theorem endsItself_lengthField : EndsItself lengthField := by
  intro m n rest rest' same
  rw [lengthField_eq, lengthField_eq, List.append_assoc, List.append_assoc] at same
  obtain ⟨digits, others⟩ := append_blank_inj (blank_notMem_digits m) (blank_notMem_digits n) same
  exact ⟨toString_injective (utf8_injective digits), others⟩

/-! ### Encodings -/

theorem endsItself_field : EndsItself fun bytes => lengthField bytes.length ++ bytes := by
  intro x y rest rest' same
  rw [List.append_assoc, List.append_assoc] at same
  obtain ⟨length, others⟩ := endsItself_lengthField _ _ _ _ same
  exact List.append_inj others length

theorem endsItself_authenticated :
    EndsItself fun typed : String × List UInt8 => authenticated typed.1 typed.2 := by
  rintro ⟨t, p⟩ ⟨u, q⟩ rest rest' same
  simp only [authenticated, List.append_assoc, List.append_cancel_left_eq] at same
  rw [← List.append_assoc, ← List.append_assoc (lengthField (utf8 u).length)] at same
  obtain ⟨types, others⟩ := endsItself_field _ _ _ _ same
  rw [List.append_cancel_left_eq, ← List.append_assoc, ← List.append_assoc] at others
  obtain ⟨payloads, behind⟩ := endsItself_field _ _ _ _ others
  exact ⟨Prod.ext (utf8_injective types) payloads, behind⟩

/-- No two payloads and no two types share an authenticated encoding. -/
theorem authenticated_eq_iff (payloadType otherType : String) (payload other : List UInt8) :
    authenticated payloadType payload = authenticated otherType other ↔
      payloadType = otherType ∧ payload = other := by
  constructor
  · intro same
    have typed : (payloadType, payload) = (otherType, other) :=
      endsItself_authenticated.injective same
    exact Prod.mk.inj typed
  · rintro ⟨rfl, rfl⟩
    rfl

example : authenticated "text/plain" (utf8 "hi") = utf8 "DSSEv1 10 text/plain 2 hi" := by
  decide +kernel

end ArtifactTrust.Envelope
