import ArtifactTrust.Content.Descriptor
import ArtifactTrust.Digest.Reading
import ArtifactTrust.Proofs.Digest
import ArtifactTrust.Proofs.Hash.Blockwise
import Mathlib.Data.List.Basic

/-!
# Which digests content has

Content is accepted under one text for each algorithm, and a source that hands it out read by read
leads to the same digest, however many bytes each read brings.
-/

namespace ArtifactTrust

set_option autoImplicit false

/-! ### Hexadecimal text -/

namespace Text

theorem isLowerHex_hexDigit {n : Nat} (half : n < 16) : isLowerHex (hexDigit n) = true := by
  have all : ∀ n < 16, isLowerHex (hexDigit n) = true := by decide
  exact all n half

theorem isLowerHex_of_mem_digitPairs {bytes : List UInt8} {c : Char}
    (mem : c ∈ digitPairs bytes) : isLowerHex c = true := by
  induction bytes with
  | nil => cases mem
  | cons b rest ih =>
    rw [digitPairs, List.mem_cons, List.mem_cons] at mem
    rcases mem with rfl | rfl | mem
    · have small := b.toNat_lt
      exact isLowerHex_hexDigit (by omega)
    · exact isLowerHex_hexDigit (Nat.mod_lt _ (by decide))
    · exact ih mem

theorem hexDigit_inj {m n : Nat} (hm : m < 16) (hn : n < 16) (same : hexDigit m = hexDigit n) :
    m = n := by
  have value : ∀ n < 16, hexValue? (hexDigit n) = some n := by decide
  have back := value m hm
  rw [same, value n hn] at back
  exact (Option.some.inj back).symm

theorem eq_of_digitPairs_eq {a b : List UInt8} (same : digitPairs a = digitPairs b) : a = b := by
  induction a generalizing b with
  | nil =>
    cases b with
    | nil => rfl
    | cons y b => cases same
  | cons x a ih =>
    cases b with
    | nil => cases same
    | cons y b =>
      obtain ⟨high, rest⟩ := List.cons.inj same
      obtain ⟨low, rest⟩ := List.cons.inj rest
      have hx := x.toNat_lt
      have hy := y.toNat_lt
      have high := hexDigit_inj (by omega) (by omega) high
      have low := hexDigit_inj (Nat.mod_lt _ (by decide)) (Nat.mod_lt _ (by decide)) low
      rw [ih rest, UInt8.toNat_inj.mp (by omega : x.toNat = y.toNat)]

theorem hex_inj {a b : List UInt8} : hex a = hex b ↔ a = b :=
  ⟨fun same => eq_of_digitPairs_eq (String.ofList_injective same), congrArg hex⟩

end Text

/-! ### Digests of content -/

namespace Digest

variable {digest encoded : String} {algorithm : Algorithm} {content : ByteArray}

theorem length_hash (algorithm : Algorithm) (input : List UInt8) :
    2 * (algorithm.blockHash.hash input).length = algorithm.hexLength := by
  cases algorithm with
  | sha256 =>
    change 2 * (Hash.Sha256.output _).length = 64
    simp [Hash.Sha256.output]
  | sha512 =>
    change 2 * (Hash.Sha512.output _).length = 128
    simp [Hash.Sha512.output]

theorem parse_ofContent (algorithm : Algorithm) (content : ByteArray) :
    parse (ofContent algorithm content) =
      .ok (algorithm, Text.hex (algorithm.blockHash.hash content.data.toList)) := by
  apply parse_eq_ok_iff.mpr
  refine ⟨rfl, ?_, ?_⟩
  · rw [Text.hex, String.toList_ofList, Text.length_digitPairs, length_hash]
  · rw [Text.hex, String.toList_ofList, List.all_eq_true]
    intro c mem
    exact Text.isLowerHex_of_mem_digitPairs mem

theorem verifyContent_eq_ok_iff_exists :
    verifyContent digest content = .ok () ↔ ∃ algorithm, digest = ofContent algorithm content := by
  rw [verifyContent_eq_ok_iff]
  constructor
  · rintro ⟨parts, -, made⟩
    exact ⟨parts.1, made.symm⟩
  · rintro ⟨algorithm, rfl⟩
    exact ⟨_, validate_eq_ok_iff.mpr (parse_ofContent algorithm content), rfl⟩

theorem ofContent_eq (algorithm : Algorithm) (content : ByteArray) :
    ofContent algorithm content =
      algorithm.name ++ ":" ++ Text.hex (algorithm.blockHash.ofWhole content.data.toList) := by
  rw [ofContent, Hash.BlockHash.hash_eq_ofWhole]

/-- A text is called an invalid reference for the faults of validation only. -/
theorem validate_eq_error_iff {cause : RepositoryError} :
    validate digest = .error cause ↔
      verifyContent digest content = .error cause ∧
        ∃ fault : Fault, cause = .invalidReference digest fault.message := by
  cases parsed : parse digest with
  | ok parts =>
    rw [validate_eq_ok_iff.mpr parsed, verifyContent_of_parse parsed]
    constructor
    · nofun
    · rintro ⟨refused, fault, rfl⟩
      split at refused
      · cases refused
      · cases refused
  | error fault =>
    rw [validate_of_fault parsed, verifyContent_of_fault parsed]
    constructor
    · intro refused
      cases refused
      exact ⟨rfl, fault, rfl⟩
    · rintro ⟨refused, -⟩
      cases refused
      rfl

/-! ### Reading content -/

theorem length_fill (buffer read : List UInt8) : (fill buffer read).length = buffer.length := by
  unfold fill
  rw [List.length_take, List.length_append, List.length_drop]
  omega

theorem take_fill {buffer read : List UInt8} (fits : read.length ≤ buffer.length) :
    (fill buffer read).take read.length = read := by
  unfold fill
  rw [List.take_take, Nat.min_eq_left fits, List.take_left]

/-- Reads that bring something and fit are taken in one after another, each as it is: of a buffer
only the front counts, and it stays as long as it is. -/
theorem takeIn_append {ε : Type} {h : Hash.BlockHash} {buffer : List UInt8}
    {portions : List ByteArray}
    (fits : ∀ portion ∈ portions, 0 < portion.size ∧ portion.size ≤ buffer.length)
    (p : h.Progress) (rest : List (Except ε ByteArray)) :
    ∃ later, takeIn h buffer p (portions.map .ok ++ rest) =
      takeIn h later ((portions.map (·.data.toList)).foldl h.update p) rest := by
  induction portions generalizing buffer p with
  | nil => exact ⟨buffer, rfl⟩
  | cons portion portions ih =>
    obtain ⟨⟨filled, room⟩, fits⟩ := List.forall_mem_cons.mp fits
    have brings : ¬ portion.isEmpty = true := by
      intro empty
      exact absurd (beq_iff_eq.mp empty) (Nat.ne_of_gt filled)
    have front : (fill buffer portion.data.toList).take portion.size = portion.data.toList :=
      take_fill room
    rw [← length_fill buffer portion.data.toList] at fits
    obtain ⟨later, same⟩ := ih fits (h.update p portion.data.toList)
    refine ⟨later, ?_⟩
    rw [List.map_cons, List.cons_append, takeIn, if_neg brings]
    simp only [front]
    exact same

theorem ofReads_eq_ofPortions {ε : Type} {portions : List ByteArray}
    (fits : ∀ portion ∈ portions, 0 < portion.size ∧ portion.size ≤ bufferSize)
    (later : List (Except ε ByteArray)) :
    ofReads (portions.map .ok ++ .ok .empty :: later) = .ok (ofPortions portions) := by
  rw [← List.length_replicate (n := bufferSize) (a := (0 : UInt8))] at fits
  obtain ⟨buffer, same⟩ := takeIn_append fits Hash.sha256.initial (.ok .empty :: later)
  unfold ofReads
  rw [same]
  rfl

theorem ofPortions_eq_ofContent {portions : List ByteArray}
    (whole : (portions.map (·.data.toList)).flatten = content.data.toList) :
    ofPortions portions = ofContent .sha256 content := by
  rw [ofPortions, Hash.BlockHash.hashPortions_eq_hash, whole]
  rfl

/-! ### What is accepted -/

/-- Content is accepted under its digest of each algorithm and under no other text. A text that is
no digest is refused with the fault that validation finds in it, and a digest of other content with
the digest that the content has under the same algorithm. The digest in a descriptor that is made of
content is well formed and accepted, and it is the one that comes of reading the content, whatever
portions it is handed out in. -/
theorem content_accepted_iff (digest : String) (content : ByteArray) :
    (verifyContent digest content = .ok () ↔
      digest = "sha256:" ++ Text.hex (Hash.sha256.ofWhole content.data.toList) ∨
      digest = "sha512:" ++ Text.hex (Hash.sha512.ofWhole content.data.toList)) ∧
    (∀ cause, validate digest = .error cause ↔
      verifyContent digest content = .error cause ∧
        ∃ fault : Fault, cause = .invalidReference digest fault.message) ∧
    (∀ algorithm encoded, validate digest = .ok (algorithm, encoded) →
      digest = algorithm.name ++ ":" ++ encoded ∧
      (verifyContent digest content ≠ .ok () →
        verifyContent digest content = .error (.digestMismatch digest
          (algorithm.name ++ ":" ++
            Text.hex (algorithm.blockHash.ofWhole content.data.toList))))) ∧
    ∀ mediaType,
      (∃ parts, validate (Descriptor.ofContent mediaType content).digest = .ok parts) ∧
      verifyContent (Descriptor.ofContent mediaType content).digest content = .ok () ∧
      ∀ portions : List ByteArray,
        (∀ portion ∈ portions, 0 < portion.size ∧ portion.size ≤ bufferSize) →
        (portions.map (·.data.toList)).flatten = content.data.toList →
        ∀ (ε : Type) (later : List (Except ε ByteArray)),
          ofReads (portions.map .ok ++ .ok .empty :: later) =
            .ok (Descriptor.ofContent mediaType content).digest := by
  refine ⟨?_, fun cause => validate_eq_error_iff, ?_, fun mediaType => ⟨?_, ?_, ?_⟩⟩
  · rw [verifyContent_eq_ok_iff_exists]
    constructor
    · rintro ⟨algorithm, made⟩
      rw [ofContent_eq] at made
      cases algorithm with
      | sha256 => exact .inl made
      | sha512 => exact .inr made
    · rintro (made | made)
      · exact ⟨.sha256, made.trans (ofContent_eq .sha256 content).symm⟩
      · exact ⟨.sha512, made.trans (ofContent_eq .sha512 content).symm⟩
  · intro algorithm encoded validated
    have parsed := validate_eq_ok_iff.mp validated
    refine ⟨(parse_eq_ok_iff.mp parsed).1, fun refused => ?_⟩
    rw [verifyContent_of_parse parsed] at refused ⊢
    rw [ofContent_eq] at refused ⊢
    split at refused
    · exact absurd rfl refused
    · rename_i other
      exact if_neg other
  · exact ⟨_, validate_eq_ok_iff.mpr (parse_ofContent .sha256 content)⟩
  · exact verifyContent_eq_ok_iff_exists.mpr ⟨.sha256, rfl⟩
  · intro portions fits whole ε later
    rw [ofReads_eq_ofPortions fits, ofPortions_eq_ofContent whole]
    rfl

/-- A document in two reads, the digest that comes of them, and the same digits in upper case. -/
theorem content_accepted_iff_document :
    ofReads [(.ok "\x7b".toUTF8 : Except Unit ByteArray), .ok "\x7d".toUTF8, .ok .empty] =
      .ok (Descriptor.ofContent "text/plain" "{}".toUTF8).digest ∧
    (Descriptor.ofContent "text/plain" "{}".toUTF8).digest =
      "sha256:44136fa355b3678a1146ad16f7e8649e94fb4fc21fe77e8310c060f61caaff8a" ∧
    verifyContent "sha256:44136FA355B3678A1146AD16F7E8649E94FB4FC21FE77E8310C060F61CAAFF8A"
        "{}".toUTF8 =
      .error (.invalidReference
        "sha256:44136FA355B3678A1146AD16F7E8649E94FB4FC21FE77E8310C060F61CAAFF8A"
        (Fault.notHex .sha256).message) := by
  refine ⟨?_, by decide +kernel, ?_⟩
  · obtain ⟨-, -, -, made⟩ := content_accepted_iff "" "{}".toUTF8
    obtain ⟨-, -, read⟩ := made "text/plain"
    exact read ["\x7b".toUTF8, "\x7d".toUTF8] (by decide +kernel) (by decide +kernel) Unit []
  · obtain ⟨-, refused, -⟩ := content_accepted_iff
      "sha256:44136FA355B3678A1146AD16F7E8649E94FB4FC21FE77E8310C060F61CAAFF8A" "{}".toUTF8
    have upper : parse "sha256:44136FA355B3678A1146AD16F7E8649E94FB4FC21FE77E8310C060F61CAAFF8A" =
        .error (.notHex .sha256) := by
      decide +kernel
    exact ((refused _).mp (validate_of_fault upper)).1

end Digest

end ArtifactTrust
