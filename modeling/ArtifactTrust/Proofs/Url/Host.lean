import ArtifactTrust.Proofs.Except
import ArtifactTrust.Proofs.Text.Composition
import ArtifactTrust.Proofs.Text.Cut
import ArtifactTrust.Reference
import ArtifactTrust.Url.Basic

/-!
# The host of a registry

The normal form of a host is written in the same few characters as the host, and none of them ends
the authority of a URL.
-/

namespace ArtifactTrust.Url

set_option autoImplicit false

open Text

def HostText (cs : List Char) : Prop := ∀ c ∈ cs, Reference.isHostCharacter c = true

namespace HostText

variable {c : Char} {cs ds : List Char}

theorem nil : HostText [] := fun _ mem => by cases mem

theorem cons (hc : Reference.isHostCharacter c = true) (h : HostText cs) : HostText (c :: cs) := by
  intro d mem
  rcases List.mem_cons.mp mem with rfl | mem
  · exact hc
  · exact h d mem

theorem append (hc : HostText cs) (hd : HostText ds) : HostText (cs ++ ds) := by
  intro c mem
  rcases List.mem_append.mp mem with mem | mem
  · exact hc c mem
  · exact hd c mem

theorem mono (h : HostText ds) (subset : cs ⊆ ds) : HostText cs :=
  fun c mem => h c (subset mem)

end HostText

/-! ### Characters -/

theorem forall_ascii {p : Char → Prop} (h : ∀ n < 128, p (Char.ofNat n)) {c : Char}
    (ascii : c.toNat < 128) : p c := by
  have := h c.toNat ascii
  rwa [Char.ofNat_toNat] at this

theorem toNat_lt_of_isHostCharacter {c : Char} (h : Reference.isHostCharacter c = true) :
    c.toNat < 128 := by
  rcases Nat.lt_or_ge c.toNat 128 with low | large
  · exact low
  have above {d : Char} (low : d.toNat < 128) : ¬ c ≤ d := fun le => by
    have : c.toNat ≤ d.toNat := le
    omega
  have other {d : Char} (low : d.toNat < 128) : c ≠ d := fun same => by
    rw [same] at large
    omega
  simp [Reference.isHostCharacter, Reference.isAlphanumeric, Reference.isLower, isDigit,
    above (d := 'z') (by decide), above (d := 'Z') (by decide), above (d := '9') (by decide),
    other (d := '.') (by decide), other (d := '-') (by decide), other (d := ':') (by decide),
    other (d := '[') (by decide), other (d := ']') (by decide)] at h

theorem isHostCharacter_toLower {c : Char} (h : Reference.isHostCharacter c = true) :
    Reference.isHostCharacter c.toLower = true :=
  forall_ascii (p := fun c => Reference.isHostCharacter c = true →
    Reference.isHostCharacter c.toLower = true) (by decide +kernel)
    (toNat_lt_of_isHostCharacter h) h

/-- A host character is none that a URL drops or that ends an authority. -/
theorem not_ends_of_isHostCharacter {c : Char} (h : Reference.isHostCharacter c = true) :
    endsAuthority c = false ∧ isEdge c = false ∧ isBreak c = false ∧ c ≠ '@' ∧ c ≠ '%' :=
  forall_ascii (p := fun c => Reference.isHostCharacter c = true →
    endsAuthority c = false ∧ isEdge c = false ∧ isBreak c = false ∧ c ≠ '@' ∧ c ≠ '%')
    (by decide +kernel) (toNat_lt_of_isHostCharacter h) h

theorem hostText_toDigits {base : Nat} (positive : 1 < base) (small : base ≤ 16) (n : Nat) :
    HostText (Nat.toDigits base n) := by
  have digits : ∀ d < 16, Reference.isHostCharacter d.digitChar = true := by decide
  induction n using Nat.strongRecOn with
  | ind n ih =>
    rcases Nat.lt_or_ge n base with low | high
    · rw [Nat.toDigits_of_lt_base low]
      exact .cons (digits n (Nat.lt_of_lt_of_le low small)) .nil
    · rw [Nat.toDigits_of_base_le positive high]
      have rest := ih (n / base) (Nat.div_lt_self (by omega) positive)
      have last : n % base < base := Nat.mod_lt n (by omega)
      exact rest.append (.cons (digits _ (Nat.lt_of_lt_of_le last small)) .nil)

theorem hostText_toString (n : Nat) : HostText (toString n).toList := by
  rw [Nat.toString_eq_repr, Nat.toList_repr]
  exact hostText_toDigits (by decide) (by decide) n

/-! ### Addresses -/

theorem hostText_ipv4Text (n : Nat) : HostText (ipv4Text n).toList := by
  have dot : HostText ".".toList := .cons (by decide) .nil
  unfold ipv4Text
  simp only [String.toList_append]
  exact (((((((hostText_toString _).append dot).append (hostText_toString _)).append dot).append
    (hostText_toString _)).append dot).append (hostText_toString _))

theorem hostText_colonText (numbers : List Nat) : HostText (colonText numbers).toList := by
  have number (n : Nat) : HostText (hexNumber n).toList := by
    unfold hexNumber
    rw [String.toList_ofList]
    exact hostText_toDigits (by decide) (by decide) n
  have colon : HostText ":".toList := .cons (by decide) .nil
  unfold colonText
  rw [String.toList_intercalate, List.map_map]
  induction numbers with
  | nil => exact .nil
  | cons n rest ih =>
    cases rest with
    | nil =>
      simp only [List.map_cons, List.map_nil, List.intercalate_singleton, Function.comp_apply]
      exact number n
    | cons m others =>
      simp only [List.map_cons, List.intercalate_cons_cons, Function.comp_apply] at ih ⊢
      exact ((number n).append colon).append ih

theorem hostText_ipv6Text (numbers : List Nat) : HostText (ipv6Text numbers).toList := by
  have gap : HostText "::".toList := .cons (by decide) (.cons (by decide) .nil)
  unfold ipv6Text
  obtain ⟨start, length⟩ := longestZeros 0 numbers
  by_cases short : length < 2
  · simp only [short, if_true]
    exact hostText_colonText numbers
  · simp only [short, if_false, String.toList_append]
    exact ((hostText_colonText _).append gap).append (hostText_colonText _)

/-! ### Domains -/

theorem percentDecode_of_plain {cs : List Char} (plain : '%' ∉ cs) :
    percentDecode cs = (String.ofList cs).toUTF8.data.toList := by
  induction cs with
  | nil => rfl
  | cons c rest ih =>
    rw [List.mem_cons, not_or] at plain
    have first : percentDecode (c :: rest) =
        (String.ofList [c]).toUTF8.data.toList ++ percentDecode rest := by
      rw [percentDecode]
      intro a b others same
      cases same
      exact absurd rfl plain.1
    have whole : String.ofList (c :: rest) = String.ofList [c] ++ String.ofList rest :=
      String.toList_inj.mp (by simp)
    rw [first, ih plain.2, whole]
    simp only [String.toUTF8_eq_toByteArray, String.toByteArray_append, ByteArray.data_append,
      Array.toList_append]

theorem fromUTF8?_toUTF8 (s : String) : String.fromUTF8? s.toUTF8 = some s := by
  unfold String.fromUTF8?
  exact dif_pos s.isValidUTF8

theorem fold_of_isHostCharacter {c : Char} (h : Reference.isHostCharacter c = true) :
    Folding.fold c = [c.toLower] := if_pos (toNat_lt_of_isHostCharacter h)

theorem flatMap_fold {domain : List Char} (host : HostText domain) :
    domain.flatMap Folding.fold = domain.map Char.toLower := by
  induction domain with
  | nil => rfl
  | cons c rest ih =>
    have first := fold_of_isHostCharacter (host c List.mem_cons_self)
    have later := ih (host.mono (List.subset_cons_self c rest))
    rw [List.flatMap_cons, first, later, List.map_cons, List.singleton_append]

theorem domainLabels_of_hostText {domain : List Char} (host : HostText domain) :
    domainLabels domain = pieces '.' (domain.map Char.toLower) := by
  have plain : ∀ c ∈ domain.map Char.toLower, Composition.Plain c := by
    intro c mem
    obtain ⟨d, hd, rfl⟩ := List.mem_map.mp mem
    have small := toNat_lt_of_isHostCharacter (isHostCharacter_toLower (host d hd))
    exact Nat.lt_trans small (by decide)
  unfold domainLabels
  rw [flatMap_fold host, Composition.composed_of_plain plain]

theorem asciiLabel_of_hostText {label : List Char} (host : HostText label) :
    asciiLabel label = label := by
  have ascii : isAscii label = true := by
    apply List.all_eq_true.mpr
    intro c mem
    exact decide_eq_true (toNat_lt_of_isHostCharacter (host c mem))
  exact if_pos ascii

theorem HostText.map_toLower {cs : List Char} (host : HostText cs) :
    HostText (cs.map Char.toLower) := by
  intro c mem
  obtain ⟨d, hd, rfl⟩ := List.mem_map.mp mem
  exact isHostCharacter_toLower (host d hd)

theorem asciiDomain?_eq_some {domain name : List Char} (host : HostText domain)
    (h : asciiDomain? domain = some name) : name = domain.map Char.toLower := by
  unfold asciiDomain? at h
  obtain ⟨texts, -, h⟩ := Option.bind_eq_some_iff.mp h
  split at h
  · have labels : (domainLabels domain).map asciiLabel = domainLabels domain := by
      rw [domainLabels_of_hostText host]
      refine (List.map_congr_left fun label mem => ?_).trans (List.map_id _)
      exact asciiLabel_of_hostText (host.map_toLower.mono (subset_of_mem_pieces mem))
    rw [labels, domainLabels_of_hostText host, joined_pieces] at h
    exact (Option.some.inj h).symm
  · cases h

theorem domainName_eq_ok {cs name : List Char} (host : HostText cs)
    (h : domainName cs = .ok name) : HostText name := by
  have plain : '%' ∉ cs := fun mem => (not_ends_of_isHostCharacter (host _ mem)).2.2.2.2 rfl
  have text : (⟨(percentDecode cs).toArray⟩ : ByteArray) = (String.ofList cs).toUTF8 := by
    rw [percentDecode_of_plain plain]
  unfold domainName at h
  rw [text, fromUTF8?_toUTF8, Option.bind_some, String.toList_ofList] at h
  cases known : asciiDomain? cs with
  | none =>
    rw [known] at h
    cases h
  | some found =>
    rw [known] at h
    cases h
    rw [asciiDomain?_eq_some host known]
    exact host.map_toLower

theorem ipv4Domain_eq_ok {domain : List Char} {host : String} (h : ipv4Domain domain = .ok host) :
    ∃ n, host = ipv4Text n := by
  unfold ipv4Domain at h
  split at h
  · split at h
    · cases h
      exact ⟨_, rfl⟩
    · cases h
  · cases h

theorem hostText_of_normalHost {cs : List Char} {host : String} (given : HostText cs)
    (h : normalHost cs = .ok host) : host.toList ≠ [] ∧ HostText host.toList := by
  unfold normalHost at h
  split at h
  · cases h
  · split at h
    · split at h
      · rename_i numbers _
        cases h
        have opening : HostText "[".toList := .cons (by decide) .nil
        have closing : HostText "]".toList := .cons (by decide) .nil
        simp only [String.toList_append]
        exact ⟨by simp, (opening.append (hostText_ipv6Text numbers)).append closing⟩
      · cases h
    · cases h
  · obtain ⟨name, named, h⟩ := bind_eq_ok_iff.mp h
    have chars := domainName_eq_ok given named
    rw [refuse_bind_eq_ok_iff] at h
    obtain ⟨nonempty, h⟩ := h
    split at h
    · obtain ⟨n, rfl⟩ := ipv4Domain_eq_ok h
      exact ⟨by simp [ipv4Text], hostText_ipv4Text n⟩
    · cases h
      rw [String.toList_ofList]
      exact ⟨fun empty => nonempty (List.isEmpty_iff.mpr empty), chars⟩

end ArtifactTrust.Url
