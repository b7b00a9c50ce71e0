import ArtifactTrust.Policy.TrustStore
import ArtifactTrust.Proofs.NameMap
import ArtifactTrust.Proofs.Signature.Key

/-!
# What trust stores hold

However keys were added, every key is under its id, so the keys of some collections are the same in
any two stores that agree on what these hold.
-/

namespace ArtifactTrust.TrustStore

set_option autoImplicit false

open Ed25519

/-- The keys of one collection, none if there is no collection of that name. -/
def keysOf (t : TrustStore) (store : String) : NameMap PublicKey := (t.stores.get? store).getD ∅

/-- A key is in the collection of a name. -/
def Holds (t : TrustStore) (store : String) (key : PublicKey) : Prop :=
  ∃ id, (t.keysOf store).get? id = some key

/-- The store that keys were added to, each to the collection that it is named with. -/
def ofAdditions (additions : List (String × PublicKey)) : TrustStore :=
  additions.foldl (fun t addition => t.add addition.1 addition.2) empty

/-- Every key is under its id. -/
def Filed (t : TrustStore) : Prop :=
  ∀ store id key, (t.keysOf store).get? id = some key → id = Signature.keyId key.bytes

/-- No two keys share an id. -/
def DistinctIds (t : TrustStore) : Prop :=
  ∀ store other key twin, t.Holds store key → t.Holds other twin →
    Signature.keyId key.bytes = Signature.keyId twin.bytes → key = twin

variable {t u : TrustStore} {store id : String} {key : PublicKey} {names others : List String}

/-! ### Adding keys -/

theorem get?_keysOf_add (t : TrustStore) (store : String) (key : PublicKey)
    (name id : String) :
    ((t.add store key).keysOf name).get? id =
      if name = store ∧ id = Signature.keyId key.bytes then some key
      else (t.keysOf name).get? id := by
  unfold keysOf add
  rw [NameMap.get?_insert]
  by_cases here : name = store
  · subst here
    rw [if_pos rfl, Option.getD_some, NameMap.get?_insert]
    by_cases own : id = Signature.keyId key.bytes
    · rw [if_pos own, if_pos ⟨rfl, own⟩]
    · rw [if_neg own, if_neg fun both => own both.2]
  · rw [if_neg here, if_neg fun both => here both.1]

theorem Filed.add (filed : t.Filed) (store : String) (key : PublicKey) :
    (t.add store key).Filed := by
  intro name id found h
  rw [get?_keysOf_add] at h
  split at h
  · rename_i own
    cases h
    exact own.2
  · exact filed name id found h

theorem filed_foldl (filed : t.Filed) (additions : List (String × PublicKey)) :
    (additions.foldl (fun t addition => t.add addition.1 addition.2) t).Filed := by
  induction additions generalizing t with
  | nil => exact filed
  | cons addition rest ih => exact ih (filed.add addition.1 addition.2)

theorem filed_ofAdditions (additions : List (String × PublicKey)) :
    (ofAdditions additions).Filed := by
  apply filed_foldl
  intro store id key h
  cases h

theorem Filed.holds_iff (filed : t.Filed) :
    t.Holds store key ↔ (t.keysOf store).get? (Signature.keyId key.bytes) = some key := by
  constructor
  · rintro ⟨id, h⟩
    rw [← filed store id key h]
    exact h
  · intro h
    exact ⟨_, h⟩

theorem holds_of_foldl {additions : List (String × PublicKey)}
    (h : (additions.foldl (fun t addition => t.add addition.1 addition.2) t).Holds store key) :
    t.Holds store key ∨ (store, key) ∈ additions := by
  induction additions generalizing t with
  | nil => exact .inl h
  | cons addition rest ih =>
    rcases ih h with ⟨id, held⟩ | mem
    · rw [get?_keysOf_add] at held
      split at held
      · rename_i own
        cases held
        exact .inr (by simp [own.1])
      · exact .inl ⟨id, held⟩
    · exact .inr (List.mem_cons_of_mem addition mem)

/-- Whatever was added is held, unless another key of the same id came after it. -/
theorem holds_ofAdditions_iff {additions : List (String × PublicKey)}
    (distinct : ∀ a ∈ additions, ∀ b ∈ additions,
      Signature.keyId a.2.bytes = Signature.keyId b.2.bytes → a.2 = b.2) :
    (ofAdditions additions).Holds store key ↔ (store, key) ∈ additions := by
  constructor
  · intro h
    rcases holds_of_foldl h with ⟨id, held⟩ | mem
    · cases held
    · exact mem
  · intro mem
    -- Read backwards, the first addition under the id is this key, as no other key has the id.
    obtain ⟨before, after, rfl⟩ := List.append_of_mem mem
    refine ⟨Signature.keyId key.bytes, ?_⟩
    unfold ofAdditions
    rw [List.foldl_append, List.foldl_cons]
    have later : ∀ a ∈ after, Signature.keyId a.2.bytes = Signature.keyId key.bytes →
        a.2 = key := fun a listed => distinct a (by simp [listed]) (store, key) (by simp)
    generalize start : TrustStore.add _ store key = t
    have held : (t.keysOf store).get? (Signature.keyId key.bytes) = some key := by
      rw [← start, get?_keysOf_add, if_pos ⟨rfl, rfl⟩]
    clear start mem distinct
    induction after generalizing t with
    | nil => exact held
    | cons addition rest ih =>
      apply ih fun a listed => later a (List.mem_cons_of_mem addition listed)
      rw [get?_keysOf_add]
      split
      · rename_i own
        rw [later addition List.mem_cons_self own.2.symm]
      · exact held

theorem distinctIds_ofAdditions {additions : List (String × PublicKey)}
    (distinct : ∀ a ∈ additions, ∀ b ∈ additions,
      Signature.keyId a.2.bytes = Signature.keyId b.2.bytes → a.2 = b.2) :
    (ofAdditions additions).DistinctIds := by
  intro store other key twin held too same
  rw [holds_ofAdditions_iff distinct] at held too
  exact distinct _ held _ too same

/-! ### Keys of some collections -/

theorem keysIn_eq_flatMap (t : TrustStore) (names : List String) :
    t.keysIn names = names.flatMap fun name => (t.keysOf name).entries := by
  unfold keysIn keysOf
  induction names with
  | nil => rfl
  | cons name rest ih =>
    rw [List.filterMap_cons, List.flatMap_cons, ← ih]
    cases t.stores.get? name with
    | none => rfl
    | some keys => rfl

theorem mem_keysIn_iff : (id, key) ∈ t.keysIn names ↔
    ∃ name ∈ names, (t.keysOf name).get? id = some key := by
  rw [keysIn_eq_flatMap, List.mem_flatMap]
  simp only [NameMap.get?_eq_some_iff_mem]

theorem exists_of_lookup_keysIn (found : (t.keysIn names).lookup id = some key) :
    ∃ name ∈ names, (t.keysOf name).get? id = some key := by
  obtain ⟨before, after, listed, -⟩ := List.lookup_eq_some_iff.mp found
  exact mem_keysIn_iff.mp (by simp [listed])

theorem exists_lookup_keysIn (mem : (id, key) ∈ t.keysIn names) :
    ∃ first, (t.keysIn names).lookup id = some first ∧
      ∃ name ∈ names, (t.keysOf name).get? id = some first := by
  cases h : (t.keysIn names).lookup id with
  | none =>
    have absent := List.lookup_eq_none_iff.mp h _ mem
    simp at absent
  | some first => exact ⟨first, rfl, exists_of_lookup_keysIn h⟩

/-- SHA-256 collides on the record of a key and that of another key in some collections. -/
def Collision (t : TrustStore) (names : List String) (key : PublicKey) : Prop :=
  ∃ name ∈ names, ∃ other, t.Holds name other ∧
    Signature.keyRecord other.bytes ≠ Signature.keyRecord key.bytes ∧
    Hash.sha256.ofWhole (Signature.keyRecord other.bytes) =
      Hash.sha256.ofWhole (Signature.keyRecord key.bytes)

theorem collision_of_keyId {other : PublicKey} (named : store ∈ names) (held : t.Holds store other)
    (differs : other ≠ key) (same : Signature.keyId other.bytes = Signature.keyId key.bytes) :
    t.Collision names key := by
  refine ⟨store, named, other, held, fun records => differs ?_, Signature.keyId_inj.mp same⟩
  exact PublicKey.ext (Signature.keyRecord_inj.mp records)

/-- A key that is held is found under its id, unless another key has that id too. -/
theorem lookup_keysIn_of_holds (filed : t.Filed) (named : store ∈ names)
    (held : t.Holds store key) :
    (t.keysIn names).lookup (Signature.keyId key.bytes) = some key ∨ t.Collision names key := by
  have mem : (Signature.keyId key.bytes, key) ∈ t.keysIn names :=
    mem_keysIn_iff.mpr ⟨store, named, filed.holds_iff.mp held⟩
  obtain ⟨first, found, name, listed, kept⟩ := exists_lookup_keysIn mem
  by_cases same : first = key
  · exact .inl (same ▸ found)
  · exact .inr (collision_of_keyId listed ⟨_, kept⟩ same (filed name _ first kept).symm)

theorem keysIn_eq_of_holds (filed : t.Filed) (filed' : u.Filed)
    (same : ∀ name ∈ names, ∀ key, t.Holds name key ↔ u.Holds name key) :
    t.keysIn names = u.keysIn names := by
  rw [keysIn_eq_flatMap, keysIn_eq_flatMap]
  apply List.flatMap_congr
  intro name mem
  have keys : t.keysOf name = u.keysOf name := by
    apply NameMap.ext_get?
    intro id
    apply Option.ext
    intro key
    constructor
    · intro h
      rw [filed name id key h]
      exact filed'.holds_iff.mp ((same name mem key).mp ⟨id, h⟩)
    · intro h
      rw [filed' name id key h]
      exact filed.holds_iff.mp ((same name mem key).mpr ⟨id, h⟩)
  rw [keys]

theorem lookup_keysIn_eq_some_iff (filed : t.Filed) (distinct : t.DistinctIds) :
    (t.keysIn names).lookup id = some key ↔
      ∃ name ∈ names, (t.keysOf name).get? id = some key := by
  constructor
  · exact exists_of_lookup_keysIn
  · rintro ⟨store, named, twin⟩
    obtain ⟨first, found, other, -, held⟩ :=
      exists_lookup_keysIn (mem_keysIn_iff.mpr ⟨store, named, twin⟩)
    rw [found, distinct other store first key ⟨id, held⟩ ⟨id, twin⟩
      ((filed _ _ _ held).symm.trans (filed _ _ _ twin))]

theorem lookup_keysIn_eq_of_names (filed : t.Filed) (distinct : t.DistinctIds)
    (same : ∀ name, name ∈ names ↔ name ∈ others) (id : String) :
    (t.keysIn names).lookup id = (t.keysIn others).lookup id := by
  apply Option.ext
  intro key
  rw [lookup_keysIn_eq_some_iff filed distinct, lookup_keysIn_eq_some_iff filed distinct]
  simp only [same]

end ArtifactTrust.TrustStore
