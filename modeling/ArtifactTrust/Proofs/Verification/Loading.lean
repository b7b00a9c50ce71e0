import ArtifactTrust.Proofs.Inspection
import ArtifactTrust.Proofs.Policy.TrustStore
import ArtifactTrust.Proofs.Reference.Grammar
import ArtifactTrust.Proofs.Text.Cut
import ArtifactTrust.Verification.Configuration
import Mathlib.Data.List.TakeWhile

/-!
# Loading the verifier

A verifier is loaded if and only if the policy is sound and each trust store that it names has a
proper name and key files with a key in each. Nothing else is looked at.
-/

namespace ArtifactTrust

set_option autoImplicit false

open Ed25519

/-! ### Names of stores and of key files -/

/-- A name of ASCII letters, digits, dashes, underscores and periods, which is neither that of the
directory itself nor that of the one above. -/
structure IsStoreName (name : String) : Prop where
  nonempty : name ≠ ""
  characters : ∀ c ∈ name.toList, c.isAlphanum = true ∨ c ∈ ['-', '_', '.']
  here : name ≠ "."
  above : name ≠ ".."

theorem isName_iff {name : String} : TrustStore.isName name = true ↔ IsStoreName name := by
  have characters : name.toList.all TrustStore.isNameCharacter = true ↔
      ∀ c ∈ name.toList, c.isAlphanum = true ∨ c ∈ ['-', '_', '.'] := by
    simp only [List.all_eq_true, TrustStore.isNameCharacter, Reference.isAlphanumeric_eq,
      Bool.or_eq_true, beq_iff_eq, List.mem_cons, List.not_mem_nil, or_false, or_assoc]
  unfold TrustStore.isName
  simp only [Bool.and_eq_true, characters, Bool.not_eq_true', String.isEmpty_eq_false_iff,
    decide_eq_true_eq]
  constructor
  · rintro ⟨⟨⟨nonempty, characters⟩, here⟩, above⟩
    exact ⟨nonempty, characters, here, above⟩
  · rintro ⟨nonempty, characters, here, above⟩
    exact ⟨⟨⟨nonempty, characters⟩, here⟩, above⟩

/-- A store lies in one directory, and the name leads to no other. -/
theorem IsStoreName.isEntryName {name : String} (h : IsStoreName name) :
    IsEntryName name.toList := by
  have absent {c : Char} (other : ¬ (c.isAlphanum = true ∨ c ∈ ['-', '_', '.'])) :
      c ∉ name.toList := fun mem => other (h.characters c mem)
  refine ⟨?_, ?_, ?_, absent (by decide), absent (by decide)⟩
  · exact fun empty => h.nonempty (String.toList_eq_nil_iff.mp empty)
  · exact fun same => h.here (String.toList_inj.mp same)
  · exact fun same => h.above (String.toList_inj.mp same)

theorem FilePath.extension?_of_uncut {name : String} (uncut : Text.cutLast? '.' name = none) :
    extension? name = none := by
  have free := Text.cutLast?_eq_none_iff.mp uncut
  have all : name.toList.reverse.takeWhile (· != '.') = name.toList.reverse := by
    rw [List.takeWhile_eq_self_iff]
    intro c mem
    exact bne_iff_ne.mpr fun same => free (same ▸ List.mem_reverse.mp mem)
  unfold extension?
  simp only [all, List.drop_length]

/-- The extension is what is behind the last period, if there is something in front of it. -/
theorem FilePath.extension?_of_cut {name stem ending : String}
    (cut : Text.cutLast? '.' name = some (stem, ending)) :
    extension? name = if stem = "" ∨ name = ".." then none else some ending := by
  obtain ⟨whole, free⟩ := Text.cutLast?_eq_some_iff.mp cut
  have backwards : name.toList.reverse = ending.toList.reverse ++ '.' :: stem.toList.reverse := by
    simp [whole]
  have passed : ∀ c ∈ ending.toList.reverse, (c != '.') = true := fun c mem =>
    bne_iff_ne.mpr fun same => free (same ▸ List.mem_reverse.mp mem)
  have taken : name.toList.reverse.takeWhile (· != '.') = ending.toList.reverse := by
    rw [backwards, List.takeWhile_append_of_pos passed]
    simp
  unfold extension?
  simp only [taken]
  rw [backwards, List.drop_left, List.reverse_reverse, String.ofList_toList]
  rcases front : stem.toList.reverse with _ | ⟨c, rest⟩
  · have empty : stem = "" := String.toList_eq_nil_iff.mp (List.reverse_eq_nil_iff.mp front)
    simp only [empty, true_or, if_true]
  · have filled : stem ≠ "" := by
      rintro rfl
      cases front
    simp only [filled, false_or]

def IsKeyFile (name : String) : Prop := ∃ stem, stem ≠ "" ∧ name = stem ++ ".pem"

theorem extension?_eq_pem_iff {name : String} :
    FilePath.extension? name = some "pem" ↔ IsKeyFile name := by
  constructor
  · intro h
    rcases cut : Text.cutLast? '.' name with _ | ⟨stem, ending⟩
    · rw [FilePath.extension?_of_uncut cut] at h
      cases h
    · rw [FilePath.extension?_of_cut cut] at h
      split at h
      · cases h
      · rename_i proper
        cases h
        obtain ⟨whole, -⟩ := Text.cutLast?_eq_some_iff.mp cut
        refine ⟨stem, fun empty => proper (.inl empty), ?_⟩
        rw [whole, String.append_assoc]
        rfl
  · rintro ⟨stem, filled, rfl⟩
    have cut : Text.cutLast? '.' (stem ++ ".pem") = some (stem, "pem") :=
      Text.cutLast?_eq_some_iff.mpr ⟨by rw [String.append_assoc]; rfl, by decide⟩
    have other : stem ++ ".pem" ≠ ".." := by
      intro same
      have sizes := congrArg (fun text => text.toList.length) same
      simp at sizes
    rw [FilePath.extension?_of_cut cut, if_neg (not_or.mpr ⟨filled, other⟩)]

theorem mem_keyFileNames {names : List String} {name : String} :
    name ∈ TrustStore.keyFileNames names ↔ name ∈ names ∧ IsKeyFile name := by
  unfold TrustStore.keyFileNames
  rw [List.mem_mergeSort, List.mem_filter, decide_eq_true_eq, extension?_eq_pem_iff]

/-! ### What is stored -/

section Stored

variable {σ : Type} (files : Files (StateM σ)) (s : σ)

def KeyAt (path : String) (key : PublicKey) : Prop :=
  ∃ text, (answer (files.readText path) s).1 = .ok text ∧ Signature.ofKeyFile? text = some key

/-- A key is in a key file of a directory. -/
def KeyIn (directory : String) (key : PublicKey) : Prop :=
  ∃ names, (answer (files.list directory) s).1 = .ok names ∧
    ∃ name ∈ names, IsKeyFile name ∧ KeyAt files s (FilePath.join directory name) key

/-- A directory holds key files, and a key can be read from each of them. -/
def HoldsKeys (directory : String) : Prop :=
  ∃ names, (answer (files.list directory) s).1 = .ok names ∧ (∃ name ∈ names, IsKeyFile name) ∧
    ∀ name ∈ names, IsKeyFile name → ∃ key, KeyAt files s (FilePath.join directory name) key

/-- The keys in the key files of a directory, in the order of the names of the files. -/
def KeysIn (directory : String) (keys : List PublicKey) : Prop :=
  ∃ names, (answer (files.list directory) s).1 = .ok names ∧
    List.Forall₂ (fun name => KeyAt files s (FilePath.join directory name))
      (TrustStore.keyFileNames names) keys

/-- The keys of a store below a directory. -/
structure StoreKeys (root store : String) (keys : List PublicKey) : Prop where
  name : IsStoreName store
  filled : keys ≠ []
  stored : KeysIn files s (FilePath.join root store) keys

/-- The keys of stores below a directory were added to a trust store, store by store. -/
def Stocked (root : String) (stores : List String) (t : TrustStore) : Prop :=
  ∃ found, List.Forall₂ (StoreKeys files s root) stores found ∧
    t = (stores.zip found).foldl (fun t pair => pair.2.foldl (·.add pair.1 ·) t) TrustStore.empty

/-- A sound trust policy can be read from a file. -/
def PolicyAt (path : String) (policy : Policy) : Prop :=
  ∃ text, (answer (files.readText path) s).1 = .ok text ∧ Policy.parse text.toUTF8 = .ok policy

variable {files s} {directory path : String} {key other : PublicKey} {keys : List PublicKey}

theorem KeyAt.unique (h : KeyAt files s path key) (h' : KeyAt files s path other) :
    key = other := by
  obtain ⟨text, read, decoded⟩ := h
  obtain ⟨text', read', decoded'⟩ := h'
  cases read.symm.trans read'
  exact Option.some.inj (decoded.symm.trans decoded')

theorem PolicyAt.unique {policy policy' : Policy} (h : PolicyAt files s path policy)
    (h' : PolicyAt files s path policy') : policy = policy' := by
  obtain ⟨text, read, parsed⟩ := h
  obtain ⟨text', read', parsed'⟩ := h'
  cases read.symm.trans read'
  exact Except.ok.inj (parsed.symm.trans parsed')

theorem KeysIn.mem_iff (h : KeysIn files s directory keys) :
    key ∈ keys ↔ KeyIn files s directory key := by
  obtain ⟨names, listed, related⟩ := h
  obtain ⟨forth, back⟩ := exists_mem_of_forall₂ related
  constructor
  · intro mem
    obtain ⟨name, among, own⟩ := back key mem
    obtain ⟨mem, kind⟩ := mem_keyFileNames.mp among
    exact ⟨names, listed, name, mem, kind, own⟩
  · rintro ⟨names', listed', name, mem, kind, own⟩
    cases listed.symm.trans listed'
    obtain ⟨found, among, same⟩ := forth name (mem_keyFileNames.mpr ⟨mem, kind⟩)
    exact own.unique same ▸ among

theorem exists_keysIn_iff :
    (∃ keys, keys ≠ [] ∧ KeysIn files s directory keys) ↔ HoldsKeys files s directory := by
  constructor
  · rintro ⟨keys, filled, names, listed, related⟩
    obtain ⟨forth, back⟩ := exists_mem_of_forall₂ related
    obtain ⟨key, mem⟩ := List.exists_mem_of_ne_nil keys filled
    obtain ⟨name, among, -⟩ := back key mem
    refine ⟨names, listed, ⟨name, mem_keyFileNames.mp among⟩, fun name mem kind => ?_⟩
    obtain ⟨key, -, own⟩ := forth name (mem_keyFileNames.mpr ⟨mem, kind⟩)
    exact ⟨key, own⟩
  · rintro ⟨names, listed, ⟨name, mem, kind⟩, each⟩
    obtain ⟨keys, related⟩ := exists_forall₂_iff.mpr fun name among =>
      each name (mem_keyFileNames.mp among).1 (mem_keyFileNames.mp among).2
    refine ⟨keys, ?_, names, listed, related⟩
    rintro rfl
    obtain ⟨key, none, -⟩ :=
      (exists_mem_of_forall₂ related).1 name (mem_keyFileNames.mpr ⟨mem, kind⟩)
    cases none

theorem exists_storeKeys_iff {root store : String} :
    (∃ keys, StoreKeys files s root store keys) ↔
      IsStoreName store ∧ HoldsKeys files s (FilePath.join root store) := by
  rw [← exists_keysIn_iff]
  constructor
  · rintro ⟨keys, name, filled, stored⟩
    exact ⟨name, keys, filled, stored⟩
  · rintro ⟨name, keys, filled, stored⟩
    exact ⟨keys, name, filled, stored⟩

theorem exists_stocked_iff {root : String} {stores : List String} :
    (∃ t, Stocked files s root stores t) ↔
      ∀ store ∈ stores, IsStoreName store ∧ HoldsKeys files s (FilePath.join root store) := by
  simp only [← exists_storeKeys_iff, ← exists_forall₂_iff]
  constructor
  · rintro ⟨_, found, related, -⟩
    exact ⟨found, related⟩
  · rintro ⟨found, related⟩
    exact ⟨_, found, related, rfl⟩

end Stored

/-! ### Loading -/

section Adapting

variable {m : Type → Type} [Monad m] [LawfulMonad m]

theorem adapt_eq {ε ε' α : Type} (f : ε → ε') (x : ExceptT ε m α) :
    ExceptT.adapt f x = ExceptT.mk (x.run >>= fun r => pure (r.mapError f)) :=
  congrArg ExceptT.mk (map_eq_pure_bind _ _)

theorem adapt_bind {ε ε' α β : Type} (f : ε → ε') (x : ExceptT ε m α) (k : α → ExceptT ε' m β) :
    ExceptT.adapt f x >>= k = ExceptT.mk (x.run >>= fun r => match r with
      | .ok a => (k a).run
      | .error e => pure (.error (f e))) := by
  apply ExceptT.ext
  rw [adapt_eq, ExceptT.run_bind]
  simp only [ExceptT.run_mk, bind_assoc, pure_bind]
  congr 1
  funext r
  cases r <;> rfl

theorem TrustStore.reading_eq {α : Type} (path : String) (action : ExceptT FileFault m α) :
    reading path action =
      ExceptT.adapt (fun fault => .unreadable path fault.message) action := by
  rw [adapt_eq, reading]
  congr 2
  funext r
  cases r <;> rfl

theorem Policy.load_eq (files : Files m) (path : String) :
    load files path = (ExceptT.adapt (fun fault => .unreadable path fault.message)
      (files.readText path) >>= fun text => ExceptT.mk (pure (parse text.toUTF8))) := by
  rw [adapt_bind, load]
  congr 2
  funext r
  cases r <;> rfl

theorem KeyVerifier.load_eq (files : Files m) (directory : String) :
    load files directory = (do
      let policy ← ExceptT.adapt (fun fault => .policy fault.message)
        (Policy.load files (policyPath directory))
      let store ← ExceptT.adapt (fun fault => .trustStore fault.message)
        (TrustStore.load files (storesPath directory) policy.trustStores)
      return ⟨policy, store⟩) := by
  simp only [adapt_bind, load]
  congr 2
  funext r
  cases r with
  | error fault => rfl
  | ok policy =>
    simp only [ExceptT.run_mk]
    congr 1
    funext r
    cases r <;> rfl

end Adapting

/-- What is looked at of a trust store: its directory, and the key files that are listed there. -/
structure Permits {σ : Type} (K : FileAccess → Prop) (files : Files (StateM σ)) (s : σ)
    (directory : String) : Prop where
  list : ∀ found, K (.list directory found)
  read : ∀ names, (answer (files.list directory) s).1 = .ok names → ∀ name ∈ names,
    IsKeyFile name → ∀ found, K (.read (FilePath.join directory name) found)

namespace Looks

variable {σ : Type} {K : FileAccess → Prop} {files : Files (StateM σ)} {s : σ}
  {path directory root store : String}

theorem loadKey (rests : files.Rests s) (kind : ∀ found, K (.read path found)) :
    Looks K s (TrustStore.loadKey files path) (TrustStore.loadKey files.recorded path)
      (KeyAt files s path) := by
  unfold TrustStore.loadKey
  rw [TrustStore.reading_eq, TrustStore.reading_eq]
  refine ((readText rests kind).adapt _).bind fun text _ => ?_
  cases Signature.ofKeyFile? text with
  | none => exact (throw _).congr (by simp)
  | some key => exact (pure key).congr (by simp [eq_comm])

theorem loadKeys (rests : files.Rests s) (permits : Permits K files s directory) :
    Looks K s (TrustStore.loadKeys files directory) (TrustStore.loadKeys files.recorded directory)
      (KeysIn files s directory) := by
  unfold TrustStore.loadKeys
  rw [TrustStore.reading_eq, TrustStore.reading_eq]
  refine ((list rests permits.list).adapt _).bind fun names listed => mapM fun name mem => ?_
  obtain ⟨mem, kind⟩ := mem_keyFileNames.mp mem
  exact loadKey rests (permits.read names listed name mem kind)

theorem loadStore (rests : files.Rests s)
    (permits : IsStoreName store → Permits K files s (FilePath.join root store)) (t : TrustStore) :
    Looks K s (TrustStore.loadStore files root t store)
      (TrustStore.loadStore files.recorded root t store)
      fun u => ∃ keys, StoreKeys files s root store keys ∧ u = keys.foldl (·.add store ·) t := by
  unfold TrustStore.loadStore
  by_cases name : IsStoreName store
  · simp only [isName_iff.mpr name, Bool.not_true, Bool.false_eq_true, if_false]
    refine congr (bind (R := fun keys u => keys ≠ [] ∧ u = keys.foldl (·.add store ·) t)
      (loadKeys rests (permits name)) fun keys _ => ?_) fun u => exists_congr fun keys => ?_
    · cases keys with
      | nil => exact (throw _).congr (by simp)
      | cons key rest => exact (pure _).congr (by simp)
    · constructor
      · rintro ⟨stored, filled, whole⟩
        exact ⟨⟨name, filled, stored⟩, whole⟩
      · rintro ⟨⟨-, filled, stored⟩, whole⟩
        exact ⟨stored, filled, whole⟩
  · have refused : TrustStore.isName store = false :=
      Bool.eq_false_iff.mpr fun own => name (isName_iff.mp own)
    simp only [refused, Bool.not_false, if_true]
    refine (throw _).congr fun u => ⟨False.elim, ?_⟩
    rintro ⟨keys, own, -⟩
    exact name own.name

theorem loadStores {stores : List String} (rests : files.Rests s)
    (permits : ∀ store ∈ stores, IsStoreName store → Permits K files s (FilePath.join root store)) :
    Looks K s (TrustStore.load files root stores) (TrustStore.load files.recorded root stores)
      (Stocked files s root stores) :=
  foldlM (fun t store mem => loadStore rests (permits store mem) t) TrustStore.empty

theorem loadPolicy (rests : files.Rests s) (kind : ∀ found, K (.read path found)) :
    Looks K s (Policy.load files path) (Policy.load files.recorded path)
      (PolicyAt files s path) := by
  rw [Policy.load_eq, Policy.load_eq]
  exact ((readText rests kind).adapt _).bind fun text _ => settled fun policy => Iff.rfl

end Looks

/-! ### What is loaded -/

theorem mem_insertName {name other : String} {names : List String} :
    other ∈ Policy.insertName name names ↔ other = name ∨ other ∈ names := by
  induction names with
  | nil => rw [Policy.insertName, List.mem_singleton]; simp
  | cons n rest ih =>
    rw [Policy.insertName]
    split
    · exact List.mem_cons
    split
    · rename_i same
      rw [same, List.mem_cons]
      simp
    · rw [List.mem_cons, ih, List.mem_cons]
      exact or_left_comm

/-- A statement trusts the keys of a store. -/
def Policy.Names (policy : Policy) (store : String) : Prop :=
  ∃ statement ∈ policy.statements, store ∈ statement.trustStores

theorem mem_trustStores_iff {policy : Policy} {store : String} :
    store ∈ policy.trustStores ↔ policy.Names store := by
  rw [Policy.trustStores, Policy.Names, ← List.mem_flatMap]
  induction policy.statements.flatMap Statement.trustStores with
  | nil => rfl
  | cons name rest ih => rw [List.foldr_cons, mem_insertName, ih, List.mem_cons]

/-- An id under which a key is held or added is not given up when keys are added. -/
theorem isSome_get?_foldl_add {t : TrustStore} {store id : String}
    {additions : List (String × PublicKey)}
    (h : ((t.keysOf store).get? id).isSome ∨
      ∃ key, (store, key) ∈ additions ∧ id = Signature.keyId key.bytes) :
    (((additions.foldl (fun t addition => t.add addition.1 addition.2) t).keysOf store).get?
      id).isSome := by
  induction additions generalizing t with
  | nil =>
    rcases h with held | ⟨key, none, -⟩
    · exact held
    · cases none
  | cons addition rest ih =>
    apply ih
    rw [TrustStore.get?_keysOf_add]
    split
    · exact .inl rfl
    · rename_i other
      rcases h with held | ⟨key, mem, own⟩
      · exact .inl held
      · rcases List.mem_cons.mp mem with rfl | mem
        · exact absurd ⟨rfl, own⟩ other
        · exact .inr ⟨key, mem, own⟩

section Established

variable {σ : Type}

/-- A collection holds the keys of the key files in a directory and no others, each under the
SHA-256 of its record. Only where this hash collides does one key give way to another. -/
structure Established (files : Files (StateM σ)) (s : σ) (directory : String) (t : TrustStore)
    (store : String) : Prop where
  filled : ∃ key, t.Holds store key
  own : ∀ key, t.Holds store key → KeyIn files s directory key
  all : ∀ key, KeyIn files s directory key → t.Holds store key ∨ t.Collision [store] key
  filed : ∀ id key, (t.keysOf store).get? id = some key →
    id = "sha256:" ++ Text.hex (Hash.sha256.ofWhole (Signature.keyRecord key.bytes)) ∧
      Signature.ofRecord? (Signature.keyRecord key.bytes) = some key

variable {files : Files (StateM σ)} {s : σ} {root store : String} {stores : List String}
  {t : TrustStore}

theorem Stocked.established (stocked : Stocked files s root stores t) (mem : store ∈ stores) :
    Established files s (FilePath.join root store) t store := by
  obtain ⟨found, related, rfl⟩ := stocked
  obtain ⟨sizes, pairs⟩ := List.forall₂_iff_zip.mp related
  let additions : List (String × PublicKey) :=
    (stores.zip found).flatMap fun pair => pair.2.map (Prod.mk pair.1)
  have whole : (stores.zip found).foldl
      (fun t pair => pair.2.foldl (·.add pair.1 ·) t) TrustStore.empty =
        TrustStore.ofAdditions additions := by
    rw [TrustStore.ofAdditions, List.foldl_flatMap]
    simp only [List.foldl_map]
  rw [whole]
  have added {name : String} {key : PublicKey} : (name, key) ∈ additions ↔
      ∃ keys, (name, keys) ∈ stores.zip found ∧ key ∈ keys := by
    simp [additions]
  obtain ⟨keys, -, stored, listed⟩ : ∃ keys ∈ found,
      StoreKeys files s root store keys ∧ (store, keys) ∈ stores.zip found :=
    (exists_mem_of_forall₂ (List.forall₂_iff_zip.mpr
      ⟨sizes, fun {_ _} mem => And.intro (pairs mem) mem⟩)).1 store mem
  have filed := TrustStore.filed_ofAdditions additions
  have occupied {key : PublicKey} (among : key ∈ keys) :
      ∃ twin, ((TrustStore.ofAdditions additions).keysOf store).get?
        (Signature.keyId key.bytes) = some twin :=
    Option.isSome_iff_exists.mp
      (isSome_get?_foldl_add (.inr ⟨key, added.mpr ⟨keys, listed, among⟩, rfl⟩))
  refine ⟨?_, ?_, ?_, fun id key held => ?_⟩
  · obtain ⟨key, among⟩ := List.exists_mem_of_ne_nil keys stored.filled
    obtain ⟨twin, held⟩ := occupied among
    exact ⟨twin, _, held⟩
  · intro key held
    rcases TrustStore.holds_of_foldl held with ⟨id, nothing⟩ | mem
    · cases nothing
    · obtain ⟨others, listed, among⟩ := added.mp mem
      exact (pairs listed).stored.mem_iff.mp among
  · intro key inside
    obtain ⟨twin, held⟩ := occupied (stored.stored.mem_iff.mpr inside)
    by_cases same : twin = key
    · exact .inl ⟨_, same ▸ held⟩
    · exact .inr (TrustStore.collision_of_keyId (List.mem_singleton_self store) ⟨_, held⟩ same
        (filed store _ twin held).symm)
  · rw [← Signature.keyId_eq]
    exact ⟨filed store id key held, Signature.ofRecord?_keyRecord key⟩

end Established

namespace KeyVerifier

variable {σ : Type} {files : Files (StateM σ)} {s : σ} {directory : String}

def storePath (directory store : String) : String := FilePath.join (storesPath directory) store

/-- What is looked at when a verifier is loaded: the policy, the directories of the stores that it
names, and the key files that these list. -/
inductive Consults (files : Files (StateM σ)) (s : σ) (directory : String) : FileAccess → Prop
  | policy (found : Except FileFault ByteArray) :
      Consults files s directory (.read (policyPath directory) found)
  | store {policy : Policy} {store : String}
      (read : PolicyAt files s (policyPath directory) policy) (named : policy.Names store)
      (name : IsStoreName store) (found : Except FileFault (List String)) :
      Consults files s directory (.list (storePath directory store) found)
  | key {policy : Policy} {store file : String} {names : List String}
      (read : PolicyAt files s (policyPath directory) policy) (named : policy.Names store)
      (name : IsStoreName store)
      (listed : (answer (files.list (storePath directory store)) s).1 = .ok names)
      (mem : file ∈ names) (kind : IsKeyFile file) (found : Except FileFault ByteArray) :
      Consults files s directory (.read (FilePath.join (storePath directory store) file) found)

theorem Consults.below (rests : files.Rests s) {access : FileAccess}
    (consults : Consults files s directory access) :
    ∃ names, access.path = FilePath.below directory names ∧ ∀ name ∈ names, IsEntryName name := by
  have top : ∀ name ∈ ["truststore".toList], IsEntryName name := by
    rw [List.forall_mem_singleton]
    constructor <;> decide
  have inside {store : String} (name : IsStoreName store) :
      storePath directory store =
        FilePath.below directory (["truststore".toList] ++ [store.toList]) ∧
      ∀ name ∈ ["truststore".toList] ++ [store.toList], IsEntryName name := by
    refine ⟨?_, List.forall_mem_append.mpr ⟨top, List.forall_mem_singleton.mpr name.isEntryName⟩⟩
    rw [← FilePath.join_below (List.cons_ne_nil _ _) top name.isEntryName, String.ofList_toList]
    rfl
  cases consults with
  | policy found =>
    refine ⟨["trustpolicy.json".toList], rfl, ?_⟩
    rw [List.forall_mem_singleton]
    constructor <;> decide
  | store read named name found => exact ⟨_, inside name⟩
  | @key policy store file names read named name listed mem kind found =>
    obtain ⟨path, entries⟩ := inside name
    have entry := rests.entries _ names listed file mem
    refine ⟨["truststore".toList] ++ [store.toList] ++ [file.toList], ?_,
      List.forall_mem_append.mpr ⟨entries, List.forall_mem_singleton.mpr entry⟩⟩
    rw [← FilePath.join_below (by simp) entries entry, String.ofList_toList, ← path]
    rfl

theorem permits {policy : Policy} (read : PolicyAt files s (policyPath directory) policy) :
    ∀ store ∈ policy.trustStores, IsStoreName store →
      Permits (Consults files s directory) files s (FilePath.join (storesPath directory) store) :=
  fun _ mem name =>
    ⟨fun found => .store read (mem_trustStores_iff.mp mem) name found,
      fun _ listed _ among kind found =>
        .key read (mem_trustStores_iff.mp mem) name listed among kind found⟩

theorem looks_policy (rests : files.Rests s) (directory : String) :
    Looks (Consults files s directory) s (Policy.load files (policyPath directory))
      (Policy.load files.recorded (policyPath directory))
      (PolicyAt files s (policyPath directory)) :=
  Looks.loadPolicy rests fun found => .policy found

theorem looks_load (rests : files.Rests s) (directory : String) :
    Looks (Consults files s directory) s (load files directory) (load files.recorded directory)
      fun v => PolicyAt files s (policyPath directory) v.policy ∧
        Stocked files s (storesPath directory) v.policy.trustStores v.store := by
  rw [load_eq, load_eq]
  have policies := (looks_policy rests directory).adapt fun fault =>
    VerificationError.policy fault.message
  have verifiers := policies.bind fun policy read =>
    ((Looks.loadStores rests (permits read)).adapt fun fault =>
      VerificationError.trustStore fault.message).bind fun store _ =>
        Looks.pure (KeyVerifier.mk policy store)
  refine verifiers.congr fun v => ?_
  constructor
  · rintro ⟨policy, read, store, stocked, rfl⟩
    exact ⟨read, stocked⟩
  · rintro ⟨read, stocked⟩
    exact ⟨v.policy, read, v.store, stocked, rfl⟩

theorem answer_load_of_fault {policy : Policy} (rests : files.Rests s)
    (read : PolicyAt files s (policyPath directory) policy)
    (nothing : ∀ t, ¬ Stocked files s (storesPath directory) policy.trustStores t) :
    ∃ detail, answer (load files directory) s = (.error (.trustStore detail), s) := by
  obtain ⟨fault, fails⟩ := (Looks.loadStores rests (permits read)).fails nothing
  have parsed : answer (Policy.load files (policyPath directory)) s = (.ok policy, s) :=
    (looks_policy rests directory).ok_iff.mpr ⟨read, rfl⟩
  refine ⟨fault.message, ?_⟩
  rw [load_eq, answer_bind, answer_adapt, parsed]
  change answer (ExceptT.adapt _ _ >>= _) s = _
  rw [answer_bind, answer_adapt, fails]
  rfl

/-- What comes of loading a verifier from a directory that nobody changes. Without a sound policy
there is none. With one there is a verifier if and only if each store that the policy names has a
proper name, is a directory with a key file, and has a key in each of its key files; if not, the
trust store is reported as faulty. A verifier has this policy, and in each of these stores it holds
the keys of the key files there and no others, each under the SHA-256 of its record. Nothing else is
looked at, and nothing outside of the directory. -/
theorem loaded_from_directory (rests : files.Rests s) (directory : String) :
    ((∀ policy, ¬ PolicyAt files s (policyPath directory) policy) →
      ∃ detail, answer (load files directory) s = (.error (.policy detail), s)) ∧
    (∀ policy, PolicyAt files s (policyPath directory) policy →
      ((∀ store, policy.Names store →
          IsStoreName store ∧ HoldsKeys files s (storePath directory store)) →
        ∃ v, answer (load files directory) s = (.ok v, s)) ∧
      ∀ store, policy.Names store →
        ¬ (IsStoreName store ∧ HoldsKeys files s (storePath directory store)) →
        ∃ detail, answer (load files directory) s = (.error (.trustStore detail), s)) ∧
    (∀ v t, answer (load files directory) s = (.ok v, t) →
      t = s ∧ PolicyAt files s (policyPath directory) v.policy ∧
      ∀ store, v.policy.Names store → IsStoreName store ∧
        Established files s (storePath directory store) v.store store) ∧
    ∃ log, (∀ access ∈ log, Consults files s directory access ∧
        ∃ names, access.path = FilePath.below directory names ∧ ∀ name ∈ names, IsEntryName name) ∧
      ∀ before, answer (load files.recorded directory) (before, s) =
        ((answer (load files directory) s).1, (before ++ log, s)) := by
  have looks := looks_load rests directory
  refine ⟨?_, ?_, ?_, ?_⟩
  · intro unsound
    obtain ⟨fault, fails⟩ := (looks_policy rests directory).fails unsound
    refine ⟨fault.message, ?_⟩
    rw [load_eq, answer_bind, answer_adapt, fails]
    rfl
  · intro policy read
    refine ⟨fun sound => ?_, fun store named faulty => ?_⟩
    · obtain ⟨store, stocked⟩ := exists_stocked_iff.mpr fun store mem =>
        sound store (mem_trustStores_iff.mp mem)
      exact ⟨⟨policy, store⟩, looks.ok_iff.mpr ⟨⟨read, stocked⟩, rfl⟩⟩
    · refine answer_load_of_fault rests read fun t stocked => faulty ?_
      exact exists_stocked_iff.mp ⟨t, stocked⟩ store (mem_trustStores_iff.mpr named)
  · intro v t loaded
    obtain ⟨⟨read, stocked⟩, rfl⟩ := looks.ok_iff.mp loaded
    refine ⟨rfl, read, fun store named => ?_⟩
    have mem := mem_trustStores_iff.mpr named
    exact ⟨(exists_stocked_iff.mp ⟨_, stocked⟩ store mem).1, stocked.established mem⟩
  · obtain ⟨log, consults, records⟩ := looks.recorded
    exact ⟨log, fun access mem => ⟨consults access mem, (consults access mem).below rests⟩, records⟩

/-! A directory with one store, in which there is a key file and another file. -/

def teamPolicy : String :=
  "\x7b\"version\":\"1.0\",\"trustPolicies\":[\x7b\"name\":\"app\",\"registryScopes\":[\"*\"]," ++
    "\"signatureVerification\":\x7b\"level\":\"strict\"\x7d,\"trustStores\":[\"team\"]\x7d]\x7d"

def teamKey : String :=
  "-----BEGIN PUBLIC KEY-----\n" ++
    "MCowBQYDK2VwAyEAVVKjgIPgugVHbdXbRzZ5ilDucIcTfb3BCg1MMpAfLlo=\n" ++
    "-----END PUBLIC KEY-----\n"

def teamFiles : Files (StateM Unit) where
  read path := ExceptT.mk <| pure <|
    if path = "config/trustpolicy.json" then .ok teamPolicy.toUTF8
    else if path = "config/truststore/team/key.pem" then .ok teamKey.toUTF8
    else .error .missing
  list path := ExceptT.mk <| pure <|
    if path = "config/truststore/team" then .ok ["README", "key.pem"] else .error .missing

theorem teamFiles_rests : teamFiles.Rests () := by
  refine ⟨fun _ => rfl, fun _ => rfl, ?_⟩
  intro path names listed name mem
  change (if path = "config/truststore/team" then _ else _) = _ at listed
  split at listed
  · cases listed
    simp only [List.mem_cons, List.not_mem_nil, or_false] at mem
    rcases mem with rfl | rfl
    · constructor <;> decide
    · constructor <;> decide
  · cases listed

theorem teamFiles_policy : PolicyAt teamFiles () (policyPath "config")
    ⟨"1.0", [⟨"app", ["*"], .strict, .empty, ["team"]⟩]⟩ :=
  ⟨teamPolicy, by decide +kernel, by decide +kernel⟩

theorem teamFiles_holdsKeys : HoldsKeys teamFiles () (storePath "config" "team") := by
  refine ⟨["README", "key.pem"], rfl, ⟨"key.pem", by simp, "key", by decide, rfl⟩, ?_⟩
  intro name mem kind
  simp only [List.mem_cons, List.not_mem_nil, or_false] at mem
  rcases mem with rfl | rfl
  · exact absurd (extension?_eq_pem_iff.mpr kind) (by decide)
  · have decoded : (Signature.ofKeyFile? teamKey).isSome = true := by decide +kernel
    obtain ⟨key, decoded⟩ := Option.isSome_iff_exists.mp decoded
    exact ⟨key, teamKey, by decide +kernel, decoded⟩

theorem teamFiles_keyIn {key : PublicKey}
    (inside : KeyIn teamFiles () (storePath "config" "team") key) :
    Signature.ofKeyFile? teamKey = some key := by
  obtain ⟨names, listed, name, mem, kind, text, read, decoded⟩ := inside
  cases (listed : (Except.ok ["README", "key.pem"] : Except FileFault _) = .ok names)
  simp only [List.mem_cons, List.not_mem_nil, or_false] at mem
  rcases mem with rfl | rfl
  · exact absurd (extension?_eq_pem_iff.mpr kind) (by decide)
  · have same : (answer (teamFiles.readText "config/truststore/team/key.pem") ()).1 =
        .ok teamKey := by decide +kernel
    cases same.symm.trans read
    exact decoded

theorem teamKey_id :
    (Signature.ofKeyFile? teamKey).all (fun key => Signature.keyId key.bytes =
      "sha256:2e3a07585de6a29ea1514029c8dff041ef405dca939fba6fdf6c8de5f506e52c") = true := by
  decide +kernel

/-- The key is loaded under the hash of its record, and the other file does no harm. -/
theorem loaded_from_directory_team :
    teamFiles.Rests () ∧ ∃ v, answer (load teamFiles "config") () = (.ok v, ()) ∧
      (∃ key, (v.store.keysOf "team").get?
        "sha256:2e3a07585de6a29ea1514029c8dff041ef405dca939fba6fdf6c8de5f506e52c" = some key) ∧
      ∀ key, v.store.Holds "team" key → KeyIn teamFiles () "config/truststore/team" key := by
  obtain ⟨-, loads, holds, -⟩ := loaded_from_directory teamFiles_rests "config"
  obtain ⟨v, loaded⟩ := (loads _ teamFiles_policy).1 (by
    rintro store ⟨statement, listed, named⟩
    cases List.mem_singleton.mp listed
    cases List.mem_singleton.mp named
    exact ⟨isName_iff.mp (by decide), teamFiles_holdsKeys⟩)
  obtain ⟨-, read, established⟩ := holds v () loaded
  have named : v.policy.Names "team" := by
    rw [read.unique teamFiles_policy]
    exact ⟨_, List.mem_singleton.mpr rfl, List.mem_singleton.mpr rfl⟩
  obtain ⟨-, ⟨key, id, held⟩, own, -, filed⟩ := established "team" named
  refine ⟨teamFiles_rests, v, loaded, ⟨key, ?_⟩, own⟩
  have decoded := teamFiles_keyIn (own key ⟨id, held⟩)
  have hashed := teamKey_id
  rw [decoded, Option.all_some, decide_eq_true_eq, Signature.keyId_eq] at hashed
  rw [← hashed, ← (filed id key held).1, held]

end KeyVerifier

end ArtifactTrust
