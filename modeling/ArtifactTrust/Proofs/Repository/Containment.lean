import ArtifactTrust.Proofs.Repository.Queries
import ArtifactTrust.Proofs.Repository.Resolution

/-!
# What an image layout opens

Digests come from documents that nobody has checked, and become paths. What is opened are the
marker, the index and files named by a well-formed digest, and no path leads out of the layout.
-/

namespace ArtifactTrust

set_option autoImplicit false

open Json Text

inductive FileAccess where
  | read (path : String) (found : Except FileFault ByteArray)
  | list (path : String) (found : Except FileFault (List String))

def Files.recorded {σ : Type} (files : Files (StateM σ)) :
    Files (StateM (List FileAccess × σ)) where
  read path := noting (.read path) (files.read path)
  list path := noting (.list path) (files.list path)

/-! ### Paths -/

namespace FilePath

variable {directory name : String}

theorem join_eq (relative : isAbsolute name = false) :
    join directory name = join directory "" ++ name := by
  have nothing : isAbsolute "" = false := rfl
  unfold join
  by_cases empty : directory.isEmpty = true
  · simp [relative, empty]
  · by_cases slash : directory.toList.getLast? = some '/'
    · simp [relative, nothing, empty, slash]
    · simp [relative, nothing, empty, slash]

theorem join_of_getLast? {c : Char} (relative : isAbsolute name = false)
    (last : directory.toList.getLast? = some c) (other : c ≠ '/') :
    join directory name = directory ++ "/" ++ name := by
  have some : directory.isEmpty = false := by
    rw [String.isEmpty_eq_false_iff]
    rintro rfl
    cases last
  unfold join
  simp [relative, some, last, other]

end FilePath

/-- The name of a file or directory that is neither the one it is in nor the one above. -/
structure IsEntryName (name : List Char) : Prop where
  nonempty : name ≠ []
  here : name ≠ ['.']
  above : name ≠ ['.', '.']
  slash : '/' ∉ name
  zero : '\x00' ∉ name

namespace Layout

/-- The files of a layout. -/
inductive IsOwn (l : Layout) : String → Prop
  | marker : IsOwn l (FilePath.join l.root "oci-layout")
  | index : IsOwn l (FilePath.join l.root "index.json")
  | blob (algorithm : Digest.Algorithm) (encoded : String)
      (length : encoded.toList.length = algorithm.hexLength)
      (hex : encoded.toList.all isLowerHex = true) :
      IsOwn l (FilePath.join l.root ("blobs/" ++ algorithm.name ++ "/" ++ encoded))

variable {l : Layout} {digest path : String}

theorem isEntryName_of_hex {name : List Char} (nonempty : name ≠ [])
    (hex : name.all isLowerHex = true) : IsEntryName name := by
  have digit := List.all_eq_true.mp hex
  refine ⟨nonempty, ?_, ?_, ?_, ?_⟩
  · rintro rfl
    exact absurd (digit '.' List.mem_cons_self) (by decide)
  · rintro rfl
    exact absurd (digit '.' List.mem_cons_self) (by decide)
  · exact fun mem => absurd (digit '/' mem) (by decide)
  · exact fun mem => absurd (digit '\x00' mem) (by decide)

theorem isEntryName_algorithm (algorithm : Digest.Algorithm) :
    IsEntryName algorithm.name.toList := by
  cases algorithm <;> constructor <;> decide

theorem isEntryName_encoded {algorithm : Digest.Algorithm} {encoded : String}
    (length : encoded.toList.length = algorithm.hexLength)
    (hex : encoded.toList.all isLowerHex = true) : IsEntryName encoded.toList := by
  refine isEntryName_of_hex ?_ hex
  intro none
  rw [none] at length
  cases algorithm <;> cases length

/-- A file of a layout is reached from its directory by going down only. -/
theorem IsOwn.below (own : l.IsOwn path) :
    ∃ names : List (List Char), path = FilePath.join l.root (String.ofList (joined '/' names)) ∧
      ∀ name ∈ names, IsEntryName name := by
  cases own with
  | marker =>
    refine ⟨["oci-layout".toList], rfl, ?_⟩
    intro name mem
    rw [List.mem_singleton.mp mem]
    constructor <;> decide
  | index =>
    refine ⟨["index.json".toList], rfl, ?_⟩
    intro name mem
    rw [List.mem_singleton.mp mem]
    constructor <;> decide
  | blob algorithm encoded length hex =>
    refine ⟨["blobs".toList, algorithm.name.toList, encoded.toList], ?_, ?_⟩
    · congr 1
      apply String.toList_inj.mp
      simp [joined]
    · intro name mem
      rcases List.mem_cons.mp mem with rfl | mem
      · constructor <;> decide
      rcases List.mem_cons.mp mem with rfl | mem
      · exact isEntryName_algorithm algorithm
      · rw [List.mem_singleton.mp mem]
        exact isEntryName_encoded length hex

theorem blobPath_eq (algorithm : Digest.Algorithm) {encoded : String}
    (relative : FilePath.isAbsolute encoded = false) :
    l.blobPath algorithm encoded =
      FilePath.join l.root ("blobs/" ++ algorithm.name ++ "/" ++ encoded) := by
  -- The root may be empty or end in a slash, so it is joined with one name only. The directories
  -- below it do not end in a slash, and what is joined with them is put behind one.
  have named : FilePath.isAbsolute algorithm.name = false := by cases algorithm <;> decide
  have whole : FilePath.isAbsolute ("blobs/" ++ algorithm.name ++ "/" ++ encoded) = false := by
    simp [FilePath.isAbsolute]
  have top : FilePath.join l.root "blobs" = FilePath.join l.root "" ++ "blobs" :=
    FilePath.join_eq rfl
  have below : FilePath.join (FilePath.join l.root "blobs") algorithm.name =
      FilePath.join l.root "" ++ "blobs/" ++ algorithm.name := by
    rw [FilePath.join_of_getLast? named (c := 's') (by simp [top]) (by decide), top]
    simp [String.append_assoc]
  have last : ∃ c, (FilePath.join (FilePath.join l.root "blobs") algorithm.name).toList.getLast? =
      some c ∧ c ≠ '/' := by
    rw [below]
    cases algorithm with
    | sha256 => exact ⟨'6', by simp [Digest.Algorithm.name], by decide⟩
    | sha512 => exact ⟨'2', by simp [Digest.Algorithm.name], by decide⟩
  obtain ⟨c, last, other⟩ := last
  rw [blobPath, FilePath.join_of_getLast? relative last other, below, FilePath.join_eq whole]
  simp only [String.append_assoc]

theorem isAbsolute_of_parse {algorithm : Digest.Algorithm} {encoded : String}
    (parsed : Digest.parse digest = .ok (algorithm, encoded)) :
    FilePath.isAbsolute encoded = false := by
  obtain ⟨-, -, hex⟩ := Digest.parse_eq_ok_iff.mp parsed
  unfold FilePath.isAbsolute
  cases digits : encoded.toList with
  | nil => rfl
  | cons c rest =>
    have digit : isLowerHex c = true := List.all_eq_true.mp hex c (digits ▸ List.mem_cons_self)
    have other : c ≠ '/' := by
      rintro rfl
      cases digit
    simpa using other

theorem isOwn_blobPath {algorithm : Digest.Algorithm} {encoded : String}
    (parsed : Digest.parse digest = .ok (algorithm, encoded)) :
    l.IsOwn (l.blobPath algorithm encoded) := by
  obtain ⟨-, length, hex⟩ := Digest.parse_eq_ok_iff.mp parsed
  rw [blobPath_eq algorithm (isAbsolute_of_parse parsed)]
  exact .blob algorithm encoded length hex

/-! ### Operations -/

variable {σ α β : Type} {files : Files (StateM σ)}

/-- One file is opened for a well-formed digest. For any other digest none is, and it is refused. -/
inductive OpensBlob (l : Layout) (digest : String) :
    List FileAccess → Except RepositoryError α → Prop
  | opened {algorithm : Digest.Algorithm} {encoded : String}
      (parsed : Digest.parse digest = .ok (algorithm, encoded))
      (found : Except FileFault ByteArray) (r : Except RepositoryError α) :
      OpensBlob l digest [.read (l.blobPath algorithm encoded) found] r
  | refused {fault : Digest.Fault} (parsed : Digest.parse digest = .error fault) :
      OpensBlob l digest [] (.error (.invalidReference digest fault.message))

/-- The file for a digest, which is well formed. -/
def IsBlob (l : Layout) (digest : String) (access : FileAccess) : Prop :=
  ∃ algorithm encoded found, Digest.parse digest = .ok (algorithm, encoded) ∧
    access = .read (l.blobPath algorithm encoded) found

theorem OpensBlob.isBlob {log : List FileAccess} {result : Except RepositoryError α}
    (opens : l.OpensBlob digest log result) : ∀ access ∈ log, l.IsBlob digest access := by
  intro access mem
  cases opens with
  | refused parsed => cases mem
  | @opened algorithm encoded parsed found =>
    exact ⟨algorithm, encoded, found, parsed, List.mem_singleton.mp mem⟩

theorem traced_reading {P : List FileAccess → Except FileFault α → Prop}
    {action : ExceptT FileFault (StateM σ) α}
    {action' : ExceptT FileFault (StateM (List FileAccess × σ)) α}
    (h : Traced P action action') (report : FileFault → RepositoryError) :
    Traced (fun log r => ∃ found, P log found ∧ r = found.mapError report)
      (reading report action) (reading report action') := by
  intro s
  obtain ⟨log, holds, same⟩ := h s
  refine ⟨log, ⟨(answer action s).1, holds, ?_⟩, fun before => ?_⟩
  · rw [answer_reading]
  · rw [answer_reading, answer_reading, same]

theorem traced_readBlob (l : Layout) (digest : String) :
    Traced (l.OpensBlob digest) (l.readBlob files digest) (l.readBlob files.recorded digest) := by
  cases parsed : Digest.parse digest with
  | error fault =>
    unfold readBlob settled Digest.validate
    rw [parsed]
    exact Traced.settled (.refused parsed)
  | ok parts =>
    rw [readBlob_of_parse parsed, readBlob_of_parse parsed]
    let path := l.blobPath parts.1 parts.2
    have read := traced_reading (Traced.noted (.read path) (files.read path))
      (l.blobError digest path)
    refine read.mono ?_
    rintro log r ⟨found, rfl, -⟩
    exact .opened parsed found r

/-- What is done with the content of a file opens no other one. -/
theorem OpensBlob.bind {x : ExceptT RepositoryError (StateM σ) α}
    {x' : ExceptT RepositoryError (StateM (List FileAccess × σ)) α}
    {f : α → ExceptT RepositoryError (StateM σ) β}
    {f' : α → ExceptT RepositoryError (StateM (List FileAccess × σ)) β}
    (opens : Traced (l.OpensBlob digest) x x')
    (silent : ∀ a, Traced (fun log _ => log = []) (f a) (f' a)) :
    Traced (l.OpensBlob digest) (x >>= f) (x' >>= f') := by
  refine opens.bind silent ?_ ?_
  · intro log e failed
    cases failed with
    | opened parsed found => exact .opened parsed found _
    | refused parsed => exact .refused parsed
  · rintro a log rest r opened rfl
    cases opened with
    | opened parsed found => exact .opened parsed found r

theorem traced_fetch (l : Layout) (digest : String) :
    Traced (l.OpensBlob digest) (l.fetch files digest) (l.fetch files.recorded digest) := by
  refine OpensBlob.bind (l.traced_readBlob digest) (fun content => ?_)
  unfold settled
  cases Digest.verifyContent digest content with
  | error e => exact Traced.settled rfl
  | ok u => exact Traced.settled rfl

theorem traced_fetchManifest (l : Layout) (d : Descriptor) :
    Traced (l.OpensBlob d.digest) (l.fetchManifest files d)
      (l.fetchManifest files.recorded d) := by
  refine OpensBlob.bind (l.traced_fetch d.digest) (fun content => ?_)
  cases (decode? content : Option Manifest) with
  | none => exact Traced.settled rfl
  | some manifest => exact Traced.settled rfl

theorem traced_describe (l : Layout) (digest : String) :
    Traced (l.OpensBlob digest) (l.describe files digest) (l.describe files.recorded digest) := by
  refine OpensBlob.bind (l.traced_fetch digest) (fun content => ?_)
  cases mediaType? content with
  | none => exact Traced.settled rfl
  | some mediaType => exact Traced.settled rfl

/-- What was found in the place of an index lists an entry. -/
def Lists (found : Except FileFault ByteArray) (entry : Descriptor) : Prop :=
  ∃ document index, found = .ok document ∧ decode? document = some index ∧
    entry ∈ (index : Index).manifests

theorem traced_index (l : Layout) :
    Traced (fun log r => ∃ found, log = [.read l.indexPath found] ∧
        ∀ index, r = .ok index → ∃ document, found = .ok document ∧ decode? document = some index)
      (l.index files) (l.index files.recorded) := by
  have read := traced_reading (Traced.noted (.read l.indexPath) (files.read l.indexPath))
    fun fault => (Fault.unreadable l.indexPath fault.message).error
  refine read.bind (S := fun document log r => log = [] ∧
    ∀ index, r = .ok index → decode? document = some index) (fun document => ?_) ?_ ?_
  · cases decoded : (decode? document : Option Index) with
    | none => exact Traced.settled ⟨rfl, nofun⟩
    | some index =>
      apply Traced.settled
      refine ⟨rfl, fun again same => ?_⟩
      cases same
      rfl
  · rintro log e ⟨found, noted, -⟩
    exact ⟨found, noted, nofun⟩
  · rintro document log rest r ⟨found, noted, same⟩ ⟨rfl, reads⟩
    refine ⟨found, ?_, fun index answered => ⟨document, ?_, reads index answered⟩⟩
    · rw [List.append_nil, noted]
    · cases found with
      | ok content => exact (Except.ok.inj same).symm ▸ rfl
      | error fault => cases same

theorem traced_signaturesAmong (l : Layout) (subject : Descriptor) (entries : List Descriptor) :
    Traced (fun log _ => ∀ access ∈ log, ∃ entry ∈ entries, l.IsBlob entry.digest access)
      (l.signaturesAmong files subject entries)
      (l.signaturesAmong files.recorded subject entries) := by
  induction entries with
  | nil => exact Traced.settled nofun
  | cons entry rest ih =>
    have later : Traced
        (fun log _ => ∀ access ∈ log, ∃ e ∈ entry :: rest, l.IsBlob e.digest access)
        (l.signaturesAmong files subject rest) (l.signaturesAmong files.recorded subject rest) := by
      apply ih.mono
      intro log r all access mem
      obtain ⟨e, listed, blob⟩ := all access mem
      exact ⟨e, List.mem_cons_of_mem entry listed, blob⟩
    have own : Traced (fun log _ => ∀ access ∈ log, ∃ e ∈ entry :: rest, l.IsBlob e.digest access)
        (l.fetchManifest files entry) (l.fetchManifest files.recorded entry) := by
      apply (l.traced_fetchManifest entry).mono
      intro log r opens access mem
      exact ⟨entry, List.mem_cons_self, opens.isBlob access mem⟩
    unfold signaturesAmong
    by_cases candidate : isCandidate subject entry = true
    · simp only [candidate, if_true]
      apply own.bind_all
      intro manifest
      apply later.bind_all
      exact fun others => Traced.settled nofun
    · simp only [candidate]
      exact later

/-- The files that are opened for a question: the index for two kinds of questions, and for each
well-formed digest that is asked for, or that the index lists, the file that it names. -/
def Opens (l : Layout) : Query → List FileAccess → Except RepositoryError Reply → Prop
  | .resolve name, log, _ => ∃ found rest, log = .read l.indexPath found :: rest ∧
      ∀ access ∈ rest, l.IsBlob name access
  | .fetchManifest d, log, result => l.OpensBlob d.digest log result
  | .fetchBlob d, log, result => l.OpensBlob d.digest log result
  | .listSignatures _, log, _ => ∃ found rest, log = .read l.indexPath found :: rest ∧
      ∀ access ∈ rest, ∃ entry, Lists found entry ∧ l.IsBlob entry.digest access

theorem traced_resolve (l : Layout) (name : String) :
    Traced (fun log _ => ∃ found rest, log = .read l.indexPath found :: rest ∧
        ∀ access ∈ rest, l.IsBlob name access)
      (l.resolve files name) (l.resolve files.recorded name) := by
  refine l.traced_index.bind
    (S := fun _ log _ => ∀ access ∈ log, l.IsBlob name access) (fun index => ?_) ?_ ?_
  · cases index.manifests.find? (isNamed name) with
    | some entry => exact Traced.settled nofun
    | none =>
      by_cases digest : isDigest name = true
      · simp only [digest, if_true]
        exact (l.traced_describe name).mono fun log r opens => opens.isBlob
      · simp only [digest]
        exact Traced.settled nofun
  · rintro log e ⟨found, noted, -⟩
    exact ⟨found, [], noted, nofun⟩
  · rintro index log rest r ⟨found, rfl, -⟩ all
    exact ⟨found, rest, rfl, all⟩

theorem traced_listSignatures (l : Layout) (subject : Descriptor) :
    Traced (fun log _ => ∃ found rest, log = .read l.indexPath found :: rest ∧
        ∀ access ∈ rest, ∃ entry, Lists found entry ∧ l.IsBlob entry.digest access)
      (l.listSignatures files subject) (l.listSignatures files.recorded subject) := by
  -- The candidates are entries of the index, and the index is what was found in its file.
  refine l.traced_index.bind (fun index => l.traced_signaturesAmong subject index.manifests) ?_ ?_
  · rintro log e ⟨found, noted, -⟩
    exact ⟨found, [], noted, nofun⟩
  · rintro index log rest r ⟨found, rfl, reads⟩ all
    obtain ⟨document, there, decoded⟩ := reads index rfl
    refine ⟨found, rest, rfl, fun access mem => ?_⟩
    obtain ⟨entry, listed, blob⟩ := all access mem
    exact ⟨entry, ⟨document, index, there, decoded, listed⟩, blob⟩

theorem traced_reply (l : Layout) (files : Files (StateM σ)) (query : Query) :
    Traced (l.Opens query) ((l.repository files).reply query)
      ((l.repository files.recorded).reply query) := by
  cases query with
  | resolve name => exact (l.traced_resolve name).map _ fun log r opens => opens
  | fetchManifest d =>
    rw [Repository.reply, Repository.reply, ← bind_pure_comp, ← bind_pure_comp]
    exact OpensBlob.bind (l.traced_fetchManifest d) fun manifest => Traced.settled rfl
  | fetchBlob d =>
    rw [Repository.reply, Repository.reply, ← bind_pure_comp, ← bind_pure_comp]
    exact OpensBlob.bind (l.traced_fetch d.digest) fun content => Traced.settled rfl
  | listSignatures subject => exact (l.traced_listSignatures subject).map _ fun log r opens => opens

theorem IsBlob.isOwn {access : FileAccess} (blob : l.IsBlob digest access) :
    ∃ path found, access = .read path found ∧ l.IsOwn path := by
  obtain ⟨algorithm, encoded, found, parsed, rfl⟩ := blob
  exact ⟨_, found, rfl, isOwn_blobPath parsed⟩

theorem isOwn_of_index {found : Except FileFault ByteArray} {rest : List FileAccess}
    (all : ∀ access ∈ rest, ∃ digest, l.IsBlob digest access) :
    ∀ access ∈ FileAccess.read l.indexPath found :: rest,
      ∃ path found, access = .read path found ∧ l.IsOwn path := by
  intro access mem
  rcases List.mem_cons.mp mem with rfl | mem
  · exact ⟨_, found, rfl, .index⟩
  · obtain ⟨digest, blob⟩ := all access mem
    exact blob.isOwn

theorem Opens.isOwn {query : Query} {log : List FileAccess} {result : Except RepositoryError Reply}
    (opens : l.Opens query log result) :
    ∀ access ∈ log, ∃ path found, access = .read path found ∧ l.IsOwn path := by
  cases query with
  | resolve name =>
    obtain ⟨found, rest, rfl, all⟩ := opens
    exact isOwn_of_index fun access mem => ⟨name, all access mem⟩
  | fetchManifest d =>
    exact fun access mem => (OpensBlob.isBlob opens access mem).isOwn
  | fetchBlob d =>
    exact fun access mem => (OpensBlob.isBlob opens access mem).isOwn
  | listSignatures subject =>
    obtain ⟨found, rest, rfl, all⟩ := opens
    apply isOwn_of_index
    intro access mem
    obtain ⟨entry, -, blob⟩ := all access mem
    exact ⟨entry.digest, blob⟩

theorem OpensBlob.of_malformed {log : List FileAccess} {result : Except RepositoryError α}
    (opens : l.OpensBlob digest log result) (malformed : ¬ Digest.WellFormed digest) :
    log = [] ∧ ∃ reason, result = .error (.invalidReference digest reason) := by
  cases opens with
  | opened parsed found => exact absurd ⟨_, parsed⟩ malformed
  | refused parsed => exact ⟨rfl, _, rfl⟩

theorem traced_readText (path : String) :
    Traced (fun log _ => ∃ found, log = [.read path found])
      (files.readText path) (files.recorded.readText path) := by
  have read : Traced (fun log _ => ∃ found, log = [FileAccess.read path found])
      (files.read path) (files.recorded.read path) :=
    (Traced.noted (FileAccess.read path) (files.read path)).mono fun log r noted => ⟨r, noted⟩
  apply read.bind_silent
  intro content
  cases String.fromUTF8? content with
  | none => exact Traced.settled rfl
  | some text => exact Traced.settled rfl

theorem traced_open (root : String) :
    Traced (fun log _ => ∃ found, log = [.read (FilePath.join root "oci-layout") found])
      (open? files root) (open? files.recorded root) := by
  have read : Traced (fun log _ => ∃ found,
        log = [FileAccess.read (FilePath.join root "oci-layout") found])
      (reading (fun fault => (Fault.unreadable (markerPath ⟨root⟩) fault.message).error)
        (files.readText (markerPath ⟨root⟩)))
      (reading (fun fault => (Fault.unreadable (markerPath ⟨root⟩) fault.message).error)
        (files.recorded.readText (markerPath ⟨root⟩))) :=
    (traced_reading (traced_readText _) _).mono fun log r ⟨_, noted, _⟩ => noted
  apply read.bind_silent
  intro text
  cases version? text.toUTF8 with
  | none => exact Traced.settled rfl
  | some version =>
    by_cases supported : version = supportedVersion
    · simp only [supported, ne_eq, not_true_eq_false, if_false]
      exact Traced.settled rfl
    · simp only [supported, ne_eq, not_false_eq_true, if_true]
      exact Traced.settled rfl

/-- A layout is opened by its marker. Whatever its files hold, however they change between
questions, and whatever is asked of it, each question opens its own files only, none of them by a
path that leads out of the layout, and a descriptor whose digest is not well formed opens none. -/
theorem opens_own_files (l : Layout) (files : Files (StateM σ)) :
    (∀ root, Traced (fun log _ => ∃ found, log = [.read (FilePath.join root "oci-layout") found])
      (open? files root) (open? files.recorded root)) ∧
    ∀ (queries : List Query) (s : σ), ∃ turns : List (Repository.Turn FileAccess),
      turns.map (·.query) = queries ∧
      (((l.repository files).replies queries).run s).1 = turns.map (·.result) ∧
      (((l.repository files.recorded).replies queries).run ([], s)).1 = turns.map (·.result) ∧
      (((l.repository files.recorded).replies queries).run ([], s)).2.1 = turns.flatMap (·.log) ∧
      ∀ turn ∈ turns, l.Opens turn.query turn.log turn.result ∧
        (∀ access ∈ turn.log, ∃ path found, access = .read path found ∧ l.IsOwn path ∧
          ∃ names : List (List Char),
            path = FilePath.join l.root (String.ofList (joined '/' names)) ∧
            ∀ name ∈ names, IsEntryName name) ∧
        ∀ d, turn.query = .fetchManifest d ∨ turn.query = .fetchBlob d →
          ¬ Digest.WellFormed d.digest →
          turn.log = [] ∧ ∃ reason, turn.result = .error (.invalidReference d.digest reason) := by
  refine ⟨traced_open, fun queries s => ?_⟩
  obtain ⟨turns, asked, opens, results, recorded⟩ :=
    Repository.exists_turns (l.traced_reply files) queries s
  have run := recorded []
  refine ⟨turns, asked, results, ?_, ?_, ?_⟩
  · rw [run, results]
  · rw [run, List.nil_append]
  intro turn mem
  have own := opens turn mem
  refine ⟨own, ?_, ?_⟩
  · intro access listed
    obtain ⟨path, found, same, inside⟩ := own.isOwn access listed
    exact ⟨path, found, same, inside, inside.below⟩
  · intro d asks malformed
    obtain ⟨query, log, result⟩ := turn
    rcases asks with rfl | rfl
    · exact OpensBlob.of_malformed own malformed
    · exact OpensBlob.of_malformed own malformed

/-- What an index or a signature may name to get at a file that is not in the layout. -/
def strayDescriptor : Descriptor :=
  ⟨MediaType.imageManifest, "sha256:/../../../etc/passwd", 1, some MediaType.signature, none⟩

/-- Files of which there is one at every path. -/
def plentifulFiles : Files (StateM Unit) where
  read _ := pure (Json.encode { Index.empty with manifests := [strayDescriptor] })
  list _ := pure []

theorem strayDescriptor_malformed : ¬ Digest.WellFormed strayDescriptor.digest := by
  have refused : (Digest.parse strayDescriptor.digest).isOk = false := by decide +kernel
  rintro ⟨parts, parsed⟩
  rw [parsed] at refused
  cases refused

/-- A stray descriptor is refused, and there is nothing in the record. -/
theorem opens_own_files_stray :
    ¬ Digest.WellFormed strayDescriptor.digest ∧
      ∃ reason, (((Layout.mk "layout").repository plentifulFiles.recorded).replies
          [.fetchBlob strayDescriptor]).run ([], ()) =
        ([.error (.invalidReference strayDescriptor.digest reason)], ([], ())) := by
  obtain ⟨-, each⟩ := opens_own_files (Layout.mk "layout") plentifulFiles
  obtain ⟨turns, asked, -, results, recorded, all⟩ := each [.fetchBlob strayDescriptor] ()
  obtain ⟨turn, rfl, query⟩ := List.map_eq_singleton_iff.mp asked
  obtain ⟨-, -, refused⟩ := all turn List.mem_cons_self
  obtain ⟨log, reason, result⟩ := refused _ (.inr query) strayDescriptor_malformed
  rw [List.map_singleton, result] at results
  rw [List.flatMap_singleton, log] at recorded
  exact ⟨strayDescriptor_malformed, reason,
    Prod.ext results (Prod.ext recorded (Subsingleton.elim _ _))⟩

end Layout

end ArtifactTrust
