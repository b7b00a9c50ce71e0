import ArtifactTrust.Proofs.Digest
import ArtifactTrust.Proofs.Registry.Attempts
import ArtifactTrust.Proofs.Repository.Queries
import ArtifactTrust.Registry.Repository

/-!
# How patiently a registry is asked

Each operation goes through its inquiries in rounds of attempts. What it then finds out about the
content of an answer comes after the round and leads to no other attempt.
-/

namespace ArtifactTrust

set_option autoImplicit false

open Registry

variable {σ α β : Type} {settings : RegistrySettings} {inquiries : List Inquiry} {unread : Prop}

/-! ### Rounds -/

/-- The attempts at an inquiry, and what comes of them. -/
structure Round where
  inquiry : Inquiry
  attempts : List Attempt
  result : Except RepositoryError Answer

namespace Round

def exchanges (round : Round) : List Exchange := round.attempts.flatMap Attempt.exchanges

def Made (settings : RegistrySettings) (round : Round) : Prop :=
  Tries (round.inquiry.Attempted settings) settings.maxRetries.toNat round.attempts round.result

/-- An answer came, but not all of the content that was asked for. -/
def IsCutOff (round : Round) : Prop :=
  round.inquiry.method = .get ∧ ∃ a, round.result = .ok a ∧ a.body = none

end Round

/-- Rounds for one inquiry after the other. After a round that fails in a way that may pass there
is no other one. -/
inductive Follows (settings : RegistrySettings) : List Inquiry → List Round → Prop
  | stop {inquiries : List Inquiry} : Follows settings inquiries []
  | round {inquiries : List Inquiry} {round : Round} {rest : List Round}
      (made : round.Made settings) (settled : isTransient round.result = false ∨ rest = [])
      (more : Follows settings inquiries rest) :
      Follows settings (round.inquiry :: inquiries) (round :: rest)

theorem Follows.made {rounds : List Round} (follows : Follows settings inquiries rounds) :
    ∀ round ∈ rounds, round.Made settings := by
  induction follows with
  | stop => exact nofun
  | round made settled more ih =>
    intro round mem
    rcases List.mem_cons.mp mem with rfl | mem
    · exact made
    · exact ih round mem

theorem Follows.inquiries_prefix {rounds : List Round}
    (follows : Follows settings inquiries rounds) : rounds.map Round.inquiry <+: inquiries := by
  induction follows with
  | stop => exact List.nil_prefix
  | round made settled more ih =>
    rw [List.map_cons, List.prefix_cons_inj]
    exact ih

/-- The rounds of an action, and what it says where it fails in a way that may pass: what the last
round said, or that the answer of that round was cut off. Before the first round there may be an
answer that is not read yet. -/
def Works (settings : RegistrySettings) (inquiries : List Inquiry) (unread : Prop)
    (log : List Exchange) (r : Except RepositoryError α) : Prop :=
  ∃ rounds, Follows settings inquiries rounds ∧ log = rounds.flatMap Round.exchanges ∧
    ∀ e, r = .error e → e.transient = true →
      (∃ round ∈ rounds.getLast?, round.result = .error e ∨ round.IsCutOff) ∨ rounds = [] ∧ unread

theorem Works.settled {r : Except RepositoryError α} (final : isTransient r = false) :
    Works settings inquiries unread [] r := by
  refine ⟨[], .stop, rfl, fun e same passes => ?_⟩
  rw [same, isTransient, passes] at final
  cases final

/-- One round, of which something is heard. -/
def Asks (settings : RegistrySettings) (i : Inquiry)
    (heard : Except RepositoryError Answer → Except RepositoryError β) (log : List Exchange)
    (r : Except RepositoryError β) : Prop :=
  ∃ round : Round, round.inquiry = i ∧ round.Made settings ∧ log = round.exchanges ∧
    r = heard round.result

section Actions

variable {x : ExceptT RepositoryError (StateM σ) α}
  {x' : ExceptT RepositoryError (StateM (List Exchange × σ)) α}
  {f : α → ExceptT RepositoryError (StateM σ) β}
  {f' : α → ExceptT RepositoryError (StateM (List Exchange × σ)) β}

/-- What is done with a result adds no round and fails for good. -/
theorem Works.bind_settled (works : Traced (Works settings inquiries unread) x x')
    (silent : ∀ a, Traced (fun log r => log = [] ∧ isTransient r = false) (f a) (f' a)) :
    Traced (Works settings inquiries unread) (x >>= f) (x' >>= f') := by
  refine works.bind silent ?_ ?_
  · rintro log e ⟨rounds, follows, same, blames⟩
    exact ⟨rounds, follows, same, fun e' own => blames e' (by cases own; rfl)⟩
  · rintro a log rest r ⟨rounds, follows, same, -⟩ ⟨rfl, final⟩
    refine ⟨rounds, follows, ?_, fun e own passes => ?_⟩
    · rw [List.append_nil, same]
    · rw [own, isTransient, passes] at final
      cases final

/-- A round comes before what is done with its answer, which may be cut off. -/
theorem Asks.bind {i : Inquiry} {heard : Except RepositoryError Answer → Except RepositoryError α}
    {C : α → Prop} (asks : Traced (Asks settings i heard) x x')
    (fails : ∀ r e, heard r = .error e → r = .error e)
    (settles : ∀ r a, heard r = .ok a → isTransient r = false)
    (cutOff : ∀ r a, heard r = .ok a → C a → i.method = .get ∧ ∃ b, r = .ok b ∧ b.body = none)
    (works : ∀ a, Traced (Works settings inquiries (C a)) (f a) (f' a)) :
    Traced (Works settings (i :: inquiries) unread) (x >>= f) (x' >>= f') := by
  refine asks.bind works ?_ ?_
  · rintro log e ⟨round, rfl, made, rfl, same⟩
    refine ⟨[round], .round made (.inr rfl) .stop, ?_, fun e' own passes => .inl ?_⟩
    · rw [List.flatMap_singleton]
    · cases own
      exact ⟨round, rfl, .inl (fails _ _ same.symm)⟩
  · rintro a log rest r ⟨round, rfl, made, rfl, same⟩ ⟨rounds, follows, rfl, blames⟩
    have goesOn := settles _ _ same.symm
    refine ⟨round :: rounds, .round made (.inl goesOn) follows, ?_, fun e own passes => .inl ?_⟩
    · rw [List.flatMap_cons]
    · rcases blames e own passes with ⟨last, mem, blamed⟩ | ⟨rfl, unread⟩
      · refine ⟨last, ?_, blamed⟩
        have some : rounds ≠ [] := by
          rintro rfl
          cases mem
        rwa [List.getLast?_cons_of_ne_nil some]
      · exact ⟨round, rfl, .inr (cutOff _ _ same.symm unread)⟩

end Actions

theorem traced_request (settings : RegistrySettings) (i : Inquiry) (network : Network (StateM σ)) :
    Traced (Asks settings i id) (request network settings i.method i.url i.accept i.what)
      (request network.recorded settings i.method i.url i.accept i.what) := by
  refine (traced_retrying network (traced_attempt settings i network) 0 _).mono ?_
  rintro log r ⟨attempts, tries, rfl⟩
  exact ⟨⟨i, attempts, r⟩, rfl, tries, rfl, rfl⟩

def expected : Except RepositoryError Answer → Except RepositoryError (Option Answer)
  | .ok a => .ok (some a)
  | .error (.notFound _) => .ok none
  | .error e => .error e

theorem expected_eq_error {r : Except RepositoryError Answer} {e : RepositoryError}
    (same : expected r = .error e) : r = .error e := by
  cases r with
  | ok a => cases same
  | error own =>
    cases own with
    | notFound reference => cases same
    | _ => exact congrArg Except.error (Except.error.inj same)

theorem isTransient_of_expected {r : Except RepositoryError Answer} {a : Option Answer}
    (same : expected r = .ok a) : isTransient r = false := by
  cases r with
  | ok b => rfl
  | error own =>
    cases own with
    | notFound reference => rfl
    | _ => cases same

theorem traced_request? (settings : RegistrySettings) (i : Inquiry)
    (network : Network (StateM σ)) :
    Traced (Asks settings i expected)
      (request? network settings i.method i.url i.accept i.what)
      (request? network.recorded settings i.method i.url i.accept i.what) := by
  unfold request?
  refine (traced_request settings i network).lift.bind
    (S := fun own log r => log = [] ∧ r = expected own) ?_ ?_ ?_
  · intro own
    cases own with
    | ok a => exact Traced.settled ⟨rfl, rfl⟩
    | error e => cases e <;> exact Traced.settled ⟨rfl, rfl⟩
  · rintro log e ⟨own, same, -⟩
    cases same
  · rintro own log rest r ⟨_, same, round, own, made, rfl, rfl⟩ ⟨rfl, rfl⟩
    cases same
    rw [List.append_nil]
    exact ⟨round, own, made, rfl, rfl⟩

/-! ### Operations -/

namespace RemoteRepository

variable (r : RemoteRepository) (network : Network (StateM σ))

def manifestInquiry (method : Method) (reference : String) : Inquiry :=
  ⟨method, r.manifestUrl reference, manifestTypes, r.referenceText reference⟩

def blobInquiry (digest : String) : Inquiry :=
  ⟨.get, r.blobUrl digest, "*/*", r.referenceText digest⟩

/-- What is asked for where an artifact's signatures are looked for. -/
def referrersInquiries (digest : String) : List Inquiry :=
  match r.referrersUrl digest with
  | .ok url =>
    [⟨.get, url, MediaType.imageIndex, r.referenceText digest⟩,
      ⟨.get, r.manifestUrl (referrersTag digest), MediaType.imageIndex,
        r.referenceText (referrersTag digest)⟩]
  | .error _ => []

def plan : Query → List Inquiry
  | .resolve name => [r.manifestInquiry .head name, r.manifestInquiry .get name]
  | .fetchManifest d => [r.manifestInquiry .get d.digest]
  | .fetchBlob d => [r.blobInquiry d.digest]
  | .listSignatures subject => r.referrersInquiries subject.digest

theorem works_body (what : String) (a : Answer) :
    Traced (Works settings inquiries (a.body = none))
      (body what a : ExceptT RepositoryError (StateM σ) ByteArray) (body what a) := by
  unfold body
  cases there : a.body with
  | some content => exact Traced.settled (Works.settled rfl)
  | none => exact Traced.settled ⟨[], .stop, rfl, fun e _ _ => .inr ⟨rfl, rfl⟩⟩

theorem works_indexIn (what : String) (a : Answer) :
    Traced (Works settings inquiries unread)
      (indexIn what a : ExceptT RepositoryError (StateM σ) Index) (indexIn what a) := by
  unfold indexIn
  cases a.body.bind fun content => (Json.decode? content : Option Index) with
  | some index => exact Traced.settled (Works.settled rfl)
  | none => exact Traced.settled (Works.settled rfl)

theorem works_content {i : Inquiry} (get : i.method = .get) (what : String) :
    Traced (Works r.settings [i] unread)
      (request network r.settings i.method i.url i.accept i.what >>= body what)
      (request network.recorded r.settings i.method i.url i.accept i.what >>= body what) := by
  refine Asks.bind (C := fun a => a.body = none) (traced_request r.settings i network)
    (fun own e same => same) ?_ ?_ (works_body what)
  · rintro own a rfl
    rfl
  · rintro own a rfl cut
    exact ⟨get, a, rfl, cut⟩

theorem works_manifestContent (reference : String) :
    Traced (Works r.settings [r.manifestInquiry .get reference] unread)
      (r.manifestContent network reference) (r.manifestContent network.recorded reference) :=
  r.works_content network (i := r.manifestInquiry .get reference) rfl "manifest"

theorem works_describe (reference : String) (a : Answer) :
    Traced (Works r.settings [r.manifestInquiry .get reference] unread)
      (r.describe network reference a) (r.describe network.recorded reference a) := by
  have measured : Traced (Works r.settings [r.manifestInquiry .get reference] unread)
      (do let content ← r.manifestContent network reference
          return (Digest.ofContent .sha256 content, UInt64.ofNat content.size))
      (do let content ← r.manifestContent network.recorded reference
          return (Digest.ofContent .sha256 content, UInt64.ofNat content.size)) :=
    Works.bind_settled (r.works_manifestContent network reference) fun content =>
      Traced.settled ⟨rfl, rfl⟩
  unfold describe
  simp only
  cases a.headerValue? "docker-content-digest" with
  | none => exact measured
  | some digest =>
    cases (a.headerValue? "content-length").bind (Text.unsigned? UInt64.size) with
    | none => exact measured
    | some size => exact Traced.settled (Works.settled rfl)

theorem works_resolve (reference : String) :
    Traced (Works r.settings (r.plan (.resolve reference)) unread)
      (r.resolve network reference) (r.resolve network.recorded reference) := by
  -- There is no content in the answer to the first inquiry, and none of it is read.
  refine Asks.bind (C := fun _ => False)
    (traced_request r.settings (r.manifestInquiry .head reference) network)
    (fun own e same => same) ?_ (fun _ _ _ => False.elim) (fun a => ?_)
  · rintro own a rfl
    rfl
  refine Works.bind_settled (r.works_describe network reference a) fun found => ?_
  obtain ⟨digest, size⟩ := found
  by_cases other : (isDigest reference && decide (digest ≠ reference)) = true
  · simp only [other, if_true]
    exact Traced.settled ⟨rfl, rfl⟩
  · simp only [other]
    exact Traced.settled ⟨rfl, rfl⟩

theorem isTransient_verifyContent (digest : String) (content : ByteArray) :
    isTransient (Digest.verifyContent digest content) = false := by
  cases parsed : Digest.parse digest with
  | error fault =>
    rw [Digest.verifyContent_of_fault parsed]
    rfl
  | ok parts =>
    rw [Digest.verifyContent_of_parse parsed]
    by_cases same : Digest.ofContent parts.1 content = digest
    · rw [if_pos same]
      rfl
    · rw [if_neg same]
      rfl

theorem settled_checked (digest : String) (content : ByteArray)
    {f : Unit → ExceptT RepositoryError (StateM σ) α}
    {f' : Unit → ExceptT RepositoryError (StateM (List Exchange × σ)) α}
    (silent : Traced (fun log result => log = [] ∧ isTransient result = false) (f ()) (f' ())) :
    Traced (fun log result => log = [] ∧ isTransient result = false)
      (checked digest content >>= f) (checked digest content >>= f') := by
  have final := isTransient_verifyContent digest content
  unfold checked
  cases verified : Digest.verifyContent digest content with
  | ok u => exact silent
  | error e =>
    rw [verified] at final
    exact Traced.settled ⟨rfl, final⟩

theorem works_fetchManifest (d : Descriptor) :
    Traced (Works r.settings (r.plan (.fetchManifest d)) unread)
      (r.fetchManifest network d) (r.fetchManifest network.recorded d) := by
  refine Works.bind_settled (r.works_manifestContent network d.digest) fun content => ?_
  apply settled_checked
  cases (Json.decode? content : Option Manifest) with
  | some manifest => exact Traced.settled ⟨rfl, rfl⟩
  | none => exact Traced.settled ⟨rfl, rfl⟩

theorem works_fetchBlob (d : Descriptor) :
    Traced (Works r.settings (r.plan (.fetchBlob d)) unread)
      (r.fetchBlob network d) (r.fetchBlob network.recorded d) := by
  have works : Traced (Works r.settings (r.plan (.fetchBlob d)) unread)
      ((request network r.settings .get (r.blobUrl d.digest) "*/*" (r.referenceText d.digest) >>=
        body "blob") >>= fun content => checked d.digest content >>= fun _ => pure content)
      ((request network.recorded r.settings .get (r.blobUrl d.digest) "*/*"
        (r.referenceText d.digest) >>= body "blob") >>= fun content =>
          checked d.digest content >>= fun _ => pure content) :=
    Works.bind_settled (r.works_content network (i := r.blobInquiry d.digest) rfl "blob")
      fun content => settled_checked d.digest content (Traced.settled ⟨rfl, rfl⟩)
  rw [bind_assoc, bind_assoc] at works
  exact works

theorem isTransient_referrersUrl (digest : String) :
    isTransient (r.referrersUrl digest) = false := by
  unfold referrersUrl
  cases Url.parse (r.base ++ "/referrers/" ++ digest) with
  | ok url => rfl
  | error fault => rfl

theorem works_expected (i : Inquiry)
    {f : Option Answer → ExceptT RepositoryError (StateM σ) Index}
    {f' : Option Answer → ExceptT RepositoryError (StateM (List Exchange × σ)) Index}
    (works : ∀ a, Traced (Works r.settings inquiries False) (f a) (f' a)) :
    Traced (Works r.settings (i :: inquiries) unread)
      (request? network r.settings i.method i.url i.accept i.what >>= f)
      (request? network.recorded r.settings i.method i.url i.accept i.what >>= f') :=
  Asks.bind (traced_request? r.settings i network) (fun _ _ => expected_eq_error)
    (fun _ _ => isTransient_of_expected) (fun _ _ _ => False.elim) works

theorem works_taggedReferrers (digest : String) :
    Traced (Works r.settings [⟨.get, r.manifestUrl (referrersTag digest), MediaType.imageIndex,
        r.referenceText (referrersTag digest)⟩] unread)
      (r.taggedReferrers network digest) (r.taggedReferrers network.recorded digest) := by
  refine r.works_expected network ⟨.get, _, _, _⟩ fun found => ?_
  cases found with
  | none => exact Traced.settled (Works.settled rfl)
  | some a => exact works_indexIn "referrers index" a

theorem works_referrers (digest : String) :
    Traced (Works r.settings (r.referrersInquiries digest) unread)
      (r.referrers network digest) (r.referrers network.recorded digest) := by
  have final := r.isTransient_referrersUrl digest
  unfold referrersInquiries referrers
  cases known : r.referrersUrl digest with
  | error e =>
    rw [known] at final
    exact Traced.settled (Works.settled final)
  | ok url =>
    simp only
    refine r.works_expected network ⟨.get, url, MediaType.imageIndex, r.referenceText digest⟩
      fun found => ?_
    cases found with
    | some a => exact works_indexIn "referrers response" a
    | none => exact r.works_taggedReferrers network digest

theorem works_listSignatures (subject : Descriptor) :
    Traced (Works r.settings (r.plan (.listSignatures subject)) unread)
      (r.listSignatures network subject) (r.listSignatures network.recorded subject) :=
  Works.bind_settled (r.works_referrers network subject.digest) fun _ => Traced.settled ⟨rfl, rfl⟩

theorem works_reply (query : Query) :
    Traced (Works r.settings (r.plan query) False) ((r.repository network).reply query)
      ((r.repository network.recorded).reply query) := by
  have kept {α : Type} (f : α → Reply) (log : List Exchange) (result : Except RepositoryError α) :
      Works r.settings (r.plan query) False log result →
        Works r.settings (r.plan query) False log (result.map f) := by
    rintro ⟨rounds, follows, same, blames⟩
    refine ⟨rounds, follows, same, fun e own => blames e ?_⟩
    cases result with
    | ok a => cases own
    | error e' =>
      cases own
      rfl
  cases query with
  | resolve name => exact (r.works_resolve network name).map _ (kept _)
  | fetchManifest d => exact (r.works_fetchManifest network d).map _ (kept _)
  | fetchBlob d => exact (r.works_fetchBlob network d).map _ (kept _)
  | listSignatures subject => exact (r.works_listSignatures network subject).map _ (kept _)

/-- Each operation goes through the inquiries of its plan, or through the first of them, with one
round of attempts for each. A failure that may pass is followed by another attempt while there are
some left. After a failure that will not pass nothing is sent again, provided that its status is
one of those that are known as such. An operation reports a failure that may pass only when the
attempts of its last round are used up, or when the content of the answer to it was cut off. -/
theorem retries_of_reply (query : Query) :
    Traced (fun log result => ∃ rounds : List Round,
        log = rounds.flatMap Round.exchanges ∧
        rounds.map Round.inquiry <+: r.plan query ∧
        (∀ round ∈ rounds, round.Made r.settings ∧
          (∀ n a, round.attempts[n]? = some a → a.FailsPassing →
            n < r.settings.maxRetries.toNat → n + 1 < round.attempts.length) ∧
          ∀ n a, round.attempts[n]? = some a → a.FailsForGood →
            (∀ b, a.answer? = some (some b) → b.status ∈ [401, 403, 404]) →
            ∀ later ∈ round.attempts.drop (n + 1), later.exchanges = []) ∧
        ∀ e, result = .error e → e.transient = true → ∃ round ∈ rounds.getLast?,
          round.result = .error e ∧
              round.attempts.length = r.settings.maxRetries.toNat + 1 ∨
            round.IsCutOff)
      ((r.repository network).reply query) ((r.repository network.recorded).reply query) := by
  apply (r.works_reply network query).mono
  rintro log result ⟨rounds, follows, same, blames⟩
  refine ⟨rounds, same, follows.inquiries_prefix, ?_, ?_⟩
  · intro round mem
    have made := follows.made round mem
    exact ⟨made, fun n a => made.repeated, fun n a => made.abandoned⟩
  · intro e failed passes
    rcases blames e failed passes with ⟨round, last, blamed⟩ | ⟨-, unread⟩
    · refine ⟨round, last, ?_⟩
      rcases blamed with own | cutOff
      · have made := follows.made round (List.mem_of_getLast? last)
        refine .inl ⟨own, made.length_eq ?_⟩
        rw [own]
        exact passes
      · exact .inr cutOff
    · exact unread.elim

/-- A repository of which everything may be asked for twice. -/
def patientRepository : RemoteRepository :=
  ⟨"http://reg.example/v2/team/app", "reg.example/team/app",
    { RegistrySettings.initial with plain := true, maxRetries := 1 }⟩

def emptyDocument : Descriptor :=
  ⟨"application/json", "sha256:44136fa355b3678a1146ad16f7e8649e94fb4fc21fe77e8310c060f61caaff8a", 2,
    none, none⟩

/-- A network that gives one answer after the other, whatever is asked. -/
def answeringNetwork (answers : Nat → Answer) : Network (StateM Nat) where
  send _ := fun n => (some (answers n), n + 1)
  pause _ := pure ()

/-- What is made of such answers where a document is fetched, and the exchanges. -/
def emptyDocumentRun (answers : Nat → Answer) :
    Except RepositoryError Reply × List Exchange × Nat :=
  answer ((patientRepository.repository (answeringNetwork answers).recorded).reply
    (.fetchBlob emptyDocument)) ([], 0)

def unavailable : Nat → Answer := fun _ => ⟨503, [], none⟩

set_option maxRecDepth 100000 in
theorem emptyDocumentRun_unavailable : isTransient (emptyDocumentRun unavailable).1 = true := by
  decide +kernel

/-- A registry that never recovers is asked twice. -/
theorem retries_of_reply_unavailable :
    ∃ (e : RepositoryError) (rounds : List Round) (n : Nat),
      emptyDocumentRun unavailable = (.error e, rounds.flatMap Round.exchanges, n) ∧
      ∃ round ∈ rounds.getLast?,
        round.result = .error e ∧ round.attempts.length = 2 ∨ round.IsCutOff := by
  obtain ⟨log, holds, recorded⟩ := patientRepository.retries_of_reply
    (answeringNetwork unavailable) (.fetchBlob emptyDocument) 0
  obtain ⟨rounds, rfl, -, -, blames⟩ := holds
  have run : emptyDocumentRun unavailable = _ := recorded []
  have failed := emptyDocumentRun_unavailable
  rw [run] at failed
  rcases result : (answer ((patientRepository.repository (answeringNetwork unavailable)).reply
    (.fetchBlob emptyDocument)) 0).1 with e | reply
  · rw [result] at failed run blames
    rw [List.nil_append] at run
    exact ⟨e, rounds, _, run, blames e rfl failed⟩
  · rw [result] at failed
    cases failed

/-- Content that is cut off once. -/
def truncated : Nat → Answer
  | 0 => ⟨200, [("content-length", "9")], none⟩
  | _ + 1 => ⟨200, [], some "{}".toUTF8⟩

def badRequest : Nat → Answer := fun _ => ⟨400, [], some "".toUTF8⟩

set_option maxRecDepth 100000 in
/-- Content that was cut off is reported as a failure that may pass, though a second attempt is
left. A request that the registry calls bad is sent again as it was. -/
theorem cut_off_abandoned_bad_repeated :
    patientRepository.settings.maxRetries.toNat = 1 ∧
    (isTransient (emptyDocumentRun truncated).1 = true ∧
      (emptyDocumentRun truncated).2.1.map
        (fun e => e.answer.map fun b => (b.status, b.body.isSome)) = [some (200, false)]) ∧
    (emptyDocumentRun badRequest).2.1.map (fun e => (some e.request, e.answer.map Answer.status)) =
      List.replicate 2 ((patientRepository.blobInquiry emptyDocument.digest).request?
        patientRepository.settings, some 400) := by
  decide +kernel

end RemoteRepository

end ArtifactTrust
