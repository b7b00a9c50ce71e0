import ArtifactTrust.Proofs.Registry.Endpoints
import ArtifactTrust.Proofs.Registry.Retries
import ArtifactTrust.Proofs.Url.Authority

/-!
# The signatures that a registry lists

Only where the registry says that nothing is there does the client ask in another place, and only
where both places say so has the artifact no signatures.
-/

namespace ArtifactTrust

set_option autoImplicit false

open Registry

variable {σ : Type} {settings : RegistrySettings} {i : Inquiry} {log : List Exchange}
  {r : Except RepositoryError Answer}

/-! ### The end of a round -/

theorem expected_eq_ok_some_iff {a : Answer} :
    expected r = .ok (some a) ↔ r = .ok a := by
  cases r with
  | ok b => simp [expected]
  | error e => cases e <;> simp [expected]

theorem expected_judge_eq_none_iff {what : String} {a : Answer} :
    expected (judge what a) = .ok none ↔ a.status = 404 := by
  unfold judge
  split_ifs with success refused missing limited
  · simp only [expected, Except.ok.injEq, reduceCtorEq, false_iff]
    omega
  · simp only [expected, reduceCtorEq, false_iff]
    omega
  · exact iff_of_true rfl missing
  · exact iff_of_false nofun missing
  · exact iff_of_false nofun missing

theorem Sends.settles {limit : Nat} {request : Request} (sends : Sends limit request log r) :
    (∃ a, log.getLast?.bind Exchange.answer = some a ∧ r = .ok a) ∨
      ∃ reason, r = .error (.network reason) := by
  induction sends with
  | unanswered => exact .inr ⟨_, rfl⟩
  | answered ends => exact .inl ⟨_, rfl, rfl⟩
  | astray redirects => exact .inr ⟨_, rfl⟩
  | abroad redirects => exact .inr ⟨_, rfl⟩
  | next redirects more ih =>
    rw [List.getLast?_cons_of_ne_nil more.ne_nil]
    exact ih

theorem Inquiry.Attempted.settles (attempted : i.Attempted settings log r) :
    (∃ a, log.getLast?.bind Exchange.answer = some a ∧ r = judge i.what a) ∨
      ∃ reason, r = .error (.network reason) := by
  cases attempted with
  | unbuilt reason unbuildable => exact .inr ⟨reason, rfl⟩
  | sent built sends =>
    rcases sends.settles with ⟨a, last, rfl⟩ | ⟨reason, rfl⟩
    · exact .inl ⟨a, last, rfl⟩
    · exact .inr ⟨reason, rfl⟩

theorem Tries.exists_last {limit : Nat} {attempts : List Attempt}
    (tries : Tries (i.Attempted settings) limit attempts r) :
    ∃ a : Attempt, i.Attempted settings a.exchanges a.result ∧ a.result = r ∧
      (attempts.flatMap Attempt.exchanges).getLast? = a.exchanges.getLast? := by
  induction tries with
  | @last _ a made ends =>
    refine ⟨a, made, rfl, ?_⟩
    rw [List.flatMap_singleton]
  | @again _ first rest _ made failed more ih =>
    obtain ⟨a, attempted, result, last⟩ := ih
    refine ⟨a, attempted, result, ?_⟩
    rw [List.flatMap_cons, List.getLast?_append, last]
    -- An attempt without exchanges is one of many: there is no request to send.
    cases ends : a.exchanges.getLast? with
    | some e => rfl
    | none =>
      have unbuildable := attempted.exchanges_eq_nil_iff.mp (List.getLast?_eq_none_iff.mp ends)
      rw [made.exchanges_eq_nil_iff.mpr unbuildable]
      rfl

def Answer.index? (a : Answer) : Option Index :=
  a.body.bind fun content => (Json.decode? content : Option Index)

namespace Round

variable {round : Round} {index : Index}

/-- The answer that a round ends with, if one came. -/
def final? (round : Round) : Option Answer := round.exchanges.getLast?.bind Exchange.answer

/-- The round ends with an answer that holds an index. -/
def Serves (round : Round) (index : Index) : Prop :=
  ∃ a, round.final? = some a ∧ 200 ≤ a.status ∧ a.status < 300 ∧ a.index? = some index

/-- The round ends with the answer that nothing is there. -/
def IsMissing (round : Round) : Prop := ∃ a, round.final? = some a ∧ a.status = 404

theorem Serves.unique (serves : round.Serves index) {other : Index} (also : round.Serves other) :
    index = other := by
  obtain ⟨a, final, -, -, holds⟩ := serves
  obtain ⟨b, final', -, -, holds'⟩ := also
  cases final.symm.trans final'
  exact Option.some.inj (holds.symm.trans holds')

theorem Serves.not_isMissing (serves : round.Serves index) : ¬ round.IsMissing := by
  rintro ⟨b, final', status⟩
  obtain ⟨a, final, -, success, -⟩ := serves
  cases final.symm.trans final'
  omega

/-- What is made of the end of a round: an index, that nothing is there, or else a failure. -/
inductive Reports (round : Round) : Except RepositoryError (Option Index) → Prop
  | served {index : Index} (serves : round.Serves index) : Reports round (.ok (some index))
  | missing (missing : round.IsMissing) : Reports round (.ok none)
  | failed (e : RepositoryError) (unserved : ∀ index, ¬ round.Serves index)
      (there : ¬ round.IsMissing) : Reports round (.error e)

theorem Made.settles (made : round.Made settings) :
    (∃ a, round.final? = some a ∧ round.result = judge round.inquiry.what a) ∨
      ∃ reason, round.result = .error (.network reason) := by
  obtain ⟨a, attempted, result, last⟩ := made.exists_last
  have settled := attempted.settles
  rw [result, ← last] at settled
  exact settled

theorem Made.result_of_final (made : round.Made settings) {a : Answer}
    (final : round.final? = some a) (decided : a.status < 300 ∨ 400 ≤ a.status) :
    round.result = judge round.inquiry.what a := by
  obtain ⟨own, attempted, result, last⟩ := made.exists_last
  have ends : own.answer? = some (some a) := by
    obtain ⟨e, there, answered⟩ := Option.bind_eq_some_iff.mp final
    exact Option.map_eq_some_iff.mpr ⟨e, last.symm.trans there, answered⟩
  rw [← result]
  exact attempted.result_of_answered ends decided

/-- A round comes to an answer only by ending with one that is a success. -/
theorem Made.result_eq_ok_iff (made : round.Made settings) {a : Answer} :
    round.result = .ok a ↔ round.final? = some a ∧ 200 ≤ a.status ∧ a.status < 300 := by
  constructor
  · intro result
    rcases made.settles with ⟨b, final, judged⟩ | ⟨reason, failed⟩
    · obtain ⟨rfl, success⟩ := judge_eq_ok_iff.mp (judged.symm.trans result)
      exact ⟨final, success⟩
    · rw [failed] at result
      cases result
  · rintro ⟨final, success⟩
    rw [made.result_of_final final (.inl success.2)]
    exact judge_eq_ok_iff.mpr ⟨rfl, success⟩

theorem Made.isMissing_iff (made : round.Made settings) :
    round.IsMissing ↔ expected round.result = .ok none := by
  constructor
  · rintro ⟨a, final, status⟩
    rw [made.result_of_final final (by omega)]
    exact expected_judge_eq_none_iff.mpr status
  · intro heard
    rcases made.settles with ⟨a, final, judged⟩ | ⟨reason, failed⟩
    · rw [judged] at heard
      exact ⟨a, final, expected_judge_eq_none_iff.mp heard⟩
    · rw [failed] at heard
      cases heard

/-- Where an answer comes that is a success, it serves what can be read of it. -/
theorem Made.reports_answer (made : round.Made settings) {a : Answer}
    (result : round.result = .ok a) {held : Except RepositoryError Index}
    (read : ∀ index, held = .ok index ↔ a.index? = some index) :
    round.Reports (held.map some) ∧ ¬ round.IsMissing := by
  obtain ⟨final, lower, upper⟩ := made.result_eq_ok_iff.mp result
  have there : ¬ round.IsMissing := by
    rintro ⟨b, final', status⟩
    cases final.symm.trans final'
    omega
  refine ⟨?_, there⟩
  cases held with
  | ok index => exact .served ⟨a, final, lower, upper, (read index).mp rfl⟩
  | error e =>
    refine .failed e ?_ there
    rintro index ⟨b, final', -, -, holds⟩
    cases final.symm.trans final'
    cases (read index).mpr holds

theorem Made.reports_failure (made : round.Made settings) {e : RepositoryError}
    (heard : expected round.result = .error e) : round.Reports (.error e) ∧ ¬ round.IsMissing := by
  have there : ¬ round.IsMissing := by
    intro missing
    rw [made.isMissing_iff.mp missing] at heard
    cases heard
  refine ⟨.failed e ?_ there, there⟩
  rintro index ⟨a, final, lower, upper, -⟩
  rw [made.result_eq_ok_iff.mpr ⟨final, lower, upper⟩] at heard
  cases heard

theorem Reports.eq_of_serves {said : Except RepositoryError (Option Index)}
    (reports : round.Reports said) (serves : round.Serves index) : said = .ok (some index) := by
  cases reports with
  | served also => rw [serves.unique also]
  | missing missing => exact absurd missing serves.not_isMissing
  | failed e unserved there => exact absurd serves (unserved index)

end Round

/-! ### One place after the other -/

theorem traced_indexIn (what : String) (a : Answer) :
    Traced (fun (log : List Exchange) r =>
        log = [] ∧ ∀ index, r = .ok index ↔ a.index? = some index)
      (RemoteRepository.indexIn what a : ExceptT RepositoryError (StateM σ) Index)
      (RemoteRepository.indexIn what a) := by
  unfold RemoteRepository.indexIn
  cases held : a.body.bind fun content => (Json.decode? content : Option Index) with
  | some index =>
    refine Traced.settled ⟨rfl, fun other => ?_⟩
    unfold Answer.index?
    rw [held, Except.ok.injEq, Option.some.injEq]
  | none =>
    refine Traced.settled ⟨rfl, fun other => ?_⟩
    unfold Answer.index?
    rw [held]
    exact iff_of_false nofun nofun

/-- An index is looked for in one place. What else is done is done only if nothing is there. -/
theorem traced_lookup (settings : RegistrySettings) (i : Inquiry) (network : Network (StateM σ))
    {what : String} {f : Option Answer → ExceptT RepositoryError (StateM σ) Index}
    {f' : Option Answer → ExceptT RepositoryError (StateM (List Exchange × σ)) Index}
    {Q : List Exchange → Except RepositoryError Index → Prop}
    (reads : ∀ a, f (some a) = RemoteRepository.indexIn what a)
    (reads' : ∀ a, f' (some a) = RemoteRepository.indexIn what a)
    (otherwise : Traced Q (f none) (f' none)) :
    Traced (fun log result => ∃ round : Round, round.inquiry = i ∧ round.Made settings ∧
        (¬ round.IsMissing ∧ round.Reports (result.map some) ∧ log = round.exchanges ∨
          round.IsMissing ∧ ∃ rest, Q rest result ∧ log = round.exchanges ++ rest))
      (request? network settings i.method i.url i.accept i.what >>= f)
      (request? network.recorded settings i.method i.url i.accept i.what >>= f') := by
  refine (traced_request? settings i network).bind (S := fun found log r =>
    found.elim (Q log r) fun a =>
      log = [] ∧ ∀ index, r = .ok index ↔ a.index? = some index) ?_ ?_ ?_
  · intro found
    cases found with
    | some a =>
      rw [reads, reads']
      exact traced_indexIn what a
    | none => exact otherwise
  · rintro log e ⟨round, asked, made, rfl, heard⟩
    obtain ⟨reports, there⟩ := made.reports_failure heard.symm
    exact ⟨round, asked, made, .inl ⟨there, reports, rfl⟩⟩
  · rintro found log rest r ⟨round, asked, made, rfl, heard⟩ more
    refine ⟨round, asked, made, ?_⟩
    cases found with
    | some a =>
      obtain ⟨rfl, read⟩ := more
      obtain ⟨reports, there⟩ := made.reports_answer (expected_eq_ok_some_iff.mp heard.symm) read
      exact .inl ⟨there, reports, List.append_nil _⟩
    | none => exact .inr ⟨made.isMissing_iff.mpr heard.symm, rest, more, rfl⟩

/-- The rounds in which an index is looked for in one place and, if nothing is there, in another
one, and what the last of them says. -/
inductive Consults (first second : Inquiry) :
    List Round → Except RepositoryError (Option Index) → Prop
  | once {round : Round} {said : Except RepositoryError (Option Index)}
      (asked : round.inquiry = first) (there : ¬ round.IsMissing) (reports : round.Reports said) :
      Consults first second [round] said
  | twice {before round : Round} {said : Except RepositoryError (Option Index)}
      (asked : before.inquiry = first) (missing : before.IsMissing)
      (askedAgain : round.inquiry = second) (reports : round.Reports said) :
      Consults first second [before, round] said

theorem Consults.eq_of_serves {first second : Inquiry} {rounds : List Round}
    {said : Except RepositoryError (Option Index)} (consults : Consults first second rounds said)
    {last : Round} (ends : last ∈ rounds.getLast?) {index : Index} (serves : last.Serves index) :
    said = .ok (some index) := by
  cases consults with
  | once asked there reports =>
    cases ends
    exact reports.eq_of_serves serves
  | twice asked missing askedAgain reports =>
    cases ends
    exact reports.eq_of_serves serves

namespace Index

def signatures (index : Index) : List Descriptor :=
  index.manifests.filter (·.artifactType = some MediaType.signature)

end Index

namespace RemoteRepository

variable (r : RemoteRepository) (network : Network (StateM σ))

def referrersInquiry (digest url : String) : Inquiry :=
  ⟨.get, url, MediaType.imageIndex, r.referenceText digest⟩

theorem traced_taggedReferrers (digest : String) :
    Traced (fun log result => ∃ round : Round,
        round.inquiry = r.referrersInquiry (referrersTag digest)
          (r.manifestUrl (referrersTag digest)) ∧
        round.Made r.settings ∧ log = round.exchanges ∧
        ∃ said, round.Reports said ∧ result = said.map (·.getD .empty))
      (r.taggedReferrers network digest) (r.taggedReferrers network.recorded digest) := by
  refine (traced_lookup r.settings (r.referrersInquiry (referrersTag digest)
    (r.manifestUrl (referrersTag digest))) network (Q := fun log result =>
      log = [] ∧ result = .ok .empty) (fun a => rfl) (fun a => rfl)
    (Traced.settled ⟨rfl, rfl⟩)).mono ?_
  rintro log result ⟨round, asked, made, ⟨-, reports, rfl⟩ | ⟨missing, rest, ⟨rfl, rfl⟩, rfl⟩⟩
  · refine ⟨round, asked, made, rfl, _, reports, ?_⟩
    cases result <;> rfl
  · exact ⟨round, asked, made, List.append_nil _, _, .missing missing, rfl⟩

theorem traced_referrers {digest url : String} (known : r.referrersUrl digest = .ok url) :
    Traced (fun log result => ∃ rounds : List Round,
        log = rounds.flatMap Round.exchanges ∧ (∀ round ∈ rounds, round.Made r.settings) ∧
        ∃ said, Consults (r.referrersInquiry digest url)
            (r.referrersInquiry (referrersTag digest) (r.manifestUrl (referrersTag digest)))
            rounds said ∧
          result = said.map (·.getD .empty))
      (r.referrers network digest) (r.referrers network.recorded digest) := by
  unfold referrers
  rw [known]
  refine (traced_lookup r.settings (r.referrersInquiry digest url) network (fun a => rfl)
    (fun a => rfl) (r.traced_taggedReferrers network digest)).mono ?_
  rintro log result ⟨first, asked, made, ⟨there, reports, rfl⟩ |
    ⟨missing, _, ⟨second, askedAgain, madeAgain, rfl, said, reports, rfl⟩, rfl⟩⟩
  · refine ⟨[first], ?_, ?_, _, .once asked there reports, ?_⟩
    · rw [List.flatMap_singleton]
    · simpa using made
    · cases result <;> rfl
  · refine ⟨[first, second], ?_, ?_, said, .twice asked missing askedAgain reports, rfl⟩
    · rw [List.flatMap_cons, List.flatMap_singleton]
    · simpa using ⟨made, madeAgain⟩

theorem exists_referrersUrl {registry repository : String} {settings : RegistrySettings}
    (opened : open? registry repository settings = .ok r) (digest : String) :
    ∃ url, Url.parse (r.base ++ "/referrers/" ++ digest) = .ok url ∧
      r.referrersUrl digest =
        .ok (url.withParameter "artifactType" MediaType.signature).text := by
  have text (rest : String) :
      Url.schemeText (!settings.plain) ++ registry ++ "/v2/" ++ rest =
        String.ofList ((Url.schemeText (!settings.plain)).toList ++
          (registry.toList ++ ['/', 'v', '2']) ++ '/' :: rest.toList) := by
    apply String.toList_inj.mp
    simp
  have solid : ∃ c ∈ registry.toList ++ ['/', 'v', '2'], Url.isBreak c = false ∧
      Url.isSlash c = false := ⟨'v', by simp, by decide⟩
  unfold open? at opened
  simp only at opened
  split at opened
  · rename_i u read
    cases opened
    rw [text] at read
    obtain ⟨url, parsed⟩ := Url.exists_parse_of_parse solid read
      (repository ++ "/referrers/" ++ digest).toList
    rw [← text, ← String.append_assoc, ← String.append_assoc] at parsed
    refine ⟨url, parsed, ?_⟩
    unfold referrersUrl
    rw [parsed]
  · cases opened

/-- The signatures of an artifact are those of the index that the registry serves: where it is asked
for the referrers of the artifact or, only if nothing is there, under the tag made from the digest.
Wherever the index comes from, its order is kept. There are no signatures if nothing is in the one
place nor in the other, and whatever else a round of attempts ends with is an error. -/
theorem signatures_of_answers {registry repository : String} {settings : RegistrySettings}
    {subject : Descriptor} (opened : open? registry repository settings = .ok r)
    (wellFormed : Digest.WellFormed subject.digest) :
    ∃ url algorithm encoded,
      Url.parse (r.base ++ "/referrers/" ++ subject.digest) = .ok url ∧
      Digest.parse subject.digest = .ok (algorithm, encoded) ∧
      ∀ network : Network (StateM σ),
        Traced (fun log result => ∃ (rounds : List Round)
              (said : Except RepositoryError (Option Index)),
            log = rounds.flatMap Round.exchanges ∧ (∀ round ∈ rounds, round.Made r.settings) ∧
            Consults
              ⟨.get, (url.withParameter "artifactType" MediaType.signature).text,
                MediaType.imageIndex, r.referenceText subject.digest⟩
              ⟨.get, r.base ++ "/manifests/" ++ (algorithm.name ++ "-" ++ encoded),
                MediaType.imageIndex, r.referenceText (algorithm.name ++ "-" ++ encoded)⟩
              rounds said ∧
            result = said.map (fun index => (index.map Index.signatures).getD []) ∧
            ∀ last ∈ rounds.getLast?, ∀ index, last.Serves index → result = .ok index.signatures)
          ((r.repository network).listSignatures subject)
          ((r.repository network.recorded).listSignatures subject) := by
  obtain ⟨⟨algorithm, encoded⟩, digest⟩ := wellFormed
  obtain ⟨url, parsed, known⟩ := r.exists_referrersUrl opened subject.digest
  refine ⟨url, algorithm, encoded, parsed, digest, fun network => ?_⟩
  refine (r.traced_referrers network known).map Index.signatures ?_
  rintro log result ⟨rounds, rfl, made, said, consults, rfl⟩
  rw [referrersTag_of_parse digest] at consults
  have listed : (said.map (·.getD .empty)).map Index.signatures =
      said.map fun index => (index.map Index.signatures).getD [] := by
    cases said with
    | ok index => cases index <;> rfl
    | error e => rfl
  refine ⟨rounds, said, rfl, made, consults, listed, fun last ends index serves => ?_⟩
  rw [consults.eq_of_serves ends serves]
  rfl

def listedSignature : Descriptor := ⟨"a", "b", 1, some MediaType.signature, none⟩

def listedPicture : Descriptor := ⟨"a", "c", 1, some "d", none⟩

/-- A registry that does not keep track of references has a signature and something else under the
tag. -/
def untracked : Nat → Answer
  | 0 => ⟨404, [], none⟩
  | _ + 1 => ⟨200, [], some (Json.encode (Index.mk 2 none [listedPicture, listedSignature]))⟩

def untrackedRun : Except RepositoryError (List Descriptor) × List Exchange × Nat :=
  answer ((patientRepository.repository (answeringNetwork untracked).recorded).listSignatures
    emptyDocument) ([], 0)

set_option maxRecDepth 100000 in
theorem untrackedRun_eq :
    (untrackedRun.1, untrackedRun.2.1.map fun e => e.answer.map Answer.status) =
      (.ok [listedSignature], [some 404, some 200]) := by
  decide +kernel

theorem signatures_of_answers_untracked :
    untrackedRun.1 = .ok [listedSignature] ∧
    ∃ (rounds : List Round) (said : Except RepositoryError (Option Index)) (first second : Inquiry),
      untrackedRun.2.1 = rounds.flatMap Round.exchanges ∧
      (rounds.flatMap Round.exchanges).map (fun e => e.answer.map Answer.status) =
        [some 404, some 200] ∧
      Consults first second rounds said ∧
      untrackedRun.1 = said.map fun index => (index.map Index.signatures).getD [] := by
  have opened : open? "reg.example" "team/app" patientRepository.settings =
      .ok patientRepository := by decide +kernel
  have wellFormed : Digest.WellFormed emptyDocument.digest := ⟨_, rfl⟩
  obtain ⟨url, algorithm, encoded, -, -, traced⟩ :=
    patientRepository.signatures_of_answers opened wellFormed
  obtain ⟨log, ⟨rounds, said, rfl, -, consults, listed, -⟩, recorded⟩ :=
    traced (answeringNetwork untracked) 0
  have run : untrackedRun = _ := recorded []
  have known := untrackedRun_eq
  -- The run is not to be evaluated again where its parts are compared.
  generalize untrackedRun = outcome at run known ⊢
  obtain ⟨result, exchanges, n⟩ := outcome
  obtain ⟨result_eq, rest⟩ := Prod.mk.inj run
  obtain ⟨exchanges_eq, -⟩ := Prod.mk.inj rest
  obtain ⟨answered, statuses⟩ := Prod.mk.inj known
  rw [List.nil_append] at exchanges_eq
  subst exchanges_eq
  exact ⟨answered, rounds, said, _, _, rfl, statuses, consults, result_eq.trans listed⟩

end RemoteRepository

end ArtifactTrust
