import ArtifactTrust.Proofs.Trace

/-!
# Questions to a repository

The four operations as questions that are put one after the other, each in the world that the one
before has left behind.
-/

namespace ArtifactTrust

set_option autoImplicit false

inductive Query where
  | resolve (name : String)
  | fetchManifest (d : Descriptor)
  | fetchBlob (d : Descriptor)
  | listSignatures (subject : Descriptor)

inductive Reply where
  | descriptor (d : Descriptor)
  | manifest (m : Manifest)
  | blob (content : ByteArray)
  | signatures (ds : List Descriptor)

namespace Repository

variable {m : Type → Type} [Monad m]

def reply (r : Repository m) : Query → ExceptT RepositoryError m Reply
  | .resolve name => Reply.descriptor <$> r.resolve name
  | .fetchManifest d => Reply.manifest <$> r.fetchManifest d
  | .fetchBlob d => Reply.blob <$> r.fetchBlob d
  | .listSignatures subject => Reply.signatures <$> r.listSignatures subject

def replies (r : Repository m) : List Query → m (List (Except RepositoryError Reply))
  | [] => return []
  | query :: rest => do
    let first ← (r.reply query).run
    let others ← r.replies rest
    return first :: others

/-- A question with what was written down for it and its answer. -/
structure Turn (Event : Type) where
  query : Query
  log : List Event
  result : Except RepositoryError Reply

theorem replies_cons {σ : Type} (r : Repository (StateM σ)) (query : Query) (rest : List Query)
    (s : σ) : (r.replies (query :: rest)).run s =
      ((answer (r.reply query) s).1 :: ((r.replies rest).run (answer (r.reply query) s).2).1,
        ((r.replies rest).run (answer (r.reply query) s).2).2) := rfl

variable {Event σ : Type} {P : Query → List Event → Except RepositoryError Reply → Prop}
  {r : Repository (StateM σ)} {r' : Repository (StateM (List Event × σ))}

/-- One turn for each question, and what each turn says of itself. -/
theorem exists_turns (each : ∀ query, Traced (P query) (r.reply query) (r'.reply query))
    (queries : List Query) (s : σ) :
    ∃ turns : List (Turn Event), turns.map Turn.query = queries ∧
      (∀ turn ∈ turns, P turn.query turn.log turn.result) ∧
      ((r.replies queries).run s).1 = turns.map Turn.result ∧
      ∀ before, (r'.replies queries).run (before, s) =
        (((r.replies queries).run s).1,
          (before ++ turns.flatMap Turn.log, ((r.replies queries).run s).2)) := by
  induction queries generalizing s with
  | nil =>
    refine ⟨[], rfl, fun turn mem => absurd mem List.not_mem_nil, rfl, fun before => ?_⟩
    rw [List.flatMap_nil, List.append_nil]
    rfl
  | cons query rest ih =>
    obtain ⟨log, holds, same⟩ := each query s
    obtain ⟨turns, asked, all, results, follows⟩ := ih (answer (r.reply query) s).2
    refine ⟨⟨query, log, (answer (r.reply query) s).1⟩ :: turns, ?_, ?_, ?_, fun before => ?_⟩
    · rw [List.map_cons, asked]
    · intro turn mem
      rcases List.mem_cons.mp mem with rfl | mem
      · exact holds
      · exact all turn mem
    · rw [replies_cons, results, List.map_cons]
    · rw [replies_cons, replies_cons, same, follows, List.flatMap_cons, List.append_assoc]

end Repository

end ArtifactTrust
