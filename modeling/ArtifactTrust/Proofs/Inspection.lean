import ArtifactTrust.Proofs.Repository.Containment
import Mathlib.Data.List.Forall2

/-!
# Looking at files

`Looks` says of an action over files that nobody changes what it succeeds with and which files it
looks at. Where there is nothing to succeed with, the action fails.
-/

namespace ArtifactTrust

set_option autoImplicit false

variable {σ ε ε' α β γ : Type}

/-! ### Paths that go down -/

def FileAccess.path : FileAccess → String
  | read path _ => path
  | list path _ => path

namespace FilePath

open Text

variable {directory : String} {names : List (List Char)} {name : List Char}

/-- The path of what is found in a directory by going down from name to name. -/
def below (directory : String) (names : List (List Char)) : String :=
  join directory (String.ofList (joined '/' names))

theorem head?_joined {first : List Char} (filled : first ≠ []) (rest : List (List Char)) :
    (joined '/' (first :: rest)).head? = first.head? := by
  cases rest with
  | nil => rfl
  | cons next others => rw [joined, List.head?_append_of_ne_nil _ filled]; simp

theorem getLast?_joined_concat {last : List Char} (filled : last ≠ []) (init : List (List Char)) :
    (joined '/' (init ++ [last])).getLast? = last.getLast? := by
  by_cases single : init = []
  · rw [single]
    rfl
  · rw [joined_append single (List.cons_ne_nil _ _), joined,
      List.getLast?_append_of_ne_nil _ (List.cons_ne_nil _ _), List.getLast?_cons_of_ne_nil filled]

theorem isAbsolute_of_isEntryName (entry : IsEntryName name) :
    isAbsolute (String.ofList name) = false := by
  rw [isAbsolute, String.toList_ofList, beq_eq_false_iff_ne]
  exact fun first => entry.slash (List.mem_of_head? first)

theorem isAbsolute_joined (entries : ∀ n ∈ names, IsEntryName n) :
    isAbsolute (String.ofList (joined '/' names)) = false := by
  cases names with
  | nil => rfl
  | cons first rest =>
    have start := entries first List.mem_cons_self
    rw [isAbsolute, String.toList_ofList, head?_joined start.nonempty, beq_eq_false_iff_ne]
    exact fun slash => start.slash (List.mem_of_head? slash)

theorem below_eq (entries : ∀ n ∈ names, IsEntryName n) :
    below directory names = join directory "" ++ String.ofList (joined '/' names) :=
  join_eq (isAbsolute_joined entries)

theorem exists_getLast?_below (directory : String) (some : names ≠ [])
    (entries : ∀ n ∈ names, IsEntryName n) :
    ∃ c, (below directory names).toList.getLast? = Option.some c ∧ c ≠ '/' := by
  rcases List.eq_nil_or_concat names with none | ⟨init, own, whole⟩
  · exact absurd none some
  rw [List.concat_eq_append] at whole
  have final := entries own (whole ▸ List.mem_append_right _ List.mem_cons_self)
  have ending := getLast?_joined_concat final.nonempty init
  rw [List.getLast?_eq_some_getLast final.nonempty] at ending
  have filled : joined '/' (init ++ [own]) ≠ [] := by
    intro empty
    rw [empty] at ending
    cases ending
  refine ⟨_, ?_, fun slash => final.slash (slash ▸ List.getLast_mem final.nonempty)⟩
  rw [below_eq entries, whole, String.toList_append, String.toList_ofList,
    List.getLast?_append_of_ne_nil _ filled, ending]

theorem join_below (some : names ≠ []) (entries : ∀ n ∈ names, IsEntryName n)
    (entry : IsEntryName name) :
    join (below directory names) (String.ofList name) = below directory (names ++ [name]) := by
  have entries' : ∀ n ∈ names ++ [name], IsEntryName n :=
    List.forall_mem_append.mpr ⟨entries, List.forall_mem_singleton.mpr entry⟩
  obtain ⟨c, last, other⟩ := exists_getLast?_below directory some entries
  rw [join_of_getLast? (isAbsolute_of_isEntryName entry) last other, below_eq entries,
    below_eq entries', joined_append some (List.cons_ne_nil _ _), joined]
  apply String.toList_inj.mp
  simp

end FilePath

/-! ### Actions that look -/

/-- Looking at files leaves the world as it is, and what a directory lists are the names of its
entries. -/
structure Files.Rests (files : Files (StateM σ)) (s : σ) : Prop where
  read : ∀ path, (answer (files.read path) s).2 = s
  list : ∀ path, (answer (files.list path) s).2 = s
  entries : ∀ path names, (answer (files.list path) s).1 = .ok names →
    ∀ name ∈ names, IsEntryName name.toList

/-- An action leaves the world as it is and succeeds with what `P` holds of. Its twin answers alike,
and writes down what is looked at, of which `K` holds. -/
def Looks (K : FileAccess → Prop) (s : σ) (x : ExceptT ε (StateM σ) α)
    (twin : ExceptT ε (StateM (List FileAccess × σ)) α) (P : α → Prop) : Prop :=
  ∃ r log, answer x s = (r, s) ∧ (∀ before, answer twin (before, s) = (r, (before ++ log, s))) ∧
    (∀ access ∈ log, K access) ∧ ∀ a, r = .ok a ↔ P a

theorem answer_adapt (f : ε → ε') (x : ExceptT ε (StateM σ) α) (s : σ) :
    answer (ExceptT.adapt f x) s = ((answer x s).1.mapError f, (answer x s).2) := rfl

theorem exists_forall₂_iff {R : α → β → Prop} {l : List α} :
    (∃ bs, List.Forall₂ R l bs) ↔ ∀ a ∈ l, ∃ b, R a b := by
  induction l with
  | nil => exact ⟨fun _ a mem => absurd mem List.not_mem_nil, fun _ => ⟨[], .nil⟩⟩
  | cons a rest ih =>
    rw [List.forall_mem_cons, ← ih]
    constructor
    · rintro ⟨_, related⟩
      cases related with
      | cons first others => exact ⟨⟨_, first⟩, _, others⟩
    · rintro ⟨⟨b, first⟩, bs, others⟩
      exact ⟨b :: bs, .cons first others⟩

theorem exists_mem_of_forall₂ {R : α → β → Prop} {l : List α} {bs : List β}
    (related : List.Forall₂ R l bs) :
    (∀ a ∈ l, ∃ b ∈ bs, R a b) ∧ ∀ b ∈ bs, ∃ a ∈ l, R a b := by
  induction related with
  | nil =>
    exact ⟨fun a mem => absurd mem List.not_mem_nil, fun b mem => absurd mem List.not_mem_nil⟩
  | @cons a b l bs first others ih =>
    obtain ⟨forth, back⟩ := ih
    rw [List.forall_mem_cons, List.forall_mem_cons]
    refine ⟨⟨⟨b, List.mem_cons_self, first⟩, ?_⟩, ⟨a, List.mem_cons_self, first⟩, ?_⟩
    · intro c mem
      obtain ⟨d, listed, own⟩ := forth c mem
      exact ⟨d, List.mem_cons_of_mem b listed, own⟩
    · intro d mem
      obtain ⟨c, listed, own⟩ := back d mem
      exact ⟨c, List.mem_cons_of_mem a listed, own⟩

namespace Looks

variable {K : FileAccess → Prop} {s t : σ} {x : ExceptT ε (StateM σ) α}
  {x' : ExceptT ε (StateM (List FileAccess × σ)) α} {P Q : α → Prop} {a : α}

theorem ok_iff (h : Looks K s x x' P) : answer x s = (.ok a, t) ↔ P a ∧ t = s := by
  obtain ⟨r, log, answers, -, -, succeeds⟩ := h
  rw [answers, Prod.mk.injEq, succeeds, eq_comm (a := s)]

theorem fails (h : Looks K s x x' P) (nothing : ∀ a, ¬ P a) : ∃ e, answer x s = (.error e, s) := by
  obtain ⟨r, log, answers, -, -, succeeds⟩ := h
  cases r with
  | ok a => exact absurd ((succeeds a).mp rfl) (nothing a)
  | error e => exact ⟨e, answers⟩

theorem recorded (h : Looks K s x x' P) : ∃ log, (∀ access ∈ log, K access) ∧
    ∀ before, answer x' (before, s) = ((answer x s).1, (before ++ log, s)) := by
  obtain ⟨r, log, answers, records, kinds, -⟩ := h
  refine ⟨log, kinds, fun before => ?_⟩
  rw [answers, records]

theorem congr (h : Looks K s x x' P) (same : ∀ a, P a ↔ Q a) : Looks K s x x' Q := by
  obtain ⟨r, log, answers, records, kinds, succeeds⟩ := h
  exact ⟨r, log, answers, records, kinds, fun a => (succeeds a).trans (same a)⟩

theorem settled {r : Except ε α} (succeeds : ∀ a, r = .ok a ↔ P a) :
    Looks K s (ExceptT.mk (pure r)) (ExceptT.mk (pure r)) P := by
  refine ⟨r, [], rfl, fun before => ?_, fun access mem => absurd mem List.not_mem_nil, succeeds⟩
  rw [List.append_nil]
  rfl

theorem pure (a : α) : Looks (ε := ε) K s (pure a) (pure a) (· = a) :=
  settled fun b => by rw [Except.ok.injEq, eq_comm]

theorem throw (e : ε) : Looks K s (throw e : ExceptT ε (StateM σ) α)
    (throw e : ExceptT ε (StateM (List FileAccess × σ)) α) fun _ => False :=
  settled fun b => by simp

theorem noted {event : Except ε α → FileAccess} (rests : (answer x s).2 = s)
    (kind : ∀ r, K (event r)) :
    Looks K s x (noting event x) fun a => (answer x s).1 = .ok a := by
  refine ⟨(answer x s).1, [event (answer x s).1], Prod.ext rfl rests, fun before => ?_, ?_,
    fun a => Iff.rfl⟩
  · change ((answer x s).1, (before ++ [event (answer x s).1], (answer x s).2)) = _
    rw [rests]
  · intro access mem
    rw [List.mem_singleton.mp mem]
    exact kind _

/-- The second action looks at more, and only after the first one has succeeded. -/
theorem bind {R : α → β → Prop} {f : α → ExceptT ε (StateM σ) β}
    {f' : α → ExceptT ε (StateM (List FileAccess × σ)) β} (hx : Looks K s x x' P)
    (hf : ∀ a, P a → Looks K s (f a) (f' a) (R a)) :
    Looks K s (x >>= f) (x' >>= f') fun b => ∃ a, P a ∧ R a b := by
  obtain ⟨r, log, answers, records, kinds, succeeds⟩ := hx
  cases r with
  | error e =>
    refine ⟨.error e, log, answer_bind_of_error answers,
      fun before => answer_bind_of_error (records before), kinds, fun b => ?_⟩
    constructor
    · intro h
      cases h
    · rintro ⟨a, holds, -⟩
      cases (succeeds a).mpr holds
  | ok a =>
    obtain ⟨q, more, answers', records', kinds', succeeds'⟩ := hf a ((succeeds a).mp rfl)
    refine ⟨q, log ++ more, ?_, fun before => ?_, ?_, fun b => ?_⟩
    · rw [answer_bind_of_ok answers, answers']
    · rw [answer_bind_of_ok (records before), records', List.append_assoc]
    · intro access mem
      exact (List.mem_append.mp mem).elim (kinds access) (kinds' access)
    · rw [succeeds']
      constructor
      · intro holds
        exact ⟨a, (succeeds a).mp rfl, holds⟩
      · rintro ⟨own, holds, later⟩
        cases (succeeds own).mpr holds
        exact later

theorem adapt (f : ε → ε') (h : Looks K s x x' P) :
    Looks K s (ExceptT.adapt f x) (ExceptT.adapt f x') P := by
  obtain ⟨r, log, answers, records, kinds, succeeds⟩ := h
  refine ⟨r.mapError f, log, ?_, fun before => ?_, kinds, fun a => ?_⟩
  · rw [answer_adapt, answers]
  · rw [answer_adapt, records]
  · rw [← succeeds]
    cases r <;> simp [Except.mapError]

theorem mapM {R : α → β → Prop} {f : α → ExceptT ε (StateM σ) β}
    {f' : α → ExceptT ε (StateM (List FileAccess × σ)) β} {l : List α}
    (each : ∀ a ∈ l, Looks K s (f a) (f' a) (R a)) :
    Looks K s (l.mapM f) (l.mapM f') fun bs => List.Forall₂ R l bs := by
  induction l with
  | nil =>
    rw [List.mapM_nil, List.mapM_nil]
    exact (pure []).congr fun bs => List.forall₂_nil_left_iff.symm
  | cons a rest ih =>
    rw [List.mapM_cons, List.mapM_cons]
    have others := ih fun b mem => each b (List.mem_cons_of_mem a mem)
    have both := (each a List.mem_cons_self).bind fun b _ => others.bind fun bs _ => pure (b :: bs)
    refine both.congr fun bs => ?_
    rw [List.forall₂_cons_left_iff]
    constructor
    · rintro ⟨b, first, later, related, whole⟩
      exact ⟨b, later, first, related, whole⟩
    · rintro ⟨b, later, first, related, whole⟩
      exact ⟨b, first, later, related, whole⟩

/-- A value is changed step by step, each time with what is looked up for an element of a list. -/
theorem foldlM {R : α → γ → Prop} {g : β → α → γ → β} {f : β → α → ExceptT ε (StateM σ) β}
    {f' : β → α → ExceptT ε (StateM (List FileAccess × σ)) β} {l : List α}
    (each : ∀ b, ∀ a ∈ l, Looks K s (f b a) (f' b a) fun c => ∃ found, R a found ∧ c = g b a found)
    (b : β) :
    Looks K s (l.foldlM f b) (l.foldlM f' b) fun c => ∃ found, List.Forall₂ R l found ∧
      c = (l.zip found).foldl (fun b pair => g b pair.1 pair.2) b := by
  induction l generalizing b with
  | nil =>
    rw [List.foldlM_nil, List.foldlM_nil]
    refine (pure b).congr fun c => ?_
    simp
  | cons a rest ih =>
    rw [List.foldlM_cons, List.foldlM_cons]
    have both := (each b a List.mem_cons_self).bind fun c _ =>
      ih (fun b d mem => each b d (List.mem_cons_of_mem a mem)) c
    refine both.congr fun c => ?_
    simp only [List.forall₂_cons_left_iff]
    constructor
    · rintro ⟨_, ⟨first, own, rfl⟩, found, others, rfl⟩
      exact ⟨first :: found, ⟨first, found, own, others, rfl⟩, rfl⟩
    · rintro ⟨_, ⟨first, found, own, others, rfl⟩, rfl⟩
      exact ⟨_, ⟨first, own, rfl⟩, found, others, rfl⟩

/-! ### Files -/

variable {files : Files (StateM σ)} {path : String}

theorem list (rests : files.Rests s) (kind : ∀ found, K (.list path found)) :
    Looks K s (files.list path) (files.recorded.list path)
      fun names => (answer (files.list path) s).1 = .ok names :=
  noted (rests.list path) kind

theorem readText (rests : files.Rests s) (kind : ∀ found, K (.read path found)) :
    Looks K s (files.readText path) (files.recorded.readText path)
      fun text => (answer (files.readText path) s).1 = .ok text := by
  have read : Looks K s (files.read path) (files.recorded.read path)
      fun content => (answer (files.read path) s).1 = .ok content := noted (rests.read path) kind
  have decoded : Looks K s (files.readText path) (files.recorded.readText path)
      fun text => ∃ content, (answer (files.read path) s).1 = .ok content ∧
        String.fromUTF8? content = some text := by
    refine read.bind fun content _ => ?_
    cases String.fromUTF8? content with
    | none => exact (throw _).congr (by simp)
    | some text => exact (pure text).congr (by simp [eq_comm])
  refine decoded.congr fun text => ?_
  obtain ⟨r, -, answers, -, -, succeeds⟩ := decoded
  rw [answers, succeeds]

end Looks

end ArtifactTrust
