import ArtifactTrust.Proofs.Url.Path
import Mathlib.Data.List.TakeWhile

/-!
# What a URL can be read by

Whether a text can be read as a URL is decided by its scheme and by the server behind it. In what
stands behind the slash that ends the server nothing is refused.
-/

namespace ArtifactTrust.Url

set_option autoImplicit false

open Text

/-- Nothing is refused but a host or a port. -/
theorem exists_ofAuthority {secure : Bool} {cs ds : List Char} {u : Url}
    (same : ds.takeWhile (!endsAuthority ·) = cs.takeWhile (!endsAuthority ·))
    (read : ofAuthority secure cs = .ok u) : ∃ v, ofAuthority secure ds = .ok v := by
  unfold ofAuthority at read ⊢
  simp only at read ⊢
  rw [same]
  obtain ⟨host, normal, read⟩ := bind_eq_ok_iff.mp read
  obtain ⟨port, allowed, -⟩ := bind_eq_ok_iff.mp read
  exact ⟨_, bind_eq_ok_iff.mpr ⟨host, normal, bind_eq_ok_iff.mpr ⟨port, allowed, rfl⟩⟩⟩

theorem takeWhile_authority (server rest : List Char) :
    (server ++ '/' :: rest).takeWhile (!endsAuthority ·) =
      server.takeWhile (!endsAuthority ·) := by
  rw [List.takeWhile_append]
  split
  · rename_i whole
    have ends : ('/' :: rest).takeWhile (!endsAuthority ·) = [] := rfl
    rw [ends, List.append_nil]
    exact ((List.takeWhile_prefix _).eq_of_length whole).symm
  · rfl

theorem dropWhile_isSlash {server : List Char} (solid : ∃ c ∈ server, isSlash c = false)
    (rest : List Char) :
    (server ++ rest).dropWhile isSlash = server.dropWhile isSlash ++ rest := by
  rw [List.dropWhile_append]
  split
  · rename_i none
    obtain ⟨c, mem, other⟩ := solid
    have slashes := List.dropWhile_eq_nil_iff.mp (List.isEmpty_iff.mp none) c mem
    rw [other] at slashes
    cases slashes
  · rfl

/-- Nothing before a character that is not dropped depends on what is behind it. -/
theorem cleaned_append {first last : Char} (starts : isEdge first = false)
    (ends : isEdge last = false) (before rest : List Char) :
    ∃ behind, cleaned (String.ofList (first :: before ++ last :: rest)) =
      (first :: before ++ [last]).filter (!isBreak ·) ++ behind := by
  refine ⟨((rest.reverse.dropWhile isEdge).reverse).filter (!isBreak ·), ?_⟩
  have kept : (last :: (first :: before).reverse).dropWhile isEdge =
      last :: (first :: before).reverse := by
    rw [List.dropWhile_cons_of_neg]
    simp [ends]
  have tail : (rest.reverse ++ last :: (first :: before).reverse).dropWhile isEdge =
      rest.reverse.dropWhile isEdge ++ last :: (first :: before).reverse := by
    rw [List.dropWhile_append, kept]
    split
    · rename_i none
      rw [List.isEmpty_iff.mp none, List.nil_append]
    · rfl
  have head : (first :: (before ++ last :: rest)).dropWhile isEdge =
      first :: before ++ last :: rest := by
    rw [List.dropWhile_cons_of_neg]
    · rfl
    · simp [starts]
  have whole : (first :: before ++ last :: rest).reverse =
      rest.reverse ++ last :: (first :: before).reverse := by simp
  have back : (rest.reverse.dropWhile isEdge ++ last :: (first :: before).reverse).reverse =
      first :: before ++ [last] ++ (rest.reverse.dropWhile isEdge).reverse := by simp
  unfold cleaned
  simp only [String.toList_ofList, List.cons_append, head]
  rw [← List.cons_append, whole, tail, back, List.filter_append]
  rfl

/-- How a URL is read up to the slash that ends its server. -/
theorem exists_parse_eq {server : List Char}
    (solid : ∃ c ∈ server, isBreak c = false ∧ isSlash c = false) (secure : Bool)
    (rest : List Char) :
    ∃ behind, parse (String.ofList ((schemeText secure).toList ++ server ++ '/' :: rest)) =
      ofAuthority secure
        ((server.filter (!isBreak ·)).dropWhile isSlash ++ '/' :: behind) := by
  obtain ⟨first, others, scheme, starts⟩ :
      ∃ first others, (schemeText secure).toList = first :: others ∧ isEdge first = false := by
    cases secure with
    | false => exact ⟨_, _, rfl, by decide⟩
    | true => exact ⟨_, _, rfl, by decide⟩
  have whole : (schemeText secure).toList.filter (!isBreak ·) = (schemeText secure).toList := by
    cases secure with
    | false => decide
    | true => decide
  have slash : isEdge '/' = false := by decide
  obtain ⟨behind, clean⟩ := cleaned_append starts slash (others ++ server) rest
  refine ⟨behind, ?_⟩
  have text : (schemeText secure).toList ++ server ++ '/' :: rest =
      first :: (others ++ server) ++ '/' :: rest := by rw [scheme, List.cons_append]
  have kept : (first :: (others ++ server) ++ ['/']).filter (!isBreak ·) ++ behind =
      (schemeText secure).toList ++ (server.filter (!isBreak ·) ++ '/' :: behind) := by
    rw [← List.cons_append, ← scheme, List.filter_append, List.filter_append, whole]
    simp [isBreak]
  have slashes : ('/' :: '/' :: (server.filter (!isBreak ·) ++ '/' :: behind)).dropWhile isSlash =
      (server.filter (!isBreak ·)).dropWhile isSlash ++ '/' :: behind := by
    have slash : isSlash '/' = true := by decide
    rw [List.dropWhile_cons_of_pos slash, List.dropWhile_cons_of_pos slash]
    obtain ⟨c, mem, solid, other⟩ := solid
    exact dropWhile_isSlash ⟨c, List.mem_filter.mpr ⟨mem, by simp [solid]⟩, other⟩ _
  unfold parse
  rw [text, clean, kept, scheme?_schemeText]
  simp only [slashes]

/-- A URL that can be read can be read with anything behind its server. -/
theorem exists_parse_of_parse {server before : List Char} {secure : Bool} {u : Url}
    (solid : ∃ c ∈ server, isBreak c = false ∧ isSlash c = false)
    (read : parse (String.ofList ((schemeText secure).toList ++ server ++ '/' :: before)) = .ok u)
    (after : List Char) :
    ∃ v, parse (String.ofList ((schemeText secure).toList ++ server ++ '/' :: after)) = .ok v := by
  obtain ⟨first, here⟩ := exists_parse_eq solid secure before
  obtain ⟨second, there⟩ := exists_parse_eq solid secure after
  rw [here] at read
  rw [there]
  apply exists_ofAuthority _ read
  rw [takeWhile_authority, takeWhile_authority]

end ArtifactTrust.Url
