import Provision.Proofs.Files.Routes

/-!
# Parts of joined paths

A path that is taken from a directory leads on by its own parts.  So an absolute path that
is taken from a directory names the place that it names by itself exactly when the
directory is the root, in whatever way that is spelled.

Main results:

- `HostPath.parts_join`: the parts of a path that is taken from a directory.
- `HostPath.same_join_dropRoot_iff`: when an absolute path keeps its place.
- `HostPath.mem_of_same_root`: how the root can be spelled.
-/

namespace Provision.HostPath

open Text

/-- Paths that are spelled with the same characters are equal. -/
theorem eq_of_toList {p q : HostPath} (same : p.text.toList = q.text.toList) : p = q :=
  congrArg HostPath.mk (String.toList_inj.1 same)

/-! ## Parts behind a slash -/

/-- A path has a first piece. -/
theorem exists_pieces (p : HostPath) : ∃ piece rest, p.pieces = piece :: rest :=
  List.exists_cons_of_ne_nil (splitAll_ne_nil _ _)

/-- The parts that are spelled by pieces behind a slash. -/
def laterParts (pieces : List (List Char)) : List Part := pieces.filterMap (part? false)

/-- The parts of a path, from its pieces. -/
theorem parts_eq {p : HostPath} {piece : List Char} {rest : List (List Char)}
    (split : p.pieces = piece :: rest) :
    p.parts = (if p.isAbsolute then [.root] else []) ++
      ((part? true piece).toList ++ laterParts rest) := by
  have marks : p.marked.filterMap Prod.fst = (part? true piece).toList ++ laterParts rest := by
    simp only [marked, split, laterParts, List.filterMap_cons, List.filterMap_map,
      Function.comp_def]
    cases part? true piece <;> rfl
  rw [parts, marks]

/-- The pieces of an absolute path begin with an empty one. -/
theorem pieces_of_isAbsolute {p : HostPath} (absolute : p.isAbsolute = true) :
    ∃ cs, p.text.toList = '/' :: cs ∧ p.pieces = [] :: splitAll (· == '/') cs := by
  obtain ⟨cs, text⟩ := List.head?_eq_some_iff.1 (eq_of_beq absolute)
  exact ⟨cs, text, by rw [pieces, text]; rfl⟩

/-- The parts of an absolute path: the root, and what its pieces spell. -/
theorem parts_of_isAbsolute {p : HostPath} (absolute : p.isAbsolute = true) :
    p.parts = .root :: laterParts p.pieces := by
  obtain ⟨cs, -, split⟩ := pieces_of_isAbsolute absolute
  rw [parts_eq split, absolute, split]
  rfl

/-- A path is taken apart at a slash. -/
theorem parts_of_append {p q : HostPath} {cs : List Char} (made : q.text.toList ≠ [])
    (text : p.text.toList = q.text.toList ++ '/' :: cs) :
    p.parts = q.parts ++ laterParts (splitAll (· == '/') cs) := by
  have absolute : p.isAbsolute = q.isAbsolute := by
    unfold isAbsolute
    rw [text, List.head?_append_of_ne_nil _ made]
  obtain ⟨piece, rest, split⟩ := q.exists_pieces
  have joined : p.pieces = piece :: (rest ++ splitAll (· == '/') cs) := by
    rw [pieces, text, splitAll_append (p := (· == '/')) rfl, ← pieces, split, List.cons_append]
  rw [parts_eq joined, parts_eq split, absolute]
  simp [laterParts]

/-! ## Joined paths -/

/-- The parts of a path that is taken from a directory; it must not begin with a slash or a dot. -/
theorem parts_join (p : HostPath) {q : HostPath} (relative : q.isAbsolute = false)
    (undotted : q.pieces.head? ≠ some ['.']) :
    (p.join q).parts = p.parts ++ laterParts q.pieces := by
  rcases p.toList_join relative with ⟨nothing, text⟩ | ⟨front, split, text⟩ | ⟨made, text⟩
  · have nowhere : p.parts = [] := by
      simp [parts, marked, pieces, isAbsolute, nothing, splitAll, part?]
    have same : p.join q = q := eq_of_toList text
    obtain ⟨piece, rest, split⟩ := q.exists_pieces
    have first : part? true piece = part? false piece := by
      have plain : piece ≠ ['.'] := fun dot => undotted (by rw [split, dot]; rfl)
      simp [part?, plain]
    rw [same, nowhere, parts_eq split, relative, first, split]
    cases spelled : part? false piece <;> simp [laterParts, spelled]
  · by_cases made : front = []
    · subst made
      have absolute : p.isAbsolute = true := by simp [isAbsolute, split]
      have absolute' : (p.join q).isAbsolute = true := by simp [isAbsolute, text]
      rw [parts_of_isAbsolute absolute, parts_of_isAbsolute absolute', pieces, pieces, split, text]
      rfl
    · let ahead : HostPath := ⟨String.ofList front⟩
      have before : p.parts = ahead.parts ++ laterParts (splitAll (· == '/') []) :=
        parts_of_append (by simpa [ahead] using made) (by simpa [ahead] using split)
      have joined : (p.join q).parts = ahead.parts ++ laterParts q.pieces :=
        parts_of_append (by simpa [ahead] using made) (by simpa [ahead] using text)
      rw [joined, before, List.append_assoc]
      rfl
  · exact parts_of_append made text

/-! ## Paths without their root -/

/-- What is no part does not count. -/
theorem filterMap_dropWhile_isNone {β : Type} (marked : List (Option Part × β)) :
    (marked.dropWhile (·.1.isNone)).filterMap Prod.fst = marked.filterMap Prod.fst := by
  induction marked with
  | nil => rfl
  | cons mark marked ih =>
    obtain ⟨part, piece⟩ := mark
    cases part with
    | none => simpa using ih
    | some part => rfl

/-- An absolute path without its root is made of pieces of it, of which the first one is a part. -/
theorem dropRoot_eq {p : HostPath} (absolute : p.isAbsolute = true) :
    ∃ kept : List (Option Part × List Char),
      p.dropRoot = ⟨joinPieces (kept.map Prod.snd)⟩ ∧
        (∀ mark ∈ kept, mark.1 = part? false mark.2 ∧ mark.2 ∈ p.pieces) ∧
        (∀ mark ∈ kept.head?, mark.1.isNone = false) ∧
        kept.filterMap Prod.fst = laterParts p.pieces := by
  let body := p.pieces.map fun piece => (part? false piece, piece)
  let front := body.dropWhile (·.1.isNone)
  have prefixed : (front.reverse.dropWhile (·.1.isNone)).reverse <+: front := by
    simpa using List.reverse_prefix.2 (List.dropWhile_suffix (l := front.reverse) (·.1.isNone))
  refine ⟨(front.reverse.dropWhile (·.1.isNone)).reverse, ?_, fun mark there => ?_,
    fun mark first => ?_, ?_⟩
  · rw [dropRoot, if_pos absolute]
  · have own : mark ∈ body := (List.dropWhile_sublist _).mem (prefixed.mem there)
    obtain ⟨piece, made, rfl⟩ := List.mem_map.1 own
    exact ⟨rfl, made⟩
  · obtain ⟨behind, split⟩ := prefixed
    have leads : front.head? = some mark := by rw [← split, List.head?_append, first]; rfl
    have dropped := List.head?_dropWhile_not (·.1.isNone) body
    rw [show (body.dropWhile (·.1.isNone)).head? = some mark from leads] at dropped
    simpa using dropped
  · rw [List.filterMap_reverse, filterMap_dropWhile_isNone, List.filterMap_reverse,
      List.reverse_reverse, filterMap_dropWhile_isNone, List.filterMap_map]
    rfl

/-- An absolute path without its root begins with neither a slash nor a dot, and spells the same
parts behind it. -/
theorem dropRoot_spec {p : HostPath} (absolute : p.isAbsolute = true) :
    p.dropRoot.isAbsolute = false ∧ p.dropRoot.pieces.head? ≠ some ['.'] ∧
      laterParts p.dropRoot.pieces = laterParts p.pieces := by
  obtain ⟨kept, eq, own, first, spell⟩ := dropRoot_eq absolute
  rw [← spell, eq]
  cases kept with
  | nil => exact ⟨by decide, by decide, by decide⟩
  | cons mark kept =>
    have pieces : (HostPath.mk (joinPieces ((mark :: kept).map Prod.snd))).pieces =
        (mark :: kept).map Prod.snd := by
      rw [HostPath.pieces, joinPieces, String.toList_ofList]
      refine splitAll_intercalate (List.cons_ne_nil _ _) fun piece there => ?_
      obtain ⟨other, kept, rfl⟩ := List.mem_map.1 there
      exact ne_of_mem_splitAll (own other kept).2
    have part : (part? false mark.2).isNone = false :=
      (own mark List.mem_cons_self).1 ▸ first mark rfl
    rw [pieces]
    refine ⟨?_, ?_, ?_⟩
    · by_contra absolute
      obtain ⟨cs, -, split⟩ := pieces_of_isAbsolute (Bool.of_not_eq_false absolute)
      rw [pieces] at split
      have empty : mark.2 = [] := (List.cons.inj split).1
      rw [empty] at part
      cases part
    · intro dot
      have dot : mark.2 = ['.'] := Option.some.inj dot
      rw [dot] at part
      cases part
    · rw [laterParts, List.filterMap_map]
      exact List.filterMap_congr fun other there => (own other there).1.symm

/-- The key of the root. -/
theorem key_root : (HostPath.mk "/").key = [Part.root.key] := by decide

/-- An absolute path that is taken from a directory keeps its place exactly when the directory is
the root. -/
theorem same_join_dropRoot_iff (p : HostPath) {q : HostPath} (absolute : q.isAbsolute = true) :
    (p.join q.dropRoot).same q = true ↔ p.same ⟨"/"⟩ = true := by
  obtain ⟨relative, undotted, later⟩ := dropRoot_spec absolute
  rw [same_iff_key_eq, same_iff_key_eq, key_root, key, key, key, parts_join p relative undotted,
    later, parts_of_isAbsolute absolute, List.map_append, List.map_cons, ← List.singleton_append]
  exact List.append_left_inj _

/-! ## Spellings of the root -/

/-- No piece spells the root. -/
theorem part?_ne_root (first : Bool) (piece : List Char) : part? first piece ≠ some .root := by
  unfold part?
  split
  · nofun
  · split
    · cases first <;> nofun
    · split <;> nofun

/-- Only the root has its key. -/
theorem Part.eq_root_of_key_eq {part : Part} (same : part.key = Part.root.key) : part = .root := by
  cases part with
  | root => rfl
  | here => exact absurd same (by decide)
  | up => exact absurd same (by decide)
  | name s => simpa [key] using congrArg String.toList same

/-- A path whose only part is the root begins with a slash. -/
theorem isAbsolute_of_parts {p : HostPath} (root : p.parts = [.root]) : p.isAbsolute = true := by
  by_contra relative
  obtain ⟨piece, rest, split⟩ := p.exists_pieces
  have there : Part.root ∈ (part? true piece).toList ++ laterParts rest := by
    rw [parts_eq split, if_neg relative] at root
    exact root ▸ List.mem_singleton_self _
  rcases List.mem_append.1 there with first | later
  · exact part?_ne_root _ _ (Option.mem_toList.1 first)
  · obtain ⟨other, -, spelled⟩ := List.mem_filterMap.1 later
    exact part?_ne_root _ _ spelled

/-- A piece that is no part is empty or a dot. -/
theorem eq_of_part?_eq_none {piece : List Char} (h : part? false piece = none) :
    piece = [] ∨ piece = ['.'] := by
  unfold part? at h
  split at h
  · next empty => exact .inl (List.isEmpty_iff.1 empty)
  · split at h
    · next dot => exact .inr (eq_of_beq dot)
    · split at h <;> cases h

/-- The root is spelled with slashes and dots. -/
theorem mem_of_same_root {p : HostPath} (root : p.same ⟨"/"⟩ = true) :
    ∀ c ∈ p.text.toList, c = '/' ∨ c = '.' := by
  have parts : p.parts = [.root] := by
    rw [same_iff_key_eq, key_root, key] at root
    obtain ⟨part, single, same⟩ := List.map_eq_singleton_iff.1 root
    rw [single, Part.eq_root_of_key_eq same]
  have nothing : laterParts p.pieces = [] := by
    rw [parts_of_isAbsolute (isAbsolute_of_parts parts)] at parts
    exact (List.cons.inj parts).2
  intro c there
  rw [← intercalate_splitAll '/' p.text.toList] at there
  rcases eq_or_mem_of_mem_intercalate there with slash | ⟨piece, own, inside⟩
  · exact .inl slash
  · rcases eq_of_part?_eq_none (List.filterMap_eq_nil_iff.1 nothing piece own) with rfl | rfl
    · cases inside
    · exact .inr (List.mem_singleton.1 inside)

end Provision.HostPath
