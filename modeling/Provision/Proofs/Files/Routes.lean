import Provision.Files.Operations
import Provision.Proofs.Text.Splitting

/-!
# Routes of paths made from others

What a path that is made from another one leads along: a path with one more name goes
one step further, and the path of the directory that the last part stands in stops
earlier on the same way.

Main results:

- `HostPath.route_join`, `HostPath.route_child`: the route of a path that is taken from a directory,
  and of a path with one more name.
- `HostPath.route_parent?`: the route to the directory of the last part.
- `HostPath.toList_of_parent?`: its path is shorter.
-/

namespace Provision

/-! ## Names -/

namespace Route

/-- The names between slashes. -/
def namesIn (pieces : List (List Char)) : List String :=
  (pieces.filter (!·.isEmpty)).map String.ofList

theorem namesIn_append (a b : List (List Char)) : namesIn (a ++ b) = namesIn a ++ namesIn b := by
  simp [namesIn]

end Route

/-! ## Paths with one more name -/

namespace HostPath

/-- A text that can be the name of a file: it is not empty and holds no slash. -/
def IsName (name : String) : Prop := name.toList ≠ [] ∧ ∀ c ∈ name.toList, (c == '/') = false

/-- A path that is taken from a directory is made with a slash, unless there is one already. -/
theorem toList_join (p : HostPath) {q : HostPath} (relative : q.isAbsolute = false) :
    (p.text.toList = [] ∧ (p.join q).text.toList = q.text.toList) ∨
      (∃ front, p.text.toList = front ++ ['/'] ∧
        (p.join q).text.toList = front ++ '/' :: q.text.toList) ∨
      (p.text.toList ≠ [] ∧ (p.join q).text.toList = p.text.toList ++ '/' :: q.text.toList) := by
  unfold join
  rw [relative, if_neg Bool.false_ne_true]
  split
  · next short =>
    rcases Bool.or_eq_true _ _ ▸ short with empty | slash
    · have nothing : p.text.toList = [] := by simpa using empty
      exact .inl ⟨nothing, by simp [nothing]⟩
    · obtain ⟨front, split⟩ := List.getLast?_eq_some_iff.1 (eq_of_beq slash)
      exact .inr (.inl ⟨front, split, by simp [split]⟩)
  · next long =>
    have made : p.text.toList ≠ [] := fun nothing => long (by simp_all)
    exact .inr (.inr ⟨made, by simp⟩)

/-- A path that is taken from a directory starts where the path of the directory starts. -/
theorem isAbsolute_join (p : HostPath) {q : HostPath} (relative : q.isAbsolute = false) :
    (p.join q).isAbsolute = p.isAbsolute := by
  rcases p.toList_join relative with ⟨nothing, text⟩ | ⟨front, split, text⟩ | ⟨made, text⟩
  · unfold isAbsolute at relative ⊢
    rw [text, relative, nothing]
    rfl
  · unfold isAbsolute
    rw [text, split]
    cases front <;> rfl
  · obtain ⟨c, cs, spelled⟩ := List.exists_cons_of_ne_nil made
    unfold isAbsolute
    rw [text, spelled]
    rfl

/-- A path that is taken from a directory has its own names behind those of the directory. -/
theorem namesIn_pieces_join (p : HostPath) {q : HostPath} (relative : q.isAbsolute = false) :
    Route.namesIn (p.join q).pieces = Route.namesIn p.pieces ++ Route.namesIn q.pieces := by
  have across (front back : List Char) :
      Route.namesIn (Text.splitAll (· == '/') (front ++ '/' :: back)) =
        Route.namesIn (Text.splitAll (· == '/') front) ++
          Route.namesIn (Text.splitAll (· == '/') back) := by
    rw [Text.splitAll_append (p := (· == '/')) rfl, Route.namesIn_append]
  unfold pieces
  rcases p.toList_join relative with ⟨nothing, text⟩ | ⟨front, split, text⟩ | ⟨-, text⟩
  · rw [text, nothing]
    rfl
  · rw [text, split, across, across]
    exact congrArg (· ++ _) (List.append_nil _).symm
  · rw [text, across]

/-- The route of a path that is taken from a directory, unless it is empty. -/
theorem route_join (p : HostPath) {q : HostPath} (relative : q.isAbsolute = false)
    (made : q.text.toList ≠ []) :
    Route.ofText (p.join q).text = ⟨(Route.ofText p.text).absolute,
      (Route.ofText p.text).names ++ (Route.ofText q.text).names,
      (Route.ofText q.text).slashAtEnd⟩ := by
  have last : (p.join q).text.toList.getLast? = q.text.toList.getLast? := by
    rcases p.toList_join relative with ⟨-, text⟩ | ⟨front, -, text⟩ | ⟨-, text⟩
    · rw [text]
    · rw [text, List.append_cons, List.getLast?_append_of_ne_nil _ made]
    · rw [text, List.append_cons, List.getLast?_append_of_ne_nil _ made]
  show Route.mk (p.join q).isAbsolute (Route.namesIn (p.join q).pieces)
    ((p.join q).text.toList.getLast? == some '/') = _
  rw [p.isAbsolute_join relative, p.namesIn_pieces_join relative, last]
  rfl

/-- A name is a relative path. -/
theorem IsName.relative {name : String} (named : IsName name) :
    (HostPath.mk name).isAbsolute = false := by
  obtain ⟨made, plain⟩ := named
  obtain ⟨c, cs, hc⟩ := List.exists_cons_of_ne_nil made
  have : (c == '/') = false := plain c (hc ▸ List.mem_cons_self)
  simpa [isAbsolute, hc] using this

/-- The route of a name is the name. -/
theorem IsName.route {name : String} (named : IsName name) :
    Route.ofText name = ⟨false, [name], false⟩ := by
  have names : Route.namesIn (Text.splitAll (· == '/') name.toList) = [name] := by
    rw [Text.splitAll_of_forall named.2]
    simp [Route.namesIn, named.1]
  have unslashed : (name.toList.getLast? == some '/') = false := by
    refine beq_false_of_ne fun slash => ?_
    exact Bool.noConfusion ((named.2 _ (List.mem_of_getLast? slash)).symm.trans rfl)
  show Route.mk (HostPath.mk name).isAbsolute
    (Route.namesIn (Text.splitAll (· == '/') name.toList)) (name.toList.getLast? == some '/') = _
  rw [named.relative, names, unslashed]

/-- The route of a path with one more name has that name at its end. -/
theorem route_child (p : HostPath) {name : String} (named : IsName name) :
    Route.ofText (p.child name).text =
      ⟨(Route.ofText p.text).absolute, (Route.ofText p.text).names ++ [name], false⟩ := by
  rw [child, p.route_join named.relative named.1, named.route]

/-! ## Paths of directories above -/

/-- The pieces of a path, without what they are. -/
theorem map_snd_marked (p : HostPath) : p.marked.map Prod.snd = p.pieces := by
  unfold marked
  cases p.pieces with
  | nil => rfl
  | cons piece rest => simp [Function.comp_def]

/-- A path is its pieces with slashes between them. -/
theorem joinPieces_pieces (p : HostPath) : joinPieces p.pieces = p.text := by
  rw [joinPieces, pieces, Text.intercalate_splitAll, String.ofList_toList]

/-- A path made of pieces of another has these pieces. -/
theorem pieces_joinPieces {p : HostPath} {front back : List (List Char)} (made : front ≠ [])
    (split : p.pieces = front ++ back) : (HostPath.mk (joinPieces front)).pieces = front := by
  rw [pieces, joinPieces, String.toList_ofList]
  refine Text.splitAll_intercalate made fun piece hp => ?_
  have there : piece ∈ p.pieces := split ▸ List.mem_append_left back hp
  exact Text.ne_of_mem_splitAll there

/-- What is a part of a path is not empty. -/
theorem ne_nil_of_mem_marked {p : HostPath} {e : Option Part × List Char} (he : e ∈ p.marked)
    (part : e.1.isNone = false) : e.2 ≠ [] := by
  have spelled : ∃ first, e.1 = part? first e.2 := by
    unfold marked at he
    cases pieces : p.pieces with
    | nil => simp [pieces] at he
    | cons piece rest =>
      simp only [pieces, List.mem_cons, List.mem_map] at he
      rcases he with rfl | ⟨other, -, rfl⟩
      · exact ⟨true, rfl⟩
      · exact ⟨false, rfl⟩
  intro empty
  obtain ⟨first, spelled⟩ := spelled
  simp [spelled, empty, part?] at part

/-- The path of the directory of the last part is made of the pieces before it. -/
theorem parent?_eq {p q : HostPath} (h : p.parent? = some q) :
    ∃ front back, p.pieces = front ++ back ∧ Route.namesIn back ≠ [] ∧
      q.text = if front.isEmpty then if p.isAbsolute then "/" else "" else joinPieces front := by
  unfold parent? at h
  split at h
  · cases h
  next last before shown =>
  have part : last.1.isNone = false := by
    have := List.head?_dropWhile_not (·.1.isNone) p.marked.reverse
    simpa [shown] using this
  -- from behind: pieces that are no parts, the last part, again such pieces, and what is kept
  have split : p.marked = (before.dropWhile (·.1.isNone)).reverse ++
      ((before.takeWhile (·.1.isNone)).reverse ++
        last :: (p.marked.reverse.takeWhile (·.1.isNone)).reverse) := by
    have outer := List.takeWhile_append_dropWhile (p := (·.1.isNone)) (l := p.marked.reverse)
    have inner := List.takeWhile_append_dropWhile (p := (·.1.isNone)) (l := before)
    rw [shown] at outer
    rw [← List.append_assoc, ← List.reverse_append, inner]
    simpa using (congrArg List.reverse outer).symm
  have there : last ∈ p.marked := by
    rw [split]
    simp
  refine ⟨_, _, by rw [← map_snd_marked, split, List.map_append], ?_, ?_⟩
  · have named : last.2.isEmpty = false := by simpa using ne_nil_of_mem_marked there part
    simp [Route.namesIn, named]
  · generalize (before.dropWhile (·.1.isNone)).reverse = kept at h
    cases kept with
    | nil => exact congrArg HostPath.text (Option.some.inj h).symm
    | cons e kept => exact congrArg HostPath.text (Option.some.inj h).symm

/-- The path of the directory of the last part is the beginning of the path. -/
theorem prefix_of_parent? {p q : HostPath} (h : p.parent? = some q) :
    q.text.toList <+: p.text.toList := by
  obtain ⟨front, back, split, -, text⟩ := parent?_eq h
  cases front with
  | nil =>
    rw [List.isEmpty_nil, if_pos rfl] at text
    rw [text]
    split
    · next absolute =>
      obtain ⟨rest, spelled⟩ := List.head?_eq_some_iff.1 (eq_of_beq absolute)
      exact ⟨rest, by simp [spelled]⟩
    · exact List.nil_prefix
  | cons piece front =>
    rw [List.isEmpty_cons, if_neg Bool.false_ne_true] at text
    rw [text, ← joinPieces_pieces p, split, joinPieces, joinPieces, String.toList_ofList,
      String.toList_ofList]
    exact Text.intercalate_front '/' (piece :: front) back

/-- The route to the directory of the last part stops before the end of the route, unless it is
the empty path. -/
theorem route_parent? {p q : HostPath} (h : p.parent? = some q) :
    q.text.isEmpty = true ∨ ((Route.ofText q.text).absolute = (Route.ofText p.text).absolute ∧
      (Route.ofText q.text).names <+: (Route.ofText p.text).names.dropLast) := by
  obtain ⟨front, back, split, further, text⟩ := parent?_eq h
  cases front with
  | nil =>
    rw [List.isEmpty_nil, if_pos rfl] at text
    rw [text]
    cases absolute : p.isAbsolute with
    | true => exact .inr ⟨absolute.symm, List.nil_prefix⟩
    | false => exact .inl rfl
  | cons piece front =>
    rw [List.isEmpty_cons, if_neg Bool.false_ne_true] at text
    by_cases empty : q.text.isEmpty = true
    · exact .inl empty
    right
    constructor
    · obtain ⟨rest, spelled⟩ := prefix_of_parent? h
      show (q.text.toList.head? == some '/') = (p.text.toList.head? == some '/')
      rw [← spelled]
      cases shown : q.text.toList with
      | nil => exact absurd (by simpa using shown) empty
      | cons c cs => rfl
    · have pieces : q.pieces = piece :: front := by
        have := pieces_joinPieces (List.cons_ne_nil piece front) split
        rwa [← text] at this
      show Route.namesIn q.pieces <+: (Route.namesIn p.pieces).dropLast
      rw [pieces, split, Route.namesIn_append, List.dropLast_append_of_ne_nil further]
      exact List.prefix_append _ _

/-- A path that has a part has a name. -/
theorem names_ne_nil_of_parent? {p q : HostPath} (h : p.parent? = some q) :
    (Route.ofText p.text).names ≠ [] := by
  obtain ⟨front, back, split, further, -⟩ := parent?_eq h
  show Route.namesIn p.pieces ≠ []
  rw [split, Route.namesIn_append]
  exact List.append_ne_nil_of_right_ne_nil _ further

/-- The path of the directory of the last part is shorter than the path. -/
theorem toList_of_parent? {p q : HostPath} (h : p.parent? = some q) :
    ∃ rest, rest ≠ [] ∧ p.text.toList = q.text.toList ++ rest := by
  obtain ⟨rest, spelled⟩ := prefix_of_parent? h
  refine ⟨rest, ?_, spelled.symm⟩
  rintro rfl
  -- all of the path would have the last name too
  have same : q.text = p.text := String.toList_injective (by simpa using spelled)
  have named := names_ne_nil_of_parent? h
  rcases route_parent? h with empty | ⟨-, front⟩
  · rw [← same, String.isEmpty_iff.1 empty] at named
    exact named rfl
  · have shorter := front.length_le
    rw [same, List.length_dropLast] at shorter
    have := List.length_pos_of_ne_nil named
    omega

/-- The empty path names no file. -/
theorem isEmpty_eq_false_of_route {p : HostPath} {r : Route} (route : p.route = .ok r) :
    p.text.isEmpty = false := by
  cases empty : p.text.isEmpty with
  | false => rfl
  | true =>
    have none : p = ⟨""⟩ := congrArg HostPath.mk (String.isEmpty_iff.1 empty)
    rw [none] at route
    cases route

/-- Where a path can name a file, so can the path of the directory of its last part, unless it is
the empty path. -/
theorem route_of_parent? {p q : HostPath} {r : Route} (h : p.parent? = some q)
    (route : p.route = .ok r) (made : q.text.isEmpty = false) :
    q.route = .ok (.ofText q.text) := by
  obtain ⟨rest, -, spelled⟩ := toList_of_parent? h
  have text : p.text = q.text ++ String.ofList rest := String.toList_injective (by simp [spelled])
  unfold HostPath.route at route
  split at route
  · cases route
  next plain =>
  split at route
  · cases route
  split at route
  · cases route
  next short =>
  have plain' : '\x00' ∉ q.text.toList := fun nul =>
    plain (spelled ▸ List.mem_append_left rest nul)
  have short' : ¬ Route.pathLimit ≤ q.text.utf8ByteSize := by
    rw [text, String.utf8ByteSize_append] at short
    omega
  unfold HostPath.route
  rw [if_neg plain', made, if_neg Bool.false_ne_true, if_neg short']

end HostPath

/-- A relative path that is not empty has a name. -/
theorem Route.absolute_of_names_eq_nil {s : String} (made : s.isEmpty = false)
    (nameless : (Route.ofText s).names = []) : (Route.ofText s).absolute = true := by
  obtain ⟨c, cs, spelled⟩ : ∃ c cs, s.toList = c :: cs :=
    List.exists_cons_of_ne_nil fun nothing => by simp_all
  show (s.toList.head? == some '/') = true
  rw [spelled]
  by_contra relative
  have plain : (c == '/') = false := by simpa using relative
  have first : namesIn (Text.splitAll (· == '/') s.toList) ≠ [] := by
    rw [spelled, Text.splitAll, plain, if_neg Bool.false_ne_true]
    cases Text.splitAll (· == '/') cs <;> simp [Text.consHead, namesIn]
  exact first nameless

end Provision
