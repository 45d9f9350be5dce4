import Provision.Proofs.Files.Routes

/-!
# Walks in trees that grow

A walk to a directory passes directories and links only.  It therefore leads to the same
directory in every tree that keeps them, whatever becomes of the files.

Main results:

- `FileTree.SameWays.put_file`: files stand in no way.
- `Walk.descend_of_keepsWays`: a walk to a directory, in a tree that keeps directories
  and links.
- `Walk.ReachesSome.parent`: the path of the directory above leads to a directory.
-/

namespace Provision

/-! ## What a walk can pass -/

/-- Whether a walk can go on where a node stands, or along it. -/
def FileNode.isWay : FileNode → Bool
  | .dir | .link _ => true
  | .file _ => false

namespace FileTree

/-- Whatever a walk can pass in one tree is there in another. -/
def KeepsWays (t u : FileTree) : Prop :=
  ∀ l n, n.isWay = true → t.node? l = some n → u.node? l = some n

theorem isDir_iff {t : FileTree} {l : Location} : t.isDir l = true ↔ t.node? l = some .dir := by
  simp [isDir]

variable {t u : FileTree}

theorem KeepsWays.isDir (kept : KeepsWays t u) {l : Location} (h : t.isDir l = true) :
    u.isDir l = true :=
  isDir_iff.2 (kept l .dir rfl (isDir_iff.1 h))

/-- Trees in which a walk can pass the same. -/
structure SameWays (t u : FileTree) : Prop where
  kept : KeepsWays t u
  back : KeepsWays u t

theorem SameWays.refl (t : FileTree) : SameWays t t := ⟨fun _ _ _ => id, fun _ _ _ => id⟩

theorem SameWays.symm (same : SameWays t u) : SameWays u t := ⟨same.back, same.kept⟩

theorem SameWays.trans {v : FileTree} (first : SameWays t u) (second : SameWays u v) :
    SameWays t v where
  kept l n way there := second.kept l n way (first.kept l n way there)
  back l n way there := first.back l n way (second.back l n way there)

/-- A file that is put where no walk could pass takes no way. -/
theorem SameWays.put_file {l : Location} (root : l ≠ [])
    (blocked : ∀ n, t.node? l = some n → n.isWay = false) (content : Content) :
    SameWays t (t.put l (.file content)) where
  kept m n way there := by
    have ne : m ≠ l := by
      rintro rfl
      exact Bool.noConfusion (way.symm.trans (blocked n there))
    rwa [node?_put_of_ne t _ ne]
  back m n way there := by
    by_cases same : m = l
    · rw [same, node?_put_self t _ root] at there
      cases there
      cases way
    · rwa [node?_put_of_ne t _ same] at there

end FileTree

namespace Walk
open FileTree

variable {t u : FileTree} {f g : Follow} {cwd : Location} {p : HostPath} {name : String}

/-- A step is made from a directory. -/
theorem isDir_of_step {cur : Location} {links : Nat} {name : String} {found : Location × Nat}
    (walked : step t f cur links name = .ok found) : t.isDir cur = true := by
  cases there : t.isDir cur with
  | true => rfl
  | false => simp [step, there] at walked

/-- A walk that ends in a directory starts in one. -/
theorem isDir_of_descend {cur d : Location} {links left : Nat} {names : List String}
    (walked : descend t f cur links names = .ok (d, left)) (ends : t.isDir d = true) :
    t.isDir cur = true := by
  cases names with
  | nil =>
    cases walked
    exact ends
  | cons name rest =>
    rw [descend] at walked
    cases first : step t f cur links name with
    | ok next => exact isDir_of_step first
    | error e => simp [first] at walked

/-- What a walk can pass in two trees. -/
theorem step_of_keepsWays (kept : KeepsWays t u)
    (following : ∀ cur target links d left, f cur target links = .ok (d, left) →
      t.isDir d = true → g cur target links = .ok (d, left))
    {cur d : Location} {links left : Nat} {name : String}
    (walked : step t f cur links name = .ok (d, left)) (ends : t.isDir d = true) :
    step u g cur links name = .ok (d, left) := by
  have starts := isDir_of_step walked
  simp only [step, starts, kept.isDir starts, Bool.not_true, Bool.false_eq_true, if_false]
    at walked ⊢
  by_cases dot : name = "."
  · simpa [dot] using walked
  by_cases dots : name = ".."
  · simpa [dot, dots] using walked
  by_cases long : Route.nameLimit < name.utf8ByteSize
  · simp [dot, dots, long] at walked
  simp only [dot, dots, long, if_false] at walked ⊢
  cases there : t.node? (cur ++ [name]) with
  | none => simp [there] at walked
  | some n =>
    cases n with
    | dir =>
      have := kept _ _ rfl there
      simpa [there, this] using walked
    | file content =>
      -- a file ends a walk, and this one ended in a directory
      simp only [there, Except.ok.injEq, Prod.mk.injEq] at walked
      rw [← walked.1, isDir_iff, there] at ends
      cases ends
    | link target =>
      have := kept _ _ rfl there
      simp only [there, this] at walked ⊢
      split
      · next none => simp [none] at walked
      · next some =>
        rw [if_neg some] at walked
        exact following _ _ _ _ _ walked ends

theorem descend_of_follow (kept : KeepsWays t u)
    (following : ∀ cur target links d left, f cur target links = .ok (d, left) →
      t.isDir d = true → g cur target links = .ok (d, left))
    {cur d : Location} {links left : Nat} {names : List String}
    (walked : descend t f cur links names = .ok (d, left)) (ends : t.isDir d = true) :
    descend u g cur links names = .ok (d, left) := by
  induction names generalizing cur links with
  | nil => exact walked
  | cons name rest ih =>
    rw [descend] at walked ⊢
    cases first : step t f cur links name with
    | error e => simp [first] at walked
    | ok next =>
      simp only [first] at walked
      have passed := isDir_of_descend walked ends
      rw [step_of_keepsWays kept following first passed]
      exact ih walked

theorem followTo_of_keepsWays (kept : KeepsWays t u) {depth : Nat} {cur d : Location}
    {target : String} {links left : Nat}
    (walked : followTo t depth cur target links = .ok (d, left)) (ends : t.isDir d = true) :
    followTo u depth cur target links = .ok (d, left) := by
  -- on the depth of links within links; how many links may still come is only passed on
  induction depth generalizing cur target links d left with
  | zero => exact walked
  | succ depth ih =>
    rw [followTo] at walked ⊢
    cases inner : descend t (followTo t depth) (start cur (.ofText target)) links
      (Route.ofText target).names with
    | error e => simp [inner] at walked
    | ok found =>
      simp only [inner, checkSlash] at walked
      split at walked
      · cases walked
      cases walked
      have := descend_of_follow kept (fun _ _ _ _ _ => ih) inner ends
      simp [this, checkSlash, kept.isDir ends]

/-- Where everything that a walk can pass is kept, a walk to a directory leads to it again. -/
theorem descend_of_keepsWays (kept : KeepsWays t u) {cur d : Location} {links left : Nat}
    {names : List String} (walked : descend t (follow t) cur links names = .ok (d, left))
    (ends : t.isDir d = true) : descend u (follow u) cur links names = .ok (d, left) :=
  descend_of_follow kept (fun _ _ _ _ _ => followTo_of_keepsWays kept) walked ends

/-! ## Parts of a walk -/

/-- A sequence succeeds when both of its parts do. -/
theorem ok_of_bind {α β : Type} {x : Except OsError α} {f : α → Except OsError β} {b : β}
    (h : x >>= f = .ok b) : ∃ a, x = .ok a ∧ f a = .ok b := by
  cases x with
  | error e => cases h
  | ok a => exact ⟨a, rfl, h⟩

/-- A route is that of the text of its path. -/
theorem route_eq {p : HostPath} {r : Route} (h : p.route = .ok r) : r = .ofText p.text := by
  unfold HostPath.route at h
  split at h
  · cases h
  split at h
  · cases h
  split at h
  · cases h
  exact (Except.ok.inj h).symm

/-- A walk along one name is one step. -/
theorem descend_singleton (t : FileTree) (f : Follow) (cur : Location) (links : Nat)
    (name : String) : descend t f cur links [name] = step t f cur links name := by
  rw [descend]
  cases step t f cur links name <;> rfl

/-- A step along a name of its own that leads to a directory passes a directory or a link. -/
theorem exists_way_of_step {f : Follow} {cur d : Location} {links left : Nat}
    (undotted : isDots name = false) (walked : step t f cur links name = .ok (d, left))
    (ends : t.isDir d = true) : ∃ n, t.node? (cur ++ [name]) = some n ∧ n.isWay = true := by
  simp only [isDots, Bool.or_eq_false_iff, beq_eq_false_iff_ne] at undotted
  simp only [step, isDir_of_step walked, undotted.1, undotted.2, Bool.not_true,
    Bool.false_eq_true, if_false] at walked
  split at walked
  · cases walked
  split at walked
  · cases walked
  · next there => exact ⟨_, there, rfl⟩
  · next n _ there =>
    cases walked
    refine ⟨n, there, ?_⟩
    rw [isDir_iff, there] at ends
    cases ends
    rfl

/-- What stands in a directory under a name that can be asked for. -/
theorem of_entry {d : Location} {node : Option FileNode} (h : entry t d name = .ok node) :
    name.utf8ByteSize ≤ Route.nameLimit ∧ t.node? (d ++ [name]) = node := by
  unfold entry at h
  split at h
  · cases h
  · next short => exact ⟨Nat.not_lt.1 short, Except.ok.inj h⟩

/-- The directory of the last name of a route that is found is where the names before it lead. -/
theorem of_locateParent {cur d : Location} {links left : Nat} {r : Route}
    (h : locateParent t cur links r = .ok (some (d, name, left))) :
    r.names = r.names.dropLast ++ [name] ∧
      descend t (follow t) cur links r.names.dropLast = .ok (d, left) ∧ t.isDir d = true := by
  unfold locateParent at h
  split at h
  · cases h
  next last shown =>
  obtain ⟨⟨e, left'⟩, walked, h⟩ := ok_of_bind h
  simp only at h
  split at h
  · next there =>
    cases h
    obtain ⟨before, names⟩ := List.getLast?_eq_some_iff.1 shown
    exact ⟨by simp [names], walked, there⟩
  · cases h

/-! ## Paths that lead to directories -/

/-- Whether a path leads to a directory. -/
def Reaches (t : FileTree) (cwd : Location) (p : HostPath) (d : Location) : Prop :=
  ∃ left, descend t (follow t) (start cwd (.ofText p.text)) linkLimit (Route.ofText p.text).names =
    .ok (d, left) ∧ t.isDir d = true

/-- Where a walk leads to a directory, a path along its first names does. -/
theorem reaches_of_descend {q : HostPath} {d : Location} {left : Nat} {names : List String}
    (walked : descend t (follow t) (start cwd (.ofText p.text)) linkLimit names = .ok (d, left))
    (ends : t.isDir d = true)
    (absolute : (Route.ofText q.text).absolute = (Route.ofText p.text).absolute)
    (front : (Route.ofText q.text).names <+: names) : ∃ e, Reaches t cwd q e := by
  obtain ⟨rest, rfl⟩ := front
  rw [descend_append] at walked
  obtain ⟨⟨e, left'⟩, first, walked⟩ := ok_of_bind walked
  refine ⟨e, left', ?_, isDir_of_descend walked ends⟩
  rwa [start, absolute]

/-- Where a path leads to a directory, its first part does. -/
theorem reaches_of_front {q : HostPath} {d : Location} (reaches : Reaches t cwd p d)
    (absolute : (Route.ofText q.text).absolute = (Route.ofText p.text).absolute)
    (front : (Route.ofText q.text).names <+: (Route.ofText p.text).names) :
    ∃ e, Reaches t cwd q e := by
  obtain ⟨left, walked, ends⟩ := reaches
  exact reaches_of_descend walked ends absolute front

/-- A path that leads to a directory, or to nowhere because it is empty. -/
def ReachesSome (t : FileTree) (cwd : Location) (p : HostPath) : Prop :=
  p.text.isEmpty = true ∨ ∃ d, Reaches t cwd p d

/-- The path of the directory of the last part leads to a directory where the path does. -/
theorem ReachesSome.parent {q : HostPath} (reaches : ReachesSome t cwd p)
    (parent : p.parent? = some q) : ReachesSome t cwd q := by
  rcases reaches with empty | ⟨d, reaches⟩
  · have none : p.parent? = none := by
      rw [show p = ⟨""⟩ from congrArg HostPath.mk (String.isEmpty_iff.1 empty)]
      decide
    cases none.symm.trans parent
  · rcases HostPath.route_parent? parent with empty | ⟨absolute, front⟩
    · exact .inl empty
    · exact .inr (reaches_of_front reaches absolute (front.trans (List.dropLast_prefix _)))

/-! ## Names of files -/

/-- A name that a file in a directory can have. -/
structure FileName (name : String) : Prop where
  named : HostPath.IsName name
  undotted : isDots name = false
  short : name.utf8ByteSize ≤ Route.nameLimit

variable {t whole : FileTree} {cwd dir : Location} {p : HostPath} {name : String}

/-- A step along the name of a file. -/
theorem step_file (f : Follow) (file : FileName name) (made : t.isDir dir = true)
    (plain : ∀ target, t.node? (dir ++ [name]) ≠ some (.link target)) (links : Nat) :
    step t f dir links name =
      if (t.node? (dir ++ [name])).isSome then .ok (dir ++ [name], links) else .error .noEntry := by
  have undotted := file.undotted
  simp only [isDots, Bool.or_eq_false_iff, beq_eq_false_iff_ne] at undotted
  simp only [step, made, undotted.1, undotted.2, if_neg (Nat.not_lt.2 file.short), Bool.not_true,
    Bool.false_eq_true, if_false]
  cases node : t.node? (dir ++ [name]) with
  | none => rfl
  | some n =>
    cases n with
    | dir => rfl
    | file content => rfl
    | link target => exact absurd node (plain target)

/-- A path with one more name can be walked as far as the path. -/
theorem descend_child (file : FileName name) :
    descend t (follow t) (start cwd (.ofText (p.child name).text)) linkLimit
        (Route.ofText (p.child name).text).names =
      (descend t (follow t) (start cwd (.ofText p.text)) linkLimit (Route.ofText p.text).names).bind
        fun r => descend t (follow t) r.1 r.2 [name] := by
  rw [p.route_child file.named, ← descend_append]
  rfl

/-- A path with one more name is not empty. -/
theorem route_child_ne_noEntry (file : FileName name) :
    (p.child name).route ≠ .error .noEntry := by
  have text : (p.child name).text.isEmpty = false := by
    cases empty : (p.child name).text.isEmpty with
    | false => rfl
    | true =>
      have names := congrArg Route.names (p.route_child file.named)
      rw [String.isEmpty_iff.1 empty] at names
      simp [Route.ofText, Text.splitAll] at names
  unfold HostPath.route
  rw [text]
  split
  · intro h
    cases h
  · rw [if_neg Bool.false_ne_true]
    split
    · intro h
      cases h
    · intro h
      cases h

end Walk

end Provision
