import Provision.Files.RunLock
import Provision.Proofs.Files.Site

/-!
# Files that are opened

A file that is opened for a lock may have to be made, and its directories too.  Whatever
is there stays there meanwhile, and what is opened is the file that the path leads to
once everything is made: it is opened exactly when there is such a file.

Main results:

- `FileTree.Extends.makeDirs`, `FileTree.Extends.touch`: nothing that is there is changed.
- `Walk.descend_of_locateFile`, `Walk.locateFile_of_descend`: the place of a file that is
  to be written is the place of the file that is read.
- `RunLock.openFile_eq_ok_iff`: a file is opened exactly when the path leads to it afterwards.
-/

namespace Provision

namespace FileTree

/-- Whether a path leads to a file. -/
def LeadsToFile (t : FileTree) (cwd : Location) (p : HostPath) (l : Location) : Prop :=
  Walk.locate t cwd p = .ok l ∧ (t.content? l).isSome = true

variable {t u v : FileTree} {cwd l : Location} {p : HostPath}

/-- A location has a content when a file stands there. -/
theorem isSome_content?_iff : (t.content? l).isSome = true ↔ ∃ c, t.node? l = some (.file c) := by
  unfold content?
  split
  · next c there => simp [there]
  · next other => simpa using other

/-- A file is no directory. -/
theorem isDir_of_isSome_content? (file : (t.content? l).isSome = true) : t.isDir l = false := by
  obtain ⟨c, there⟩ := isSome_content?_iff.1 file
  simp [isDir, there]

/-! ## Trees that keep what is there -/

/-- What a tree is to one that came of it by making files and directories where nothing was. -/
structure Extends (t u : FileTree) : Prop where
  kept : ∀ l n, t.node? l = some n → u.node? l = some n
  grounded : t.Grounded → u.Grounded

namespace Extends

theorem refl (t : FileTree) : Extends t t := ⟨fun _ _ there => there, id⟩

theorem trans (first : Extends t u) (second : Extends u v) : Extends t v where
  kept l n there := second.kept l n (first.kept l n there)
  grounded start := second.grounded (first.grounded start)

/-- Directories and links are among what is kept. -/
theorem keepsWays (more : Extends t u) : KeepsWays t u := fun l n _ there => more.kept l n there

/-- A file stays a file. -/
theorem isSome_content? (more : Extends t u) (file : (t.content? l).isSome = true) :
    (u.content? l).isSome = true := by
  obtain ⟨c, there⟩ := isSome_content?_iff.1 file
  exact isSome_content?_iff.2 ⟨c, more.kept l _ there⟩

/-- Something is put into a directory under a name that is free. -/
theorem put {dir : Location} {name : String} (n : FileNode) (parent : t.isDir dir = true)
    (free : t.node? (dir ++ [name]) = none) : Extends t (t.put (dir ++ [name]) n) where
  kept l _ there := by
    have ne : l ≠ dir ++ [name] := by
      rintro rfl
      cases free.symm.trans there
    rwa [node?_put_of_ne t n ne]
  grounded start := by
    refine start.put (by simp) (by simpa using parent) fun replaced => ?_
    rw [isDir_iff, free] at replaced
    cases replaced

/-- A directory is made where nothing was. -/
theorem makeDir (made : t.makeDir cwd p = .ok u) : Extends t u := by
  obtain ⟨r, -, made⟩ := Walk.ok_of_bind made
  obtain ⟨found, parent, made⟩ := Walk.ok_of_bind made
  cases found with
  | none => cases made
  | some found =>
    obtain ⟨dir, name, left⟩ := found
    obtain ⟨-, -, there⟩ := Walk.of_locateParent parent
    simp only at made
    split at made
    · cases made
    obtain ⟨node, entered, made⟩ := Walk.ok_of_bind made
    cases node with
    | some n => cases made
    | none =>
      cases made
      exact put .dir there (Walk.of_entry entered).2

/-- A directory that is provided is made, or was there. -/
theorem provideDir (t : FileTree) (cwd : Location) (p : HostPath) :
    Extends t (t.provideDir cwd p).2 := by
  unfold FileTree.provideDir
  split
  · next made => exact makeDir made
  · split <;> exact refl t

/-- The directories on the way to one are provided from the root on. -/
theorem provideDirsTo (depth : Nat) (t : FileTree) (cwd : Location) (p : HostPath) :
    Extends t (provideDirsTo cwd depth t p).2 := by
  induction depth generalizing t p with
  | zero => exact refl t
  | succ depth ih =>
    unfold FileTree.provideDirsTo
    split
    · exact refl t
    split
    · next parent _ _ =>
      have above := ih t parent
      split
      · next provided =>
        rw [provided] at above
        exact above.trans (provideDir _ cwd p)
      · exact above
    · exact provideDir t cwd p

/-- Making directories changes nothing that is there, also when it stops halfway. -/
theorem makeDirs (t : FileTree) (cwd : Location) (p : HostPath) :
    Extends t (t.makeDirs cwd p).2 :=
  provideDirsTo _ t cwd p

end Extends

end FileTree

/-! ## The number of links -/

namespace Walk
open FileTree

variable {t u : FileTree} {f g : Follow} {cwd : Location} {p : HostPath}

/-- A way to follow links that gives back no more links than it was given. -/
def Sparing (f : Follow) : Prop :=
  ∀ cur target links found, f cur target links = .ok found → found.2 ≤ links

/-- A step gives back no more links than it was given. -/
theorem Sparing.step (sparing : Sparing f) {cur : Location} {links : Nat} {name : String}
    {found : Location × Nat} (walked : step t f cur links name = .ok found) :
    found.2 ≤ links := by
  unfold Walk.step at walked
  split at walked
  · cases walked
  split at walked
  · cases walked
    exact le_rfl
  split at walked
  · cases walked
    exact le_rfl
  split at walked
  · cases walked
  split at walked
  · cases walked
  · split at walked
    · cases walked
    · exact (sparing _ _ _ _ walked).trans (Nat.sub_le links 1)
  · cases walked
    exact le_rfl

/-- Nor does a walk. -/
theorem Sparing.descend (sparing : Sparing f) {cur : Location} {links : Nat} {names : List String}
    {found : Location × Nat} (walked : descend t f cur links names = .ok found) :
    found.2 ≤ links := by
  induction names generalizing cur links with
  | nil =>
    cases walked
    exact le_rfl
  | cons name rest ih =>
    rw [Walk.descend] at walked
    cases first : Walk.step t f cur links name with
    | error e => simp [first] at walked
    | ok next =>
      simp only [first] at walked
      exact (ih walked).trans (sparing.step first)

/-- Nor does following links, however deep they are nested. -/
theorem sparing_followTo (t : FileTree) (depth : Nat) : Sparing (followTo t depth) := by
  induction depth with
  | zero =>
    intro cur target links found walked
    cases walked
  | succ depth ih =>
    intro cur target links found walked
    rw [followTo] at walked
    cases inner : descend t (followTo t depth) (start cur (.ofText target)) links
      (Route.ofText target).names with
    | error e => simp [inner] at walked
    | ok reached =>
      simp only [inner, checkSlash] at walked
      split at walked
      · cases walked
      · cases walked
        exact ih.descend inner

/-- A walk is the same with two ways to follow links that agree while few links are left. -/
theorem descend_congr (sparing : Sparing f) {bound : Nat}
    (agree : ∀ cur target links, links < bound → f cur target links = g cur target links)
    (cur : Location) {links : Nat} (few : links ≤ bound) (names : List String) :
    descend t f cur links names = descend t g cur links names := by
  induction names generalizing cur links with
  | nil => rfl
  | cons name rest ih =>
    have same : step t f cur links name = step t g cur links name := by
      unfold step
      cases t.node? (cur ++ [name]) with
      | none => rfl
      | some n =>
        cases n with
        | dir => rfl
        | file content => rfl
        | link target =>
          by_cases none : links = 0
          · simp [none]
          · simp only [none, agree cur target (links - 1) (by omega)]
    rw [descend, descend, ← same]
    cases first : step t f cur links name with
    | error e => rfl
    | ok next => exact ih next.1 ((sparing.step first).trans few)

/-- How deep links may be nested does not matter when there are not so many. -/
theorem followTo_eq {depth depth' links : Nat} (cur : Location) (target : String)
    (few : links < depth) (few' : links < depth') :
    followTo t depth cur target links = followTo t depth' cur target links := by
  induction depth generalizing depth' cur target links with
  | zero => omega
  | succ depth ih =>
    obtain ⟨depth', rfl⟩ : ∃ n, depth' = n + 1 := ⟨depth' - 1, by omega⟩
    have same (cur : Location) (names : List String) :
        descend t (followTo t depth) cur links names =
          descend t (followTo t depth') cur links names :=
      descend_congr (sparing_followTo t depth)
        (fun cur target _ fewer => ih cur target (by omega) (by omega)) cur le_rfl names
    rw [followTo, followTo, same]

/-- A link is followed by a walk along its target. -/
theorem follow_eq (t : FileTree) (cur : Location) (target : String) {links : Nat}
    (few : links < linkLimit) :
    follow t cur target links =
      (descend t (follow t) (start cur (.ofText target)) links (Route.ofText target).names).bind
        (checkSlash t (.ofText target)) := by
  obtain ⟨depth, limit⟩ : ∃ depth, linkLimit = depth + 1 := ⟨39, rfl⟩
  have same (cur : Location) (names : List String) :
      descend t (followTo t depth) cur links names =
        descend t (followTo t linkLimit) cur links names :=
    descend_congr (sparing_followTo t depth)
      (fun cur target _ fewer => followTo_eq cur target (by omega) (by omega)) cur le_rfl names
  unfold follow
  rw [← same]
  conv_lhs => rw [limit, followTo]
  cases descend t (followTo t depth) (start cur (.ofText target)) links
    (Route.ofText target).names <;> rfl

/-! ## The place of a file -/

/-- The place found for a file that is to be written is where a walk leads that follows the last
link too, in a tree with more in it, once the file is there. -/
theorem descend_of_locateFileTo (kept : KeepsWays t u) {depth links : Nat} {cur l : Location}
    {r : Route} (few : links ≤ linkLimit) (located : locateFileTo t depth cur links r = .ok l)
    (file : (u.content? l).isSome = true) :
    r.slashAtEnd = false ∧ ∃ left, descend u (follow u) cur links r.names = .ok (l, left) := by
  -- on the links that stand in the place of the file
  induction depth generalizing cur links r with
  | zero => cases located
  | succ depth ih =>
    obtain ⟨found, parent, located⟩ := ok_of_bind located
    cases found with
    | none => cases located
    | some found =>
      obtain ⟨dir, name, left⟩ := found
      obtain ⟨names, walked, there⟩ := of_locateParent parent
      have fewer : left ≤ links := (sparing_followTo t linkLimit).descend walked
      simp only at located
      split at located
      · cases located
      next plain =>
      simp only [isDots, Bool.or_eq_true, beq_iff_eq, not_or, Bool.not_eq_true] at plain
      obtain ⟨⟨dot, dots⟩, slash⟩ := plain
      obtain ⟨node, entered, located⟩ := ok_of_bind located
      obtain ⟨short, node?⟩ := of_entry entered
      refine ⟨slash, ?_⟩
      rw [names, descend_append, descend_of_keepsWays kept walked there]
      simp only [Except.bind, descend_singleton, step, kept.isDir there, dot, dots,
        if_neg (Nat.not_lt.2 short), Bool.not_true, Bool.false_eq_true, if_false]
      -- in the larger tree the file is there
      have ends (same : dir ++ [name] = l) :
          ∃ c, u.node? (dir ++ [name]) = some (.file c) := by
        rw [same]
        exact isSome_content?_iff.1 file
      cases node with
      | none =>
        obtain ⟨c, present⟩ := ends (Except.ok.inj located)
        exact ⟨left, by rw [present, Except.ok.inj located]⟩
      | some n =>
        cases n with
        | dir => cases located
        | file _ =>
          obtain ⟨c, present⟩ := ends (Except.ok.inj located)
          exact ⟨left, by rw [present, Except.ok.inj located]⟩
        | link target =>
          simp only at located
          split at located
          · cases located
          next some =>
          rw [kept _ _ rfl node?]
          simp only [if_neg some]
          obtain ⟨slash', left', walked'⟩ := ih (by omega) located
          refine ⟨left', ?_⟩
          rw [follow_eq u dir target (by omega), walked']
          simp [Except.bind, checkSlash, slash']

/-- A route starts at the root or where it is taken from. -/
theorem isDir_start {cur : Location} (r : Route) (there : t.isDir cur = true) :
    t.isDir (start cur r) = true := by
  unfold start
  split
  · rfl
  · exact there

/-- The dots lead to directories. -/
theorem undotted_of_step (grounded : t.Grounded) {f : Follow} {cur l : Location}
    {links left : Nat} {name : String} (walked : step t f cur links name = .ok (l, left))
    (leaf : t.isDir l = false) : name ≠ "." ∧ name ≠ ".." := by
  have there := isDir_of_step walked
  constructor
  · rintro rfl
    rw [step_dot _ _ there] at walked
    cases walked
    exact Bool.noConfusion (leaf.symm.trans there)
  · rintro rfl
    simp only [step, there, Bool.not_true, Bool.false_eq_true, if_false,
      if_neg (show ".." ≠ "." by decide), if_true] at walked
    cases walked
    have above := grounded.isDir_of_above there (List.dropLast_prefix cur)
    exact Bool.noConfusion (leaf.symm.trans above)

/-- Where a walk that follows the last link too leads to a file, the file is found for writing. -/
theorem locateFileTo_of_descend (grounded : t.Grounded) {depth links left : Nat}
    {cur l : Location} {r : Route} (deep : links < depth) (few : links ≤ linkLimit)
    (starts : r.names = [] → t.isDir cur = true) (slash : r.slashAtEnd = false)
    (walked : descend t (follow t) cur links r.names = .ok (l, left))
    (file : (t.content? l).isSome = true) : locateFileTo t depth cur links r = .ok l := by
  have leaf := isDir_of_isSome_content? file
  induction depth generalizing cur links left r with
  | zero => omega
  | succ depth ih =>
    cases last : r.names.getLast? with
    | none =>
      have none : r.names = [] := List.getLast?_eq_none_iff.1 last
      rw [none] at walked
      cases walked
      exact absurd (starts none) (by simp [leaf])
    | some name =>
      obtain ⟨front, names⟩ := List.getLast?_eq_some_iff.1 last
      rw [names, descend_append] at walked
      obtain ⟨⟨dir, fewer⟩, before, walked⟩ := ok_of_bind walked
      simp only [descend_singleton] at walked
      have there := isDir_of_step walked
      have sparing : fewer ≤ links := (sparing_followTo t linkLimit).descend before
      have parent : locateParent t cur links r = .ok (some (dir, name, fewer)) := by
        simp [locateParent, names, before, there, bind, Except.bind]
      have undotted := undotted_of_step grounded walked leaf
      simp only [step, there, undotted.1, undotted.2, Bool.not_true, Bool.false_eq_true,
        if_false] at walked
      split at walked
      · cases walked
      next short =>
      have entered : entry t dir name = .ok (t.node? (dir ++ [name])) := if_neg short
      have dotless : isDots name = false := by simp [isDots, undotted.1, undotted.2]
      simp only [locateFileTo, parent, entered, slash, dotless, bind, Except.bind, Bool.or_false,
        Bool.false_eq_true, if_false]
      cases node : t.node? (dir ++ [name]) with
      | none => simp [node] at walked
      | some n =>
        cases n with
        | dir =>
          simp only [node] at walked
          cases walked
          simp [isDir_iff.2 node] at leaf
        | file content =>
          simp only [node] at walked
          cases walked
          rfl
        | link target =>
          simp only [node] at walked ⊢
          split at walked
          · cases walked
          next some =>
          rw [if_neg some]
          rw [follow_eq t dir target (by omega)] at walked
          obtain ⟨⟨m, left'⟩, further, checked⟩ := ok_of_bind walked
          simp only [checkSlash] at checked
          split at checked
          · cases checked
          next unslashed =>
          cases checked
          exact ih (by omega) (by omega) (fun _ => isDir_start _ there)
            (by simpa [leaf] using unslashed) further

/-- What is opened for a path is the file that it leads to once the file is there. -/
theorem leadsToFile_of_locateFile (kept : KeepsWays t u) {l : Location}
    (located : locateFile t cwd p = .ok l) (file : (u.content? l).isSome = true) :
    u.LeadsToFile cwd p l := by
  obtain ⟨r, route, located⟩ := ok_of_bind located
  obtain ⟨slash, left, walked⟩ := descend_of_locateFileTo kept le_rfl located file
  refine ⟨?_, file⟩
  simp [locate, route, walked, checkSlash, slash, bind, Except.bind, pure, Except.pure]

/-- The file that a path leads to is found for writing. -/
theorem locateFile_of_leadsToFile (grounded : t.Grounded) {l : Location}
    (leads : t.LeadsToFile cwd p l) : locateFile t cwd p = .ok l := by
  obtain ⟨located, file⟩ := leads
  obtain ⟨r, route, located⟩ := ok_of_bind located
  obtain ⟨⟨m, left⟩, walked, located⟩ := ok_of_bind located
  obtain ⟨found, checked, located⟩ := ok_of_bind located
  unfold checkSlash at checked
  split at checked
  · cases checked
  next slash =>
  cases checked
  cases located
  simp only [locateFile, route, bind, Except.bind]
  refine locateFileTo_of_descend grounded (Nat.lt_succ_self _) le_rfl (fun nameless => ?_)
    (by simpa [isDir_of_isSome_content? file] using slash) walked file
  -- only the root has no name
  rw [route_eq route] at nameless ⊢
  have made := HostPath.isEmpty_eq_false_of_route route
  rw [start, if_pos (Route.absolute_of_names_eq_nil made nameless)]
  rfl

/-- The place of a file that is to be written is in a directory, and no directory or link. -/
theorem of_locateFileTo {depth links : Nat} {cur l : Location} {r : Route}
    (located : locateFileTo t depth cur links r = .ok l) :
    ∃ dir name, l = dir ++ [name] ∧ t.isDir dir = true ∧
      (t.node? l = none ∨ (t.content? l).isSome = true) := by
  induction depth generalizing cur links r with
  | zero => cases located
  | succ depth ih =>
    obtain ⟨found, parent, located⟩ := ok_of_bind located
    cases found with
    | none => cases located
    | some found =>
      obtain ⟨dir, name, left⟩ := found
      obtain ⟨-, -, there⟩ := of_locateParent parent
      simp only at located
      split at located
      · cases located
      obtain ⟨node, entered, located⟩ := ok_of_bind located
      obtain ⟨-, node?⟩ := of_entry entered
      cases node with
      | none =>
        cases located
        exact ⟨dir, name, rfl, there, .inl node?⟩
      | some n =>
        cases n with
        | dir => cases located
        | file c =>
          cases located
          exact ⟨dir, name, rfl, there, .inr (isSome_content?_iff.2 ⟨c, node?⟩)⟩
        | link target =>
          simp only at located
          split at located
          · cases located
          · exact ih located

end Walk

namespace FileTree

variable {t u : FileTree} {cwd l : Location} {p q : HostPath} {e : OsError}

/-! ## Directories that cannot be made -/

/-- A path that reaches a directory leads to it. -/
theorem leadsToDir_of_reaches {r : Route} (route : p.route = .ok r) {d : Location}
    (reaches : Walk.Reaches t cwd p d) : t.leadsToDir cwd p = .ok true := by
  obtain ⟨left, walked, ends⟩ := reaches
  rw [← Walk.route_eq route] at walked
  simp [leadsToDir, Walk.locate, route, walked, Walk.checkSlash, ends, bind, Except.bind, pure,
    Except.pure]

/-- A directory is not provided only when its path leads to no directory. -/
theorem of_provideDir_error (failed : (t.provideDir cwd p).1 = .error e) {r : Route}
    (route : p.route = .ok r) (d : Location) :
    ¬ Walk.Reaches (t.provideDir cwd p).2 cwd p d := by
  have kept : (t.provideDir cwd p).2 = t ∧ t.leadsToDir cwd p ≠ .ok true := by
    unfold provideDir at failed ⊢
    cases made : t.makeDir cwd p with
    | ok u => simp [made] at failed
    | error e' =>
      simp only [made] at failed ⊢
      split at failed
      · cases failed
      · next other => exact ⟨rfl, other⟩
  rw [kept.1]
  exact fun reaches => kept.2 (leadsToDir_of_reaches route reaches)

/-- A directory and those above it are not made only when the path leads to no directory. -/
theorem of_provideDirsTo_error {depth : Nat} (deep : p.text.length < depth)
    (failed : (provideDirsTo cwd depth t p).1 = .error e) :
    p.text.isEmpty = false ∧ ∀ r, p.route = .ok r →
      ¬ Walk.ReachesSome (provideDirsTo cwd depth t p).2 cwd p := by
  induction depth generalizing t p with
  | zero => omega
  | succ depth ih =>
    unfold provideDirsTo at failed ⊢
    split at failed
    · cases failed
    next made =>
    have made : p.text.isEmpty = false := by simpa using made
    have unreached {u : FileTree} (none : ∀ d, ¬ Walk.Reaches u cwd p d) :
        ¬ Walk.ReachesSome u cwd p := by
      rintro (empty | ⟨d, reaches⟩)
      · exact Bool.noConfusion (made.symm.trans empty)
      · exact none d reaches
    refine ⟨made, fun r route => ?_⟩
    rw [made, if_neg Bool.false_ne_true]
    split at failed
    · next parent _ above =>
      cases outcome : provideDirsTo cwd depth t parent with
      | mk done u =>
        simp only [outcome] at failed ⊢
        cases done with
        | ok _ => exact unreached (of_provideDir_error failed route)
        | error e' =>
          -- the directory above is not there, so there is none in it
          intro reaches
          obtain ⟨rest, further, longer⟩ := HostPath.toList_of_parent? above
          have shorter : parent.text.length < depth := by
            have := congrArg List.length longer
            simp only [String.length_toList, List.length_append] at this
            have := List.length_pos_of_ne_nil further
            omega
          obtain ⟨made', none⟩ := ih (t := t) shorter ((congrArg Prod.fst outcome).trans failed)
          rw [outcome] at none
          exact none _ (HostPath.route_of_parent? above route made') (reaches.parent above)
    · exact unreached (of_provideDir_error failed route)

/-- Where the directories of a path cannot be made, the path leads to no directory. -/
theorem of_makeDirs_error (failed : (t.makeDirs cwd p).1 = .error e) {r : Route}
    (route : p.route = .ok r) : ¬ Walk.ReachesSome (t.makeDirs cwd p).2 cwd p :=
  (of_provideDirsTo_error (Nat.lt_succ_self _) failed).2 r route

/-! ## Opening -/

/-- What opening a file for writing gives, and the tree that it leaves. -/
theorem touch_of_locateFile (located : Walk.locateFile t cwd p = .ok l) :
    t.touch cwd p = (.ok l, if (t.node? l).isSome then t else t.put l (.file (.text ""))) := by
  rw [touch, located]

theorem touch_of_locateFile_error (located : Walk.locateFile t cwd p = .error e) :
    t.touch cwd p = (.error e, t) := by
  rw [touch, located]

/-- A file that is opened is made, or was there. -/
theorem Extends.touch (t : FileTree) (cwd : Location) (p : HostPath) :
    Extends t (t.touch cwd p).2 := by
  cases located : Walk.locateFile t cwd p with
  | error e =>
    rw [touch_of_locateFile_error located]
    exact refl t
  | ok l =>
    rw [touch_of_locateFile located]
    obtain ⟨r, -, located⟩ := Walk.ok_of_bind located
    obtain ⟨dir, name, rfl, there, -⟩ := Walk.of_locateFileTo located
    cases free : t.node? (dir ++ [name]) with
    | some n => exact refl t
    | none => exact put _ there free

/-- What is opened is the file that the path leads to afterwards. -/
theorem leadsToFile_of_touch (opened : (t.touch cwd p).1 = .ok l) :
    (t.touch cwd p).2.LeadsToFile cwd p l := by
  have more := Extends.touch t cwd p
  cases located : Walk.locateFile t cwd p with
  | error e =>
    rw [touch_of_locateFile_error located] at opened
    cases opened
  | ok m =>
    rw [touch_of_locateFile located] at opened more ⊢
    cases opened
    refine Walk.leadsToFile_of_locateFile more.keepsWays located ?_
    obtain ⟨r, -, located⟩ := Walk.ok_of_bind located
    obtain ⟨dir, name, rfl, -, free | file⟩ := Walk.of_locateFileTo located
    · simp [free, content?, node?_put_self]
    · exact more.isSome_content? file

/-- A file is opened exactly when its path leads to it afterwards. -/
theorem touch_eq_ok_iff (grounded : t.Grounded) :
    (t.touch cwd p).1 = .ok l ↔ (t.touch cwd p).2.LeadsToFile cwd p l := by
  refine ⟨leadsToFile_of_touch, fun leads => ?_⟩
  cases opened : (t.touch cwd p).1 with
  | ok m =>
    have same := (leadsToFile_of_touch opened).1.symm.trans leads.1
    exact same
  | error e =>
    -- nothing was made, so the path led to the file before
    cases located : Walk.locateFile t cwd p with
    | ok m =>
      rw [touch_of_locateFile located] at opened
      cases opened
    | error e' =>
      rw [touch_of_locateFile_error located] at leads
      cases located.symm.trans (Walk.locateFile_of_leadsToFile grounded leads)

end FileTree

namespace RunLock
open FileTree

variable {t : FileTree} {cwd l : Location} {p : HostPath} {e : OsError}

/-- Making the directories of a lock changes nothing that is there. -/
theorem extends_prepare (t : FileTree) (cwd : Location) (p : HostPath) :
    Extends t (prepare t cwd p).2 := by
  unfold prepare
  split
  · split
    · exact Extends.refl t
    · exact Extends.makeDirs t cwd _
  · exact Extends.refl t

/-- Where the directories of a file cannot be made, its path leads to no file. -/
theorem not_leadsToFile_of_prepare_error (failed : (prepare t cwd p).1 = .error e) :
    ¬ (prepare t cwd p).2.LeadsToFile cwd p l := by
  rintro ⟨located, file⟩
  unfold prepare at failed located file
  cases above : p.parent? with
  | none => simp [above] at failed
  | some parent =>
    simp only [above] at failed located file
    split at failed
    · cases failed
    next made =>
    rw [if_neg made] at located file
    obtain ⟨r, route, located⟩ := Walk.ok_of_bind located
    have made : parent.text.isEmpty = false := by simpa using made
    refine of_makeDirs_error failed (HostPath.route_of_parent? above route made) (.inr ?_)
    obtain ⟨absolute, front⟩ := (HostPath.route_parent? above).resolve_left (by simp [made])
    -- the last step to the file is made from a directory, and the directories are on the way to it
    obtain ⟨⟨m, left⟩, walked, -⟩ := Walk.ok_of_bind located
    rw [Walk.route_eq route,
      ← List.dropLast_concat_getLast (HostPath.names_ne_nil_of_parent? above),
      Walk.descend_append] at walked
    obtain ⟨⟨dir, left'⟩, before, last⟩ := Walk.ok_of_bind walked
    rw [Walk.descend_singleton] at last
    exact Walk.reaches_of_descend before (Walk.isDir_of_step last) absolute front

/-- Opening the file of a lock changes nothing that is there. -/
theorem extends_openFile (t : FileTree) (cwd : Location) (p : HostPath) :
    Extends t (openFile t cwd p).2 := by
  have first := extends_prepare t cwd p
  unfold openFile
  split
  · next made =>
    rw [made] at first
    exact first.trans (Extends.touch _ cwd p)
  · next failed =>
    rw [failed] at first
    exact first

/-- What is opened for a lock is the file that the path leads to afterwards. -/
theorem leadsToFile_of_openFile (opened : (openFile t cwd p).1 = .ok l) :
    (openFile t cwd p).2.LeadsToFile cwd p l := by
  unfold openFile at opened ⊢
  split at opened
  · exact leadsToFile_of_touch opened
  · cases opened

/-- A lock file is opened exactly when its path leads to it once everything is made. -/
theorem openFile_eq_ok_iff (grounded : t.Grounded) :
    (openFile t cwd p).1 = .ok l ↔ (openFile t cwd p).2.LeadsToFile cwd p l := by
  refine ⟨leadsToFile_of_openFile, fun leads => ?_⟩
  have first := extends_prepare t cwd p
  cases prepared : prepare t cwd p with
  | mk done u =>
    rw [prepared] at first
    simp only [openFile, prepared] at leads ⊢
    cases done with
    | ok _ => exact (touch_eq_ok_iff (first.grounded grounded)).2 leads
    | error e =>
      have none := not_leadsToFile_of_prepare_error (l := l) (congrArg Prod.fst prepared)
      rw [prepared] at none
      exact absurd leads none

end RunLock
end Provision
