import Provision.Proofs.Files.Walks

/-!
# Directories that are still to be made

The path of a directory may be known before the directory is there.  Where the path
leads is said of the tree in which the directory was made; the tree as it is lacks
nothing of it but this directory and directories above it.  Making directories on the
way, and writing, renaming and removing files in the directory, keep it so.

Main results:

- `FileTree.Grounded.site`: a tree lacks nothing but directories of the tree in which a
  directory was made.
- `FileTree.Grows.makeDirs`: making the directory and those above it adds nothing else.
- `FileTree.Site.readFile_child`, `FileTree.Site.writeFile_child`,
  `FileTree.Site.rename_child`: files in the directory.
-/

namespace Provision

namespace FileTree

/-! ## Grounded trees -/

/-- Whether everything but the root stands in a directory. -/
def Grounded (t : FileTree) : Prop :=
  ∀ l n, l ≠ [] → t.node? l = some n → t.isDir l.dropLast = true

variable {t u : FileTree} {l m : Location}

theorem Grounded.isDir_of_child (grounded : t.Grounded) {name : String} {n : FileNode}
    (there : t.node? (l ++ [name]) = some n) : t.isDir l = true := by
  simpa using grounded _ n (by simp) there

/-- What stands somewhere below the root is an entry of the tree. -/
theorem mem_of_node? {n : FileNode} (below : l ≠ []) (there : t.node? l = some n) :
    (l, n) ∈ t.nodes.entries := by
  rw [node?, if_neg (by simpa using below)] at there
  exact Entries.mem_of_get? there

/-- A tree is grounded when each of its entries stands in a directory. -/
theorem grounded_of_entries (inDir : ∀ e ∈ t.nodes.entries, t.isDir e.1.dropLast = true) :
    t.Grounded :=
  fun _ _ below there => inDir _ (mem_of_node? below there)

/-- The directories above a directory are there. -/
theorem Grounded.isDir_of_above (grounded : t.Grounded) (there : t.isDir l = true)
    (above : m <+: l) : t.isDir m = true := by
  obtain ⟨rest, rfl⟩ := above
  induction rest using List.reverseRecOn with
  | nil => simpa using there
  | append_singleton rest name ih =>
    rw [← List.append_assoc, isDir_iff] at there
    exact ih (grounded.isDir_of_child there)

/-- Below what is no directory there is nothing. -/
theorem Grounded.node?_below (grounded : t.Grounded) (leaf : t.isDir l = false) (below : l <+: m)
    (ne : m ≠ l) : t.node? m = none := by
  obtain ⟨rest, rfl⟩ := below
  induction rest using List.reverseRecOn with
  | nil => exact absurd (List.append_nil l) ne
  | append_singleton rest name ih =>
    rw [← List.append_assoc]
    cases there : t.node? (l ++ rest ++ [name]) with
    | none => rfl
    | some n =>
      have inDir := grounded.isDir_of_child there
      by_cases last : rest = []
      · rw [last, List.append_nil, leaf] at inDir
        cases inDir
      · rw [isDir_iff, ih (by simpa using last)] at inDir
        cases inDir

/-- Something that is put into a directory keeps a tree grounded, unless a directory is replaced. -/
theorem Grounded.put (grounded : t.Grounded) {n : FileNode} (root : l ≠ [])
    (parent : t.isDir l.dropLast = true) (replaced : t.isDir l = true → n = .dir) :
    (t.put l n).Grounded := by
  have kept {k : Location} (there : t.isDir k = true) : (t.put l n).isDir k = true := by
    by_cases same : k = l
    · subst same
      rw [isDir_iff, node?_put_self t n root, replaced there]
    · rwa [isDir_iff, node?_put_of_ne t n same, ← isDir_iff]
  intro m n' below there
  by_cases same : m = l
  · exact kept (same ▸ parent)
  · rw [node?_put_of_ne t n same] at there
    exact kept (grounded m n' below there)

/-- Removing what is no directory removes nothing else. -/
theorem Grounded.node?_prune_of_ne (grounded : t.Grounded) (leaf : t.isDir l = false) (ne : m ≠ l) :
    (t.prune l).node? m = t.node? m := by
  by_cases below : m = []
  · simp [below, node?]
  · rw [node?_prune t below]
    split
    · next inside => exact (grounded.node?_below leaf (List.isPrefixOf_iff_prefix.1 inside) ne).symm
    · rfl

/-- Removing something keeps a tree grounded. -/
theorem Grounded.prune (grounded : t.Grounded) (l : Location) : (t.prune l).Grounded := by
  intro m n below there
  rw [node?_prune t below] at there
  split at there
  · cases there
  next outside =>
  have parent := isDir_iff.1 (grounded m n below there)
  by_cases top : m.dropLast = []
  · rw [top]
    rfl
  · rw [isDir_iff, node?_prune t top, if_neg, parent]
    intro inside
    exact outside (List.isPrefixOf_iff_prefix.2
      ((List.isPrefixOf_iff_prefix.1 inside).trans (List.dropLast_prefix m)))

/-! ## Trees with more directories -/

/-- The tree with a directory where nothing stands. -/
def fill (t : FileTree) (l : Location) : FileTree :=
  if (t.node? l).isSome then t else t.put l .dir

/-- The tree in which a directory and those above it are there, unless something else is in their
place. -/
def withDirs (t : FileTree) (dir : Location) : FileTree := dir.inits.foldl fill t

theorem node?_fill (t : FileTree) (l m : Location) :
    (t.fill l).node? m = if m = l ∧ t.node? m = none then some .dir else t.node? m := by
  unfold fill
  cases there : t.node? l with
  | some n =>
    by_cases same : m = l
    · simp [same, there]
    · simp [same]
  | none =>
    by_cases same : m = l
    · have root : l ≠ [] := fun h => by simp [h, node?] at there
      subst same
      simp [there, node?_put_self t _ root]
    · simp [same, node?_put_of_ne t _ same]

theorem node?_foldl_fill (places : List Location) (t : FileTree) (m : Location) :
    (places.foldl fill t).node? m =
      if m ∈ places ∧ t.node? m = none then some .dir else t.node? m := by
  induction places generalizing t with
  | nil => simp
  | cons l places ih =>
    rw [List.foldl_cons, ih, node?_fill]
    by_cases here : m = l
    · by_cases nothing : t.node? m = none
      · simp [here, here ▸ nothing]
      · simp [nothing]
    · simp [here]

theorem node?_withDirs (t : FileTree) (dir m : Location) :
    (t.withDirs dir).node? m = if m <+: dir ∧ t.node? m = none then some .dir else t.node? m := by
  simp only [withDirs, node?_foldl_fill, List.mem_inits]

/-- Making a directory changes nothing in it. -/
theorem node?_withDirs_child (t : FileTree) (dir : Location) (name : String) :
    (t.withDirs dir).node? (dir ++ [name]) = t.node? (dir ++ [name]) := by
  rw [node?_withDirs, if_neg]
  rintro ⟨below, -⟩
  have longer := below.length_le
  rw [List.length_append, List.length_singleton] at longer
  omega

/-! ## Trees in which a directory may still be missing -/

/-- A tree that lacks nothing that a walk can pass in the tree `whole`, except perhaps the
directory `dir` and directories above it. -/
structure Site (whole : FileTree) (dir : Location) (t : FileTree) : Prop where
  grounded : t.Grounded
  within : KeepsWays t whole
  missing : ∀ l n, n.isWay = true → whole.node? l = some n →
    t.node? l = some n ∨ n = .dir ∧ l <+: dir

/-- A grounded tree lacks nothing but directories of the tree in which a directory is there. -/
theorem Grounded.site (grounded : t.Grounded) (dir : Location) : Site (t.withDirs dir) dir t where
  grounded := grounded
  within l n _ there := by simp [node?_withDirs, there]
  missing l n _ there := by
    rw [node?_withDirs] at there
    split at there
    · next lacking => exact .inr ⟨(Option.some.inj there).symm, lacking.1⟩
    · exact .inl there

namespace Site

variable {whole : FileTree} {dir : Location} {name : String}

/-- Once the directory is there, nothing is missing. -/
theorem keepsWays (site : Site whole dir t) (made : t.isDir dir = true) : KeepsWays whole t := by
  intro l n way there
  rcases site.missing l n way there with there | ⟨rfl, above⟩
  · exact there
  · exact isDir_iff.1 (site.grounded.isDir_of_above made above)

/-- A tree with the same directories and links lacks no more. -/
theorem of_sameWays (site : Site whole dir t) (same : SameWays t u) (grounded : u.Grounded) :
    Site whole dir u where
  grounded := grounded
  within l n way there := site.within l n way (same.back l n way there)
  missing l n way there := (site.missing l n way there).imp_left (same.kept l n way)

/-- A file that is written into the directory takes no way. -/
theorem put_file (site : Site whole dir t) (made : t.isDir dir = true)
    (blocked : ∀ n, t.node? (dir ++ [name]) = some n → n.isWay = false) (content : Content) :
    Site whole dir (t.put (dir ++ [name]) (.file content)) := by
  have root : dir ++ [name] ≠ [] := by simp
  refine site.of_sameWays (.put_file root blocked content) ?_
  refine site.grounded.put root (by simpa using made) fun replaced => ?_
  cases blocked _ (isDir_iff.1 replaced)

/-- A file that is removed from the directory takes no way. -/
theorem prune_file (site : Site whole dir t) {content : Content}
    (there : t.node? (dir ++ [name]) = some (.file content)) :
    Site whole dir (t.prune (dir ++ [name])) := by
  have leaf : t.isDir (dir ++ [name]) = false := by simp [isDir, there]
  refine site.of_sameWays ⟨fun l n way found => ?_, fun l n way found => ?_⟩
    (site.grounded.prune _)
  · have ne : l ≠ dir ++ [name] := by
      rintro rfl
      cases there.symm.trans found
      cases way
    rwa [site.grounded.node?_prune_of_ne leaf ne]
  · have ne : l ≠ dir ++ [name] := by
      rintro rfl
      rw [node?_prune t (by simp), if_pos (List.isPrefixOf_iff_prefix.2 List.prefix_rfl)] at found
      cases found
    rwa [site.grounded.node?_prune_of_ne leaf ne] at found

/-- Making a directory of the whole tree leaves one less to be missing. -/
theorem put_dir (site : Site whole dir t) (parent : t.isDir l = true)
    (wanted : whole.isDir (l ++ [name]) = true) :
    Site whole dir (t.put (l ++ [name]) .dir) := by
  have root : l ++ [name] ≠ [] := by simp
  refine ⟨site.grounded.put root (by simpa using parent) fun _ => rfl, fun m n way there => ?_,
    fun m n way there => ?_⟩
  · by_cases same : m = l ++ [name]
    · subst same
      rw [node?_put_self t _ root] at there
      rw [← there, isDir_iff.1 wanted]
    · exact site.within m n way (by rwa [node?_put_of_ne t _ same] at there)
  · by_cases same : m = l ++ [name]
    · subst same
      rw [node?_put_self t _ root, ← there, isDir_iff.1 wanted]
      exact .inl rfl
    · rw [node?_put_of_ne t _ same]
      exact site.missing m n way there

end Site

end FileTree

/-! ## Places of files -/

namespace Walk

open FileTree

variable {t whole : FileTree} {cwd dir : Location} {p : HostPath} {name : String}

/-- In a tree in which the directory may be missing, a walk along its path leads to it, or it is
missing. -/
theorem descend_site (site : Site whole dir t) (reaches : Reaches whole cwd p dir) :
    (t.isDir dir = true ∧ ∃ left, descend t (follow t) (start cwd (.ofText p.text)) linkLimit
      (Route.ofText p.text).names = .ok (dir, left)) ∨
    (t.isDir dir = false ∧ ∀ d left, descend t (follow t) (start cwd (.ofText p.text)) linkLimit
      (Route.ofText p.text).names = .ok (d, left) → t.isDir d = false) := by
  obtain ⟨left, walked, ends⟩ := reaches
  cases made : t.isDir dir with
  | true => exact .inl ⟨rfl, left, descend_of_keepsWays (site.keepsWays made) walked ends⟩
  | false =>
    refine .inr ⟨rfl, fun d left' walked' => ?_⟩
    -- a walk that reached some directory would reach it in the whole tree too, where it is `dir`
    by_contra there
    rw [Bool.not_eq_false] at there
    have again := descend_of_keepsWays site.within walked' there
    cases walked.symm.trans again
    exact Bool.noConfusion (made.symm.trans there)

/-- The directory that a file with a name stands in is the one that the path leads to. -/
theorem locateParent_child (site : Site whole dir t) (reaches : Reaches whole cwd p dir)
    (file : FileName name) {found : Option (Location × String × Nat)}
    (h : locateParent t (start cwd (.ofText (p.child name).text)) linkLimit
      (.ofText (p.child name).text) = .ok found) :
    ∃ left, found = some (dir, name, left) ∧ t.isDir dir = true := by
  have begins : start cwd (.ofText (p.child name).text) = start cwd (.ofText p.text) := by
    rw [p.route_child file.named]
    rfl
  rw [begins, p.route_child file.named] at h
  simp only [locateParent, List.getLast?_append, List.getLast?_singleton, Option.some_or,
    List.dropLast_concat] at h
  obtain ⟨⟨d, left⟩, walked, h⟩ := ok_of_bind h
  simp only at h
  split at h
  · next there =>
    rcases descend_site site reaches with ⟨made, _, again⟩ | ⟨-, blocked⟩
    · cases walked.symm.trans again
      exact ⟨left, (Except.ok.inj h).symm, made⟩
    · rw [blocked d left walked] at there
      cases there
  · cases h

/-- The place of a file that is to be written. -/
theorem locateFile_child (site : Site whole dir t) (reaches : Reaches whole cwd p dir)
    (file : FileName name) (plain : ∀ target, t.node? (dir ++ [name]) ≠ some (.link target))
    {l : Location} (h : locateFile t cwd (p.child name) = .ok l) :
    l = dir ++ [name] ∧ t.isDir dir = true ∧
      ∀ n, t.node? (dir ++ [name]) = some n → n.isWay = false := by
  obtain ⟨r, route, h⟩ := ok_of_bind h
  rw [route_eq route] at h
  obtain ⟨found, parent, h⟩ := ok_of_bind h
  obtain ⟨left, rfl, made⟩ := locateParent_child site reaches file parent
  have slash : (Route.ofText (p.child name).text).slashAtEnd = false := by
    rw [p.route_child file.named]
  simp only [file.undotted, slash, entry, if_neg (Nat.not_lt.2 file.short), Bool.or_self,
    Bool.false_eq_true, if_false] at h
  obtain ⟨there, same, h⟩ := ok_of_bind h
  cases same
  cases node : t.node? (dir ++ [name]) with
  | none =>
    simp only [node, Except.ok.injEq] at h
    exact ⟨h.symm, made, fun n there => by cases there⟩
  | some n =>
    cases n with
    | dir => simp [node] at h
    | file content =>
      simp only [node, Except.ok.injEq] at h
      exact ⟨h.symm, made, fun n there => by cases there; rfl⟩
    | link target => exact absurd node (plain target)

/-- The place of a file that is to be renamed. -/
theorem locateLink_child (site : Site whole dir t) (reaches : Reaches whole cwd p dir)
    (file : FileName name) {l : Location} (h : locateLink t cwd (p.child name) = .ok l) :
    l = dir ++ [name] := by
  obtain ⟨r, route, h⟩ := ok_of_bind h
  rw [route_eq route] at h
  have slash : (Route.ofText (p.child name).text).slashAtEnd = false := by
    rw [p.route_child file.named]
  simp only [slash, Bool.false_eq_true, if_false] at h
  obtain ⟨found, parent, h⟩ := ok_of_bind h
  obtain ⟨left, rfl, -⟩ := locateParent_child site reaches file parent
  simp only [file.undotted, Bool.false_eq_true, if_false] at h
  obtain ⟨there, -, h⟩ := ok_of_bind h
  cases there with
  | none => cases h
  | some n => exact (Except.ok.inj h).symm

/-- The place of a file that is to be read. -/
theorem locate_child (site : Site whole dir t) (reaches : Reaches whole cwd p dir)
    (file : FileName name) (plain : ∀ target, t.node? (dir ++ [name]) ≠ some (.link target)) :
    (∀ l, locate t cwd (p.child name) = .ok l → l = dir ++ [name]) ∧
      (locate t cwd (p.child name) = .error .noEntry → t.node? (dir ++ [name]) = none) := by
  have slash : (Route.ofText (p.child name).text).slashAtEnd = false := by
    rw [p.route_child file.named]
  cases route : (p.child name).route with
  | error e =>
    have ne : e ≠ .noEntry := fun h => route_child_ne_noEntry file (h ▸ route)
    simp [locate, route, bind, Except.bind, ne]
  | ok r =>
    have same := route_eq route
    subst same
    simp only [locate, route, bind, Except.bind, descend_child file, checkSlash, slash,
      Bool.false_and, Bool.false_eq_true, if_false]
    rcases descend_site site reaches with ⟨made, left, walked⟩ | ⟨missing, blocked⟩
    · simp only [walked, descend, step_file _ file made plain]
      cases node : t.node? (dir ++ [name]) with
      | none => simp
      | some n => simp [OsError.noEntry, eq_comm, pure, Except.pure]
    · have nothing : t.node? (dir ++ [name]) = none :=
        site.grounded.node?_below missing (List.prefix_append _ _) (by simp)
      refine ⟨fun l found => ?_, fun _ => nothing⟩
      cases walked : descend t (follow t) (start cwd (.ofText p.text)) linkLimit
        (Route.ofText p.text).names with
      | error e => simp [walked] at found
      | ok reached =>
        have leaf := blocked reached.1 reached.2 walked
        simp [walked, descend, step, leaf] at found

end Walk

namespace FileTree

variable {t t' whole : FileTree} {cwd dir : Location} {p : HostPath}

/-- What the making of directories does: it adds directories of the whole tree. -/
structure Grows (whole : FileTree) (dir : Location) (t u : FileTree) : Prop where
  site : Site whole dir u
  kept : ∀ l, whole.isDir l = false → u.node? l = t.node? l

theorem Grows.refl (site : Site whole dir t) : Grows whole dir t t := ⟨site, fun _ _ => rfl⟩

theorem Grows.trans {u v : FileTree} (first : Grows whole dir t u) (second : Grows whole dir u v) :
    Grows whole dir t v :=
  ⟨second.site, fun l other => (second.kept l other).trans (first.kept l other)⟩

/-- A directory that is made on the way to another is one of the whole tree. -/
theorem Grows.makeDir (site : Site whole dir t) {d : Location}
    (reaches : Walk.Reaches whole cwd p d) (made : t.makeDir cwd p = .ok t') :
    Grows whole dir t t' := by
  obtain ⟨r, route, made⟩ := Walk.ok_of_bind made
  rw [Walk.route_eq route] at made
  obtain ⟨found, parent, made⟩ := Walk.ok_of_bind made
  cases found with
  | none => cases made
  | some found =>
    obtain ⟨above, name, left⟩ := found
    obtain ⟨names, walked, there⟩ := Walk.of_locateParent parent
    simp only at made
    split at made
    · cases made
    next undotted =>
    obtain ⟨node, entered, made⟩ := Walk.ok_of_bind made
    cases node with
    | some n => cases made
    | none =>
      cases made
      obtain ⟨short, nothing⟩ := Walk.of_entry entered
      -- the whole tree has a way there, which `t` lacks, so it is one of the missing directories
      have wanted : whole.isDir (above ++ [name]) = true := by
        obtain ⟨left', further, ends⟩ := reaches
        rw [names, Walk.descend_append,
          Walk.descend_of_keepsWays site.within walked there] at further
        have undotted : Walk.isDots name = false := by simpa using undotted
        obtain ⟨n, found, way⟩ :=
          Walk.exists_way_of_step undotted ((Walk.descend_singleton ..).symm.trans further) ends
        rcases site.missing _ n way found with here | ⟨rfl, -⟩
        · cases nothing.symm.trans here
        · exact isDir_iff.2 found
      refine ⟨site.put_dir there wanted, fun l other => node?_put_of_ne t _ ?_⟩
      rintro rfl
      exact Bool.noConfusion (wanted.symm.trans other)

/-- Providing a directory on the way to another adds at most directories of the whole tree. -/
theorem Grows.provideDir (site : Site whole dir t) {d : Location}
    (reaches : Walk.Reaches whole cwd p d) : Grows whole dir t (t.provideDir cwd p).2 := by
  unfold FileTree.provideDir
  split
  · next made => exact Grows.makeDir site reaches made
  · split <;> exact Grows.refl site

theorem Grows.provideDirsTo (site : Site whole dir t) (depth : Nat)
    (reaches : Walk.ReachesSome whole cwd p) :
    Grows whole dir t (provideDirsTo cwd depth t p).2 := by
  induction depth generalizing t p with
  | zero => exact Grows.refl site
  | succ depth ih =>
    unfold FileTree.provideDirsTo
    split
    · exact Grows.refl site
    next more =>
    obtain ⟨d, leads⟩ := reaches.resolve_left more
    split
    · next failed parent =>
      have above := ih site (reaches.parent parent)
      split
      · next provided =>
        rw [provided] at above
        exact above.trans (Grows.provideDir above.site leads)
      · exact above
    · exact Grows.provideDir site leads

/-- Making a directory on the way to another, and those above it, adds at most directories of the
whole tree. -/
theorem Grows.makeDirs (site : Site whole dir t) (reaches : Walk.ReachesSome whole cwd p) :
    Grows whole dir t (t.makeDirs cwd p).2 :=
  Grows.provideDirsTo site _ reaches

/-! ## Files in the directory -/

namespace Site

variable {name source target : String}

/-- What is read from a file in the directory is what it holds, and a file that is said to be
missing is. -/
theorem readFile_child (site : Site whole dir t) (reaches : Walk.Reaches whole cwd p dir)
    (file : Walk.FileName name) (plain : ∀ target, t.node? (dir ++ [name]) ≠ some (.link target)) :
    (∀ content, t.readFile cwd (p.child name) = .ok content →
        t.node? (dir ++ [name]) = some (.file content)) ∧
      (t.readFile cwd (p.child name) = .error .noEntry → t.node? (dir ++ [name]) = none) := by
  obtain ⟨found, missing⟩ := Walk.locate_child site reaches file plain
  unfold readFile
  cases located : Walk.locate t cwd (p.child name) with
  | error e =>
    constructor
    · intro content read
      cases read
    · intro read
      exact missing (located.trans (congrArg _ (Except.error.inj read)))
  | ok l =>
    have same := found l located
    subst same
    simp only [bind, Except.bind]
    cases node : t.node? (dir ++ [name]) with
    | none => simp
    | some n =>
      cases n with
      | dir => simp [OsError.isDirectory, OsError.noEntry]
      | file content => simp
      | link target => exact absurd node (plain target)

/-- Whatever is written to a file in the directory takes no way. -/
theorem writeFile_child (site : Site whole dir t) (reaches : Walk.Reaches whole cwd p dir)
    (file : Walk.FileName name) (plain : ∀ target, t.node? (dir ++ [name]) ≠ some (.link target))
    {l : Location} (located : Walk.locateFile t cwd (p.child name) = .ok l) (content : Content) :
    l = dir ++ [name] ∧ Site whole dir (t.put l (.file content)) := by
  obtain ⟨rfl, made, blocked⟩ := Walk.locateFile_child site reaches file plain located
  exact ⟨rfl, site.put_file made blocked content⟩

/-- A file in the directory that takes the place of another. -/
theorem rename_child (site : Site whole dir t) (reaches : Walk.Reaches whole cwd p dir)
    (old : Walk.FileName source) (new : Walk.FileName target) (ne : source ≠ target)
    {content : Content} (there : t.node? (dir ++ [source]) = some (.file content))
    (blocked : ∀ n, t.node? (dir ++ [target]) = some n → n.isWay = false)
    (renamed : t.rename cwd (p.child source) (p.child target) = .ok t') :
    Site whole dir t' ∧ t'.node? (dir ++ [target]) = some (.file content) := by
  obtain ⟨place, located, renamed⟩ := Walk.ok_of_bind renamed
  cases Walk.locateLink_child site reaches old located
  obtain ⟨r, route, renamed⟩ := Walk.ok_of_bind renamed
  rw [Walk.route_eq route] at renamed
  obtain ⟨found, parent, renamed⟩ := Walk.ok_of_bind renamed
  obtain ⟨left, rfl, made⟩ := Walk.locateParent_child site reaches new parent
  simp only [new.undotted, Bool.false_eq_true, if_false] at renamed
  obtain ⟨node, entered, renamed⟩ := Walk.ok_of_bind renamed
  have different : dir ++ [source] ≠ dir ++ [target] := by simpa using ne
  have leaf : t.isDir (dir ++ [source]) = false := by simp [isDir, there]
  have pruned : (t.prune (dir ++ [source])).node? (dir ++ [target]) = t.node? (dir ++ [target]) :=
    site.grounded.node?_prune_of_ne leaf different.symm
  have stays : (t.prune (dir ++ [source])).isDir dir = true := by
    rw [isDir_iff, site.grounded.node?_prune_of_ne leaf (by simp), ← isDir_iff, made]
  have result : t' = (t.prune (dir ++ [source])).put (dir ++ [target]) (.file content) := by
    rw [there] at renamed
    split at renamed
    · cases renamed
    · next same =>
      cases same
      rw [if_neg different] at renamed
      exact (Except.ok.inj renamed).symm
    · next same => cases same
  subst result
  refine ⟨(site.prune_file there).put_file stays (fun n h => blocked n (pruned ▸ h)) content, ?_⟩
  exact node?_put_self _ _ (by simp)

end Site

end FileTree
end Provision
