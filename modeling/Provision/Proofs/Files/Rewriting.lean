import Provision.Proofs.Files.Opening

/-!
# Files that are rewritten

A file stands in no way, so writing it changes the way to no file: every path leads to
the same place for writing as before, and what is read along it is what stands there.  In
a tree without links on the way, that place is spelled out by the path.

Main results:

- `Walk.locateFile_iff_of_sameWays`: the place of a file does not depend on files.
- `FileTree.readFile_eq_ok_iff`: what is read is what stands at the place for writing.
- `Walk.place_of_locateFile`: the place of a file behind names without links.
-/

namespace Provision

open FileTree

namespace Walk

variable {t u : FileTree} {f : Follow} {cwd l : Location} {p : HostPath} {name : String}

/-! ## Places that stay -/

theorem locateParent_of_sameWays (same : SameWays t u) {cur dir : Location} {links left : Nat}
    {r : Route} (found : locateParent t cur links r = .ok (some (dir, name, left))) :
    locateParent u cur links r = .ok (some (dir, name, left)) := by
  obtain ⟨names, walked, there⟩ := of_locateParent found
  have last : r.names.getLast? = some name := by rw [names, List.getLast?_concat]
  have again := descend_of_keepsWays same.kept walked there
  simp [locateParent, last, again, same.kept.isDir there, bind, Except.bind]

/-- The place of a file is found in a tree with the same directories and links. -/
theorem locateFileTo_of_sameWays (same : SameWays t u) {depth links : Nat} {cur : Location}
    {r : Route} (located : locateFileTo t depth cur links r = .ok l) :
    locateFileTo u depth cur links r = .ok l := by
  -- on the links that stand in the place of the file
  induction depth generalizing cur links r with
  | zero => cases located
  | succ depth ih =>
    obtain ⟨found, parent, located⟩ := ok_of_bind located
    cases found with
    | none => cases located
    | some found =>
      obtain ⟨dir, name, left⟩ := found
      simp only at located
      split at located
      · cases located
      next plain =>
      obtain ⟨node, entered, located⟩ := ok_of_bind located
      obtain ⟨short, node?⟩ := of_entry entered
      have entered' : entry u dir name = .ok (u.node? (dir ++ [name])) :=
        if_neg (Nat.not_lt.2 short)
      simp only [locateFileTo, locateParent_of_sameWays same parent, if_neg plain, entered', bind,
        Except.bind]
      -- where the one tree has no way, the other has a file or nothing
      have free (leaf : ∀ n, node = some n → n.isWay = false) :
          u.node? (dir ++ [name]) = none ∨ ∃ c, u.node? (dir ++ [name]) = some (.file c) := by
        cases there : u.node? (dir ++ [name]) with
        | none => exact .inl rfl
        | some n =>
          cases way : n.isWay with
          | true =>
            have back := node?.symm.trans (same.back _ n way there)
            exact Bool.noConfusion ((leaf n back).symm.trans way)
          | false =>
            cases n with
            | file c => exact .inr ⟨c, rfl⟩
            | dir => cases way
            | link target => cases way
      cases node with
      | none =>
        cases located
        rcases free (by simp) with nothing | ⟨c, file⟩
        · rw [nothing]
        · rw [file]
      | some n =>
        cases n with
        | dir => cases located
        | file c =>
          cases located
          rcases free fun n file => by cases file; rfl with nothing | ⟨c, file⟩
          · rw [nothing]
          · rw [file]
        | link target =>
          rw [same.kept _ _ rfl node?]
          simp only at located ⊢
          split at located
          · cases located
          next some =>
          rw [if_neg some]
          exact ih located

/-- The place of a file does not depend on the files of a tree. -/
theorem locateFile_iff_of_sameWays (same : SameWays t u) :
    locateFile u cwd p = .ok l ↔ locateFile t cwd p = .ok l := by
  have across {t u : FileTree} (same : SameWays t u) (located : locateFile t cwd p = .ok l) :
      locateFile u cwd p = .ok l := by
    obtain ⟨r, route, located⟩ := ok_of_bind located
    simp only [locateFile, route, bind, Except.bind]
    exact locateFileTo_of_sameWays same located
  exact ⟨across same.symm, across same⟩

/-- The place of a file is in a directory, and no directory or link. -/
theorem of_locateFile (located : locateFile t cwd p = .ok l) :
    l ≠ [] ∧ t.isDir l.dropLast = true ∧ ∀ n, t.node? l = some n → n.isWay = false := by
  obtain ⟨r, -, located⟩ := ok_of_bind located
  obtain ⟨dir, name, rfl, made, free⟩ := of_locateFileTo located
  refine ⟨by simp, by simpa using made, fun n there => ?_⟩
  rcases free with nothing | file
  · cases nothing.symm.trans there
  · obtain ⟨c, file⟩ := isSome_content?_iff.1 file
    cases file.symm.trans there
    rfl

/-! ## Places behind names -/

/-- A step along a name that is no link leads to what stands there. -/
theorem eq_of_step {cur : Location} {links : Nat} {found : Location × Nat}
    (undotted : isDots name = false)
    (plain : ∀ target, t.node? (cur ++ [name]) ≠ some (.link target))
    (walked : step t f cur links name = .ok found) : found.1 = cur ++ [name] := by
  simp only [isDots, Bool.or_eq_false_iff, beq_eq_false_iff_ne] at undotted
  simp only [step, isDir_of_step walked, undotted.1, undotted.2, Bool.not_true,
    Bool.false_eq_true, if_false] at walked
  split at walked
  · cases walked
  split at walked
  · cases walked
  · next there => exact absurd there (plain _)
  · cases walked
    rfl

/-- Whether no link stands where names lead from a location. -/
def Unlinked (t : FileTree) (cur : Location) (names : List String) : Prop :=
  ∀ front, front <+: names → front ≠ [] → ∀ target, t.node? (cur ++ front) ≠ some (.link target)

/-- A walk along names that are no links leads to where the names say. -/
theorem eq_of_descend {names : List String} (undotted : ∀ n ∈ names, isDots n = false)
    {cur : Location} {links : Nat} {found : Location × Nat} (plain : Unlinked t cur names)
    (walked : descend t f cur links names = .ok found) : found.1 = cur ++ names := by
  induction names generalizing cur links with
  | nil =>
    cases walked
    exact (List.append_nil cur).symm
  | cons name rest ih =>
    obtain ⟨first, later⟩ := List.forall_mem_cons.1 undotted
    rw [descend] at walked
    cases stepped : step t f cur links name with
    | error e => simp [stepped] at walked
    | ok next =>
      simp only [stepped] at walked
      have here : next.1 = cur ++ [name] :=
        eq_of_step first (plain [name] (by simp) (by simp)) stepped
      have ends := ih later (fun front ahead made => ?_) walked
      · rw [ends, here, List.append_assoc]
        rfl
      · rw [here, List.append_assoc]
        exact plain (name :: front) (by simpa using ahead) (by simp)

/-- Behind a directory and names that are no links stands the file that the path names. -/
theorem place_of_locateFile {whole : HostPath} {front : List String}
    (route : Route.ofText whole.text = ⟨(Route.ofText p.text).absolute,
      (Route.ofText p.text).names ++ (front ++ [name]), false⟩)
    (undotted : ∀ n ∈ front ++ [name], isDots n = false)
    (plain : ∀ dir, Unlinked t dir (front ++ [name]))
    (located : locateFile t cwd whole = .ok l) :
    ∃ dir, Reaches t cwd p dir ∧ l = dir ++ (front ++ [name]) := by
  obtain ⟨r, spelled, located⟩ := ok_of_bind located
  rw [route_eq spelled, route] at located
  obtain ⟨found, parent, located⟩ := ok_of_bind located
  cases found with
  | none => cases located
  | some found =>
    obtain ⟨above, last, left⟩ := found
    obtain ⟨names, walked, there⟩ := of_locateParent parent
    simp only [← List.append_assoc, List.dropLast_concat, List.append_cancel_left_eq,
      List.cons.injEq, and_true] at names walked
    subst names
    rw [descend_append] at walked
    obtain ⟨⟨dir, fewer⟩, before, walked⟩ := ok_of_bind walked
    have spot : above = dir ++ front := by
      refine eq_of_descend (fun n among => undotted n (List.mem_append_left _ among)) ?_ walked
      exact fun names ahead => plain dir names (ahead.trans (List.prefix_append _ _))
    refine ⟨dir, ⟨fewer, before, isDir_of_descend walked there⟩, ?_⟩
    simp only at located
    split at located
    · cases located
    obtain ⟨node, entered, located⟩ := ok_of_bind located
    obtain ⟨-, node?⟩ := of_entry entered
    have here : above ++ [name] = dir ++ (front ++ [name]) := by rw [spot, List.append_assoc]
    cases node with
    | none =>
      cases located
      exact here
    | some n =>
      cases n with
      | dir => cases located
      | file c =>
        cases located
        exact here
      | link target =>
        rw [here] at node?
        exact absurd node? (plain dir _ List.prefix_rfl (by simp) target)

end Walk

namespace FileTree

variable {t u : FileTree} {cwd l : Location} {p : HostPath}

/-- What is read along a path is what stands at the place where the path would be written. -/
theorem readFile_eq_ok_iff (grounded : t.Grounded) {c : Content} :
    t.readFile cwd p = .ok c ↔ ∃ l, Walk.locateFile t cwd p = .ok l ∧ t.content? l = some c := by
  constructor
  · intro read
    obtain ⟨l, located, read⟩ := Walk.ok_of_bind read
    split at read
    · next content there =>
      cases read
      have file : t.content? l = some c := by simp [content?, there]
      exact ⟨l, Walk.locateFile_of_leadsToFile grounded ⟨located, by simp [file]⟩, file⟩
    · cases read
    · cases read
    · cases read
  · rintro ⟨l, located, file⟩
    have leads : t.LeadsToFile cwd p l :=
      Walk.leadsToFile_of_locateFile (SameWays.refl t).kept located (by simp [file])
    have there : t.node? l = some (.file c) := by
      obtain ⟨content, there⟩ := isSome_content?_iff.1 leads.2
      simp only [content?, there, Option.some.injEq] at file
      rw [there, file]
    simp [readFile, leads.1, there, bind, Except.bind]

/-- A file that is written where a path leads takes no way, and stands in a directory. -/
theorem SameWays.write (located : Walk.locateFile t cwd p = .ok l) (content : Content) :
    SameWays t (t.put l (.file content)) := by
  obtain ⟨root, -, blocked⟩ := Walk.of_locateFile located
  exact .put_file root blocked content

theorem Grounded.write (grounded : t.Grounded) (located : Walk.locateFile t cwd p = .ok l)
    (content : Content) : (t.put l (.file content)).Grounded := by
  obtain ⟨root, parent, blocked⟩ := Walk.of_locateFile located
  refine grounded.put root parent fun replaced => ?_
  cases blocked _ (isDir_iff.1 replaced)

end FileTree

end Provision
