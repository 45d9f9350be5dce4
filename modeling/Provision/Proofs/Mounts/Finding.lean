import Provision.Proofs.Contract.Engine
import Provision.Proofs.Contract.Requests
import Provision.Proofs.Files.Joining
import Provision.Proofs.Mounts.Table
import Provision.Proofs.Reserving
import Provision.Simulation.Machine

/-!
# Finding a mount again

hugetlbfs is mounted below the root directory of the host, and looked for in the table
under the path as it was given.  The two name the same place exactly when the root
directory is the root, so everywhere else a mount that was just made is not found, and
pages are refused under it.

Main results:

- `Mounts.parse_trim`: blanks around the table do not matter.
- `Mounts.same_shown_hostPath_iff`: when a mount is listed as what is looked for.
- `Sysfs.answer_isMounted`: whether something is mounted is read from the table.
- `Reserving.mount_found_iff`: when a mount that was made is found.
-/

namespace Provision

open Text

/-! ## Tables with a mount -/

namespace Mounts

/-- Blanks around a table do not matter. -/
theorem parse_trim (table : String) : parse (trim table) = parse table := by
  rw [parse_eq, parse_eq, trim, String.toList_ofList]
  refine apply_trimChars (f := fun cs => (splitAll (· == '\n') cs).filterMap target?)
    (fun c cs blank => ?_) (fun c cs blank => ?_) table.toList
  · by_cases feed : c = '\n'
    · subst feed
      rfl
    · have plain : (c == '\n') = false := by simpa using feed
      show (splitAll (· == '\n') (c :: cs)).filterMap target? = _
      rw [splitAll, plain, if_neg Bool.false_ne_true]
      cases pieces : splitAll (· == '\n') cs with
      | nil => exact absurd pieces (splitAll_ne_nil _ cs)
      | cons line rest =>
        simp only [consHead, List.filterMap_cons, target?_eq, words_cons blank]
  · by_cases feed : c = '\n'
    · subst feed
      show (splitAll (· == '\n') (cs ++ ['\n'])).filterMap target? = _
      rw [splitAll_append (p := (· == '\n')) rfl, List.filterMap_append]
      exact List.append_nil _
    · have plain : (c == '\n') = false := by simpa using feed
      obtain ⟨front, last, whole, longer⟩ := splitAll_concat (p := (· == '\n')) plain cs
      simp only [whole, longer, List.filterMap_append, List.filterMap_cons, List.filterMap_nil,
        target?_eq, words_append blank]

/-- Whether a table lists a huge page mount: its mount point is a field, as the kernel writes it. -/
def Lists (table : String) (target : HostPath) : Prop :=
  ∃ line ∈ lines table.toList, ∃ source rest,
    words line = source :: escape target :: hugetlbfs.toList :: rest

/-- The table of the kernel lists every huge page mount whose mount point is a field. -/
theorem lists_print {entries : List Entry} (fits : ∀ e ∈ entries, e.Fits) {e : Entry}
    (there : e ∈ entries) (huge : e.kind = hugetlbfs) (separated : IsSeparated e.target) :
    Lists (print entries) e.target := by
  refine ⟨e.line, ?_, e.source.toList, [e.options.toList, ['0'], ['0']], ?_⟩
  · rw [lines_print fits]
    exact List.mem_map_of_mem there
  · rw [(fits e there).words_line_of_isSeparated separated, huge]

/-- A mount that is listed is read. -/
theorem Lists.mem_parse {table : String} {target : HostPath} (lists : Lists table target) :
    shown target ∈ parse table := by
  obtain ⟨line, there, source, rest, fields⟩ := lists
  refine List.mem_filterMap.2 ⟨line, there, ?_⟩
  rw [target?_eq, fields, ofWords?_escape, if_pos rfl]

/-! ## Mount points below a root -/

/-- What is read of a text ends with a slash exactly when the text does. -/
theorem getLast?_shown (cs : List Char) :
    (cs.flatMap shownChar).getLast? = some '/' ↔ cs.getLast? = some '/' := by
  rcases List.eq_nil_or_concat cs with rfl | ⟨front, c, rfl⟩
  · exact Iff.rfl
  · rw [List.concat_eq_append, List.flatMap_append, List.flatMap_singleton,
      List.getLast?_append_of_ne_nil _ (shownChar_ne_nil c), List.getLast?_concat]
    rcases escapeChar_cases c with rfl | rfl | rfl | rfl | ⟨space, -, -, -, written⟩
    · decide
    · decide
    · decide
    · decide
    · rw [shownChar, if_neg space, written]
      rfl

/-- Nothing is read exactly of nothing. -/
theorem isEmpty_shown (p : HostPath) : (shown p).text.isEmpty = p.text.isEmpty := by
  have none : p.text.toList.flatMap shownChar = [] ↔ p.text.toList = [] := by
    cases p.text.toList with
    | nil => exact Iff.rfl
    | cons c cs => simp [shownChar_ne_nil]
  rw [Bool.eq_iff_iff]
  simpa [shown] using none

/-- Taking a path from a directory does not change what is read of the directory. -/
theorem shown_join (p : HostPath) {q : HostPath} (relative : q.isAbsolute = false)
    (same : shown q = q) : shown (p.join q) = (shown p).join q := by
  have behind : q.text.toList.flatMap shownChar = q.text.toList := by
    simpa [shown] using congrArg (fun q : HostPath => q.text.toList) same
  have separator : shownChar '/' = ['/'] := by decide
  have slash : ((shown p).text.toList.getLast? == some '/') =
      (p.text.toList.getLast? == some '/') := by
    rw [Bool.eq_iff_iff, beq_iff_eq, beq_iff_eq, shown, String.toList_ofList, getLast?_shown]
  apply HostPath.eq_of_toList
  unfold HostPath.join
  rw [relative, if_neg Bool.false_ne_true, if_neg Bool.false_ne_true, isEmpty_shown, slash]
  split
  · simp [shown, behind]
  · simp [shown, behind, separator]

/-- What is read as the root is the root. -/
theorem same_root_shown_iff (p : HostPath) :
    (shown p).same ⟨"/"⟩ = true ↔ p.same ⟨"/"⟩ = true := by
  constructor
  · intro root
    have plain : ∀ c ∈ p.text.toList, shownChar c = [c] := by
      intro c there
      have spelled : ∀ d ∈ shownChar c, d = '/' ∨ d = '.' := by
        intro d written
        refine HostPath.mem_of_same_root root d ?_
        rw [shown, String.toList_ofList]
        exact List.mem_flatMap.2 ⟨c, there, written⟩
      rcases escapeChar_cases c with rfl | rfl | rfl | rfl | ⟨space, -, -, -, written⟩
      · exact absurd (spelled ' ' (by decide)) (by decide)
      · exact absurd (spelled '\\' (by decide)) (by decide)
      · exact absurd (spelled '\\' (by decide)) (by decide)
      · exact absurd (spelled '\\' (by decide)) (by decide)
      · rw [shownChar, if_neg space, written]
    rwa [shown_of_forall plain] at root
  · intro root
    have plain : ∀ c ∈ p.text.toList, shownChar c = [c] := by
      intro c there
      rcases HostPath.mem_of_same_root root c there with rfl | rfl <;> decide
    rwa [shown_of_forall plain]

/-- An absolute path without its root is as readable as the path. -/
theorem IsReadable.dropRoot {p : HostPath} (readable : IsReadable p)
    (absolute : p.isAbsolute = true) : IsReadable p.dropRoot := by
  obtain ⟨kept, eq, own, -⟩ := HostPath.dropRoot_eq absolute
  intro c there
  rw [eq, HostPath.joinPieces, String.toList_ofList] at there
  rcases eq_or_mem_of_mem_intercalate there with rfl | ⟨piece, made, inside⟩
  · decide
  · obtain ⟨mark, hmark, rfl⟩ := List.mem_map.1 made
    exact readable c (mem_of_mem_splitAll (own mark hmark).2 inside)

/-- What is mounted below a root is listed as the path that was given exactly when the root is the
root of all. -/
theorem same_shown_hostPath_iff (place : Sysfs) {p : HostPath} (absolute : p.isAbsolute = true)
    (readable : IsReadable p) :
    (shown (place.hostPath p)).same p = true ↔ place.root.same ⟨"/"⟩ = true := by
  rw [Sysfs.hostPath, shown_join _ (HostPath.dropRoot_spec absolute).1
    (shown_of_isReadable (readable.dropRoot absolute)), HostPath.same_join_dropRoot_iff _ absolute,
    same_root_shown_iff]

/-- Whether a mount below the root of a host is found in a table that lists it, by the path that was
given: when that root is the root of all, or the path is listed at another place. -/
def IsFound (place : Sysfs) (p : HostPath) (table : String) : Prop :=
  place.root.same ⟨"/"⟩ = true ∨
    ∃ q ∈ parse table, q ≠ shown (place.hostPath p) ∧ q.same p = true

/-- A path is looked for in a table that lists it below a root. -/
theorem Lists.any_same_iff {table : String} {place : Sysfs} {p : HostPath}
    (lists : Lists table (place.hostPath p)) (absolute : p.isAbsolute = true)
    (readable : IsReadable p) :
    (parse table).any (·.same p) = true ↔ IsFound place p table := by
  unfold IsFound
  rw [List.any_eq_true, ← same_shown_hostPath_iff place absolute readable]
  constructor
  · rintro ⟨q, there, same⟩
    by_cases own : q = shown (place.hostPath p)
    · exact .inl (own ▸ same)
    · exact .inr ⟨q, there, own, same⟩
  · rintro (same | ⟨q, there, -, same⟩)
    · exact ⟨_, lists.mem_parse, same⟩
    · exact ⟨q, there, same⟩

end Mounts

/-- Whether something is mounted is read from the table. -/
theorem Sysfs.answer_isMounted {σ : Type} {os : Handler osSignature σ} {s s' : σ} (place : Sysfs)
    (p : HostPath) {table : String}
    (read : os (.readFile place.mountsPath) s = (.ok (.text table), s')) :
    place.answer os (.isMounted p) s = (.ok ((Mounts.parse table).any (·.same p)), s') := by
  show Prog.run os (place.isMounted p).run s = _
  rw [isMounted, ExceptT.run_bind, Prog.run_bind, run_readValue, read, ← Mounts.parse_trim]
  rfl

/-! ## Pages under a mount -/

namespace Reserving

open StoreTerms

variable {σ : Type} {store : StoreHandler σ}

/-- The refusal to reserve pages without a mount. -/
def refusal (r : Reservation) : Error :=
  .mountUnavailable r.mountPath "not mounted; refusing to reserve pages"

/-- No failure of a resource is a refusal. -/
theorem ne_refusal {α : Type} {r : Reservation} {e : Error} (resource : e.IsStore) :
    (.error e : Except Error α) ≠ .error (refusal r) := by
  obtain ⟨operation, place, message, rfl⟩ := resource
  nofun

/-- Under a mount pages are not refused, where page counts fail as resources do. -/
theorem accepts_reserve {r : Reservation} {s : σ}
    (counting : ∀ s e, (store (.pageCount r.pool) s).1 = .error e → e.IsStore)
    (setting : ∀ s e, (store (.setPageCount r.pool r.count) s).1 = .error e → e.IsStore)
    (seen : (store (.isMounted r.mountPath) s).1 = .ok true) :
    HostProg.Ensures (of store) free (reserve r).run s fun result _ =>
      result ≠ .error (refusal r) := by
  rw [ensures_reserve, asks_of, seen]
  refine ⟨trivial, ?_⟩
  show Asks (of store) free (.pageCount r.pool) _ _
  rw [asks_of]
  refine ⟨trivial, ?_⟩
  cases read : (store (.pageCount r.pool) _).1 with
  | error e => exact ne_refusal (counting _ e read)
  | ok previous =>
    show if r.isMetBy previous then _ else _
    split
    · nofun
    · rw [ensures_resize, asks_of]
      refine ⟨trivial, ?_⟩
      cases set : (store (.setPageCount r.pool r.count) _).1 with
      | error e => exact ne_refusal (setting _ e set)
      | ok _ =>
        show Asks (of store) free (.pageCount r.pool) _ _
        rw [asks_of]
        refine ⟨trivial, ?_⟩
        cases granted : (store (.pageCount r.pool) _).1 with
        | error e => exact ne_refusal (counting _ e granted)
        | ok n =>
          show (judge r previous n).map some ≠ _
          unfold judge
          split <;> nofun

/-- Without a mount pages are refused. -/
theorem refuses_reserve {r : Reservation} {s : σ}
    (seen : (store (.isMounted r.mountPath) s).1 = .ok false) :
    HostProg.Ensures (of store) free (reserve r).run s fun result _ =>
      result = .error (refusal r) := by
  rw [ensures_reserve, asks_of, seen]
  exact ⟨trivial, rfl⟩

/-- A mount that was seen to ends with the call that makes it. -/
theorem mounts_mount (r : Reservation) (s : σ) :
    HostProg.Ensures (of store) free (mount r).run s fun result s' =>
      ∀ change, result = .ok (some change) →
        ∃ before, store (.mount r.mountPath r.pageKb) before = (.ok (), s') := by
  rw [ensures_mount, asks_of]
  refine ⟨trivial, ?_⟩
  cases seen : (store (.isMounted r.mountPath) s).1 with
  | error e => nofun
  | ok mounted =>
    show if mounted then _ else _
    split
    · nofun
    · intro reply s' asked
      refine ⟨trivial, ?_⟩
      cases reply with
      | error e => nofun
      | ok _ => exact fun _ _ => ⟨_, asked⟩

/-- hugetlbfs is mounted at the path below the root of the host, by itself or when it is seen to.
When the table of mounts lists this mount afterwards, it is found by the path that was given, and
pages are not refused for want of it, exactly when the root of the host is the root of all or the
path is listed at another place.  Under any other root the mount is not found. -/
theorem mount_found_iff {σ : Type} (place : Sysfs) (os : Handler osSignature σ) (r : Reservation)
    (absolute : r.mountPath.isAbsolute = true) (readable : Mounts.IsReadable r.mountPath) :
    let store := place.answer os
    let target := place.hostPath r.mountPath
    (∀ clock w change,
      (Prog.run (World.handler store clock) (mount r).run w).1 = .ok (some change) →
        ∃ before, store (.mount r.mountPath r.pageKb) before =
          (.ok (), (Prog.run (World.handler store clock) (mount r).run w).2.host)) ∧
      ∀ before after table later, store (.mount r.mountPath r.pageKb) before = (.ok (), after) →
        os (.readFile place.mountsPath) after = (.ok (.text table), later) →
        Mounts.Lists table target →
          OsProg.requests os (place.serve (.mount r.mountPath r.pageKb)) before =
            [.makeDirs target, .shell (Sysfs.mountCommand target r.pageKb)] ∧
          ((store (.isMounted r.mountPath) after).1 = .ok true ↔
            Mounts.IsFound place r.mountPath table) ∧
          ∀ clock w, w.host = after →
            ((Prog.run (World.handler store clock) (reserve r).run w).1 = .error (refusal r) ↔
              ¬ Mounts.IsFound place r.mountPath table) := by
  intro store target
  refine ⟨fun clock w change fine => ?_, fun before after table later mounted read lists => ?_⟩
  · exact (mounts_mount r w.host).of_run clock w change fine
  · have seen : (store (.isMounted r.mountPath) after).1 =
        .ok ((Mounts.parse table).any (·.same r.mountPath)) :=
      congrArg Prod.fst (place.answer_isMounted r.mountPath read)
    have found := lists.any_same_iff absolute readable
    refine ⟨place.requests_mount r.mountPath r.pageKb mounted, ?_, ?_⟩
    · rw [seen, Except.ok.injEq]
      exact found
    · rintro clock w rfl
      cases listed : (Mounts.parse table).any (·.same r.mountPath) with
      | true =>
        rw [listed] at seen
        have accepted := (accepts_reserve (fun _ _ => Sysfs.isStore_of_pageCount)
          (fun _ _ => Sysfs.isStore_of_setPageCount) seen).of_run clock w
        exact iff_of_false accepted (not_not_intro (found.1 listed))
      | false =>
        rw [listed] at seen
        have refused := (refuses_reserve seen).of_run clock w
        exact iff_of_true refused fun there =>
          Bool.false_ne_true (listed.symm.trans (found.2 there))

/-- The table of mounts with hugetlbfs. -/
def hugeTable (target : HostPath) : String := Mounts.print [Mounts.hugeMount target.text]

/-- A machine below a directory, on which hugetlbfs can be mounted. -/
def mountable (place : Sysfs) : Machine :=
  let target := place.hostPath largePages.mountPath
  let rule : ShellRule := {
    command := Sysfs.mountCommand target largePages.pageKb
    puts := [(place.mountsPath, .file (.text (hugeTable target)))] }
  Machine.edit [(place.mountsPath, .file (.text ""))] [] { rules := [rule] }

/-- On a machine whose root is the root of all, what was mounted is found, and pages are not refused
for want of it. -/
theorem rootMount_found :
    let place : Sysfs := ⟨⟨"/"⟩, ⟨"/state"⟩⟩
    let store := place.answer Machine.answer
    let handler := World.handler store fun _ => 0
    let first := Prog.run handler (mount largePages).run { host := mountable place }
    first.1 = .ok (some (.mounted largePages.mountPath 2048)) ∧
      (store (.isMounted largePages.mountPath) first.2.host).1 = .ok true ∧
      (Prog.run handler (reserve largePages).run first.2).1 ≠ .error (refusal largePages) := by
  intro place store handler first
  let table := hugeTable ⟨"/mnt/huge"⟩
  have fine : first.1 = .ok (some (.mounted largePages.mountPath 2048)) := by decide +kernel
  have content : first.2.host.tree.readFile first.2.host.cwd place.mountsPath =
      .ok (.text table) := by
    decide +kernel
  obtain ⟨made, listed⟩ := mount_found_iff place Machine.answer largePages (by decide) (by decide)
  obtain ⟨before, mounted⟩ := made (fun _ => 0) { host := mountable place } _ fine
  -- from here on the run is known by what was read off it
  have same : Prog.run (World.handler (place.answer Machine.answer) fun _ => 0)
      (mount largePages).run { host := mountable place } = first := rfl
  rw [same] at mounted
  clear_value first
  have lists : Mounts.Lists table (place.hostPath largePages.mountPath) := by
    have target : place.hostPath largePages.mountPath = ⟨"/mnt/huge"⟩ := by decide +kernel
    rw [target]
    exact Mounts.lists_print (e := Mounts.hugeMount "/mnt/huge") (by decide)
      (List.mem_singleton_self _) rfl (Mounts.IsReadable.isSeparated (by decide))
  obtain ⟨-, found, refused⟩ := listed before first.2.host table first.2.host mounted
    (Prod.ext content rfl) lists
  have root : Mounts.IsFound place largePages.mountPath table := .inl (by decide)
  exact ⟨fine, found.2 root, fun refuses => (refused _ first.2 rfl).1 refuses root⟩

/-- Under another root, what was just mounted is not found although the table lists it, and pages
are refused for want of it. -/
theorem scratchMount_not_found :
    let place : Sysfs := ⟨⟨"root"⟩, ⟨"state"⟩⟩
    let store := place.answer Machine.answer
    let handler := World.handler store fun _ => 0
    let target : HostPath := ⟨"root/mnt/huge"⟩
    let first := Prog.run handler (mount largePages).run { host := mountable place }
    first.1 = .ok (some (.mounted largePages.mountPath 2048)) ∧
      place.hostPath largePages.mountPath = target ∧
      (Prog.run Machine.answer (OsProg.readText place.mountsPath) first.2.host).1 =
        .ok (hugeTable target) ∧
      Mounts.parse (hugeTable target) = [target] ∧
      (store (.isMounted largePages.mountPath) first.2.host).1 = .ok false ∧
      (Prog.run handler (reserve largePages).run first.2).1 = .error (refusal largePages) := by
  decide +kernel

end Reserving

end Provision
