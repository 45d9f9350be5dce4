import Provision.Proofs.Contract.Machine
import Provision.Proofs.Files.Rewriting
import Provision.Proofs.Records.ReadBack
import Provision.Simulation.Topology

/-!
# Devices that are let go

A device is tied to a driver while it is bound, by the name of the driver in a file, and
is let go afterwards by a newline there.  It is let go in the end on every way through a
binding, and after every unbinding that succeeds.  Nothing else is written than that file
and the one file of the driver that asks for the binding or the unbinding.

The machine may refuse to write at some places, as one does that protects files, and
otherwise answers as `Machine.answer` does.

Main results:

- `Machine.Rewrites.write`, `Machine.Rewrites.trans`: a file that is rewritten, and files that
  are rewritten one after the other.
- `Sysfs.ensures_bind`, `Sysfs.ensures_unbind`: what a binding and an unbinding leave.
- `Sysfs.DriverLinksOnly.place_of_locateFile`: where the files are that are written.
- `Sysfs.leaves_unpinned`: the file that ties a device, and the other files.
-/

namespace Provision

open FileTree

variable {α β : Type}

/-! ## Machines that refuse writes -/

namespace Machine

/-- A machine that refuses to write at some places, with an error for each of them. -/
def guarded (refused : Location → Option OsError) : Handler osSignature Machine
  | .writeFile p text, m =>
    match Walk.locateFile m.tree m.cwd p with
    | .error e => (.error e, m)
    | .ok l =>
      match refused l with
      | some e => (.error e, m)
      | none => (.ok (), m.withTree (m.tree.put l (.file (.text text))))
  | c, m => answer c m

/-- The terms on which such a machine answers. -/
def guarding (refused : Location → Option OsError) : Prog.Terms osSignature Machine :=
  fun c m r m' => guarded refused c m = (r, m')

/-- Whether a path leads to a place for a file that may be written. -/
def WritesAt (refused : Location → Option OsError) (m : Machine) (p : HostPath) (l : Location) :
    Prop :=
  Walk.locateFile m.tree m.cwd p = .ok l ∧ refused l = none

/-- What has changed of a machine are files to which some paths lead and which may be written. -/
structure Rewrites (refused : Location → Option OsError) (ps : List HostPath) (m m' : Machine) :
    Prop where
  rest : m' = m.withTree m'.tree
  ways : SameWays m.tree m'.tree
  grounded : m.tree.Grounded → m'.tree.Grounded
  elsewhere : ∀ l, (∀ p ∈ ps, ¬ m.WritesAt refused p l) → m'.tree.node? l = m.tree.node? l

variable {refused : Location → Option OsError} {ps : List HostPath} {m m' m'' : Machine}
  {p : HostPath} {l : Location}

namespace Rewrites

theorem refl (m : Machine) : Rewrites refused ps m m := ⟨rfl, .refl _, id, fun _ _ => rfl⟩

/-- Relative paths start where they started. -/
theorem cwd_eq (so : Rewrites refused ps m m') : m'.cwd = m.cwd := by
  rw [so.rest]
  rfl

/-- Every path leads to where it led. -/
theorem locateFile_iff (so : Rewrites refused ps m m') :
    Walk.locateFile m'.tree m'.cwd p = .ok l ↔ Walk.locateFile m.tree m.cwd p = .ok l := by
  rw [so.cwd_eq]
  exact Walk.locateFile_iff_of_sameWays so.ways

/-- The same files may be written through the same paths. -/
theorem writesAt_iff (so : Rewrites refused ps m m') :
    m'.WritesAt refused p l ↔ m.WritesAt refused p l :=
  and_congr_left' so.locateFile_iff

/-- Files may be rewritten one after the other. -/
theorem trans (first : Rewrites refused ps m m') (second : Rewrites refused ps m' m'') :
    Rewrites refused ps m m'' where
  rest := by
    rw [second.rest, first.rest]
    rfl
  ways := first.ways.trans second.ways
  grounded start := second.grounded (first.grounded start)
  elsewhere l other := by
    rw [second.elsewhere l fun p among at' => other p among (first.writesAt_iff.1 at'),
      first.elsewhere l other]

/-- A file that may be written is written. -/
theorem write (among : p ∈ ps) (writes : m.WritesAt refused p l) (content : Content) :
    Rewrites refused ps m (m.withTree (m.tree.put l (.file content))) where
  rest := rfl
  ways := .write writes.1 content
  grounded start := start.write writes.1 content
  elsewhere _ other :=
    node?_put_of_ne _ _ fun same => other p among (same ▸ writes)

end Rewrites

end Machine

/-! ## Programs -/

namespace Sysfs

open Machine

variable {refused : Location → Option OsError} {ps : List HostPath} {m₀ m : Machine} {s : Sysfs}
  {a : PciAddress} {driver : String}

/-- Writing a value fails and leaves the machine as it is, or writes the file. -/
theorem ensures_writeValue {p : HostPath} {value : String} {Q : Except Error Unit → Machine → Prop}
    (fails : ∀ e, (∀ l, ¬ m.WritesAt refused p l) → Q (.error e) m)
    (writes : ∀ l, m.WritesAt refused p l →
      Q (.ok ()) (m.withTree (m.tree.put l (.file (.text value))))) :
    Prog.Ensures (guarding refused) Prog.free (writeValue p value).run m Q := by
  refine (ensures_attempt _ _ _).2 fun r m' answered => ⟨trivial, ?_⟩
  have answered : guarded refused (.writeFile p value) m = (r, m') := answered
  simp only [guarded] at answered
  cases located : Walk.locateFile m.tree m.cwd p with
  | error e =>
    simp only [located] at answered
    cases answered
    exact fails _ fun l at' => by cases located.symm.trans at'.1
  | ok l =>
    cases allowed : refused l with
    | some e =>
      simp only [located, allowed] at answered
      cases answered
      refine fails _ fun l' at' => ?_
      cases located.symm.trans at'.1
      cases allowed.symm.trans at'.2
    | none =>
      simp only [located, allowed] at answered
      cases answered
      exact writes l ⟨located, allowed⟩

/-- A program that leaves the machine as it is. -/
def Looks (refused : Location → Option OsError) (p : OsM α) : Prop :=
  ∀ m, Prog.Ensures (guarding refused) Prog.free p.run m fun _ m' => m' = m

theorem looks_pure (a : α) : Looks refused (pure a) := fun _ => rfl

theorem looks_throw (e : Error) : Looks refused (throw e : OsM α) := fun _ => rfl

/-- A sequence writes nothing when its parts do not. -/
theorem looks_then {p : OsM α} {f : α → OsM β} (first : Looks refused p)
    (second : ∀ a, Looks refused (f a)) : Looks refused (p >>= f) := by
  intro m
  refine (Prog.ensures_then _ _).2 ((first m).mono ?_)
  rintro r m' rfl
  exact ⟨fun a _ => second a m', fun _ _ => rfl⟩

/-- A call that reads leaves the machine as it is. -/
theorem looks_call {c : OsCall} (reads : ∀ m, (guarded refused c m).2 = m) :
    Looks refused (liftM (OsProg.call c) : OsM c.Reply) := by
  intro m
  refine (Prog.ensures_lift _).2 fun r m' answered => ⟨trivial, ?_⟩
  have answered : guarded refused c m = (r, m') := answered
  show m' = m
  rw [← reads m, answered]

/-- Asking what a device is bound to writes nothing. -/
theorem looks_boundDriver (s : Sysfs) (a : PciAddress) : Looks refused (s.boundDriver a) := by
  refine looks_then (looks_call fun _ => rfl) fun found => ?_
  split
  · exact looks_throw _
  · exact looks_throw _
  · refine looks_then (looks_call fun _ => rfl) fun target => ?_
    split
    · exact looks_pure _
    · exact looks_pure _
    · exact looks_throw _

/-- A value that is written, or not, rewrites a file. -/
theorem rewrites_writeValue {p : HostPath} (so : m₀.Rewrites refused ps m) (among : p ∈ ps)
    (value : String) :
    Prog.Ensures (guarding refused) Prog.free (writeValue p value).run m
      fun _ m' => m₀.Rewrites refused ps m' :=
  ensures_writeValue (fun _ _ => so) fun _ writes => so.trans (.write among writes _)

/-- A program that goes on whatever becomes of it ends where it ended. -/
theorem ensures_ignore {p : OsM Unit} {Q : Machine → Prop}
    (contract : Prog.Ensures (guarding refused) Prog.free p.run m fun _ m' => Q m') :
    Prog.Ensures (guarding refused) Prog.free (ignore p).run m
      fun r m' => r = .ok () ∧ Q m' :=
  (Prog.ensures_recover _ _).2 (contract.mono fun _ _ ends => ⟨fun _ _ => ⟨rfl, ends⟩,
    fun _ _ => ⟨rfl, ends⟩⟩)

/-- A device is let go: the file that ties it holds a newline, where it could be written at first,
and nothing but files at some paths has changed. -/
def LetsGo (refused : Location → Option OsError) (ps : List HostPath) (s : Sysfs) (a : PciAddress)
    (m₀ m : Machine) : Prop :=
  m₀.Rewrites refused ps m ∧
    ∀ l, m₀.WritesAt refused (s.overridePath a) l → m.tree.content? l = some (.text "\n")

/-- Clearing the file lets the device go, whatever was written before. -/
theorem ensures_clearOverride (so : m₀.Rewrites refused ps m) (among : s.overridePath a ∈ ps) :
    Prog.Ensures (guarding refused) Prog.free (s.clearOverride a).run m
      fun r m' => r = .ok () ∧ LetsGo refused ps s a m₀ m' := by
  refine ensures_ignore (ensures_writeValue (fun _ blocked => ?_) fun l writes => ?_)
  · exact ⟨so, fun l at' => absurd (so.writesAt_iff.2 at') (blocked l)⟩
  · refine ⟨so.trans (.write among writes _), fun l' at' => ?_⟩
    -- a path leads to one place
    cases writes.1.symm.trans (so.writesAt_iff.2 at').1
    simp [content?, node?_put_self _ _ (Walk.of_locateFile writes.1).1, withTree]

/-- Asking a driver to take a device rewrites a file. -/
theorem rewrites_requestBinding (so : m₀.Rewrites refused ps m)
    (among : (s.driverPath driver).child "bind" ∈ ps) :
    Prog.Ensures (guarding refused) Prog.free (s.requestBinding a driver).run m
      fun _ m' => m₀.Rewrites refused ps m' := by
  refine (Prog.ensures_recover _ _).2 ((rewrites_writeValue so among _).mono fun r m' so' => ?_)
  refine ⟨fun _ _ => so', fun e _ => ?_⟩
  have looks : Looks refused (do
      let bound ← s.boundDriver a
      if bound = some driver then pure () else throw e : OsM Unit) := by
    refine looks_then (looks_boundDriver s a) fun bound => ?_
    split
    · exact looks_pure _
    · exact looks_throw _
  refine (looks m').mono ?_
  rintro r m'' rfl
  exact so'

/-- The files that are written when a driver is asked, by one of its files, to take or leave a
device. -/
def pathsFor (s : Sysfs) (a : PciAddress) (driver request : String) : List HostPath :=
  [s.overridePath a, (s.driverPath driver).child request]

/-- The file that ties a device is one of those that are written. -/
theorem overridePath_mem (s : Sysfs) (a : PciAddress) (driver request : String) :
    s.overridePath a ∈ s.pathsFor a driver request := List.mem_cons_self ..

/-- The file of the driver is the other one. -/
theorem requestPath_mem (s : Sysfs) (a : PciAddress) (driver request : String) :
    (s.driverPath driver).child request ∈ s.pathsFor a driver request :=
  List.mem_cons_of_mem _ (List.mem_cons_self ..)

/-- Binding a device lets it go in the end, whatever comes of it. -/
theorem ensures_bind (refused : Location → Option OsError) (s : Sysfs) (a : PciAddress)
    (driver : String) (m : Machine) :
    Prog.Ensures (guarding refused) Prog.free (s.bind a driver).run m fun _ m' =>
      LetsGo refused (s.pathsFor a driver "bind") s a m m' := by
  have own := s.overridePath_mem a driver "bind"
  refine (Prog.ensures_then _ _).2 ((ensures_ignore (rewrites_writeValue (.refl m) own _)).mono ?_)
  rintro r m₁ ⟨rfl, so⟩
  refine ⟨fun _ _ => ?_, nofun⟩
  refine (Prog.ensures_then _ _).2 ((Prog.ensures_recover _ _).2 ?_)
  apply (rewrites_requestBinding so (s.requestPath_mem a driver "bind")).mono
  intro r m₂ so
  constructor
  · -- the driver took the device
    intro _ _
    exact ⟨fun _ _ => (ensures_clearOverride so own).mono fun _ _ ends => ends.2, nofun⟩
  · -- it did not, and its error is kept
    intro e _
    refine (Prog.ensures_then _ _).2 ((ensures_clearOverride so own).mono ?_)
    rintro r m₃ ⟨rfl, gone⟩
    exact ⟨fun _ _ => ⟨nofun, fun _ _ => gone⟩, nofun⟩

/-- Unbinding a device lets it go if it succeeds. -/
theorem ensures_unbind (refused : Location → Option OsError) (s : Sysfs) (a : PciAddress)
    (driver : String) (m : Machine) :
    Prog.Ensures (guarding refused) Prog.free (s.unbind a driver).run m fun r m' =>
      m.Rewrites refused (s.pathsFor a driver "unbind") m' ∧
        (r = .ok () → LetsGo refused (s.pathsFor a driver "unbind") s a m m') := by
  have own := s.overridePath_mem a driver "unbind"
  refine (Prog.ensures_then _ _).2 ?_
  apply (rewrites_writeValue (.refl m) (s.requestPath_mem a driver "unbind") _).mono
  intro r m' so
  refine ⟨fun _ _ => ?_, fun e _ => ⟨so, nofun⟩⟩
  apply (ensures_clearOverride so own).mono
  exact fun r m'' ends => ⟨ends.2.1, fun _ => ends.2⟩

/-! ## Places -/

/-- Whether a tree has no links but those in the directories of devices that name their drivers. -/
def DriverLinksOnly (t : FileTree) : Prop :=
  ∀ l target, t.node? l = some (.link target) →
    ∃ dir name, l = dir ++ ["sys", "bus", "pci", "devices", name, "driver"]

/-- The way to a file of a device or of a driver leads along no link. -/
theorem DriverLinksOnly.unlinked {t : FileTree} (only : DriverLinksOnly t) (dir : Location)
    {area name file : String} (area_ne : area ≠ "driver")
    (file_ne : file ≠ "driver") :
    Walk.Unlinked t dir ["sys", "bus", "pci", area, name, file] := by
  intro front ahead made target there
  obtain ⟨outer, device, same⟩ := only _ _ there
  -- a link has `devices` before its last two names, the last of which is `driver`
  have ends := congrArg List.reverse same
  have among := (List.mem_inits _ _).2 ahead
  simp only [List.inits, List.map_cons, List.map_nil, List.mem_cons, List.not_mem_nil,
    or_false] at among
  rcases among with rfl | rfl | rfl | rfl | rfl | rfl | rfl
  · exact made rfl
  all_goals simp [area_ne, file_ne] at ends

/-- The route to a file in a directory below an area of the kernel's files. -/
theorem route_file {t : String} {names : List String}
    (spelled : Route.ofText t = ⟨false, names, false⟩) (made : names ≠ []) (p : HostPath)
    {name file : String} (named : HostPath.IsName name) (filed : HostPath.IsName file) :
    Route.ofText (((p.child t).child name).child file).text =
      ⟨(Route.ofText p.text).absolute, (Route.ofText p.text).names ++ (names ++ [name] ++ [file]),
        false⟩ := by
  have relative : (HostPath.mk t).isAbsolute = false := congrArg Route.absolute spelled
  have written : t.toList ≠ [] := by
    intro empty
    have nameless := congrArg Route.names spelled
    rw [Route.ofText, empty] at nameless
    exact made nameless.symm
  rw [HostPath.route_child _ filed, HostPath.route_child _ named, HostPath.child,
    p.route_join relative written, spelled]
  simp

/-- A text that can name an entry of a directory. -/
structure IsEntry (name : String) : Prop where
  named : HostPath.IsName name
  undotted : Walk.isDots name = false

theorem isEntry_override : IsEntry "driver_override" := ⟨⟨by decide, by simp⟩, by decide⟩

theorem isEntry_bind : IsEntry "bind" := ⟨⟨by decide, by simp⟩, by decide⟩

theorem isEntry_unbind : IsEntry "unbind" := ⟨⟨by decide, by simp⟩, by decide⟩

/-- The names on the way to the devices. -/
theorem route_devices :
    Route.ofText "sys/bus/pci/devices" = ⟨false, ["sys", "bus", "pci", "devices"], false⟩ := by
  decide

/-- The names on the way to the drivers. -/
theorem route_drivers :
    Route.ofText "sys/bus/pci/drivers" = ⟨false, ["sys", "bus", "pci", "drivers"], false⟩ := by
  decide

/-- Where a file is that is written below an area of the kernel's files. -/
theorem DriverLinksOnly.place_of_locateFile {t : FileTree} (only : DriverLinksOnly t)
    {cwd l : Location} {root : HostPath} {text area name file : String}
    (spelled : Route.ofText text = ⟨false, ["sys", "bus", "pci", area], false⟩)
    (area_ne : area ≠ "driver") (area_undotted : Walk.isDots area = false)
    (directory : IsEntry name) (here : IsEntry file) (file_ne : file ≠ "driver")
    (located : Walk.locateFile t cwd (((root.child text).child name).child file) = .ok l) :
    ∃ dir, Walk.Reaches t cwd root dir ∧ l = dir ++ ["sys", "bus", "pci", area, name, file] := by
  have route := route_file spelled (by simp) root directory.named here.named
  refine Walk.place_of_locateFile route (fun n among => ?_)
    (fun dir => only.unlinked dir area_ne file_ne) located
  simp only [List.cons_append, List.nil_append, List.mem_cons, List.not_mem_nil, or_false] at among
  rcases among with rfl | rfl | rfl | rfl | rfl | rfl
  · decide
  · decide
  · decide
  · exact area_undotted
  · exact directory.undotted
  · exact here.undotted

/-- The text of an address is a name. -/
theorem isEntry_toString (a : PciAddress) : IsEntry (toString a) := by
  have text : (toString a).toList = a.toChars := String.toList_ofList
  have colon : ':' ∈ (toString a).toList := by simp [text, PciAddress.toChars]
  refine ⟨⟨List.ne_nil_of_mem colon, fun c there => ?_⟩, ?_⟩
  · rw [text] at there
    rcases PciAddress.of_mem_toChars there with digit | rfl | rfl
    · refine beq_false_of_ne ?_
      rintro rfl
      exact absurd digit (by decide)
    · decide
    · decide
  · have other (dots : String) (without : ':' ∉ dots.toList) : (toString a == dots) = false :=
      beq_false_of_ne fun same => without (same ▸ colon)
    simp [Walk.isDots, other "." (by decide), other ".." (by decide)]

/-! ## What is left of a binding -/

/-- A device is not pinned: the file that ties it to a driver holds just a newline if it was
possible to write it, and can be read as before otherwise. -/
structure Unpinned (refused : Location → Option OsError) (s : Sysfs) (a : PciAddress)
    (m m' : Machine) : Prop where
  cleared : (∃ l, m.WritesAt refused (s.overridePath a) l) →
    m'.tree.readFile m'.cwd (s.overridePath a) = .ok (.text "\n")
  untouched : (¬ ∃ l, m.WritesAt refused (s.overridePath a) l) → ∀ content,
    m'.tree.readFile m'.cwd (s.overridePath a) = .ok content ↔
      m.tree.readFile m.cwd (s.overridePath a) = .ok content

/-- Nothing has changed but the file that ties a device to a driver and the file of a driver that
takes requests.  Where the only links are those of devices to their drivers, these files stand
where their names say. -/
structure Confined (s : Sysfs) (a : PciAddress) (driver request : String) (m m' : Machine) :
    Prop where
  rest : m' = m.withTree m'.tree
  changed : ∀ l, m'.tree.node? l ≠ m.tree.node? l →
    Walk.locateFile m.tree m.cwd (s.overridePath a) = .ok l ∨
      Walk.locateFile m.tree m.cwd ((s.driverPath driver).child request) = .ok l
  placed : DriverLinksOnly m.tree → ∀ l, m'.tree.node? l ≠ m.tree.node? l →
    (∃ root, Walk.Reaches m.tree m.cwd s.root root ∧
      l = root ++ ["sys", "bus", "pci", "devices", toString a, "driver_override"]) ∨
    Walk.locateFile m.tree m.cwd ((s.driverPath driver).child request) = .ok l ∧
      (IsEntry driver → ∃ root, Walk.Reaches m.tree m.cwd s.root root ∧
        l = root ++ ["sys", "bus", "pci", "drivers", driver, request])

variable {request : String} {m' : Machine}

/-- The file that ties a device that is let go reads as a newline where it may be written, and as
before where it may not. -/
theorem LetsGo.unpinned (gone : LetsGo refused (s.pathsFor a driver request) s a m m')
    (grounded : m.tree.Grounded) : Unpinned refused s a m m' := by
  obtain ⟨so, newline⟩ := gone
  constructor
  · rintro ⟨l, writes⟩
    rw [readFile_eq_ok_iff (so.grounded grounded)]
    exact ⟨l, so.locateFile_iff.2 writes.1, newline l writes⟩
  · intro blocked content
    rw [readFile_eq_ok_iff (so.grounded grounded), readFile_eq_ok_iff grounded]
    refine exists_congr fun l => ?_
    rw [so.locateFile_iff]
    refine and_congr_right fun located => ?_
    -- the place is refused, along whichever path
    have stays : m'.tree.node? l = m.tree.node? l :=
      so.elsewhere l fun p _ writes => blocked ⟨l, located, writes.2⟩
    rw [content?, content?, stays]

/-- When only links to drivers are links, the two files are at their own places. -/
theorem confined_of_rewrites (so : m.Rewrites refused (s.pathsFor a driver request) m')
    (entry : IsEntry request) (request_ne : request ≠ "driver") :
    Confined s a driver request m m' := by
  have changed (l : Location) (other : m'.tree.node? l ≠ m.tree.node? l) :
      Walk.locateFile m.tree m.cwd (s.overridePath a) = .ok l ∨
        Walk.locateFile m.tree m.cwd ((s.driverPath driver).child request) = .ok l := by
    by_contra neither
    rw [not_or] at neither
    refine other (so.elsewhere l fun p among writes => ?_)
    rcases List.mem_cons.1 among with own | among
    · rw [own] at writes
      exact neither.1 writes.1
    · rw [List.mem_singleton.1 among] at writes
      exact neither.2 writes.1
  refine ⟨so.rest, changed, fun only l other => (changed l other).imp ?_ ?_⟩
  · exact only.place_of_locateFile route_devices (by decide) (by decide) (isEntry_toString a)
      isEntry_override (by decide)
  · refine fun located => ⟨located, fun directory => ?_⟩
    exact only.place_of_locateFile route_drivers (by decide) (by decide) directory entry
      request_ne located

/-- No binding and no unbinding leaves a device pinned, on a machine with any file tree that may
refuse to write at any places.  After a binding, whatever comes of it, and after an unbinding that
succeeds, the device is not pinned, and neither changes any other file than one of the driver. -/
theorem leaves_unpinned (s : Sysfs) (a : PciAddress) (driver : String)
    (refused : Location → Option OsError) (m : Machine) (grounded : m.tree.Grounded) :
    let bound := Prog.run (guarded refused) (s.bind a driver).run m
    let unbound := Prog.run (guarded refused) (s.unbind a driver).run m
    Unpinned refused s a m bound.2 ∧ Confined s a driver "bind" m bound.2 ∧
      (unbound.1 = .ok () → Unpinned refused s a m unbound.2) ∧
        Confined s a driver "unbind" m unbound.2 := by
  intro bound unbound
  have gone := (Prog.Ensures.of_calls id (ensures_bind refused s a driver m)
    fun e made => Prog.answer_of_mem_calls made).2
  have left := (Prog.Ensures.of_calls id (ensures_unbind refused s a driver m)
    fun e made => Prog.answer_of_mem_calls made).2
  exact ⟨gone.unpinned grounded,
    confined_of_rewrites gone.1 isEntry_bind (by decide),
    fun done => (left.2 done).unpinned grounded,
    confined_of_rewrites left.1 isEntry_unbind (by decide)⟩

/-- A machine with a controller that `e1000` serves and that is tied to `vfio-pci`. -/
def tiedMachine : Machine where
  tree := ⟨SortedMap.ofList [(["sys"], .dir), (["sys", "bus"], .dir), (["sys", "bus", "pci"], .dir),
    (["sys", "bus", "pci", "devices"], .dir),
    (["sys", "bus", "pci", "devices", "0000:02:02.0"], .dir),
    (["sys", "bus", "pci", "devices", "0000:02:02.0", "driver"], .link "../../drivers/e1000"),
    (["sys", "bus", "pci", "devices", "0000:02:02.0", "driver_override"], .file (.text "vfio-pci")),
    (["sys", "bus", "pci", "drivers"], .dir), (["sys", "bus", "pci", "drivers", "e1000"], .dir),
    (["sys", "bus", "pci", "drivers", "vfio-pci"], .dir)]⟩

/-- Drivers that are busy refuse to take a controller. -/
def busyDrivers (l : Location) : Option OsError :=
  if l.getLast? = some "bind" then some (.errno 16) else none

/-- The store of that machine. -/
def rooted : Sysfs := ⟨⟨"/"⟩, ⟨"/state"⟩⟩

theorem tiedMachine_grounded : tiedMachine.tree.Grounded := by
  refine grounded_of_entries ?_
  decide +kernel

theorem tiedMachine_driverLinksOnly : DriverLinksOnly tiedMachine.tree := by
  have others : ∀ e ∈ tiedMachine.tree.nodes.entries,
      e.1 = ["sys", "bus", "pci", "devices", "0000:02:02.0", "driver"] ∨ e.2 = .dir ∨
        e.2.isWay = false := by
    decide +kernel
  intro l target there
  have below : l ≠ [] := by
    rintro rfl
    cases there
  rcases others _ (mem_of_node? below there) with own | directory | file
  · exact ⟨[], "0000:02:02.0", own⟩
  · cases directory
  · cases file

/-- A binding that is refused and an unbinding both let the controller go. -/
theorem controller_let_go :
    let bound := Prog.run (guarded busyDrivers)
      (rooted.bind Topology.dataNic "vfio-pci").run tiedMachine
    let unbound := Prog.run (guarded busyDrivers)
      (rooted.unbind Topology.dataNic "e1000").run tiedMachine
    (bound.1.isOk = false ∧
      bound.2.tree.readFile bound.2.cwd (rooted.overridePath Topology.dataNic) = .ok (.text "\n")) ∧
    unbound.1.isOk = true ∧ Unpinned busyDrivers rooted Topology.dataNic tiedMachine unbound.2 ∧
    DriverLinksOnly tiedMachine.tree ∧
      Confined rooted Topology.dataNic "e1000" "unbind" tiedMachine unbound.2 := by
  have writes : tiedMachine.WritesAt busyDrivers (rooted.overridePath Topology.dataNic)
      ["sys", "bus", "pci", "devices", "0000:02:02.0", "driver_override"] :=
    And.intro (by decide +kernel) (by decide)
  refine ⟨⟨by decide +kernel, ?_⟩, by decide +kernel, ?_, tiedMachine_driverLinksOnly, ?_⟩
  · exact (leaves_unpinned _ _ _ _ _ tiedMachine_grounded).1.cleared ⟨_, writes⟩
  · refine (leaves_unpinned _ _ _ _ _ tiedMachine_grounded).2.2.1 ?_
    decide +kernel
  · exact (leaves_unpinned _ _ _ _ _ tiedMachine_grounded).2.2.2

end Sysfs

end Provision
