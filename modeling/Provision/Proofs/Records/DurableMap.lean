import Provision.Proofs.Contract.Machine
import Provision.Proofs.Files.Site
import Provision.Proofs.Records.ReadBack
import Provision.Simulation.Topology
import Provision.Sysfs.Store

/-!
# Durable records as a map

The document of records is replaced as a whole: it is read, changed, written beside the
old one and renamed.  Whatever fails on the way, the document holds what it held or what
it was to hold, so stores that share a directory behave as one map.  Their paths may be
spelled differently, and the directory may still be missing.

Main results:

- `Sysfs.ensures_load`, `Sysfs.ensures_save`: reading and replacing the document.
- `Sysfs.ensures_serve`: a single call on records.
- `Sysfs.records_are_a_map`: every history of calls on records, through any stores that
  keep their records in one directory.
-/

namespace Provision

open FileTree

variable {α σ : Type}

/-! ## The document as a map -/

namespace Metadata

/-- Where the document of records stands in its directory. -/
def placeIn (dir : Location) : Location := dir ++ ["devices.json"]

/-- Whether a document can be read in a directory; a missing one holds no record. -/
def StandsIn (d : Metadata) (t : FileTree) (dir : Location) : Prop :=
  (t.node? (placeIn dir) = none ∧ d = {}) ∨
    ∃ text, t.node? (placeIn dir) = some (.file (.text text)) ∧ parse? text = some d

/-- What becomes of the document at a call on records that gets a reply. -/
def Step (d : Metadata) : (c : StoreCall) → c.Reply → Metadata → Prop
  | .setHome a driver, .ok _, d' =>
    (∃ time, d'.get? a = some ⟨driver, time⟩) ∧ ∀ b ≠ a, d'.get? b = d.get? b
  | .clearHome a, .ok _, d' => d'.get? a = none ∧ ∀ b ≠ a, d'.get? b = d.get? b
  | .homeDriver a, .ok answer, d' => answer = (d.get? a).map (·.homeDriver) ∧ d' = d
  | .recordedDevices, .ok answer, d' =>
    (∀ a, answer.get? a = (d.get? a).map (·.homeDriver)) ∧ d' = d
  | _, _, d' => d' = d

/-- A call that fails leaves the document alone. -/
theorem step_error (d : Metadata) (c : StoreCall) (e : Error) : d.Step c (.error e) d := by
  cases c <;> rfl

end Metadata

/-- Whether a call is about the durable records. -/
def StoreCall.onRecords : StoreCall → Bool
  | .setHome _ _ | .clearHome _ | .homeDriver _ | .recordedDevices => true
  | _ => false

namespace Sysfs

/-! ## The directory of the document -/

/-- Where the draft of a new document stands in its directory. -/
def draftIn (dir : Location) : Location := dir ++ ["devices.json.tmp"]

theorem fileName_document : Walk.FileName "devices.json" :=
  ⟨⟨by decide, by simp⟩, by decide, by decide⟩

theorem fileName_draft : Walk.FileName "devices.json.tmp" :=
  ⟨⟨by decide, by simp⟩, by decide, by decide⟩

/-- The draft stands beside the document. -/
theorem draftPath_eq (s : Sysfs) : s.draftPath = s.stateDir.child "devices.json.tmp" := by
  unfold draftPath metadataPath HostPath.child HostPath.join
  have document : (HostPath.mk "devices.json").isAbsolute = false := by decide
  have draft : (HostPath.mk "devices.json.tmp").isAbsolute = false := by decide
  rw [document, draft]
  simp only [Bool.false_eq_true, if_false]
  split <;> simp [String.append_assoc]

/-- A directory of records: where it is, the tree in which it is there, and the directory in which
relative paths start.  It holds no links, and nothing that could be passed in place of the
document. -/
structure StateDir where
  whole : FileTree
  dir : Location
  cwd : Location
  unlinked : ∀ name target, whole.node? (dir ++ [name]) ≠ some (.link target)
  unblocked : whole.isDir (Metadata.placeIn dir) = false

namespace StateDir

/-- Whether a store keeps its records in a directory. -/
def IsOf (place : StateDir) (s : Sysfs) : Prop :=
  Walk.Reaches place.whole place.cwd s.stateDir place.dir

/-- A machine on which a document can be read in the directory, which may still be missing. -/
structure Holds (place : StateDir) (d : Metadata) (m : Machine) : Prop where
  site : Site place.whole place.dir m.tree
  there : m.cwd = place.cwd
  stands : d.StandsIn m.tree place.dir

/-- A machine that came from another and has the document of that one. -/
structure Keeps (place : StateDir) (d : Metadata) (m m' : Machine) : Prop where
  holds : place.Holds d m'
  same : m'.tree.node? (Metadata.placeIn place.dir) = m.tree.node? (Metadata.placeIn place.dir)

variable {place : StateDir} {d d' : Metadata} {m m' m'' : Machine} {s : Sysfs}

theorem Keeps.refl (holds : place.Holds d m) : place.Keeps d m m := ⟨holds, rfl⟩

theorem Keeps.trans (first : place.Keeps d m m') (second : place.Keeps d m' m'') :
    place.Keeps d m m'' :=
  ⟨second.holds, second.same.trans first.same⟩

/-- The directory that the document is to stand in is made along the path of its store. -/
theorem IsOf.parent (isOf : place.IsOf s) {q : HostPath}
    (parent : s.metadataPath.parent? = some q) :
    Walk.ReachesSome place.whole place.cwd q := by
  rcases HostPath.route_parent? parent with empty | ⟨absolute, front⟩
  · exact .inl empty
  · rw [metadataPath, s.stateDir.route_child fileName_document.named] at absolute front
    rw [List.dropLast_concat] at front
    exact .inr (Walk.reaches_of_front isOf absolute front)

namespace Holds

theorem reaches (holds : place.Holds d m) (isOf : place.IsOf s) :
    Walk.Reaches place.whole m.cwd s.stateDir place.dir :=
  holds.there ▸ isOf

/-- No link stands in the directory. -/
theorem plain (holds : place.Holds d m) (name target : String) :
    m.tree.node? (place.dir ++ [name]) ≠ some (.link target) :=
  fun there => place.unlinked name target (holds.site.within _ _ rfl there)

/-- What stands in place of the document is a file. -/
theorem blocked (holds : place.Holds d m) {n : FileNode}
    (there : m.tree.node? (Metadata.placeIn place.dir) = some n) : n.isWay = false := by
  rcases holds.stands with ⟨nothing, -⟩ | ⟨text, file, -⟩
  · cases nothing.symm.trans there
  · cases file.symm.trans there
    rfl

/-- Where the file of the document is the same, the document is kept. -/
theorem keeps (holds : place.Holds d m) (site : Site place.whole place.dir m'.tree)
    (cwd : m'.cwd = m.cwd) (same : m'.tree.node? (Metadata.placeIn place.dir) =
      m.tree.node? (Metadata.placeIn place.dir)) : place.Keeps d m m' := by
  refine ⟨⟨site, cwd.trans holds.there, ?_⟩, same⟩
  unfold Metadata.StandsIn
  rw [same]
  exact holds.stands

/-! ## Calls to the operating system -/

/-- What may be read of the document. -/
theorem read (holds : place.Holds d m) (isOf : place.IsOf s) {r : Except OsError Content}
    (may : Machine.mayAnswer (.readFile s.metadataPath) m r m') :
    m' = m ∧ ((r = .error .noEntry ∧ d = {}) ∨
      (∃ text, r = .ok (.text text) ∧ Metadata.parse? text = some d) ∨
      ∃ e, r = .error e ∧ e ≠ .noEntry) := by
  rcases may with answered | ⟨failed, left⟩
  · cases answered
    refine ⟨rfl, ?_⟩
    obtain ⟨found, missing⟩ :=
      holds.site.readFile_child (holds.reaches isOf) fileName_document (holds.plain _)
    cases read : m.tree.readFile m.cwd s.metadataPath with
    | error e =>
      by_cases lacking : e = .noEntry
      · subst lacking
        rcases holds.stands with ⟨-, empty⟩ | ⟨text, there, -⟩
        · exact .inl ⟨rfl, empty⟩
        · cases (missing read).symm.trans there
      · exact .inr (.inr ⟨e, rfl, lacking⟩)
    | ok content =>
      rcases holds.stands with ⟨nothing, -⟩ | ⟨text, there, parsed⟩
      · cases nothing.symm.trans (found content read)
      · cases (found content read).symm.trans there
        exact .inr (.inl ⟨text, rfl, parsed⟩)
  · refine ⟨left, .inr (.inr ?_)⟩
    cases r with
    | error e => exact ⟨e, rfl, by simpa [OsCall.failed] using failed⟩
    | ok content => cases failed

/-- Making directories for the document keeps it. -/
theorem makeDirs (holds : place.Holds d m) {q : HostPath}
    (reaches : Walk.ReachesSome place.whole place.cwd q) {r : Except OsError Unit}
    (may : Machine.mayAnswer (.makeDirs q) m r m') : place.Keeps d m m' := by
  have made {q : HostPath} (reaches : Walk.ReachesSome place.whole place.cwd q) :
      place.Keeps d m (m.withTree (m.tree.makeDirs m.cwd q).2) :=
    have grows := Grows.makeDirs holds.site (holds.there ▸ reaches)
    holds.keeps grows.site rfl (grows.kept _ place.unblocked)
  rcases may with answered | ⟨-, rfl | ⟨above, chain, rfl⟩⟩
  · cases answered
    exact made reaches
  · exact Keeps.refl holds
  · -- what was made before the failure are the directories of a path above
    refine made ?_
    induction chain with
    | refl => exact reaches
    | tail _ parent ih => exact ih.parent parent

/-- Writing the draft keeps the document, also when it fails halfway. -/
theorem writeDraft (holds : place.Holds d m) (isOf : place.IsOf s) {text : String}
    {r : Except OsError Unit} (may : Machine.mayAnswer (.writeFile s.draftPath text) m r m') :
    place.Keeps d m m' ∧
      (r = .ok () → m'.tree.node? (draftIn place.dir) = some (.file (.text text))) := by
  rw [draftPath_eq] at may
  have written {l : Location} (content : Content)
      (located : Walk.locateFile m.tree m.cwd (s.stateDir.child "devices.json.tmp") = .ok l) :
      l = draftIn place.dir ∧ place.Keeps d m (m.withTree (m.tree.put l (.file content))) := by
    obtain ⟨rfl, site⟩ := holds.site.writeFile_child (holds.reaches isOf) fileName_draft
      (holds.plain _) located content
    have beside : Metadata.placeIn place.dir ≠ place.dir ++ ["devices.json.tmp"] := by
      simp [Metadata.placeIn]
    exact ⟨rfl, holds.keeps site rfl (node?_put_of_ne m.tree _ beside)⟩
  rcases may with answered | ⟨failed, rfl | ⟨l, part, located, rfl⟩⟩
  · simp only [Machine.answer, writeFile] at answered
    cases located : Walk.locateFile m.tree m.cwd (s.stateDir.child "devices.json.tmp") with
    | error e =>
      simp only [located] at answered
      cases answered
      exact ⟨Keeps.refl holds, fun done => by cases done⟩
    | ok l =>
      simp only [located] at answered
      cases answered
      obtain ⟨rfl, keeps⟩ := written (.text text) located
      exact ⟨keeps, fun _ => node?_put_self _ _ (by simp [draftIn])⟩
  · exact ⟨Keeps.refl holds, fun done => by cases done; cases failed⟩
  · exact ⟨(written part located).2, fun done => by cases done; cases failed⟩

/-- A draft that is renamed is the document, and one that cannot be leaves it alone. -/
theorem rename (holds : place.Holds d m) (isOf : place.IsOf s)
    (draft : m.tree.node? (draftIn place.dir) = some (.file (.text d'.print)))
    {r : Except OsError Unit}
    (may : Machine.mayAnswer (.rename s.draftPath s.metadataPath) m r m') :
    (r = .ok () ∧ place.Holds d' m') ∨ (m' = m ∧ ∃ e, r = .error e) := by
  rw [draftPath_eq] at may
  rcases may with answered | ⟨failed, rfl⟩
  · simp only [Machine.answer] at answered
    split at answered
    · next t renamed =>
      cases answered
      obtain ⟨site, there⟩ := holds.site.rename_child (holds.reaches isOf) fileName_draft
        fileName_document (by decide) draft (fun _ => holds.blocked) renamed
      exact .inl ⟨rfl, site, holds.there, .inr ⟨_, there, d'.parse?_print⟩⟩
    · cases answered
      exact .inr ⟨rfl, _, rfl⟩
  · cases r with
    | ok done => cases failed
    | error e => exact .inr ⟨rfl, e, rfl⟩

end Holds

end StateDir

variable {place : StateDir} {d d' : Metadata} {m m' : Machine} {s : Sysfs} {failing : Prop}

/-! ## Reading and replacing the document -/

/-- The document is loaded, or a call failed. -/
theorem ensures_load (holds : place.Holds d m) (isOf : place.IsOf s) :
    Prog.Ensures (Machine.answering failing) Prog.free s.loadMetadata.run m fun r m' =>
      m' = m ∧ (r = .ok d ∨ (∃ e, r = .error e) ∧ failing) := by
  refine (Prog.ensures_then _ _).2 ((Prog.ensures_lift _).2 ((Prog.ensures_map _ _).2 ?_))
  rintro r m' ⟨may, failed⟩
  refine ⟨trivial, fun a same => ?_, fun _ broken => by cases broken⟩
  obtain ⟨rfl, read⟩ := holds.read isOf may
  cases same
  rcases read with ⟨rfl, rfl⟩ | ⟨text, rfl, parsed⟩ | ⟨e, rfl, other⟩
  · exact ⟨rfl, .inl rfl⟩
  · simp only [Except.bind, OsProg.textOf, Content.text?_text, parsed]
    exact ⟨rfl, .inl rfl⟩
  · have failed : failing := failed (by simpa [OsCall.failed] using other)
    simp only [Except.bind]
    split
    · next same => cases same
    · next same =>
      cases same
      exact absurd rfl other
    · exact ⟨rfl, .inr ⟨⟨_, rfl⟩, failed⟩⟩

/-- How a document is replaced: the new one is there, or a call failed and the old one is kept. -/
def Replaces (place : StateDir) (failing : Prop) (d d' : Metadata) (m : Machine) :
    Except Error Unit → Machine → Prop := fun r m' =>
  (r = .ok () ∧ place.Holds d' m') ∨ ((∃ e, r = .error e) ∧ failing ∧ place.Keeps d m m')

/-- The draft is written and renamed. -/
theorem ensures_replace (holds : place.Holds d m) (isOf : place.IsOf s) (d' : Metadata) :
    Prog.Ensures (Machine.answering failing) Prog.free (do
      attempt "write" s.draftPath (OsProg.call (.writeFile s.draftPath d'.print))
      attempt "rename" s.metadataPath (OsProg.call (.rename s.draftPath s.metadataPath)) :
        OsM Unit).run m (Replaces place failing d d' m) := by
  refine (Prog.ensures_then _ _).2 ((ensures_attempt _ _ _).2 ?_)
  rintro r m' ⟨may, failed⟩
  obtain ⟨keeps, written⟩ := holds.writeDraft isOf may
  refine ⟨trivial, fun u done => ?_, fun e broken => ?_⟩
  · cases r with
    | error e => cases done
    | ok u =>
      refine (ensures_attempt _ _ _).2 ?_
      rintro r m'' ⟨may, failed⟩
      refine ⟨trivial, ?_⟩
      rcases keeps.holds.rename isOf (written rfl) may with ⟨rfl, replaced⟩ | ⟨rfl, e, rfl⟩
      · exact .inl ⟨rfl, replaced⟩
      · exact .inr ⟨⟨_, rfl⟩, failed rfl, keeps⟩
  · cases r with
    | ok u => cases broken
    | error e => exact .inr ⟨⟨_, rfl⟩, failed rfl, keeps⟩

/-- The document is saved: directories are made for it where they are missing. -/
theorem ensures_save (holds : place.Holds d m) (isOf : place.IsOf s) (d' : Metadata) :
    Prog.Ensures (Machine.answering failing) Prog.free (s.saveMetadata d').run m
      (Replaces place failing d d' m) := by
  unfold saveMetadata
  split
  · next q parent =>
    refine (Prog.ensures_then _ _).2 ((ensures_attempt _ _ _).2 ?_)
    rintro r m' ⟨may, failed⟩
    have keeps := holds.makeDirs (isOf.parent parent) may
    refine ⟨trivial, fun u _ => ?_, fun e broken => ?_⟩
    · refine (ensures_replace keeps.holds isOf d').mono fun r m'' => Or.imp_right ?_
      rintro ⟨broken, failed, later⟩
      exact ⟨broken, failed, keeps.trans later⟩
    · cases r with
      | ok u => cases broken
      | error e => exact .inr ⟨⟨_, rfl⟩, failed rfl, keeps⟩
  · exact ensures_replace holds isOf d'

/-! ## Calls on records -/

/-- How a call on records ends: the document makes a step, and where the call failed, a call to
the operating system did, and the file of the document is as it was. -/
def Serves (place : StateDir) (failing : Prop) (m : Machine)
    (step : Except Error α → Metadata → Prop) : Except Error α → Machine → Prop := fun r m' =>
  (∃ d', step r d' ∧ place.Holds d' m') ∧ ∀ e, r = .error e →
    m'.tree.node? (Metadata.placeIn place.dir) = m.tree.node? (Metadata.placeIn place.dir) ∧ failing

section

variable {step : Except Error α → Metadata → Prop}

theorem serves_ok {a : α} (done : step (.ok a) d') (holds : place.Holds d' m') :
    Serves place failing m step (.ok a) m' :=
  ⟨⟨d', done, holds⟩, fun _ broken => by cases broken⟩

theorem serves_error {e : Error} (unchanged : step (.error e) d) (failed : failing)
    (keeps : place.Keeps d m m') : Serves place failing m step (.error e) m' :=
  ⟨⟨d, unchanged, keeps.holds⟩, fun _ _ => ⟨keeps.same, failed⟩⟩

/-- What is done with the document, once it is loaded. -/
theorem ensures_loaded {f : Metadata → OsM α} (holds : place.Holds d m) (isOf : place.IsOf s)
    (unchanged : ∀ e, step (.error e) d)
    (goesOn : Prog.Ensures (Machine.answering failing) Prog.free (f d).run m
      (Serves place failing m step)) :
    Prog.Ensures (Machine.answering failing) Prog.free (s.loadMetadata >>= f).run m
      (Serves place failing m step) := by
  refine (Prog.ensures_then _ _).2 ((ensures_load holds isOf).mono ?_)
  rintro r m' ⟨rfl, rfl | ⟨⟨e, rfl⟩, failed⟩⟩
  · refine ⟨fun d' same => ?_, fun e broken => ?_⟩
    · cases same
      exact goesOn
    · cases broken
  · refine ⟨fun d' done => ?_, fun e' _ => ?_⟩
    · cases done
    · exact serves_error (unchanged e') failed (StateDir.Keeps.refl holds)

end

/-- A document that is saved makes the step that it stands for. -/
theorem ensures_saved {step : Except Error Unit → Metadata → Prop} (holds : place.Holds d m)
    (isOf : place.IsOf s) (unchanged : ∀ e, step (.error e) d) (done : step (.ok ()) d') :
    Prog.Ensures (Machine.answering failing) Prog.free (s.saveMetadata d').run m
      (Serves place failing m step) := by
  refine (ensures_save holds isOf d').mono fun r m' => ?_
  rintro (⟨rfl, holds'⟩ | ⟨⟨e, rfl⟩, failed, keeps⟩)
  · exact serves_ok done holds'
  · exact serves_error (unchanged e) failed keeps

/-- A call on records makes the document go along with a map. -/
theorem ensures_serve (holds : place.Holds d m) (isOf : place.IsOf s) {c : StoreCall}
    (about : c.onRecords = true) :
    Prog.Ensures (Machine.answering failing) Prog.free (s.serve c) m
      (Serves place failing m (d.Step c)) := by
  have unchanged := d.step_error c
  cases c with
  | homeDriver a =>
    show Prog.Ensures _ _ (s.homeDriver a).run m _
    exact ensures_loaded holds isOf unchanged (serves_ok ⟨rfl, rfl⟩ holds)
  | recordedDevices =>
    show Prog.Ensures _ _ s.recordedDevices.run m _
    refine ensures_loaded holds isOf unchanged (serves_ok ⟨fun a => ?_, rfl⟩ holds)
    exact d.devices.get?_mapValues _ a
  | setHome a driver =>
    show Prog.Ensures _ _ (s.setHome a driver).run m _
    refine ensures_loaded holds isOf unchanged ?_
    refine (Prog.ensures_then _ _).2 ((Prog.ensures_lift _).2 ?_)
    rintro time m' ⟨rfl, -⟩
    refine ⟨trivial, fun t _ => ensures_saved holds isOf unchanged ?_, fun _ broken => ?_⟩
    · exact ⟨⟨t, d.get?_record_self a _⟩, fun b other => d.get?_record_of_ne _ other⟩
    · cases broken
  | clearHome a =>
    show Prog.Ensures _ _ (s.clearHome a).run m _
    refine ensures_loaded holds isOf unchanged ?_
    -- nothing is written where there is no record
    by_cases recorded : (d.get? a).isSome = true
    · rw [if_pos recorded]
      refine ensures_saved holds isOf unchanged ?_
      exact ⟨d.devices.get?_erase_self a, fun b other => d.devices.get?_erase_of_ne other⟩
    · rw [if_neg recorded]
      exact serves_ok ⟨by simpa using recorded, fun _ _ => rfl⟩ holds
  | _ => cases about

/-! ## Histories -/

/-- Calls on resources, each through a store of its own. -/
def signature : Signature := ⟨Sysfs × StoreCall, fun c => c.2.Reply⟩

/-- How calls through stores are answered on an operating system. -/
def shared (os : Handler osSignature σ) : Handler signature σ := fun c t =>
  Prog.run os (c.1.serve c.2) t

/-- Whether a store keeps its records in a directory, which may still be missing: that is where its
path leads in the tree in which the directory was made. -/
def KeepsRecordsIn (s : Sysfs) (m : Machine) (dir : Location) : Prop :=
  Walk.Reaches (m.tree.withDirs dir) m.cwd s.stateDir dir

/-- Whether the document in a directory goes along with a history, step by step. -/
def Follows (view : σ → Machine) (dir : Location) :
    Metadata → List (Prog.Event signature σ) → Prop
  | _, [] => True
  | d, e :: rest => ∃ d', d.Step e.call.2 e.reply d' ∧ d'.StandsIn (view e.after).tree dir ∧
      Follows view dir d' rest

variable {os : Handler osSignature σ} {view : σ → Machine} {dir : Location} {t : σ}

/-- The directory of records on a machine. -/
def StateDir.ofMachine (m : Machine) (dir : Location)
    (unlinked : ∀ name target, m.tree.node? (dir ++ [name]) ≠ some (.link target))
    (readable : d.StandsIn m.tree dir) : StateDir where
  whole := m.tree.withDirs dir
  dir := dir
  cwd := m.cwd
  unlinked name target := by
    rw [node?_withDirs_child]
    exact unlinked name target
  unblocked := by
    rw [isDir, Metadata.placeIn, node?_withDirs_child, ← Metadata.placeIn]
    rcases readable with ⟨nothing, -⟩ | ⟨text, there, -⟩
    · rw [nothing]
      rfl
    · rw [there]
      rfl

/-- A single call, on an operating system that works like a machine. -/
theorem serves_call (works : ∀ c t, Machine.mayAnswer c (view t) (os c t).1 (view (os c t).2))
    (holds : place.Holds d (view t)) {c : signature.Call} (isOf : place.IsOf c.1)
    (about : c.2.onRecords = true) :
    Serves place (∃ o ∈ Prog.calls os (c.1.serve c.2) t, o.call.failed o.reply = true) (view t)
      (d.Step c.2) (shared os c t).1 (view (shared os c t).2) := by
  refine (Prog.Ensures.of_calls view (ensures_serve holds isOf about) fun o made => ⟨?_, ?_⟩).2
  · have answered := works o.call o.before
    rwa [Prog.answer_of_mem_calls made] at answered
  · exact fun failed => ⟨o, made, failed⟩

/-- Calls in a row, by induction on the program that makes them; what carries it is that the
document can be read in the directory. -/
theorem follows_calls (works : ∀ c t, Machine.mayAnswer c (view t) (os c t).1 (view (os c t).2))
    (holds : place.Holds d (view t)) (client : Prog signature α)
    (stores : ∀ e ∈ Prog.calls (shared os) client t, e.call.2.onRecords = true ∧
      place.IsOf e.call.1) :
    Follows view place.dir d (Prog.calls (shared os) client t) ∧
      ∀ e ∈ Prog.calls (shared os) client t, ∀ error, e.reply = .error error →
        (view e.after).tree.node? (Metadata.placeIn place.dir) =
            (view e.before).tree.node? (Metadata.placeIn place.dir) ∧
          ∃ o ∈ Prog.calls os (e.call.1.serve e.call.2) e.before, o.call.failed o.reply = true := by
  induction client generalizing t d with
  | done a => exact ⟨trivial, fun e he => absurd he List.not_mem_nil⟩
  | call c next ih =>
    obtain ⟨about, isOf⟩ := stores _ List.mem_cons_self
    obtain ⟨⟨d', step, holds'⟩, failing⟩ := serves_call works holds isOf about
    obtain ⟨follows, failures⟩ := ih _ holds' fun e he => stores e (List.mem_cons_of_mem _ he)
    refine ⟨⟨d', step, holds'.stands, follows⟩, fun e he => ?_⟩
    rcases List.mem_cons.1 he with rfl | he
    · exact failing
    · exact failures e he

/-- Durable records are a map from addresses to records.  Stores that keep their records in one
directory answer every history of calls as the map does that the successful calls update, whatever
the spelling of the addresses in the document that was there first; a call fails only where a call
to the operating system does, and then leaves the file of the document as it was. -/
theorem records_are_a_map
    (works : ∀ c t, Machine.mayAnswer c (view t) (os c t).1 (view (os c t).2))
    (grounded : (view t).tree.Grounded)
    (unlinked : ∀ name target, (view t).tree.node? (dir ++ [name]) ≠ some (.link target))
    (readable : d.StandsIn (view t).tree dir) (client : Prog signature α)
    (stores : ∀ e ∈ Prog.calls (shared os) client t, e.call.2.onRecords = true ∧
      e.call.1.KeepsRecordsIn (view t) dir) :
    Follows view dir d (Prog.calls (shared os) client t) ∧
      ∀ e ∈ Prog.calls (shared os) client t, ∀ error, e.reply = .error error →
        (view e.after).tree.node? (Metadata.placeIn dir) =
            (view e.before).tree.node? (Metadata.placeIn dir) ∧
          ∃ o ∈ Prog.calls os (e.call.1.serve e.call.2) e.before, o.call.failed o.reply = true := by
  have holds : (StateDir.ofMachine (view t) dir unlinked readable).Holds d (view t) :=
    ⟨grounded.site dir, rfl, readable⟩
  exact follows_calls works holds client stores

/-! ## Two stores that take turns -/

/-- A document that a person wrote, with the address of the display controller spelled short. -/
def handwritten : String :=
  "\x7b\"devices\":\x7b\"00:0F.0\":" ++
    "\x7b\"original_driver\":\"vmwgfx\",\"recorded_at\":\"now\"\x7d\x7d\x7d"

/-- A machine with that document, and with a link to its directory. -/
def linkedMachine : Machine where
  tree := ⟨SortedMap.ofList [(["link"], .link "/state"), (["state"], .dir),
    (["state", "devices.json"], .file (.text handwritten))]⟩

/-- What the document says. -/
def understood : Metadata := ⟨SortedMap.ofList [(Topology.display, ⟨"vmwgfx", "now"⟩)]⟩

/-- A store that names the directory. -/
def direct : Sysfs := ⟨⟨"/"⟩, ⟨"/state"⟩⟩

/-- A store that names the link. -/
def throughLink : Sysfs := ⟨⟨"/"⟩, ⟨"/link/"⟩⟩

/-- The stores take turns at one record each. -/
def turns : Prog signature Unit :=
  .call (direct, .setHome Topology.dataNic "e1000") fun _ =>
    .call (throughLink, .homeDriver Topology.display) fun _ =>
      .call (throughLink, .clearHome Topology.display) fun _ =>
        .call (direct, .recordedDevices) fun _ => .done ()

/-- The operating system of that machine, with no space left when the second store writes. -/
def full : Handler osSignature (Machine × Nat) :=
  Machine.unreliable fun place => if place = 8 then some (.errno 28) else none

theorem full_works (c : OsCall) (t : Machine × Nat) :
    Machine.mayAnswer c t.1 (full c t).1 (full c t).2.1 :=
  Machine.mayAnswer_unreliable (fun place => by split <;> simp [OsError.noEntry]) c t

theorem linkedMachine_entries : linkedMachine.tree.nodes.entries = [(["link"], .link "/state"),
    (["state"], .dir), (["state", "devices.json"], .file (.text handwritten))] := by
  decide +kernel

theorem linkedMachine_grounded : linkedMachine.tree.Grounded := by
  refine grounded_of_entries fun e he => ?_
  simp only [linkedMachine_entries, List.mem_cons, List.not_mem_nil, or_false] at he
  rcases he with rfl | rfl | rfl <;> decide +kernel

theorem linkedMachine_unlinked (name target : String) :
    linkedMachine.tree.node? (["state"] ++ [name]) ≠ some (.link target) := by
  intro there
  have entry := mem_of_node? (by simp) there
  simp [linkedMachine_entries] at entry

theorem linkedMachine_readable : understood.StandsIn linkedMachine.tree ["state"] :=
  .inr ⟨handwritten, by decide +kernel, by decide +kernel⟩

theorem turns_keepRecordsIn (e : Prog.Event signature (Machine × Nat))
    (he : e ∈ Prog.calls (shared full) turns (linkedMachine, 0)) :
    e.call.2.onRecords = true ∧ e.call.1.KeepsRecordsIn linkedMachine ["state"] := by
  have one : direct.KeepsRecordsIn linkedMachine ["state"] := ⟨40, by decide +kernel, by decide +kernel⟩
  have other : throughLink.KeepsRecordsIn linkedMachine ["state"] := ⟨39, by decide +kernel, by decide +kernel⟩
  simp only [turns, Prog.calls, List.mem_cons, List.not_mem_nil, or_false] at he
  rcases he with rfl | rfl | rfl | rfl
  · exact ⟨rfl, one⟩
  · exact ⟨rfl, other⟩
  · exact ⟨rfl, other⟩
  · exact ⟨rfl, one⟩

/-- The stores take turns, and the document goes along with them. -/
theorem turns_follow :
    Follows Prod.fst ["state"] understood (Prog.calls (shared full) turns (linkedMachine, 0)) :=
  (records_are_a_map full_works linkedMachine_grounded linkedMachine_unlinked
    linkedMachine_readable turns turns_keepRecordsIn).1

end Sysfs

end Provision
