import Mathlib.Data.List.Nodup
import Provision.Proofs.Files.Opening

/-!
# Locks that are held at the same time

Locks are taken and given back one after the other, along any paths.  Two spellings of a
path, or a link and its target, lead to the same file, and it is the file that is locked.

Main results:

- `RunLock.Held.Apart.run`: whatever is asked for, locks are held on different files.
- `RunLock.held_apart`: when a lock is refused, when it is taken, and what is left of the tree.
-/

namespace Provision.RunLock
open FileTree

/-- What is asked for: a lock on the file of a path, or that a lock is given back. -/
inductive Request
  | acquire (cwd : Location) (p : HostPath)
  /-- The lock at a place among those that are held, the oldest first. -/
  | drop (place : Nat)

/-- A tree, with the files on which locks are held, the oldest first. -/
structure Held where
  tree : FileTree
  live : List Location

namespace Held

/-- A request is met. -/
def step (s : Held) : Request → Held
  | .acquire cwd p =>
    let taken := RunLock.acquire s.tree cwd s.live p
    ⟨taken.2, match taken.1 with
      | .ok l => s.live ++ [l]
      | .error _ => s.live⟩
  | .drop place => ⟨s.tree, s.live.eraseIdx place⟩

/-- Requests are met one after the other. -/
def run (s : Held) (requests : List Request) : Held := requests.foldl step s

/-- The locks are held on different files, all of which are there. -/
structure Apart (s : Held) : Prop where
  nodup : s.live.Nodup
  files : ∀ l ∈ s.live, (s.tree.content? l).isSome = true

end Held

/-! ## One lock -/

section Acquire

variable (t : FileTree) (cwd : Location) (live : List Location) (p : HostPath)

/-- The tree is left as opening the file leaves it. -/
theorem acquire_snd : (acquire t cwd live p).2 = (openFile t cwd p).2 := by
  unfold acquire
  split
  · next opened => rw [opened]
  · next opened => rw [opened]

/-- What a lock is taken on, or why it is not. -/
theorem acquire_fst :
    (acquire t cwd live p).1 =
      match (openFile t cwd p).1 with
      | .error e => .error (.io p e)
      | .ok l => if l ∈ live then .error (.concurrentRun p) else .ok l := by
  unfold acquire
  split
  · next opened => rw [opened]
  · next opened => rw [opened]

variable {t cwd live p} {l : Location}

/-- A lock is taken on a file that was opened and on which none is held. -/
theorem acquire_eq_ok_iff :
    (acquire t cwd live p).1 = .ok l ↔ (openFile t cwd p).1 = .ok l ∧ l ∉ live := by
  rw [acquire_fst]
  cases (openFile t cwd p).1 with
  | error e => simp
  | ok m =>
    by_cases held : m ∈ live
    · simp only [held, if_true, reduceCtorEq, Except.ok.injEq, false_iff, not_and, not_not]
      rintro rfl
      exact held
    · simp only [held, if_false, Except.ok.injEq, iff_self_and]
      rintro rfl
      exact held

/-- A lock is refused because of another run when one is held on the file that was opened. -/
theorem acquire_eq_concurrentRun_iff :
    (acquire t cwd live p).1 = .error (.concurrentRun p) ↔
      ∃ l ∈ live, (openFile t cwd p).1 = .ok l := by
  rw [acquire_fst]
  cases (openFile t cwd p).1 with
  | error e => simp
  | ok m => by_cases held : m ∈ live <;> simp [held]

/-- A lock is refused with the error with which its file was not opened. -/
theorem acquire_eq_io_iff {e : OsError} :
    (acquire t cwd live p).1 = .error (.io p e) ↔ (openFile t cwd p).1 = .error e := by
  rw [acquire_fst]
  cases (openFile t cwd p).1 with
  | error e' => simp
  | ok m => by_cases held : m ∈ live <;> simp [held]

end Acquire

/-! ## Many locks -/

namespace Held

variable {s : Held} {cwd : Location} {p : HostPath}

/-- A lock that is taken comes after those that are held. -/
theorem step_of_ok {l : Location} (taken : (acquire s.tree cwd s.live p).1 = .ok l) :
    s.step (.acquire cwd p) = ⟨(openFile s.tree cwd p).2, s.live ++ [l]⟩ := by
  simp only [step, taken, acquire_snd]

/-- A lock that is refused leaves those that are held. -/
theorem step_of_error {e : Error} (refused : (acquire s.tree cwd s.live p).1 = .error e) :
    s.step (.acquire cwd p) = ⟨(openFile s.tree cwd p).2, s.live⟩ := by
  simp only [step, refused, acquire_snd]

theorem extends_step (s : Held) (r : Request) : Extends s.tree (s.step r).tree := by
  cases r with
  | drop place => exact Extends.refl s.tree
  | acquire cwd p =>
    show Extends s.tree (RunLock.acquire s.tree cwd s.live p).2
    rw [acquire_snd]
    exact extends_openFile s.tree cwd p

/-- Meeting one request keeps the locks apart. -/
theorem Apart.step (apart : s.Apart) (r : Request) : (s.step r).Apart := by
  have more := s.extends_step r
  have stay (l : Location) (held : l ∈ s.live) := more.isSome_content? (apart.files l held)
  cases r with
  | drop place =>
    have fewer := List.eraseIdx_sublist s.live place
    exact ⟨apart.nodup.sublist fewer, fun l held => stay l (fewer.subset held)⟩
  | acquire cwd p =>
    cases taken : (acquire s.tree cwd s.live p).1 with
    | error e =>
      rw [step_of_error taken] at stay ⊢
      exact ⟨apart.nodup, stay⟩
    | ok l =>
      rw [step_of_ok taken] at stay ⊢
      obtain ⟨opened, free⟩ := acquire_eq_ok_iff.1 taken
      refine ⟨?_, fun m held => ?_⟩
      · show (s.live ++ [l]).Nodup
        rw [← List.concat_eq_append]
        exact List.Nodup.concat free apart.nodup
      · rcases List.mem_append.1 held with held | new
        · exact stay m held
        · rw [List.mem_singleton.1 new]
          exact (leadsToFile_of_openFile opened).2

/-- Whatever is asked for, the locks stay apart. -/
theorem Apart.run (apart : s.Apart) (requests : List Request) : (s.run requests).Apart := by
  induction requests generalizing s with
  | nil => exact apart
  | cons r requests ih => exact ih (apart.step r)

theorem extends_run (s : Held) (requests : List Request) :
    Extends s.tree (s.run requests).tree := by
  induction requests generalizing s with
  | nil => exact Extends.refl s.tree
  | cons r requests ih => exact (s.extends_step r).trans (ih (s.step r))

end Held

/-- Whatever locks were taken and given back before, the locks that are held are on different
files.  A lock is refused because of another run exactly when one is held on the file that its path
leads to, and with an error of the system exactly when that file cannot be opened; where everything
stands in a directory, this is when the path leads to no file even after the attempt.  A lock that
is refused leaves the others held, and nothing that is in the tree is ever changed. -/
theorem held_apart (t : FileTree) (requests : List Request) (cwd : Location) (p : HostPath) :
    let s := (Held.mk t []).run requests
    let s' := s.step (.acquire cwd p)
    let opened := (openFile s.tree cwd p).1
    let taken := (acquire s.tree cwd s.live p).1
    s.Apart ∧
      (taken = .error (.concurrentRun p) ↔ ∃ l ∈ s.live, opened = .ok l) ∧
      (∀ e, taken = .error (.io p e) ↔ opened = .error e) ∧
      (∀ l, taken = .ok l ↔ opened = .ok l ∧ l ∉ s.live) ∧
      (∀ e, taken = .error e → s'.live = s.live) ∧
      (∀ l, taken = .ok l → s'.live = s.live ++ [l]) ∧
      (∀ l n, s.tree.node? l = some n → s'.tree.node? l = some n) ∧
      (t.Grounded → ∀ l, opened = .ok l ↔ s'.tree.LeadsToFile cwd p l) := by
  intro s s' opened taken
  have start : (Held.mk t []).Apart := ⟨List.nodup_nil, fun _ held => by cases held⟩
  have left : s'.tree = (openFile s.tree cwd p).2 := acquire_snd s.tree cwd s.live p
  refine ⟨start.run requests, acquire_eq_concurrentRun_iff, fun e => acquire_eq_io_iff,
    fun l => acquire_eq_ok_iff, fun e refused => ?_, fun l free => ?_,
    (s.extends_step (.acquire cwd p)).kept, fun grounded l => ?_⟩
  · rw [show s' = _ from Held.step_of_error refused]
  · rw [show s' = _ from Held.step_of_ok free]
  · rw [left]
    exact openFile_eq_ok_iff (((Held.mk t []).extends_run requests).grounded grounded)

/-- A tree with a link to a file that is still missing. -/
def aliased : FileTree :=
  ⟨.ofList [(["run"], .dir), (["etc"], .dir), (["etc", "motd"], .file (.text "hello")),
    (["etc", "lock"], .link "../run/sub/../nicprep.lock")]⟩

/-- Two locks are taken, on files that are made for them, and the first is given back. -/
def taking : List Request :=
  [.acquire [] ⟨"/run/sub/lock"⟩, .acquire ["run"] ⟨"nicprep.lock"⟩, .drop 0]

/-- While a lock is held on a file, another is refused along a link to it. -/
theorem refused_along_link :
    let s := (Held.mk aliased []).run taking
    let p : HostPath := ⟨"//etc/./lock"⟩
    aliased.Grounded ∧ (acquire s.tree [] s.live p).1 = .error (.concurrentRun p) ∧
      (s.step (.acquire [] p)).tree.LeadsToFile [] p ["run", "nicprep.lock"] := by
  intro s p
  have grounded : aliased.Grounded := grounded_of_entries (by decide)
  have opened : (openFile s.tree [] p).1 = .ok ["run", "nicprep.lock"] := by decide +kernel
  have held : ["run", "nicprep.lock"] ∈ s.live := by decide +kernel
  obtain ⟨-, refused, -, -, -, -, -, leads⟩ := held_apart aliased taking [] p
  exact ⟨grounded, refused.2 ⟨_, held, opened⟩, (leads grounded _).1 opened⟩

end Provision.RunLock
