import Provision.Files.Walk

/-!
# File operations

Reading and writing of files, directories and links, each of which leaves the tree
as it was when it fails; only the making of several directories may stop halfway.

Main results:

- `FileTree.node?_writeFile`: what writing a file does to the tree, and that it does nothing when
  it fails.
-/

namespace Provision.FileTree

/-- What a path names, when it is read. -/
def readFile (t : FileTree) (cwd : Location) (p : HostPath) : Except OsError Content := do
  match t.node? (← Walk.locate t cwd p) with
  | some (.file content) => .ok content
  | some .dir => .error .isDirectory
  | some (.link _) | none => .error .noEntry

/-- Whether a path leads to a directory. -/
def leadsToDir (t : FileTree) (cwd : Location) (p : HostPath) : Except OsError Bool := do
  pure (t.isDir (← Walk.locate t cwd p))

/-- The names of what stands in a directory. -/
def listDir (t : FileTree) (cwd : Location) (p : HostPath) : Except OsError (List String) := do
  let l ← Walk.locate t cwd p
  if t.isDir l then .ok (t.children l) else .error .notDirectory

/-- The target of a link. -/
def readLink (t : FileTree) (cwd : Location) (p : HostPath) : Except OsError HostPath := do
  match t.node? (← Walk.locateLink t cwd p) with
  | some (.link target) => .ok ⟨target⟩
  | _ => .error .invalidArgument

/-- Writes a file. -/
def writeFile (t : FileTree) (cwd : Location) (p : HostPath) (content : Content) :
    Except OsError Unit × FileTree :=
  match Walk.locateFile t cwd p with
  | .ok l => (.ok (), t.put l (.file content))
  | .error e => (.error e, t)

/-- Opens a file for writing; gives its location, where an empty file is made if nothing stands
there. -/
def touch (t : FileTree) (cwd : Location) (p : HostPath) : Except OsError Location × FileTree :=
  match Walk.locateFile t cwd p with
  | .ok l => (.ok l, if (t.node? l).isSome then t else t.put l (.file (.text "")))
  | .error e => (.error e, t)

/-- A file that was written holds what was written, and nothing else was changed; when writing
fails, nothing was. -/
theorem node?_writeFile (t : FileTree) (cwd : Location) (p : HostPath) (content : Content) :
    match (t.writeFile cwd p content).1 with
    | .ok () => ∃ l, Walk.locateFile t cwd p = .ok l ∧
        (l ≠ [] → (t.writeFile cwd p content).2.node? l = some (.file content)) ∧
        ∀ m ≠ l, (t.writeFile cwd p content).2.node? m = t.node? m
    | .error _ => (t.writeFile cwd p content).2 = t := by
  unfold writeFile
  cases located : Walk.locateFile t cwd p with
  | ok l => exact ⟨l, rfl, node?_put_self t _, fun m ne => node?_put_of_ne t _ ne⟩
  | error e => rfl

/-- Makes a directory whose parent is there. -/
def makeDir (t : FileTree) (cwd : Location) (p : HostPath) : Except OsError FileTree := do
  let r ← p.route
  match ← Walk.locateParent t (Walk.start cwd r) Walk.linkLimit r with
  | none => .error .alreadyExists
  | some (dir, name, _) =>
    if Walk.isDots name then .error .alreadyExists
    else
      match ← Walk.entry t dir name with
      | some _ => .error .alreadyExists
      | none => .ok (t.put (dir ++ [name]) .dir)

/-- Makes a directory whose parent is there, unless it is there itself. -/
def provideDir (t : FileTree) (cwd : Location) (p : HostPath) : Except OsError Unit × FileTree :=
  match t.makeDir cwd p with
  | .ok t => (.ok (), t)
  | .error e =>
    match t.leadsToDir cwd p with
    | .ok true => (.ok (), t)
    | _ => (.error e, t)

/-- Makes a directory and those above it that are missing, up to a number of them. -/
def provideDirsTo (cwd : Location) : Nat → FileTree → HostPath → Except OsError Unit × FileTree
  | 0, t, _ => (.error .noEntry, t)
  | depth + 1, t, p =>
    if p.text.isEmpty then (.ok (), t)
    else
      match t.provideDir cwd p, p.parent? with
      | (.error (.errno 2), _), some parent =>
        match provideDirsTo cwd depth t parent with
        | (.ok _, t) => t.provideDir cwd p
        | failed => failed
      | result, _ => result

/-- Makes a directory and those above it that are missing. -/
def makeDirs (t : FileTree) (cwd : Location) (p : HostPath) : Except OsError Unit × FileTree :=
  provideDirsTo cwd (p.text.length + 1) t p

/-- Gives a file another name, in place of what stands there. -/
def rename (t : FileTree) (cwd : Location) (p q : HostPath) : Except OsError FileTree := do
  let source ← Walk.locateLink t cwd p
  let r ← q.route
  match ← Walk.locateParent t (Walk.start cwd r) Walk.linkLimit r with
  | none => .error .alreadyExists
  | some (dir, name, _) =>
    if Walk.isDots name then .error .alreadyExists
    else
      match ← Walk.entry t dir name, t.node? source with
      | some .dir, _ => .error .isDirectory
      | _, some node =>
        if source = dir ++ [name] then .ok t
        else .ok ((t.prune source).put (dir ++ [name]) node)
      | _, none => .error .noEntry

end Provision.FileTree
