import Provision.Error
import Provision.Files.Operations

/-!
# Run locks

A run lock is held on a file, whatever path led to it, and is given back when its
holder ends.  The file and its directories are made when they are missing.
-/

namespace Provision.RunLock

/-- The directories of a lock file are made, if its path names any. -/
def prepare (t : FileTree) (cwd : Location) (p : HostPath) : Except OsError Unit × FileTree :=
  match p.parent? with
  | some parent => if parent.text.isEmpty then (.ok (), t) else t.makeDirs cwd parent
  | none => (.ok (), t)

/-- Opens the file of a lock; gives its location. -/
def openFile (t : FileTree) (cwd : Location) (p : HostPath) : Except OsError Location × FileTree :=
  match prepare t cwd p with
  | (.ok _, t) => t.touch cwd p
  | (.error e, t) => (.error e, t)

/-- Takes a lock, while others are held on `live`; gives the location of its file. -/
def acquire (t : FileTree) (cwd : Location) (live : List Location) (p : HostPath) :
    Except Error Location × FileTree :=
  match openFile t cwd p with
  | (.error e, t) => (.error (.io p e), t)
  | (.ok l, t) => (if l ∈ live then .error (.concurrentRun p) else .ok l, t)

end Provision.RunLock
