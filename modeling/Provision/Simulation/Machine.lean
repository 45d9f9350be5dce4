import Provision.Os.Call

/-!
# A simulated machine

An operating system that is a value: a file tree, and a table that says what each
command line does.  A command line that the table does not hold is one that the
shell cannot find.

Main results:

- `Machine.later_answer`, `Machine.later_run`: what stays of a machine at every call, and
  while a program runs.
-/

namespace Provision

/-- What a command line does. -/
structure ShellRule where
  command : String
  status : ExitStatus := .code 0
  stdout : Content := .text ""
  stderr : Content := .text ""
  /-- The error with which the shell cannot be started at all. -/
  startError : Option Nat := none
  /-- Whether the rule holds for one time only. -/
  once : Bool := false
  used : Bool := false
  /-- The nodes that the command leaves in the tree. -/
  puts : List (HostPath × FileNode) := []
  /-- What the command removes from the tree afterwards. -/
  removals : List HostPath := []
  deriving DecidableEq, Inhabited

/-- A simulated machine. -/
structure Machine where
  tree : FileTree := {}
  /-- The directory in which relative paths start. -/
  cwd : Location := []
  rules : List ShellRule := []
  /-- The time, as records hold it. -/
  time : String := "2025-01-01T00:00:00+00:00"
  /-- The command lines that were run, the oldest first. -/
  commands : List String := []
  deriving DecidableEq, Inhabited

namespace Machine

/-! ## Changing the tree -/

/-- The tree with a link at a path, in place of what stands there. -/
def putLink (cwd : Location) (p : HostPath) (target : String) (t : FileTree) : FileTree :=
  match p.route with
  | .error _ => t
  | .ok r =>
    match Walk.locateParent t (Walk.start cwd r) Walk.linkLimit r with
    | .ok (some (dir, name, _)) => (t.prune (dir ++ [name])).put (dir ++ [name]) (.link target)
    | _ => t

/-- The tree with a node at a path; missing directories are made. -/
def putNode (cwd : Location) (p : HostPath) (n : FileNode) (t : FileTree) : FileTree :=
  let t := match p.parent? with
    | some parent => (t.makeDirs cwd parent).2
    | none => t
  match n with
  | .dir => (t.makeDirs cwd p).2
  | .file content => (t.writeFile cwd p content).2
  | .link target => putLink cwd p target t

/-- The tree without what stands at a path. -/
def removeNode (cwd : Location) (p : HostPath) (t : FileTree) : FileTree :=
  match Walk.locateLink t cwd p with
  | .ok l => t.prune l
  | .error _ => t

/-- Puts nodes into the tree, and then removes others. -/
def edit (puts : List (HostPath × FileNode)) (removals : List HostPath) (m : Machine) : Machine :=
  let t := puts.foldl (fun t e => putNode m.cwd e.1 e.2 t) m.tree
  { m with tree := removals.foldl (fun t p => removeNode m.cwd p t) t }

/-! ## Command lines -/

/-- The first rule that holds for a command line, and the rules afterwards. -/
def takeRule (command : String) : List ShellRule → Option ShellRule × List ShellRule
  | [] => (none, [])
  | r :: rs =>
    if r.command = command && !(r.once && r.used) then (some r, { r with used := true } :: rs)
    else
      let (found, rs) := takeRule command rs
      (found, r :: rs)

/-- What the shell says of a command that it cannot find. -/
def notFound : ShellOutput := ⟨.code 127, .text "", .text "sh: command not found"⟩

/-- Runs a command line as its rule says. -/
def followRule (command : String) (m : Machine) : Except OsError ShellOutput × Machine :=
  let (rule, rules) := takeRule command m.rules
  let m := { m with rules := rules, commands := m.commands ++ [command] }
  match rule with
  | none => (.ok notFound, m)
  | some r =>
    match r.startError with
    | some n => (.error (.errno n), m)
    | none => (.ok ⟨r.status, r.stdout, r.stderr⟩, m.edit r.puts r.removals)

/-- Runs a command line.  One with a NUL character cannot be handed to the shell at all. -/
def runCommand (command : String) (m : Machine) : Except OsError ShellOutput × Machine :=
  if '\x00' ∈ command.toList then (.error .nulInCommand, m) else followRule command m

/-! ## Calls -/

/-- The machine with another tree. -/
def withTree (m : Machine) (t : FileTree) : Machine := { m with tree := t }

/-- How a simulated machine answers calls. -/
def answer : Handler osSignature Machine
  | .readFile p, m => (m.tree.readFile m.cwd p, m)
  | .writeFile p s, m =>
    let (reply, t) := m.tree.writeFile m.cwd p (.text s)
    (reply, m.withTree t)
  | .leadsToDir p, m => (m.tree.leadsToDir m.cwd p, m)
  | .listDir p, m => (m.tree.listDir m.cwd p, m)
  | .readLink p, m => (m.tree.readLink m.cwd p, m)
  | .makeDirs p, m =>
    let (reply, t) := m.tree.makeDirs m.cwd p
    (reply, m.withTree t)
  | .rename p q, m =>
    match m.tree.rename m.cwd p q with
    | .ok t => (.ok (), m.withTree t)
    | .error e => (.error e, m)
  | .shell command, m => m.runCommand command
  | .timestamp, m => (m.time, m)

/-! ## What stays -/

/-- What stays of a machine in all that it does: where relative paths start, its time, and the
command lines that were run before. -/
structure Later (m m' : Machine) : Prop where
  cwd : m'.cwd = m.cwd
  time : m'.time = m.time
  commands : m.commands <+: m'.commands

theorem Later.refl (m : Machine) : Later m m := ⟨rfl, rfl, List.prefix_refl _⟩

/-- A machine stays the same but for its tree. -/
theorem Later.withTree (m : Machine) (t : FileTree) : Later m (m.withTree t) :=
  ⟨rfl, rfl, List.prefix_refl _⟩

theorem Later.trans {m₁ m₂ m₃ : Machine} (first : Later m₁ m₂) (second : Later m₂ m₃) :
    Later m₁ m₃ :=
  ⟨second.cwd.trans first.cwd, second.time.trans first.time,
    first.commands.trans second.commands⟩

/-- A command line leaves the rest of a machine but its tree and its rules. -/
theorem later_runCommand (command : String) (m : Machine) : Later m (m.runCommand command).2 := by
  unfold runCommand followRule
  split
  · exact .refl m
  · dsimp only
    split
    · exact ⟨rfl, rfl, List.prefix_append ..⟩
    · split <;> exact ⟨rfl, rfl, List.prefix_append ..⟩

/-- One call. -/
theorem later_answer (c : OsCall) (m : Machine) : Later m (answer c m).2 := by
  cases c with
  | readFile _ | leadsToDir _ | listDir _ | readLink _ | timestamp => exact .refl m
  | writeFile _ _ | makeDirs _ => exact .withTree m _
  | rename p q =>
    simp only [answer]
    split
    · exact .withTree m _
    · exact .refl m
  | shell command => exact later_runCommand command m

/-- A program. -/
theorem later_run {α : Type} (p : OsProg α) (m : Machine) : Later m (Prog.run answer p m).2 := by
  induction p generalizing m with
  | done a => exact .refl m
  | call c next ih => exact (later_answer c m).trans (ih _ _)

end Machine

end Provision
