/-!
# Command lines

Command lines for the shell, with every argument between quotation marks so that
it reaches the program as one word.

Main results:

- `Shell.escape_cons`: an argument is escaped character by character.
-/

namespace Provision.Shell

/-- Whether a character has a meaning of its own between quotation marks. -/
def isSpecial (c : Char) : Bool := c == '$' || c == '\x60' || c == '"' || c == '\\' || c == '\n'

/-- The characters of an argument, with a backslash before each special one. -/
def escape : List Char → List Char
  | [] => []
  | c :: cs => if isSpecial c then '\\' :: c :: escape cs else c :: escape cs

theorem escape_cons (c : Char) (cs : List Char) :
    escape (c :: cs) = (if isSpecial c then ['\\', c] else [c]) ++ escape cs := by
  rw [escape]
  split <;> simp

/-- The characters of an argument between quotation marks. -/
def quoteChars (cs : List Char) : List Char := '"' :: (escape cs ++ ['"'])

/-- An argument between quotation marks. -/
def quote (s : String) : String := String.ofList (quoteChars s.toList)

/-- The characters of a command line: the program, and each argument after a blank. -/
def lineChars (program : List Char) (arguments : List (List Char)) : List Char :=
  program ++ arguments.flatMap fun a => ' ' :: quoteChars a

/-- A command line: the program, and each argument between quotation marks. -/
def commandLine (program : String) (arguments : List String) : String :=
  String.ofList (lineChars program.toList (arguments.map String.toList))

/-! ## Programs -/

/-- The program that loads and unloads kernel modules. -/
def modprobe : String := "/sbin/modprobe"

/-- The program that lists PCI devices. -/
def lspci : String := "/usr/bin/lspci"

/-- The program that mounts file systems. -/
def mount : String := "/bin/mount"

/-- The program that unmounts file systems. -/
def umount : String := "/bin/umount"

end Provision.Shell
