import Provision.Proofs.Shell.CommandWords

/-!
# The arguments of a command

Once a command line is cut into words, the shell takes the quotation out of each of
them, starts the program that the first word names, and passes it the others.  What an
argument becomes on this way is decided by its escaping: a backslash gives back each
special character that it stands before, except the end of a line, which the shell
removes together with the backslash.

Main results:

- `Lexer.command?`: the program that a command line starts, and what it receives.
- `value_quotedWord`: what a quoted argument stands for.
- `command?_commandLine`: what a program receives of its arguments.
- `received_without_line_ends`: which arguments reach a program as they are.

Current gaps:

- Words that the shell replaces by others are noticed and not replaced: names of home
  directories, and patterns of file names.
- Only commands that name their program by an absolute path are started.
-/

namespace Provision.Shell

namespace Lexer

/-! ## Words without their quotation -/

/-- What a character between double quotation marks stands for. -/
def Inside.value : Inside → List Char
  | .literal c | .escaped c => [c]
  | .joined => []

/-- What a piece of a word stands for. -/
def Piece.value : Piece → List Char
  | .bare c | .escaped c => [c]
  | .single body => body
  | .double body => body.flatMap Inside.value

/-- What a word stands for, once its quotation is taken out. -/
def ShellWord.value (w : ShellWord) : List Char := w.pieces.flatMap Piece.value

/-- Whether a character makes the word that it stands in a pattern, where nothing quotes it. -/
def isWildcard (c : Char) : Bool := c == '*' || c == '?' || c == '['

/-- Whether a piece makes its word a pattern of file names. -/
def Piece.isPattern : Piece → Bool
  | .bare c => isWildcard c
  | .escaped _ | .single _ | .double _ => false

/-- Whether a word stands for itself: it neither begins with the name of a home directory nor is
it a pattern. -/
def ShellWord.isSettled (w : ShellWord) : Bool :=
  w.pieces.head? != some (.bare '~') && w.pieces.all fun p => !p.isPattern

/-- Whether a word begins as an absolute path does.  Such a word is no keyword and no assignment,
and names neither a function nor a command of the shell itself. -/
def ShellWord.isAbsolute (w : ShellWord) : Bool := w.pieces.head? == some (.bare '/')

/-! ## Commands -/

/-- A program that is started, and the arguments that it receives. -/
structure Command where
  program : List Char
  arguments : List (List Char)
  deriving DecidableEq, Repr

/-- What a token passes to a program. -/
def Token.passed? : Token → Option (List Char)
  | .word w => if w.isSettled then some w.value else none
  | .operator _ | .newline => none

/-- The command that tokens make, if they make a single one. -/
def ofTokens? : List Token → Option Command
  | .word w :: rest =>
    if w.isAbsolute && w.isSettled then (rest.mapM Token.passed?).map (⟨w.value, ·⟩) else none
  | _ => none

/-- The command that a text makes, if it makes a single one. -/
def command? (cs : List Char) : Option Command :=
  match lex cs with
  | .ok tokens => ofTokens? tokens
  | .error _ => none

/-- Tokens that all pass something pass it in their order. -/
theorem mapM_passed? {α : Type} (word : α → ShellWord) {xs : List α}
    (settled : ∀ x ∈ xs, (word x).isSettled = true) :
    (xs.map fun x => Token.word (word x)).mapM Token.passed? =
      some (xs.map fun x => (word x).value) := by
  induction xs with
  | nil => rfl
  | cons x xs ih =>
    obtain ⟨first, rest⟩ := List.forall_mem_cons.1 settled
    have passed : Token.passed? (.word (word x)) = some (word x).value := if_pos first
    simp only [List.map_cons, List.mapM_cons, passed, ih rest]
    rfl

end Lexer

open Lexer

/-! ## Programs -/

/-- A program path at which the shell starts a program, whatever files and users there are. -/
structure IsCommandPath (program : String) : Prop extends IsPlainPath program where
  absolute : program.toList.head? = some '/'
  settled : ∀ c ∈ program.toList, isWildcard c = false

/-- The programs a run may start have such paths. -/
theorem isCommandPath_programs : ∀ p ∈ [modprobe, lspci, mount, umount], IsCommandPath p := by
  have checked : ∀ p ∈ [modprobe, lspci, mount, umount],
      p.toList.head? = some '/' ∧ p.toList.all (fun c => !isWildcard c) = true := by
    decide +kernel
  intro p hp
  refine ⟨isPlainPath_programs p hp, (checked p hp).1, fun c hc => ?_⟩
  simpa using List.all_eq_true.1 (checked p hp).2 c hc

/-- A word of plain characters stands for them. -/
theorem value_plainWord (cs : List Char) : (plainWord cs).value = cs := by
  show (cs.map Piece.bare).flatMap Piece.value = cs
  rw [List.flatMap_map]
  exact List.flatMap_singleton' cs

namespace IsCommandPath

variable {program : String}

theorem isAbsolute_plainWord (path : IsCommandPath program) :
    (plainWord program.toList).isAbsolute = true := by
  show ((program.toList.map Piece.bare).head? == some (.bare '/')) = true
  rw [List.head?_map, path.absolute]
  rfl

theorem isSettled_plainWord (path : IsCommandPath program) :
    (plainWord program.toList).isSettled = true := by
  have noPattern : (program.toList.map Piece.bare).all (fun p => !p.isPattern) = true := by
    rw [List.all_map]
    refine List.all_eq_true.2 fun c hc => ?_
    show (!isWildcard c) = true
    rw [path.settled c hc, Bool.not_false]
  show ((program.toList.map Piece.bare).head? != some (.bare '~') &&
    (program.toList.map Piece.bare).all fun p => !p.isPattern) = true
  rw [noPattern, List.head?_map, path.absolute]
  rfl

end IsCommandPath

/-! ## Arguments -/

/-- Every character of an argument stands for itself, except the end of a line. -/
theorem value_insideOf (c : Char) : (insideOf c).value = [c].filter (· != '\n') := by
  unfold insideOf
  by_cases ends : c = '\n'
  · subst ends
    rfl
  · by_cases special : isSpecial c <;> simp [ends, special, Inside.value]

/-- A quoted argument stands for its characters without the ends of lines. -/
theorem value_quotedWord (cs : List Char) : (quotedWord cs).value = cs.filter (· != '\n') := by
  show (cs.map insideOf).flatMap Inside.value ++ [] = _
  rw [List.append_nil]
  induction cs with
  | nil => rfl
  | cons c cs ih =>
    rw [List.map_cons, List.flatMap_cons, value_insideOf, ih, ← List.filter_append,
      List.singleton_append]

/-- A command line starts its program, and passes each argument without the ends of lines. -/
theorem command?_commandLine {program : String} (path : IsCommandPath program)
    (arguments : List String) :
    command? (commandLine program arguments).toList =
      some ⟨program.toList, arguments.map fun a => a.toList.filter (· != '\n')⟩ := by
  have passed : ((arguments.map String.toList).map (Token.word <| quotedWord ·)).mapM
      Token.passed? = some ((arguments.map String.toList).map fun cs => (quotedWord cs).value) :=
    mapM_passed? quotedWord fun _ _ => rfl
  rw [command?, commandLine, String.toList_ofList, lex_lineChars path.toIsPlainPath]
  show ofTokens? (_ :: _) = _
  rw [ofTokens?, path.isAbsolute_plainWord, path.isSettled_plainWord, passed]
  simp [value_plainWord, value_quotedWord]

/-- A program receives as many arguments as were given, each with all its characters except the
ends of lines.  So the arguments reach it as they are exactly when none of them holds the end of a
line. -/
theorem received_without_line_ends {program : String} (path : IsCommandPath program)
    (arguments : List String) :
    let line := (commandLine program arguments).toList
    command? line =
        some ⟨program.toList, arguments.map fun a => a.toList.filter (· != '\n')⟩ ∧
      (command? line = some ⟨program.toList, arguments.map String.toList⟩ ↔
        ∀ a ∈ arguments, '\n' ∉ a.toList) := by
  intro line
  have received := command?_commandLine path arguments
  refine ⟨received, ?_⟩
  rw [received, Option.some.injEq, Command.mk.injEq, List.map_inj_left]
  simp only [true_and, List.filter_eq_self, bne_iff_ne]
  exact forall₂_congr fun a _ => ⟨fun none ends => none _ ends rfl, fun none c hc ends =>
    none (ends ▸ hc)⟩

/-- Arguments made of the shell's own characters reach `umount` as they are. -/
theorem umount_receives_its_arguments :
    IsCommandPath umount ∧
      command?
          (commandLine umount ["; rm -rf /", "$(id)\x60id\x60", "\\\"\\\\$", "~*", ""]).toList =
        some ⟨umount.toList,
          ["; rm -rf /", "$(id)\x60id\x60", "\\\"\\\\$", "~*", ""].map String.toList⟩ :=
  have path : IsCommandPath umount := isCommandPath_programs umount (by simp)
  ⟨path, (received_without_line_ends path _).2.2 (by decide +kernel)⟩

/-- A mount path that holds the end of a line reaches `umount` without it, as another path. -/
theorem umount_receives_another_path :
    command? (commandLine umount ["/mnt/huge\n2M"]).toList =
        some ⟨umount.toList, ["/mnt/huge2M".toList]⟩ ∧
      "/mnt/huge2M" ≠ "/mnt/huge\n2M" := by
  decide +kernel

end Provision.Shell
