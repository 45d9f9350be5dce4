import Provision.Proofs.Shell.Lexer

/-!
# The words of a command line

A command line is cut by the shell into its program and one word for each
argument, whatever the arguments hold.  The lexer carries its quoting through every
character: `escape` puts a backslash before each character that would end the
quotation, begin an expansion or swallow the next backslash, so the quotation ends
with the mark that `quoteChars` wrote last.

Main results:

- `read_escape`: an escaped text never leaves the quotation it stands in.
- `read_quoteChars`: a quoted argument is one word, closed by its own mark.
- `lex_lineChars`, `lex_commandLine`: a command line is its program and one quoted word
  for each argument, with no operator, no expansion and nothing left open.
-/

namespace Provision.Shell

open Lexer

/-! ## Programs -/

/-- Whether a character stands for itself wherever it stands outside of quotation. -/
def isPlain (c : Char) : Bool :=
  !(c == '\\' || c == '\x27' || c == '"' || beginsExpansion c || operators.contains [c] ||
    c == '\n' || isBlank c || c == '#')

/-- A program path that means nothing else to the shell.  The empty text is no path. -/
structure IsPlainPath (program : String) : Prop where
  ne_nil : program.toList ≠ []
  plain : ∀ c ∈ program.toList, isPlain c = true

/-- The programs a run may start have plain paths. -/
theorem isPlainPath_programs : ∀ p ∈ [modprobe, lspci, mount, umount], IsPlainPath p := by
  have checked : ∀ p ∈ [modprobe, lspci, mount, umount],
      p.toList ≠ [] ∧ p.toList.all isPlain = true := by
    decide +kernel
  exact fun p hp => ⟨(checked p hp).1, List.all_eq_true.1 (checked p hp).2⟩

/-- The word that plain characters make. -/
def plainWord (cs : List Char) : ShellWord := ⟨cs, cs.map .bare⟩

/-- A plain character goes on with the word before it, or begins one. -/
theorem fresh_of_isPlain {c : Char} (hc : isPlain c = true) (s : State) :
    s.fresh c = .ok (s.inWord (fun w => (w.note c).piece (.bare c)) .plain) := by
  simp only [isPlain, Bool.not_eq_true', Bool.or_eq_false_iff, List.contains_eq_mem,
    decide_eq_false_iff_not] at hc
  simp [State.fresh, hc]

/-- A plain text goes on with the word before it. -/
theorem read_plain_of_word (tokens : List Token) {cs : List Char}
    (plain : ∀ c ∈ cs, isPlain c = true) (before : List Char) :
    read ⟨tokens, .word (plainWord before), .plain⟩ cs =
      .ok ⟨tokens, .word (plainWord (before ++ cs)), .plain⟩ := by
  induction cs generalizing before with
  | nil => simp
  | cons c cs ih =>
    obtain ⟨hc, hcs⟩ := List.forall_mem_cons.1 plain
    have first : step ⟨tokens, .word (plainWord before), .plain⟩ c =
        .ok ⟨tokens, .word (plainWord (before ++ [c])), .plain⟩ := by
      simp [step, State.plain, State.longer, fresh_of_isPlain hc, plainWord, ShellWord.note,
        ShellWord.piece]
    rw [read_cons _ first]
    simpa using ih hcs (before ++ [c])

/-- A plain path is read as one word. -/
theorem read_plainPath {program : String} (path : IsPlainPath program) :
    read {} program.toList = .ok ⟨[], .word (plainWord program.toList), .plain⟩ := by
  obtain ⟨ne, plain⟩ := path
  cases h : program.toList with
  | nil => exact absurd h ne
  | cons c cs =>
    rw [h] at plain
    obtain ⟨hc, hcs⟩ := List.forall_mem_cons.1 plain
    have first : step {} c = .ok ⟨[], .word (plainWord [c]), .plain⟩ := by
      simp [step, State.plain, State.longer, fresh_of_isPlain hc, plainWord, ShellWord.note,
        ShellWord.piece, ShellWord.empty]
    rw [read_cons _ first]
    exact read_plain_of_word [] hcs [c]

/-! ## Arguments -/

/-- What a character of an argument is between quotation marks, once escaped. -/
def insideOf (c : Char) : Inside :=
  if c == '\n' then .joined else if isSpecial c then .escaped c else .literal c

/-- The word a quoted argument is: one quotation, from its first mark to its last. -/
def quotedWord (cs : List Char) : ShellWord := ⟨quoteChars cs, [.double (cs.map insideOf)]⟩

/-- A character that is not special stays in the quotation it stands in. -/
theorem double_of_not_isSpecial {c : Char} (hc : isSpecial c = false) (s : State)
    (body : List Inside) :
    s.double body c = .ok (s.inWord (·.note c) (.double (body ++ [insideOf c]))) := by
  simp only [isSpecial, Bool.or_eq_false_iff] at hc
  simp [State.double, beginsExpansion, insideOf, isSpecial, hc]

/-- A special character after a backslash is one piece, whichever it is. -/
theorem afterBackslash_of_isSpecial {c : Char} (hc : isSpecial c = true) :
    State.afterBackslash c = [insideOf c] := by
  simp only [isSpecial, Bool.or_eq_true, beq_iff_eq] at hc
  obtain (((rfl | rfl) | rfl) | rfl) | rfl := hc <;> rfl

/-- An escaped character never leaves the quotation it stands in. -/
theorem read_escape_char (c : Char) (tokens : List Token) (w : ShellWord) (body : List Inside) :
    read ⟨tokens, .word w, .double body⟩ (if isSpecial c then ['\\', c] else [c]) =
      .ok ⟨tokens, .word { w with source := w.source ++ if isSpecial c then ['\\', c] else [c] },
        .double (body ++ [insideOf c])⟩ := by
  cases hc : isSpecial c with
  | false =>
    have only : step ⟨tokens, .word w, .double body⟩ c =
        .ok ⟨tokens, .word (w.note c), .double (body ++ [insideOf c])⟩ :=
      double_of_not_isSpecial hc _ body
    simp [read_cons _ only, ShellWord.note]
  | true =>
    -- the backslash is read first, and takes the meaning of the character after it
    have first : step ⟨tokens, .word w, .double body⟩ '\\' =
        .ok ⟨tokens, .word (w.note '\\'), .doubleBackslash body⟩ := rfl
    have second : step ⟨tokens, .word (w.note '\\'), .doubleBackslash body⟩ c =
        .ok ⟨tokens, .word ((w.note '\\').note c), .double (body ++ [insideOf c])⟩ := by
      rw [← afterBackslash_of_isSpecial hc]
      rfl
    rw [if_pos rfl, read_cons _ first, read_cons _ second]
    simp [ShellWord.note]

/-- An escaped text never leaves the quotation it stands in. -/
theorem read_escape (cs : List Char) (tokens : List Token) (w : ShellWord) (body : List Inside) :
    read ⟨tokens, .word w, .double body⟩ (escape cs) =
      .ok ⟨tokens, .word { w with source := w.source ++ escape cs },
        .double (body ++ cs.map insideOf)⟩ := by
  induction cs generalizing w body with
  | nil => simp [escape]
  | cons c cs ih =>
    rw [escape_cons, read_append _ (read_escape_char c tokens w body), ih]
    simp

/-- A quoted argument is one word, closed by its own mark. -/
theorem read_quoteChars (cs : List Char) (tokens : List Token) :
    read ⟨tokens, .nothing, .plain⟩ (quoteChars cs) =
      .ok ⟨tokens, .word (quotedWord cs), .plain⟩ := by
  have opened : step ⟨tokens, .nothing, .plain⟩ '"' =
      .ok ⟨tokens, .word ⟨['"'], []⟩, .double []⟩ := rfl
  have closed (w : ShellWord) (body : List Inside) : read ⟨tokens, .word w, .double body⟩ ['"'] =
      .ok ⟨tokens, .word ((w.note '"').piece (.double body)), .plain⟩ := rfl
  calc read ⟨tokens, .nothing, .plain⟩ (quoteChars cs)
      = read ⟨tokens, .word ⟨['"'], []⟩, .double []⟩ (escape cs ++ ['"']) := by
        rw [quoteChars, read_cons _ opened]
    _ = read ⟨tokens, .word ⟨'"' :: escape cs, []⟩, .double (cs.map insideOf)⟩ ['"'] := by
        rw [read_append _ (read_escape cs tokens _ _)]; simp
    _ = .ok ⟨tokens, .word (quotedWord cs), .plain⟩ := by
        rw [closed]; simp [quotedWord, quoteChars, ShellWord.note, ShellWord.piece]

/-- The arguments after a word are one word each, and the last word is the one that
has been begun. -/
theorem read_arguments (arguments : List (List Char)) (tokens : List Token) (w : ShellWord) :
    ∃ begun last, read ⟨tokens, .word w, .plain⟩ (arguments.flatMap (' ' :: quoteChars ·)) =
        .ok ⟨begun, .word last, .plain⟩ ∧
      begun ++ [.word last] = tokens ++ .word w :: arguments.map (.word <| quotedWord ·) := by
  induction arguments generalizing tokens w with
  | nil => exact ⟨tokens, w, by simp⟩
  | cons a rest ih =>
    have blank : step ⟨tokens, .word w, .plain⟩ ' ' =
        .ok ⟨tokens ++ [.word w], .nothing, .plain⟩ := rfl
    have first : read ⟨tokens, .word w, .plain⟩ (' ' :: quoteChars a) =
        .ok ⟨tokens ++ [.word w], .word (quotedWord a), .plain⟩ := by
      rw [read_cons _ blank]
      exact read_quoteChars a (tokens ++ [.word w])
    obtain ⟨begun, last, run, all⟩ := ih (tokens ++ [.word w]) (quotedWord a)
    refine ⟨begun, last, ?_, by simpa using all⟩
    rw [List.flatMap_cons, read_append _ first, run]

/-- The characters of a command line are lexed into the program and one word for each argument. -/
theorem lex_lineChars {program : String} (path : IsPlainPath program)
    (arguments : List (List Char)) :
    lex (lineChars program.toList arguments) =
      .ok (.word (plainWord program.toList) :: arguments.map (.word <| quotedWord ·)) := by
  obtain ⟨begun, last, run, all⟩ := read_arguments arguments [] (plainWord program.toList)
  have line : read {} (lineChars program.toList arguments) = .ok ⟨begun, .word last, .plain⟩ := by
    rw [lineChars, read_append _ (read_plainPath path), run]
  rw [lex_of_read line, all, List.nil_append]

/-- No argument reaches the shell as anything but one word.  A command line with a
plain program path is lexed into its program and one word for each argument.  Each of
these words was read from exactly the characters that `quoteChars` wrote and is one
quotation that holds the argument's characters, so no argument brings in an operator,
an expansion, a further word or an open quotation. -/
theorem lex_commandLine {program : String} (path : IsPlainPath program) (arguments : List String) :
    lex (commandLine program arguments).toList =
      .ok (.word (plainWord program.toList) ::
        arguments.map fun a => .word (quotedWord a.toList)) := by
  rw [commandLine, String.toList_ofList, lex_lineChars path, List.map_map]
  rfl

/-- Arguments made of the shell's own characters reach `umount` as one word each. -/
theorem lex_commandLine_umount :
    IsPlainPath umount ∧
      lex (commandLine umount ["; rm -rf /", "$(id)\x60id\x60", "\\\"\\\\\n&& true #"]).toList =
        .ok (.word (plainWord umount.toList) ::
          ["; rm -rf /", "$(id)\x60id\x60", "\\\"\\\\\n&& true #"].map fun a =>
            .word (quotedWord a.toList)) :=
  have path : IsPlainPath umount := isPlainPath_programs umount (by simp)
  ⟨path, lex_commandLine path _⟩

end Provision.Shell
