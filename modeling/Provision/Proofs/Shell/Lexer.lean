import Provision.Shell.CommandLine

/-!
# Token recognition of the shell

The rules by which a POSIX shell cuts its input into tokens, one character at a
time: quoting, operators, blanks, comments and joined lines.  An unquoted or
double-quoted `$` or backquote begins an expansion, and what follows is no longer
read by these rules alone: recognition stops there with an obstacle.

Main results:

- `Lexer.lex`: the tokens of a text, or what stands in the way of them.
- `Lexer.read_append`: reading goes on behind the first part of a text.
- `Lexer.lex_of_read`: a text that is read up to the end of a word has its tokens.

Current gaps:

- Here-documents and the texts of expansions are not read, only noticed.
- Which words are reserved, assignments or descriptor numbers is left to the grammar.
-/

namespace Provision.Shell.Lexer

/-! ## Tokens -/

/-- What stands between double quotation marks. -/
inductive Inside where
  /-- A character that stands for itself. -/
  | literal (c : Char)
  /-- A character after a backslash that takes its meaning away. -/
  | escaped (c : Char)
  /-- A backslash and the end of a line, which are removed together. -/
  | joined
  deriving DecidableEq, Repr

/-- A piece of a word. -/
inductive Piece where
  /-- A character outside of any quotation. -/
  | bare (c : Char)
  /-- A character after a backslash. -/
  | escaped (c : Char)
  /-- The text between two apostrophes. -/
  | single (body : List Char)
  /-- The text between two double quotation marks. -/
  | double (body : List Inside)
  deriving DecidableEq, Repr

/-- A word: the characters it was read from, and its pieces. -/
structure ShellWord where
  source : List Char
  pieces : List Piece
  deriving DecidableEq, Repr

/-- The word nothing has been read of. -/
def ShellWord.empty : ShellWord := ⟨[], []⟩

/-- A word with one more character read. -/
def ShellWord.note (w : ShellWord) (c : Char) : ShellWord := { w with source := w.source ++ [c] }

/-- A word with one more piece. -/
def ShellWord.piece (w : ShellWord) (p : Piece) : ShellWord := { w with pieces := w.pieces ++ [p] }

/-- A token. -/
inductive Token where
  | word (w : ShellWord)
  | operator (symbol : List Char)
  | newline
  deriving DecidableEq, Repr

/-- What stands in the way of recognising a token. -/
inductive Obstacle where
  /-- A parameter, command or arithmetic expansion. -/
  | expansion
  /-- The body of a here-document. -/
  | hereDocument
  /-- A quotation that the text does not close. -/
  | unclosed
  deriving DecidableEq, Repr

/-- The operators of the shell. -/
def operators : List (List Char) :=
  ["&", "|", ";", "<", ">", "(", ")", "&&", "||", ";;", "<<", ">>", "<&", ">&", "<>", ">|",
    "<<-"].map String.toList

/-- Whether a character begins an expansion where nothing quotes it. -/
def beginsExpansion (c : Char) : Bool := c == '$' || c == '\x60'

/-- Whether a character separates words. -/
def isBlank (c : Char) : Bool := c == ' ' || c == '\t'

/-! ## States -/

/-- The token that has been begun. -/
inductive Begun where
  | nothing
  | operator (symbol : List Char)
  | word (w : ShellWord)
  deriving DecidableEq, Repr

/-- The quotation the next character stands in. -/
inductive Mode where
  | plain
  /-- After a backslash outside of quotation marks. -/
  | backslash
  /-- Between apostrophes, after a text. -/
  | single (body : List Char)
  /-- Between double quotation marks, after a text. -/
  | double (body : List Inside)
  /-- After a backslash between double quotation marks. -/
  | doubleBackslash (body : List Inside)
  | comment
  deriving DecidableEq, Repr

/-- How far recognition has come: the finished tokens, the token that has been
begun and the quotation the next character stands in. -/
structure State where
  tokens : List Token := []
  begun : Begun := .nothing
  mode : Mode := .plain
  deriving DecidableEq, Repr

namespace State

/-- All tokens, with the one that has been begun as the last. -/
def close (s : State) : List Token :=
  match s.begun with
  | .nothing => s.tokens
  | .operator symbol => s.tokens ++ [.operator symbol]
  | .word w => s.tokens ++ [.word w]

/-- Ends the token that has been begun. -/
def delimit (s : State) : State := { s with tokens := s.close, begun := .nothing }

/-- Changes the word that has been begun, or begins one, and reads on in a mode. -/
def inWord (s : State) (change : ShellWord → ShellWord) (mode : Mode) : State :=
  match s.begun with
  | .word w => { s with begun := .word (change w), mode := mode }
  | _ => { s.delimit with begun := .word (change .empty), mode := mode }

@[simp]
theorem inWord_of_word (tokens : List Token) (w : ShellWord) (mode next : Mode)
    (change : ShellWord → ShellWord) :
    inWord ⟨tokens, .word w, mode⟩ change next = ⟨tokens, .word (change w), next⟩ := rfl

@[simp]
theorem inWord_of_nothing (tokens : List Token) (mode next : Mode)
    (change : ShellWord → ShellWord) :
    inWord ⟨tokens, .nothing, mode⟩ change next = ⟨tokens, .word (change .empty), next⟩ := rfl

/-- Whether a here-document is to follow the line. -/
def awaitsHereDocument (s : State) : Bool :=
  s.close.any fun t => t == .operator "<<".toList || t == .operator "<<-".toList

/-- Ends a line. -/
def endLine (s : State) : Except Obstacle State :=
  if s.awaitsHereDocument then .error .hereDocument
  else .ok { tokens := s.close ++ [.newline] }

/-- The operator that has been begun with one more character, where that is an
operator too. -/
def longer (s : State) (c : Char) : Option (List Char) :=
  match s.begun with
  | .operator symbol => if symbol ++ [c] ∈ operators then some (symbol ++ [c]) else none
  | _ => none

/-- Whether a `#` would begin a comment: it does so where no word has been begun. -/
def mayComment (s : State) : Bool :=
  match s.begun with
  | .word _ => false
  | _ => true

/-- Reads a character outside of any quotation that goes on with no operator. -/
def fresh (s : State) (c : Char) : Except Obstacle State :=
  if c == '\\' then .ok { s with mode := .backslash }
  else if c == '\x27' then .ok (s.inWord (·.note c) (.single []))
  else if c == '"' then .ok (s.inWord (·.note c) (.double []))
  else if beginsExpansion c then .error .expansion
  else if [c] ∈ operators then .ok { s.delimit with begun := .operator [c] }
  else if c == '\n' then s.endLine
  else if isBlank c then .ok s.delimit
  else if c == '#' && s.mayComment then .ok { s.delimit with mode := .comment }
  else .ok (s.inWord (fun w => (w.note c).piece (.bare c)) .plain)

/-- Reads a character outside of any quotation.  The longest operator wins. -/
def plain (s : State) (c : Char) : Except Obstacle State :=
  match s.longer c with
  | some symbol => .ok { s with begun := .operator symbol }
  | none => s.fresh c

/-- Reads a character after a backslash outside of quotation marks. -/
def backslash (s : State) (c : Char) : State :=
  if c == '\n' then { s with mode := .plain }
  else s.inWord (fun w => ((w.note '\\').note c).piece (.escaped c)) .plain

/-- Reads a character between apostrophes. -/
def single (s : State) (body : List Char) (c : Char) : State :=
  if c == '\x27' then s.inWord (fun w => (w.note c).piece (.single body)) .plain
  else s.inWord (·.note c) (.single (body ++ [c]))

/-- Reads a character between double quotation marks. -/
def double (s : State) (body : List Inside) (c : Char) : Except Obstacle State :=
  if c == '"' then .ok (s.inWord (fun w => (w.note c).piece (.double body)) .plain)
  else if c == '\\' then .ok (s.inWord (·.note c) (.doubleBackslash body))
  else if beginsExpansion c then .error .expansion
  else .ok (s.inWord (·.note c) (.double (body ++ [.literal c])))

/-- What a character after a backslash is between double quotation marks.  The
backslash keeps its own meaning only before five characters. -/
def afterBackslash (c : Char) : List Inside :=
  if c == '\n' then [.joined]
  else if beginsExpansion c || c == '"' || c == '\\' then [.escaped c]
  else [.literal '\\', .literal c]

/-- Reads a character after a backslash between double quotation marks. -/
def doubleBackslash (s : State) (body : List Inside) (c : Char) : State :=
  s.inWord (·.note c) (.double (body ++ afterBackslash c))

/-- Reads a character of a comment. -/
def comment (s : State) (c : Char) : Except Obstacle State :=
  if c == '\n' then s.endLine else .ok s

end State

/-! ## Reading -/

/-- Reads one character. -/
def step (s : State) (c : Char) : Except Obstacle State :=
  match s.mode with
  | .plain => s.plain c
  | .backslash => .ok (s.backslash c)
  | .single body => .ok (s.single body c)
  | .double body => s.double body c
  | .doubleBackslash body => .ok (s.doubleBackslash body c)
  | .comment => s.comment c

/-- Reads a text. -/
def read (s : State) (cs : List Char) : Except Obstacle State := cs.foldlM step s

/-- The tokens at the end of the text.  Only a comment may still be open. -/
def finish (s : State) : Except Obstacle (List Token) :=
  match s.mode with
  | .plain | .comment => .ok s.close
  | _ => .error .unclosed

/-- The tokens of a text, or what stands in the way of them. -/
def lex (cs : List Char) : Except Obstacle (List Token) := do
  let s ← read {} cs
  finish s

@[simp]
theorem read_nil (s : State) : read s [] = .ok s := rfl

/-- Reading goes on behind the first character. -/
theorem read_cons {s s' : State} {c : Char} (cs : List Char) (h : step s c = .ok s') :
    read s (c :: cs) = read s' cs := by
  rw [read, List.foldlM_cons, h]
  rfl

/-- Reading goes on behind the first part of a text. -/
theorem read_append {s s' : State} {cs : List Char} (ds : List Char) (h : read s cs = .ok s') :
    read s (cs ++ ds) = read s' ds := by
  rw [read, List.foldlM_append, ← read, h]
  rfl

/-- Where a whole text is read up to the end of a word, its tokens are known. -/
theorem lex_of_read {cs : List Char} {tokens : List Token} {w : ShellWord}
    (h : read {} cs = .ok ⟨tokens, .word w, .plain⟩) : lex cs = .ok (tokens ++ [.word w]) := by
  rw [lex, h]
  rfl

example : lex "ls -l \x27$HOME\x27 >>out # all".toList = .ok
    [.word ⟨"ls".toList, [.bare 'l', .bare 's']⟩,
     .word ⟨"-l".toList, [.bare '-', .bare 'l']⟩,
     .word ⟨"\x27$HOME\x27".toList, [.single "$HOME".toList]⟩,
     .operator ">>".toList,
     .word ⟨"out".toList, [.bare 'o', .bare 'u', .bare 't']⟩] := by rfl

example : lex "echo \"$HOME\"".toList = .error .expansion := by rfl

end Provision.Shell.Lexer
