import Provision.Toml.Basic
import Provision.Text.Numeral

/-!
# The words of TOML

Gaps, keys, strings, numbers and dates.  A reader takes the characters that are
left and gives a value with the characters after it.
-/

namespace Provision.Toml

/-! ## Gaps and line ends -/

/-- Whether a character is a blank inside a line. -/
def isSpace (c : Char) : Bool := c == ' ' || c == '\t'

/-- The text without the blanks at its beginning. -/
def skipSpace (cs : List Char) : List Char := cs.dropWhile isSpace

/-- Whether a character may not stand in comments and strings. -/
def isControl (c : Char) : Bool := (c.toNat < 0x20 && c != '\t') || c.toNat == 0x7f

/-- The text from the end of a comment on. -/
def skipComment? : List Char → Option (List Char)
  | [] => some []
  | '\n' :: cs => some ('\n' :: cs)
  | '\r' :: '\n' :: cs => some ('\n' :: cs)
  | c :: cs => if isControl c then none else skipComment? cs

/-- The text after the rest of a line, which may hold a comment only. -/
def endLine? (cs : List Char) : Option (List Char) := do
  let cs ← match skipSpace cs with
    | '#' :: cs => skipComment? cs
    | cs => some cs
  match cs with
  | [] => some []
  | '\n' :: cs => some cs
  | '\r' :: '\n' :: cs => some cs
  | _ => none

/-- The text after blanks, line ends and comments. -/
def skipLines? : Bool → List Char → Option (List Char)
  | _, [] => some []
  | _, '\n' :: cs => skipLines? false cs
  | _, '\r' :: '\n' :: cs => skipLines? false cs
  | true, c :: cs => if isControl c then none else skipLines? true cs
  | false, c :: cs =>
    if isSpace c then skipLines? false cs
    else if c == '#' then skipLines? true cs
    else some (c :: cs)

/-! ## Strings -/

/-- The character with a given code point, if that is one of a character. -/
def scalar? (n : Nat) : Option Char :=
  if n < 0xd800 || (0xe000 ≤ n && n < 0x110000) then some (Char.ofNat n) else none

/-- The character that `count` hexadecimal digits spell, and the rest. -/
def hexScalar? (count : Nat) (cs : List Char) : Option (Char × List Char) := do
  if cs.length < count then none
  else do
    let n ← Numeral.digits? Numeral.hexDigit? 16 0 (cs.take count)
    let c ← scalar? n
    some (c, cs.drop count)

/-- The character that an escape spells, after its backslash. -/
def escaped? : List Char → Option (Char × List Char)
  | 'b' :: cs => some ('\x08', cs)
  | 't' :: cs => some ('\t', cs)
  | 'n' :: cs => some ('\n', cs)
  | 'f' :: cs => some ('\x0c', cs)
  | 'r' :: cs => some ('\r', cs)
  | 'e' :: cs => some ('\x1b', cs)
  | '"' :: cs => some ('"', cs)
  | '\\' :: cs => some ('\\', cs)
  | 'x' :: cs => hexScalar? 2 cs
  | 'u' :: cs => hexScalar? 4 cs
  | 'U' :: cs => hexScalar? 8 cs
  | _ => none

/-- A string in quotation marks, after the first of them. -/
def basicString? : Nat → List Char → Option (List Char × List Char)
  | 0, _ => none
  | _, [] => none
  | _ + 1, '"' :: cs => some ([], cs)
  | fuel + 1, '\\' :: cs => do
    let (c, cs) ← escaped? cs
    let (s, cs) ← basicString? fuel cs
    some (c :: s, cs)
  | fuel + 1, c :: cs =>
    if isControl c then none
    else do
      let (s, cs) ← basicString? fuel cs
      some (c :: s, cs)

/-- A string in apostrophes, after the first of them. -/
def literalString? : List Char → Option (List Char × List Char)
  | [] => none
  | '\'' :: cs => some ([], cs)
  | c :: cs =>
    if isControl c then none
    else do
      let (s, cs) ← literalString? cs
      some (c :: s, cs)

/-- The text after a line end at its beginning. -/
def dropLineEnd : List Char → List Char
  | '\n' :: cs => cs
  | '\r' :: '\n' :: cs => cs
  | cs => cs

/-- The text without the blanks and line ends at its beginning. -/
def skipEmptyLines : List Char → List Char
  | '\n' :: cs => skipEmptyLines cs
  | '\r' :: '\n' :: cs => skipEmptyLines cs
  | c :: cs => if isSpace c then skipEmptyLines cs else c :: cs
  | [] => []

/-- The text after a backslash at the end of a line: the blanks and line ends that follow. -/
def foldLine? (cs : List Char) : Option (List Char) :=
  match skipSpace cs with
  | '\n' :: cs => some (skipEmptyLines cs)
  | '\r' :: '\n' :: cs => some (skipEmptyLines cs)
  | _ => none

/-- The marks that close a string of several lines, where up to two more of them may stand
before: what belongs to the string, and the rest. -/
def closing? (mark : Char) (cs : List Char) : Option (List Char × List Char) :=
  let run := (cs.takeWhile (· == mark)).length
  if run < 3 then none
  else if 5 < run then none
  else some (List.replicate (run - 3) mark, cs.drop run)

/-- A string of several lines in quotation marks, after its first line end. -/
def basicLines? : Nat → List Char → Option (List Char × List Char)
  | 0, _ => none
  | _, [] => none
  | fuel + 1, '"' :: cs =>
    match closing? '"' ('"' :: cs) with
    | some found => some found
    | none =>
      if (cs.takeWhile (· == '"')).length < 2 then do
        let (s, cs) ← basicLines? fuel cs
        some ('"' :: s, cs)
      else none
  | fuel + 1, '\\' :: cs =>
    match foldLine? cs with
    | some cs => basicLines? fuel cs
    | none => do
      let (c, cs) ← escaped? cs
      let (s, cs) ← basicLines? fuel cs
      some (c :: s, cs)
  | fuel + 1, '\r' :: '\n' :: cs => do
    let (s, cs) ← basicLines? fuel cs
    some ('\n' :: s, cs)
  | fuel + 1, c :: cs =>
    if isControl c && c != '\n' then none
    else do
      let (s, cs) ← basicLines? fuel cs
      some (c :: s, cs)

/-- A string of several lines in apostrophes, after its first line end. -/
def literalLines? : Nat → List Char → Option (List Char × List Char)
  | 0, _ => none
  | _, [] => none
  | fuel + 1, '\'' :: cs =>
    match closing? '\'' ('\'' :: cs) with
    | some found => some found
    | none =>
      if (cs.takeWhile (· == '\'')).length < 2 then do
        let (s, cs) ← literalLines? fuel cs
        some ('\'' :: s, cs)
      else none
  | fuel + 1, '\r' :: '\n' :: cs => do
    let (s, cs) ← literalLines? fuel cs
    some ('\n' :: s, cs)
  | fuel + 1, c :: cs =>
    if isControl c && c != '\n' then none
    else do
      let (s, cs) ← literalLines? fuel cs
      some (c :: s, cs)

/-! ## Keys -/

/-- Whether a character may stand in a key without quotation marks. -/
def isKeyChar (c : Char) : Bool :=
  ('a' ≤ c && c ≤ 'z') || ('A' ≤ c && c ≤ 'Z') || ('0' ≤ c && c ≤ '9') || c == '_' || c == '-'

/-- One part of a key. -/
def keyPart? (fuel : Nat) : List Char → Option (String × List Char)
  | '"' :: cs => do
    let (s, cs) ← basicString? fuel cs
    some (String.ofList s, cs)
  | '\'' :: cs => do
    let (s, cs) ← literalString? cs
    some (String.ofList s, cs)
  | cs =>
    let part := cs.takeWhile isKeyChar
    if part.isEmpty then none else some (String.ofList part, cs.dropWhile isKeyChar)

/-- The parts of a key before its last one, its last part, and the text after it and its blanks.
There are at most `parts` of them. -/
def keyParts? (fuel : Nat) : Nat → List Char → Option ((List String × String) × List Char)
  | 0, _ => none
  | parts + 1, cs => do
    let (part, cs) ← keyPart? fuel (skipSpace cs)
    match skipSpace cs with
    | '.' :: cs => do
      let ((path, last), cs) ← keyParts? fuel parts cs
      some ((part :: path, last), cs)
    | cs => some (([], part), cs)

/-- How many parts a key may have, and how deep arrays and inline tables may be nested. -/
def depthLimit : Nat := 80

/-- A key: the parts before its last one, its last part, and the text after it and its blanks. -/
def key? (fuel : Nat) (cs : List Char) : Option ((List String × String) × List Char) :=
  keyParts? fuel depthLimit cs

/-! ## Numbers, truth values and dates -/

/-- Digits that may have single underscores between them, with the underscores removed. -/
def joined? (isDigit : Char → Bool) : List Char → Option (List Char)
  | [] => none
  | [c] => if isDigit c then some [c] else none
  | c :: '_' :: cs => if isDigit c then (joined? isDigit cs).map (c :: ·) else none
  | c :: cs => if isDigit c then (joined? isDigit cs).map (c :: ·) else none

/-- A whole number of digits of one base. -/
def based? (value? : Char → Option Nat) (base : Nat) (cs : List Char) : Option Nat := do
  let ds ← joined? (fun c => (value? c).any (· < base)) cs
  Numeral.digits? value? base 0 ds

/-- The digits of a decimal whole number without superfluous zeros. -/
def decimal? (cs : List Char) : Option Nat :=
  match cs with
  | '0' :: _ :: _ => none
  | _ => based? Numeral.digit? 10 cs

/-- A whole number. -/
def integer? : List Char → Option Int
  | '0' :: 'x' :: cs => (based? Numeral.hexDigit? 16 cs).map Int.ofNat
  | '0' :: 'o' :: cs => (based? Numeral.digit? 8 cs).map Int.ofNat
  | '0' :: 'b' :: cs => (based? Numeral.digit? 2 cs).map Int.ofNat
  | '+' :: cs => (decimal? cs).map Int.ofNat
  | '-' :: cs => (decimal? cs).map fun n => -Int.ofNat n
  | cs => (decimal? cs).map Int.ofNat

/-- The text without a sign in front. -/
def dropSign : List Char → List Char
  | '+' :: cs => cs
  | '-' :: cs => cs
  | cs => cs

/-- The exponent of a number, after its letter. -/
def exponent? : List Char → Option Int
  | '-' :: cs => (based? Numeral.digit? 10 cs).map fun n => -Int.ofNat n
  | '+' :: cs => (based? Numeral.digit? 10 cs).map Int.ofNat
  | cs => (based? Numeral.digit? 10 cs).map Int.ofNat

/-- The exponent that follows the digits of a number, which may be missing. -/
def exponentAfter? : List Char → Option Int
  | [] => some 0
  | _ :: cs => exponent? cs

/-- A float in digits, without its sign: its digits as one number, and the power of ten with which
they count. -/
def digitFloat? (cs : List Char) : Option (Nat × Int) := do
  let isMark (c : Char) : Bool := c == 'e' || c == 'E'
  let whole := cs.takeWhile fun c => c != '.' && !isMark c
  let n ← decimal? whole
  match cs.drop whole.length with
  | [] => none
  | '.' :: rest => do
    let fraction := rest.takeWhile fun c => !isMark c
    let ds ← joined? (fun c => (Numeral.digit? c).isSome) fraction
    let n ← Numeral.digits? Numeral.digit? 10 n ds
    let e ← exponentAfter? (rest.drop fraction.length)
    some (n, e - ds.length)
  | mark => do
    let e ← exponentAfter? mark
    some (n, e)

/-- Whether a float is a double or was written as an infinity, if the text is a float. -/
def float? (cs : List Char) : Option Bool :=
  let body := dropSign cs
  if body == "inf".toList || body == "nan".toList then some true
  else (digitFloat? body).map fun (n, e) => Numeral.isDouble n e

/-- The number that exactly `count` digits spell, and the rest. -/
def fixed? (count : Nat) (cs : List Char) : Option (Nat × List Char) :=
  if cs.length < count then none
  else (Numeral.digits? Numeral.digit? 10 0 (cs.take count)).map (·, cs.drop count)

/-- The number of days of a month. -/
def daysOf (year month : Nat) : Nat :=
  if month == 2 then
    if year % 4 == 0 && (year % 100 != 0 || year % 400 == 0) then 29 else 28
  else if month == 4 || month == 6 || month == 9 || month == 11 then 30 else 31

/-- The text after a date. -/
def date? (cs : List Char) : Option (List Char) := do
  let (year, cs) ← fixed? 4 cs
  let cs ← match cs with | '-' :: cs => some cs | _ => none
  let (month, cs) ← fixed? 2 cs
  let cs ← match cs with | '-' :: cs => some cs | _ => none
  let (day, cs) ← fixed? 2 cs
  if 1 ≤ month && month ≤ 12 && 1 ≤ day && day ≤ daysOf year month then some cs else none

/-- The text after the seconds of a time, which may be missing. -/
def seconds? : List Char → Option (List Char)
  | ':' :: cs => do
    let (second, cs) ← fixed? 2 cs
    if 60 < second then none
    else match cs with
      | '.' :: cs =>
        let digits := cs.takeWhile Char.isDigit
        if digits.isEmpty then none else some (cs.drop digits.length)
      | cs => some cs
  | cs => some cs

/-- The text after a time of day. -/
def time? (cs : List Char) : Option (List Char) := do
  let (hour, cs) ← fixed? 2 cs
  let cs ← match cs with | ':' :: cs => some cs | _ => none
  let (minute, cs) ← fixed? 2 cs
  if 23 < hour || 59 < minute then none else seconds? cs

/-- The text after an offset from universal time, which may be missing. -/
def offset? : List Char → Option (List Char)
  | 'Z' :: cs => some cs
  | 'z' :: cs => some cs
  | c :: cs =>
    if c == '+' || c == '-' then do
      let (hour, cs) ← fixed? 2 cs
      let cs ← match cs with | ':' :: cs => some cs | _ => none
      let (minute, cs) ← fixed? 2 cs
      if 23 < hour || 59 < minute then none else some cs
    else some (c :: cs)
  | [] => some []

/-- Whether the text is a date, a time of day or both. -/
def isDateTime (cs : List Char) : Bool :=
  match date? cs with
  | some [] => true
  | some (c :: cs) =>
    (c == 'T' || c == 't' || c == ' ') && (((time? cs).bind offset?).any List.isEmpty)
  | none => (time? cs).any List.isEmpty

/-- The value that a word without quotation marks spells. -/
def bareValue? (cs : List Char) : Option Toml :=
  if cs == "true".toList then some (.boolean true)
  else if cs == "false".toList then some (.boolean false)
  else match integer? cs with
    | some n => some (.integer n)
    | none =>
      match float? cs with
      | some bounded => some (.float bounded)
      | none => if isDateTime cs then some .dateTime else none

/-- Whether a character may stand in a word without quotation marks. -/
def isBareChar (c : Char) : Bool := isKeyChar c || c == '+' || c == '.' || c == ':'

/-- A word without quotation marks, and the rest.  A date may be followed by a blank and a time. -/
def bareWord (cs : List Char) : List Char × List Char :=
  let word := cs.takeWhile isBareChar
  let rest := cs.dropWhile isBareChar
  match rest with
  | ' ' :: c :: more =>
    if (date? word).any List.isEmpty && c.isDigit then
      (word ++ ' ' :: (c :: more).takeWhile isBareChar, (c :: more).dropWhile isBareChar)
    else (word, rest)
  | _ => (word, rest)

end Provision.Toml
