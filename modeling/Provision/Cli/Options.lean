/-!
# Options on a command line

The rules by which words become options.  A word that starts with two hyphens is a
long option, one that starts with a single hyphen is a row of short ones, and two
hyphens alone end the options.  The value of an option follows it in the next word
or in the same one; it is judged only when the next option or the end is reached.

Main results:

- `Scan.scan_suffix`: a scan leaves the last of its words.
-/

namespace Provision

/-- Why a command line is not carried out. -/
inductive UsageStop
  | unknownArgument
  /-- An option lacks its value. -/
  | invalidValue
  /-- A value cannot be read. -/
  | valueValidation
  | invalidSubcommand
  | missingSubcommand
  /-- An option is given twice. -/
  | argumentConflict
  /-- A value is given to an option that takes none. -/
  | tooManyValues
  | help
  | version
  /-- Nothing is given at all, which asks for help. -/
  | helpOnMissing
  deriving DecidableEq, Inhabited

/-- The text of a reason that is a mistake in the command line. -/
def UsageStop.message : UsageStop → String
  | .unknownArgument => "unexpected argument"
  | .invalidValue => "a value is required for an option"
  | .valueValidation => "invalid value for an option"
  | .invalidSubcommand => "unrecognized subcommand"
  | .missingSubcommand => "a subcommand is required"
  | .argumentConflict => "an option cannot be used more than once"
  | .tooManyValues => "unexpected value for an option"
  | .help | .version | .helpOnMissing => ""

/-- What an option does to the values that are collected. -/
inductive OptionAction (α : Type)
  /-- The option takes a value. -/
  | value (read : String → α → Except UsageStop α)
  /-- The option takes no value. -/
  | flag (set : α → α)
  /-- The option ends everything. -/
  | stop (reason : UsageStop)

/-- An option. -/
structure OptionSpec (α : Type) where
  long : String
  short : Option Char := none
  /-- Whether the option may be given more than once. -/
  many : Bool := false
  action : OptionAction α

/-- What a word of a command line looks like. -/
inductive Word
  /-- The two hyphens that end the options. -/
  | escape
  | long (name : String) (value : Option String)
  | short (letters : List Char)
  | plain (s : String)
  deriving DecidableEq

/-- A long option and its value after an equals sign. -/
def Word.ofLong (cs : List Char) : Word :=
  match cs.dropWhile (· != '=') with
  | [] => .long (String.ofList cs) none
  | _ :: value => .long (String.ofList (cs.takeWhile (· != '='))) (some (String.ofList value))

/-- What a word looks like. -/
def Word.ofString (s : String) : Word :=
  match s.toList with
  | ['-', '-'] => .escape
  | '-' :: '-' :: cs => .ofLong cs
  | ['-'] => .plain s
  | '-' :: cs => .short cs
  | _ => .plain s

/-- A word that is no option stands for itself. -/
theorem Word.eq_of_ofString_plain {w s : String} (h : Word.ofString w = .plain s) : s = w := by
  unfold Word.ofString at h
  split at h
  · cases h
  · unfold Word.ofLong at h
    split at h <;> cases h
  · exact (Word.plain.inj h).symm
  · cases h
  · exact (Word.plain.inj h).symm

/-- The state of a scan. -/
structure Scan (α : Type) where
  values : α
  /-- The options that were given. -/
  seen : List String := []
  /-- The option that is to be judged next, with its value if that was found. -/
  pending : Option (OptionSpec α × Option String) := none

namespace Scan

variable {α : Type}

/-- Notes that an option is given. -/
def mark (o : OptionSpec α) (st : Scan α) : Except UsageStop (Scan α) :=
  if !o.many && st.seen.contains o.long then .error .argumentConflict
  else .ok { st with seen := o.long :: st.seen }

/-- Takes the value of an option. -/
def give (o : OptionSpec α) (value : String) (st : Scan α) : Except UsageStop (Scan α) := do
  let st ← st.mark o
  match o.action with
  | .value read => pure { st with values := ← read value st.values }
  | _ => pure st

/-- Judges the option that waits. -/
def settle (st : Scan α) : Except UsageStop (Scan α) :=
  match st.pending with
  | none => .ok st
  | some (_, none) => .error .invalidValue
  | some (o, some value) => give o value { st with pending := none }

/-- Takes an option that has no value in the same word. -/
def takeBare (o : OptionSpec α) (st : Scan α) : Except UsageStop (Scan α) := do
  let st ← st.settle
  match o.action with
  | .value _ => pure { st with pending := some (o, none) }
  | .flag set => do
    let st ← st.mark o
    pure { st with values := set st.values }
  | .stop reason => throw reason

/-- Takes a long option. -/
def takeLong (specs : List (OptionSpec α)) (name : String) (value : Option String) (st : Scan α) :
    Except UsageStop (Scan α) :=
  match specs.find? (·.long == name), value with
  | none, _ => .error .unknownArgument
  | some o, none => st.takeBare o
  | some o, some v =>
    match o.action with
    | .value _ => do (← st.settle).give o v
    | _ => .error .tooManyValues

/-- A value that stands behind a short option, perhaps after an equals sign. -/
def attached : List Char → String
  | '=' :: cs => String.ofList cs
  | cs => String.ofList cs

/-- Takes a row of short options, of which the last may have its value in the same word. -/
def takeShort (specs : List (OptionSpec α)) : List Char → Scan α → Except UsageStop (Scan α)
  | [], st => .ok st
  | c :: cs, st =>
    match specs.find? (·.short == some c) with
    | none => .error .unknownArgument
    | some o =>
      match o.action with
      | .value _ =>
        if cs.isEmpty then st.takeBare o else do (← st.settle).give o (attached cs)
      | _ => do takeShort specs cs (← st.takeBare o)

/-- A word that is no option: whether it stands behind the end of the options, the word, and the
words after it. -/
structure Plain where
  escaped : Bool
  word : String
  rest : List String
  deriving DecidableEq

/-- Takes options up to the first word that is none, or to the end. -/
def scan (specs : List (OptionSpec α)) :
    Bool → Scan α → List String → Except UsageStop (Scan α × Option Plain)
  | _, st, [] => .ok (st, none)
  | escaped, st, w :: ws =>
    if escaped then .ok (st, some ⟨true, w, ws⟩)
    else
      match Word.ofString w with
      | .escape => scan specs true st ws
      | .long name value =>
        match st.takeLong specs name value with
        | .ok st => scan specs false st ws
        | .error e => .error e
      | .short letters =>
        match takeShort specs letters st with
        | .ok st => scan specs false st ws
        | .error e => .error e
      | .plain s =>
        match st.pending with
        | some (o, none) => scan specs false { st with pending := some (o, some s) } ws
        | _ => .ok (st, some ⟨false, s, ws⟩)

/-- The words that a scan leaves, from the one that is no option, are the last of its words. -/
theorem scan_suffix {specs : List (OptionSpec α)} {escaped : Bool} {st st' : Scan α}
    {ws : List String} {p : Plain} (h : scan specs escaped st ws = .ok (st', some p)) :
    p.word :: p.rest <:+ ws := by
  fun_induction scan specs escaped st ws with
  | case1 => cases h
  | case2 =>
    cases h
    exact List.suffix_refl _
  | case5 => cases h
  | case7 => cases h
  | case9 _ _ w ws _ s plain =>
    cases h
    obtain rfl := Word.eq_of_ofString_plain plain
    exact List.suffix_refl _
  -- the word is taken, and the scan goes on behind it
  | case3 _ _ w ws _ _ ih | case4 _ _ w ws _ _ _ _ _ _ ih | case6 _ _ w ws _ _ _ _ _ ih
  | case8 _ _ w ws _ _ _ _ _ ih => exact (ih h).trans (List.suffix_cons w ws)

/-- The values of words that have to be options throughout. -/
def optionsOnly (specs : List (OptionSpec α)) (values : α) (ws : List String) :
    Except UsageStop α := do
  let (st, plain) ← scan specs false { values := values } ws
  match plain with
  | some _ => throw .unknownArgument
  | none => pure (← st.settle).values

end Scan

end Provision
