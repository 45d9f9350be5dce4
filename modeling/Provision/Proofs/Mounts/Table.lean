import Provision.Hugepages
import Provision.Proofs.Text.Blocks

/-!
# The table of mounts

The kernel writes one line for each mount.  In a mount point it writes the space, the tab,
the line feed and the backslash by their octal digits, so that lines and fields stay
apart.  Of these four escapes the reading takes back the first one only, and it takes
lines apart at every blank, of which the kernel knows fewer.  So a mount point is read
as it is exactly when it holds no backslash and no blank but the space.

Main results:

- `Mounts.restoreBlanks_escape`: what is left of the escapes of a mount point.
- `Mounts.lines_print`, `Mounts.parse_print`: a table is read entry by entry.
- `Mounts.mount_points_read_back`: which mount points are read back.
-/

namespace Provision.Mounts

open Text

/-! ## Writing -/

/-- An entry of the table of mounts. -/
structure Entry where
  source : String
  target : HostPath
  kind : String
  options : String
  deriving DecidableEq

/-- A character of a mount point, as the kernel writes it. -/
def escapeChar : Char → List Char
  | ' ' => ['\\', '0', '4', '0']
  | '\t' => ['\\', '0', '1', '1']
  | '\n' => ['\\', '0', '1', '2']
  | '\\' => ['\\', '1', '3', '4']
  | c => [c]

/-- A mount point, as the kernel writes it. -/
def escape (p : HostPath) : List Char := p.text.toList.flatMap escapeChar

/-- The line of an entry. -/
def Entry.line (e : Entry) : List Char :=
  e.source.toList ++ ' ' :: (escape e.target ++ ' ' ::
    (e.kind.toList ++ ' ' :: (e.options.toList ++ ' ' :: ['0', ' ', '0'])))

/-- The table of entries. -/
def print (entries : List Entry) : String :=
  String.ofList (entries.flatMap fun e => e.line ++ ['\n'])

/-- A text that is a field of a line: it is not empty and holds no blank. -/
def IsField (s : String) : Prop := s.toList ≠ [] ∧ ∀ c ∈ s.toList, isBlank c = false

instance (s : String) : Decidable (IsField s) :=
  decidable_of_iff (s.toList ≠ [] ∧ s.toList.all (isBlank · == false) = true)
    (by simp [IsField])

/-- Whether an entry can stand in the table: it has a mount point, which may hold anything, and its
other texts are fields. -/
structure Entry.Fits (e : Entry) : Prop where
  source : IsField e.source
  target : e.target.text.toList ≠ []
  kind : IsField e.kind
  options : IsField e.options

instance (e : Entry) : Decidable e.Fits :=
  decidable_of_iff (IsField e.source ∧ e.target.text.toList ≠ [] ∧ IsField e.kind ∧
      IsField e.options)
    ⟨fun h => ⟨h.1, h.2.1, h.2.2.1, h.2.2.2⟩, fun h => ⟨h.source, h.target, h.kind, h.options⟩⟩

/-! ## Escapes -/

/-- A character is one of the four that the kernel escapes, or stays as it is. -/
theorem escapeChar_cases (c : Char) :
    c = ' ' ∨ c = '\t' ∨ c = '\n' ∨ c = '\\' ∨
      (c ≠ ' ' ∧ c ≠ '\t' ∧ c ≠ '\n' ∧ c ≠ '\\' ∧ escapeChar c = [c]) := by
  by_cases space : c = ' '
  · exact .inl space
  by_cases tab : c = '\t'
  · exact .inr (.inl tab)
  by_cases feed : c = '\n'
  · exact .inr (.inr (.inl feed))
  by_cases backslash : c = '\\'
  · exact .inr (.inr (.inr (.inl backslash)))
  · exact .inr (.inr (.inr (.inr ⟨space, tab, feed, backslash, by simp [escapeChar, *]⟩)))

/-- Something is written for every character, and no end of a line. -/
theorem escapeChar_single (c : Char) : escapeChar c ≠ [] ∧ '\n' ∉ escapeChar c := by
  rcases escapeChar_cases c with rfl | rfl | rfl | rfl | ⟨-, -, feed, -, same⟩
  · decide
  · decide
  · decide
  · decide
  · rw [same]
    exact ⟨List.cons_ne_nil _ _, by simpa using Ne.symm feed⟩

/-- Whether the kernel escapes a character wherever it is a blank. -/
def IsSeparate (c : Char) : Prop := isBlank c = true → c = ' ' ∨ c = '\t' ∨ c = '\n'

/-- No blank is written for a character that the kernel escapes where it is one. -/
theorem not_isBlank_of_mem_escapeChar {c d : Char} (separate : IsSeparate c)
    (h : d ∈ escapeChar c) : isBlank d = false := by
  have digits {cs : List Char} (all : cs.all (isBlank · == false) = true) (there : d ∈ cs) :
      isBlank d = false := eq_of_beq (List.all_eq_true.1 all d there)
  rcases escapeChar_cases c with rfl | rfl | rfl | rfl | ⟨space, tab, feed, -, same⟩
  · exact digits (by decide) h
  · exact digits (by decide) h
  · exact digits (by decide) h
  · exact digits (by decide) h
  · rw [same, List.mem_singleton] at h
    subst h
    by_contra blank
    rcases separate (by simpa using blank) with rfl | rfl | rfl
    · exact space rfl
    · exact tab rfl
    · exact feed rfl

/-- A character of a mount point, as it is read from the table: of the escapes only that of the
space is taken back. -/
def shownChar (c : Char) : List Char := if c = ' ' then [c] else escapeChar c

/-- Something is read for every character. -/
theorem shownChar_ne_nil (c : Char) : shownChar c ≠ [] := by
  unfold shownChar
  split
  · exact List.cons_ne_nil _ _
  · exact (escapeChar_single c).1

/-- A mount point, as it is read from the table. -/
def shown (p : HostPath) : HostPath := ⟨String.ofList (p.text.toList.flatMap shownChar)⟩

/-- A character that begins no escape is read as it is. -/
theorem restoreBlanks_cons {c : Char} (plain : c ≠ '\\') (cs : List Char) :
    restoreBlanks (c :: cs) = c :: restoreBlanks cs := by
  rw [restoreBlanks]
  exact fun _ escape => absurd escape plain

/-- What is read of what the kernel writes. -/
theorem restoreBlanks_escape (cs : List Char) :
    restoreBlanks (cs.flatMap escapeChar) = cs.flatMap shownChar := by
  induction cs with
  | nil => rfl
  | cons c cs ih =>
    rw [List.flatMap_cons, List.flatMap_cons, ← ih]
    rcases escapeChar_cases c with rfl | rfl | rfl | rfl | ⟨space, -, -, plain, same⟩
    · rfl
    · rfl
    · rfl
    · rfl
    · rw [shownChar, if_neg space, same]
      exact restoreBlanks_cons plain _

/-! ## Lines -/

/-- What a line is read as, by its words. -/
def ofWords? : List (List Char) → Option HostPath
  | _ :: target :: kind :: _ =>
    if kind == hugetlbfs.toList then some ⟨String.ofList (restoreBlanks target)⟩ else none
  | _ => none

theorem target?_eq (line : List Char) : target? line = ofWords? (words line) := rfl

/-- A table is read between its line feeds. -/
theorem parse_eq (table : String) :
    parse table = (splitAll (· == '\n') table.toList).filterMap target? := by
  refine filterMap_lines rfl (fun line => ?_) table.toList
  rw [target?_eq, words_append (by decide), target?_eq]

/-- The line of an entry has no end in it. -/
theorem Entry.Fits.single {e : Entry} (fits : e.Fits) : ∀ c ∈ e.line, (c == '\n') = false := by
  have field {s : String} (h : IsField s) : '\n' ∉ s.toList := newline_notMem h.2
  have target : '\n' ∉ escape e.target := by
    intro there
    obtain ⟨c, -, written⟩ := List.mem_flatMap.1 there
    exact (escapeChar_single c).2 written
  refine beq_eq_false_of_notMem ?_
  simp [line, field fits.source, target, field fits.kind, field fits.options]

/-- The words of the line of an entry: its fields, with the words of the mount point in the second
place. -/
theorem Entry.Fits.words_line {e : Entry} (fits : e.Fits) :
    words e.line = e.source.toList :: (words (escape e.target) ++
      [e.kind.toList, e.options.toList, ['0'], ['0']]) := by
  have space : isBlank ' ' = true := by decide
  have zeros : words ['0', ' ', '0'] = [['0'], ['0']] := by decide
  rw [line, words_append_cons space, words_append_cons space, words_append_cons space,
    words_append_cons space, zeros, words_of_forall fits.source.1 fits.source.2,
    words_of_forall fits.kind.1 fits.kind.2, words_of_forall fits.options.1 fits.options.2]
  rfl

/-- The lines of a table, with the empty one behind the last line feed. -/
theorem splitAll_print {entries : List Entry} (fits : ∀ e ∈ entries, e.Fits) :
    splitAll (· == '\n') (print entries).toList = entries.map Entry.line ++ [[]] := by
  rw [print, String.toList_ofList]
  induction entries with
  | nil => rfl
  | cons e entries ih =>
    obtain ⟨first, others⟩ := List.forall_mem_cons.1 fits
    rw [List.flatMap_cons, List.append_assoc, List.singleton_append,
      splitAll_append (p := (· == '\n')) rfl, splitAll_of_forall first.single, ih others]
    rfl

/-- The lines of a table are those of its entries. -/
theorem lines_print {entries : List Entry} (fits : ∀ e ∈ entries, e.Fits) :
    lines (print entries).toList = entries.map Entry.line := by
  have unreturned (e : Entry) : dropReturn e.line = e.line := by
    have ends : e.line.getLast? = some '0' := by
      simp [Entry.line, List.getLast?_cons, List.getLast?_append]
    rw [dropReturn, ends, if_neg (by decide)]
  unfold lines
  rw [splitAll_print fits]
  simp [Function.comp_def, unreturned]

/-- A table is read entry by entry. -/
theorem parse_print {entries : List Entry} (fits : ∀ e ∈ entries, e.Fits) :
    parse (print entries) = entries.filterMap fun e => target? e.line := by
  rw [parse, lines_print fits, List.filterMap_map]
  rfl

/-- What is read of a single entry. -/
theorem parse_singleton {e : Entry} (fits : e.Fits) :
    parse (print [e]) = (target? e.line).toList := by
  rw [parse_print fun _ there => List.mem_singleton.1 there ▸ fits]
  cases read : target? e.line <;> simp [read]

/-! ## Mount points -/

/-- Whether the kernel escapes every blank of a mount point. -/
def IsSeparated (p : HostPath) : Prop := ∀ c ∈ p.text.toList, IsSeparate c

/-- Whether a mount point holds no backslash and no blank but the space. -/
def IsReadable (p : HostPath) : Prop :=
  ∀ c ∈ p.text.toList, c ≠ '\\' ∧ (isBlank c = true → c = ' ')

instance (p : HostPath) : Decidable (IsReadable p) :=
  decidable_of_iff (p.text.toList.all (fun c => c != '\\' && (!isBlank c || c == ' ')) = true)
    (by simp [IsReadable, Decidable.imp_iff_not_or])

/-- Where the kernel escapes every blank, the mount point is a single field. -/
theorem Entry.Fits.words_line_of_isSeparated {e : Entry} (fits : e.Fits)
    (separated : IsSeparated e.target) :
    words e.line = e.source.toList :: escape e.target :: e.kind.toList ::
      [e.options.toList, ['0'], ['0']] := by
  have made : escape e.target ≠ [] := by
    obtain ⟨c, cs, spelled⟩ := List.exists_cons_of_ne_nil fits.target
    rw [escape, spelled, List.flatMap_cons]
    exact List.append_ne_nil_of_left_ne_nil (escapeChar_single c).1 _
  have unblank : ∀ d ∈ escape e.target, isBlank d = false := by
    intro d there
    obtain ⟨c, own, written⟩ := List.mem_flatMap.1 there
    exact not_isBlank_of_mem_escapeChar (separated c own) written
  rw [fits.words_line, words_of_forall made unblank]
  rfl

/-- Of a mount point that is a field, only the escape of the space is taken back. -/
theorem ofWords?_escape (source : List Char) (target : HostPath) (kind : List Char)
    (rest : List (List Char)) :
    ofWords? (source :: escape target :: kind :: rest) =
      if kind = hugetlbfs.toList then some (shown target) else none := by
  rw [ofWords?, escape, restoreBlanks_escape]
  simp only [beq_iff_eq]
  rfl

/-- What is read of a line whose mount point is a field. -/
theorem target?_line {e : Entry} (fits : e.Fits) (separated : IsSeparated e.target) :
    target? e.line = if e.kind = hugetlbfs then some (shown e.target) else none := by
  rw [target?_eq, fits.words_line_of_isSeparated separated, ofWords?_escape]
  simp only [String.toList_inj]

/-- A blank of what is read is a space. -/
theorem eq_space_of_mem_restoreBlanks {cs : List Char} (unblank : ∀ c ∈ cs, isBlank c = false)
    {c : Char} (h : c ∈ restoreBlanks cs) (blank : isBlank c = true) : c = ' ' := by
  fun_induction restoreBlanks cs with
  | case1 cs ih =>
    rcases List.mem_cons.1 h with space | later
    · exact space
    · exact ih (fun d there => unblank d (by simp [there])) later
  | case2 d cs _ ih =>
    rcases List.mem_cons.1 h with rfl | later
    · exact Bool.noConfusion ((unblank c List.mem_cons_self).symm.trans blank)
    · exact ih (fun d there => unblank d (List.mem_cons_of_mem _ there)) later
  | case3 => cases h

/-- No blank but the space is in a mount point that is read. -/
theorem eq_space_of_target? {line : List Char} {p : HostPath} (read : target? line = some p)
    {c : Char} (there : c ∈ p.text.toList) (blank : isBlank c = true) : c = ' ' := by
  have unblank : ∀ word ∈ words line, ∀ d ∈ word, isBlank d = false := fun _ =>
    not_isBlank_of_mem_words
  rw [target?_eq] at read
  generalize words line = ws at read unblank
  match ws with
  | [] | [_] | [_, _] => cases read
  | source :: target :: kind :: rest =>
    simp only [ofWords?, Option.ite_none_right_eq_some, Option.some.injEq] at read
    obtain ⟨-, rfl⟩ := read
    rw [String.toList_ofList] at there
    exact eq_space_of_mem_restoreBlanks (unblank target (by simp)) there blank

/-- What is read of a text is not shorter. -/
theorem length_le_shown (cs : List Char) : cs.length ≤ (cs.flatMap shownChar).length := by
  induction cs with
  | nil => exact Nat.le_refl 0
  | cons c cs ih =>
    have made : 0 < (shownChar c).length := List.length_pos_of_ne_nil (shownChar_ne_nil c)
    simp only [List.flatMap_cons, List.length_cons, List.length_append]
    omega

/-- A text that is read as it is holds no character whose escape stays. -/
theorem plain_of_shown_eq {cs : List Char} (same : cs.flatMap shownChar = cs) :
    ∀ c ∈ cs, c ≠ '\\' := by
  induction cs with
  | nil => exact nofun
  | cons c cs ih =>
    rw [List.flatMap_cons] at same
    rcases escapeChar_cases c with rfl | rfl | rfl | rfl | ⟨space, -, -, plain, written⟩
    · exact List.forall_mem_cons.2 ⟨by decide, ih (List.cons.inj same).2⟩
    · cases (List.cons.inj same).1
    · cases (List.cons.inj same).1
    · -- a backslash is read as four characters, and nothing makes up for the three
      have longer := congrArg List.length same
      have := length_le_shown cs
      rw [List.length_append, List.length_cons] at longer
      have four : (shownChar '\\').length = 4 := by decide
      omega
    · rw [shownChar, if_neg space, written] at same
      exact List.forall_mem_cons.2 ⟨plain, ih (List.cons.inj same).2⟩

/-- A mount point of which every character is read as it is. -/
theorem shown_of_forall {p : HostPath} (same : ∀ c ∈ p.text.toList, shownChar c = [c]) :
    shown p = p := by
  rw [shown, List.flatMap_congr same, List.flatMap_singleton', String.ofList_toList]

/-- A readable mount point is read as it is. -/
theorem shown_of_isReadable {p : HostPath} (readable : IsReadable p) : shown p = p := by
  refine shown_of_forall fun c there => ?_
  obtain ⟨plain, space⟩ := readable c there
  unfold shownChar
  split
  · rfl
  · next other =>
    rcases escapeChar_cases c with rfl | rfl | rfl | rfl | ⟨-, -, -, -, written⟩
    · exact absurd rfl other
    · exact absurd (space (by decide)) other
    · exact absurd (space (by decide)) other
    · exact absurd rfl plain
    · exact written

/-- In a readable mount point the kernel escapes every blank. -/
theorem IsReadable.isSeparated {p : HostPath} (readable : IsReadable p) : IsSeparated p :=
  fun c there blank => .inl ((readable c there).2 blank)

/-- Exactly a readable mount point is read as it is. -/
theorem target?_line_eq_iff {e : Entry} (fits : e.Fits) (huge : e.kind = hugetlbfs) :
    target? e.line = some e.target ↔ IsReadable e.target := by
  constructor
  · intro read c there
    have spaces : ∀ c ∈ e.target.text.toList, isBlank c = true → c = ' ' := fun _ =>
      eq_space_of_target? read
    have separated : IsSeparated e.target := fun c there blank => .inl (spaces c there blank)
    rw [target?_line fits separated, if_pos huge, Option.some.injEq] at read
    have same := congrArg (fun p : HostPath => p.text.toList) read
    rw [shown, String.toList_ofList] at same
    exact ⟨plain_of_shown_eq same c there, spaces c there⟩
  · intro readable
    rw [target?_line fits readable.isSeparated, if_pos huge, shown_of_isReadable readable]

/-- A table is read entry by entry, whatever mount points it holds.  Where the kernel escapes every
blank of a mount point, that of a huge page mount is read, with its spaces as they are and all other
escapes left in it.  So exactly the mount points that hold no backslash and no blank but the space
are read back; a table that holds no others is read as the list of its huge page mounts. -/
theorem mount_points_read_back (entries : List Entry) (fits : ∀ e ∈ entries, e.Fits) :
    parse (print entries) = entries.flatMap (fun e => parse (print [e])) ∧
      (∀ e ∈ entries,
        (IsSeparated e.target →
          parse (print [e]) = if e.kind = hugetlbfs then [shown e.target] else []) ∧
        (e.kind = hugetlbfs → (parse (print [e]) = [e.target] ↔ IsReadable e.target))) ∧
      ((∀ e ∈ entries, IsReadable e.target) →
        parse (print entries) =
          (entries.filter fun e => e.kind = hugetlbfs).map Entry.target) := by
  refine ⟨?_, fun e there => ⟨fun separated => ?_, fun huge => ?_⟩, fun readable => ?_⟩
  · rw [parse_print fits, List.filterMap_eq_flatMap_toList]
    exact List.flatMap_congr fun e there => (parse_singleton (fits e there)).symm
  · rw [parse_singleton (fits e there), target?_line (fits e there) separated]
    split <;> rfl
  · rw [parse_singleton (fits e there), ← target?_line_eq_iff (fits e there) huge]
    cases target? e.line <;> simp
  · have read : ∀ e ∈ entries,
        target? e.line = if e.kind = hugetlbfs then some e.target else none := by
      intro e there
      rw [target?_line (fits e there) (readable e there).isSeparated,
        shown_of_isReadable (readable e there)]
    rw [parse_print fits, List.filterMap_congr read]
    simp [← List.filterMap_eq_map, List.filterMap_filter]

/-- The line of a table for a huge page mount. -/
def hugeMount (path : String) : Entry := ⟨"nodev", ⟨path⟩, hugetlbfs, "rw,relatime"⟩

/-- The table of a host with a huge page mount whose path holds spaces. -/
def spacedTable : List Entry :=
  [⟨"proc", ⟨"/proc"⟩, "proc", "rw"⟩, hugeMount "/mnt/huge pages  1G", hugeMount "/mnt/huge"]

/-- Mount points with spaces are read back. -/
theorem spacedTable_read_back :
    (∀ e ∈ spacedTable, e.Fits) ∧
      parse (print spacedTable) = [⟨"/mnt/huge pages  1G"⟩, ⟨"/mnt/huge"⟩] := by
  have fits : ∀ e ∈ spacedTable, e.Fits := by decide +kernel
  have readable : ∀ e ∈ spacedTable, IsReadable e.target := by decide +kernel
  exact ⟨fits, (mount_points_read_back spacedTable fits).2.2 readable⟩

/-- A mount point with a tab is read with its escape, one with a backslash as another path, and one
with a blank that the kernel does not escape is not read at all. -/
theorem mount_points_misread :
    let entries :=
      [hugeMount "/mnt/huge\t2M", hugeMount "/mnt/huge\\040", hugeMount "/mnt/\u00a02M"]
    (∀ e ∈ entries, e.Fits) ∧
      parse (print entries) = [⟨"/mnt/huge\\0112M"⟩, ⟨"/mnt/huge\\134040"⟩] ∧
      parse (print entries) ≠ entries.map Entry.target := by
  decide +kernel

end Provision.Mounts
