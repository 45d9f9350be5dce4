import Provision.Proofs.Text.Splitting

/-!
# Lines and blocks of lines

A text is cut at its empty lines into blocks of lines that hold something.  The cut at
pairs of line feeds, taken from the left, leaves the same blocks, although it moves with
the number of line feeds in a row: what differs are empty lines, which belong to no
block.

Main results:

- `Text.filterMap_lines`: what is read line by line does not depend on how lines end.
- `Text.filter_paragraphs`: the paragraphs of a text are its blocks, but for empty lines.
- `Text.blocks_append`: an empty line between two texts separates their blocks.
- `Text.blocks_intercalate`: lines in a row are one block.
-/

namespace Provision.Text

variable {α : Type}

/-- Where nothing is read of what is empty, it need not be there. -/
theorem filterMap_filled {β : Type} {f : List α → Option β} (empty : f [] = none)
    (pieces : List (List α)) :
    (pieces.filter (!·.isEmpty)).filterMap f = pieces.filterMap f := by
  rw [List.filterMap_filter]
  refine congrArg (List.filterMap · pieces) (funext fun piece => ?_)
  cases piece with
  | nil => exact empty.symm
  | cons a piece => rfl

/-! ## Lines -/

/-- A line as it is, or with the carriage return that was dropped. -/
theorem dropReturn_cases (line : List Char) :
    dropReturn line = line ∨ line = dropReturn line ++ ['\r'] := by
  unfold dropReturn
  split
  · next returns =>
    obtain ⟨front, rfl⟩ := List.getLast?_eq_some_iff.1 returns
    right
    simp
  · exact .inl rfl

/-- What is read line by line, where empty lines and carriage returns at their ends do not matter,
is what is read between the line feeds. -/
theorem filterMap_lines {f : List Char → Option α} (empty : f [] = none)
    (ends : ∀ line, f (line ++ ['\r']) = f line) (cs : List Char) :
    (lines cs).filterMap f = (splitAll (· == '\n') cs).filterMap f := by
  have dropped (line : List Char) : f (dropReturn line) = f line := by
    rcases dropReturn_cases line with same | returns
    · rw [same]
    · rw [returns, ends, ← returns]
  obtain ⟨front, last, split⟩ :=
    List.eq_nil_or_concat (splitAll (· == '\n') cs) |>.resolve_left (splitAll_ne_nil _ cs)
  unfold lines
  rw [split]
  cases last with
  | nil => simp [List.filterMap_map, dropped, empty]
  | cons c last => simp [List.filterMap_map, dropped]

/-- The lines of a text that hold something. -/
def filledLines (cs : List Char) : List (List Char) :=
  (splitAll (· == '\n') cs).filter (!·.isEmpty)

/-- Reading a text line by line is reading its filled lines. -/
theorem filterMap_filledLines {f : List Char → Option α} (empty : f [] = none)
    (ends : ∀ line, f (line ++ ['\r']) = f line) (cs : List Char) :
    (filledLines cs).filterMap f = (lines cs).filterMap f := by
  rw [filterMap_lines empty ends, filledLines, filterMap_filled empty]

/-! ## Blocks -/

/-- The blocks of lines: the filled lines between empty ones. -/
def blocksOf (lines : List (List Char)) : List (List (List Char)) :=
  (lines.splitOnP List.isEmpty).filter (!·.isEmpty)

/-- The blocks of the lines of a text. -/
def blocks (cs : List Char) : List (List (List Char)) := blocksOf (splitAll (· == '\n') cs)

/-- An empty line separates blocks. -/
theorem blocksOf_append_cons (before after : List (List Char)) :
    blocksOf (before ++ [] :: after) = blocksOf before ++ blocksOf after := by
  unfold blocksOf
  rw [List.splitOnP_append_cons _ _ rfl, List.filter_append]

/-- Filled lines in a row are one block. -/
theorem blocksOf_of_forall {lines : List (List Char)} (made : lines ≠ [])
    (filled : ∀ line ∈ lines, line ≠ []) : blocksOf lines = [lines] := by
  unfold blocksOf
  rw [List.splitOnP_eq_singleton fun line there => by simpa using filled line there]
  simp [made]

/-- An empty line between two texts separates their blocks. -/
theorem blocks_append (a b : List Char) :
    blocks (a ++ '\n' :: '\n' :: b) = blocks a ++ blocks b := by
  unfold blocks
  rw [splitAll_append (p := (· == '\n')) rfl]
  exact blocksOf_append_cons _ _

/-- A line feed at the end of a text changes none of its blocks. -/
theorem blocks_append_newline (a : List Char) : blocks (a ++ ['\n']) = blocks a := by
  unfold blocks
  rw [splitAll_append (p := (· == '\n')) rfl]
  exact (blocksOf_append_cons _ _).trans (List.append_nil _)

/-- Lines in a row are one block of the text that they make. -/
theorem blocks_intercalate {lines : List (List Char)} (made : lines ≠ [])
    (filled : ∀ line ∈ lines, line ≠ []) (single : ∀ line ∈ lines, '\n' ∉ line) :
    blocks (List.intercalate ['\n'] lines) = [lines] := by
  unfold blocks
  rw [splitAll_intercalate made fun line there => beq_eq_false_of_notMem (single line there)]
  exact blocksOf_of_forall made filled

/-! ## Paragraphs -/

/-- Whether a text is cut into a first record and others at empty lines, seen from its first line
on: the lines up to the first cut are those of the first record, and the blocks behind it are those
of the others. -/
def CutInto (cs record : List Char) (records : List (List Char)) : Prop :=
  ∃ line more after others, splitAll (· == '\n') record = line :: more ∧
    splitAll (· == '\n') cs = line :: after ∧
    after.splitOnP List.isEmpty = more.filter (!·.isEmpty) :: others ∧
    others.filter (!·.isEmpty) = (records.map filledLines).filter (!·.isEmpty)

/-- The blocks of a text that is cut into records are their filled lines. -/
theorem CutInto.blocks_eq {cs record : List Char} {records : List (List Char)}
    (cut : CutInto cs record records) :
    blocks cs = ((record :: records).map filledLines).filter (!·.isEmpty) := by
  obtain ⟨line, more, after, others, first, whole, split, same⟩ := cut
  rw [blocks, blocksOf, whole, List.splitOnP_cons_eq_if_modifyHead, split, List.map_cons,
    filledLines, first]
  cases line with
  | nil => simp [List.filter_cons, same]
  | cons c line => simp [same]

/-- The cut at pairs of line feeds is one at empty lines. -/
theorem exists_cutInto_paragraphs (cs : List Char) :
    ∃ record records, paragraphs cs = record :: records ∧ CutInto cs record records := by
  fun_induction paragraphs cs with
  | case1 => exact ⟨[], [], rfl, [], [], [], [], rfl, rfl, rfl, rfl⟩
  | case2 cs ih =>
    obtain ⟨record, records, eq, cut⟩ := ih
    refine ⟨[], _, rfl, [], [], [] :: splitAll (· == '\n') cs, _, rfl, rfl, rfl, ?_⟩
    rw [eq, ← cut.blocks_eq]
    rfl
  | case3 c cs single ih =>
    obtain ⟨record, records, eq, line, more, after, others, first, whole, split, same⟩ := ih
    rw [eq]
    refine ⟨c :: record, records, rfl, ?_⟩
    by_cases feed : c = '\n'
    · subst feed
      cases cs with
      | nil =>
        cases eq
        exact ⟨[], [[]], [[]], [[]], rfl, rfl, rfl, rfl⟩
      | cons d cs =>
        -- the line behind a single line feed holds something, so there is no cut before it
        have filled : line.isEmpty = false := by
          have plain : (d == '\n') = false := by
            simpa using fun (feed : d = '\n') => single cs rfl (feed ▸ rfl)
          rw [splitAll, plain] at whole
          cases pieces : splitAll (· == '\n') cs with
          | nil => exact absurd pieces (splitAll_ne_nil _ cs)
          | cons piece rest =>
            rw [pieces] at whole
            cases whole
            rfl
        refine ⟨[], line :: more, line :: after, others, ?_, ?_, ?_, same⟩
        · rw [← first]
          rfl
        · rw [← whole]
          rfl
        · rw [List.splitOnP_cons_eq_if_modifyHead, filled, split]
          simp [filled]
    · have plain : (c == '\n') = false := by simpa using feed
      refine ⟨c :: line, more, after, others, ?_, ?_, split, same⟩
      · rw [splitAll, plain, first]
        rfl
      · rw [splitAll, plain, whole]
        rfl

/-- The paragraphs of a text are its blocks, but for empty lines. -/
theorem filter_paragraphs (cs : List Char) :
    ((paragraphs cs).map filledLines).filter (!·.isEmpty) = blocks cs := by
  obtain ⟨record, records, eq, cut⟩ := exists_cutInto_paragraphs cs
  rw [eq, cut.blocks_eq]

end Provision.Text
