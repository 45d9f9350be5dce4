import Provision.Pci.Listing
import Provision.Proofs.Records.ReadBack
import Provision.Proofs.Text.Blocks
import Provision.Simulation.Topology

/-!
# Listings are read back

A listing is read block by block: what is read of a record is decided by its filled
lines, and empty lines only separate records.  So two listings with an empty line between
them are read one after the other, whatever either of them holds, and the listing that is
written of devices is read back, in whatever order the lines of a record stand and
whatever other lines stand among them.

Main results:

- `Listing.parse_eq_blocks`: a listing is read block by block.
- `Listing.records_stand_apart`: records do not interfere.
- `Listing.listing_read_back`: the listing of devices is read back.
-/

namespace Provision.Listing

open Text

/-! ## Blocks of a listing -/

/-- The key and the value of a line, if it has a colon. -/
def pair? (line : List Char) : Option (List Char × List Char) :=
  (splitFirst ':' line).map fun (key, value) => (trimChars key, trimChars value)

/-- The device that keys and values describe, if its address can be read. -/
def ofPairs? (es : List (List Char × List Char)) : Option Descriptor := do
  let slot ← find? "Slot" es
  let address ← PciAddress.ofChars? (trimChars slot)
  some {
    address := address
    deviceClass := field "Class" es
    vendor := field "Vendor" es
    device := field "Device" es
    driver := (find? "Driver" es).map String.ofList }

/-- The device that lines describe, if its address can be read. -/
def ofLines? (lines : List (List Char)) : Option Descriptor := ofPairs? (lines.filterMap pair?)

/-- A line up to its first colon, and what stands behind it. -/
theorem pair?_append_cons {key : List Char} (colonless : ':' ∉ key) (value : List Char) :
    pair? (key ++ ':' :: value) = some (trimChars key, trimChars value) := by
  rw [pair?, splitFirst_append_cons colonless]
  rfl

/-- A line without a colon has no key. -/
theorem pair?_of_notMem {line : List Char} (colonless : ':' ∉ line) : pair? line = none := by
  rw [pair?, splitFirst_of_notMem colonless]
  rfl

/-- A carriage return at the end of a line does not matter. -/
theorem pair?_append_return (line : List Char) : pair? (line ++ ['\r']) = pair? line := by
  by_cases colon : ':' ∈ line
  · obtain ⟨key, value, rfl, colonless⟩ := List.eq_append_cons_of_mem colon
    rw [List.append_assoc, List.cons_append, pair?_append_cons colonless,
      pair?_append_cons colonless, trimChars_append (by decide)]
  · rw [pair?_of_notMem colon, pair?_of_notMem (by simpa using colon)]

/-- What a record describes is decided by its filled lines. -/
theorem device?_eq_ofLines? (record : List Char) :
    device? record = ofLines? (filledLines record) := by
  unfold ofLines?
  rw [filterMap_filledLines rfl pair?_append_return]
  rfl

/-- A listing is read block by block. -/
theorem parse_eq_blocks (listing : String) :
    parse listing = (blocks listing.toList).filterMap ofLines? := by
  have read : device? = ofLines? ∘ filledLines := funext device?_eq_ofLines?
  rw [parse, read, ← List.filterMap_map, ← filter_paragraphs, filterMap_filled rfl]

/-- Two listings with an empty line between them are read one after the other. -/
theorem parse_append (a b : String) : parse (a ++ "\n\n" ++ b) = parse a ++ parse b := by
  have joined : (a ++ "\n\n" ++ b).toList = a.toList ++ '\n' :: '\n' :: b.toList := by simp
  rw [parse_eq_blocks, joined, blocks_append, List.filterMap_append, ← parse_eq_blocks,
    ← parse_eq_blocks]

/-! ## Single records -/

/-- A text without an empty line is a single paragraph. -/
theorem paragraphs_of_single {record : List Char} (single : ¬ ['\n', '\n'] <:+: record) :
    paragraphs record = [record] := by
  fun_induction paragraphs record with
  | case1 => rfl
  | case2 cs ih => exact absurd ⟨[], cs, rfl⟩ single
  | case3 c cs _ ih =>
    rw [ih fun inner => single (inner.trans (List.suffix_cons c cs).isInfix)]
    rfl

/-- A single record is read as the device that it describes. -/
theorem parse_of_single {record : String} (single : ¬ ['\n', '\n'] <:+: record.toList) :
    parse record = (device? record.toList).toList := by
  rw [parse, paragraphs_of_single single]
  cases read : device? record.toList <;> simp [read]

/-- A record that describes no device: no line has the key of the address, or what stands in the
first such line is no address. -/
def Malformed (record : String) : Prop :=
  ∀ slot, find? "Slot" (entries record.toList) = some slot →
    PciAddress.parse? (String.ofList slot) = none

/-- Exactly the malformed records describe no device. -/
theorem device?_eq_none_iff (record : String) :
    device? record.toList = none ↔ Malformed record := by
  show ofPairs? (entries record.toList) = none ↔ _
  unfold Malformed ofPairs?
  cases find? "Slot" (entries record.toList) with
  | none => simp
  | some slot =>
    show (PciAddress.ofChars? (trimChars slot)).bind _ = none ↔ _
    rw [Option.bind_eq_none_iff]
    simp [PciAddress.parse?, Option.eq_none_iff_forall_ne_some]

/-- Records do not interfere.  Two listings with an empty line between them are read one after the
other, whatever either holds.  Whatever a single record among others holds, it adds the device that
it describes, or nothing when it is malformed, and what stands before and after it is read as it is
without it. -/
theorem records_stand_apart :
    (∀ a b : String, parse (a ++ "\n\n" ++ b) = parse a ++ parse b) ∧
      ∀ before record after : String, ¬ ['\n', '\n'] <:+: record.toList →
        parse (before ++ "\n\n" ++ record ++ "\n\n" ++ after) =
            parse before ++ (device? record.toList).toList ++ parse after ∧
          (device? record.toList = none ↔ Malformed record) := by
  refine ⟨parse_append, fun before record after single => ⟨?_, device?_eq_none_iff record⟩⟩
  rw [parse_append, parse_append, parse_of_single single]

/-- A record whose first address is none; a second one, and another record behind it, do not
change that. -/
def misspelled : String := "Slot:\t0000:02:01\r\nClass:\t0200\nSlot:\t0000:02:01.0"

/-- A record whose address is misspelled is left out, between two that are read. -/
theorem misspelled_left_out :
    let before := "Slot:\t0000:02:00.0\nDriver:\te1000\n"
    let after := "\nSlot:\t0000:02:02.0"
    parse (before ++ "\n\n" ++ misspelled ++ "\n\n" ++ after) = parse before ++ parse after ∧
      Malformed misspelled := by
  intro before after
  have single : ¬ ['\n', '\n'] <:+: misspelled.toList := by decide +kernel
  have dropped : device? misspelled.toList = none := by decide +kernel
  obtain ⟨read, malformed⟩ := records_stand_apart.2 before misspelled after single
  rw [dropped] at read
  exact ⟨by simpa using read, malformed.1 dropped⟩

/-! ## Listings that are written -/

/-- The keys under which a record describes its device. -/
def keys : List (List Char) := ["Slot", "Class", "Vendor", "Device", "Driver"].map String.toList

/-- The keys and values of a device. -/
def fieldsOf (d : Descriptor) : List (List Char × List Char) :=
  [("Slot".toList, (toString d.address).toList), ("Class".toList, d.deviceClass.toList),
    ("Vendor".toList, d.vendor.toList), ("Device".toList, d.device.toList)] ++
    d.driver.toList.map fun driver => ("Driver".toList, driver.toList)

/-- A line with a key and a value. -/
def fieldLine (e : List Char × List Char) : List Char := e.1 ++ ':' :: '\t' :: e.2

/-- A line that may stand in a record besides those of the device: it is not empty, and what stands
before its first colon is none of the keys. -/
structure IsOther (line : List Char) : Prop where
  filled : line ≠ []
  single : '\n' ∉ line
  unread : ':' ∈ line → trimChars (line.takeWhile (· != ':')) ∉ keys

instance (line : List Char) : Decidable (IsOther line) :=
  decidable_of_iff (line ≠ [] ∧ '\n' ∉ line ∧
      (!line.contains ':' || !keys.contains (trimChars (line.takeWhile (· != ':')))) = true)
    ⟨fun h => ⟨h.1, h.2.1, by simpa [Decidable.imp_iff_not_or] using h.2.2⟩,
      fun h => ⟨h.filled, h.single, by simpa [Decidable.imp_iff_not_or] using h.unread⟩⟩

/-- Whether the lines of a record are those of a device in any order, mixed with others. -/
def Describes (record : List (List Char)) (d : Descriptor) : Prop :=
  ∃ others, record.Perm ((fieldsOf d).map fieldLine ++ others) ∧ ∀ line ∈ others, IsOther line

/-- Whether the texts of a device fit into lines: none holds the end of a line, and no blank stands
at either end of one. -/
def IsPlain (d : Descriptor) : Prop :=
  ∀ text ∈ [d.deviceClass, d.vendor, d.device] ++ d.driver.toList,
    '\n' ∉ text.toList ∧ Trimmed text.toList

/-- The text of a listing: records with an empty line between them, and any number of line feeds at
the end. -/
def print (records : List (List (List Char))) (feeds : Nat) : String :=
  String.ofList (List.intercalate ['\n', '\n'] (records.map (List.intercalate ['\n'])) ++
    List.replicate feeds '\n')

/-- The blocks of records with empty lines between them are the records. -/
theorem blocks_records {records : List (List (List Char))}
    (filled : ∀ record ∈ records, record ≠ [] ∧ ∀ line ∈ record, line ≠ [] ∧ '\n' ∉ line) :
    blocks (List.intercalate ['\n', '\n'] (records.map (List.intercalate ['\n']))) = records := by
  induction records with
  | nil => rfl
  | cons record records ih =>
    obtain ⟨made, lines⟩ := filled record List.mem_cons_self
    have first : blocks (List.intercalate ['\n'] record) = [record] :=
      blocks_intercalate made (fun line there => (lines line there).1)
        fun line there => (lines line there).2
    have rest := ih fun other there => filled other (List.mem_cons_of_mem _ there)
    cases records with
    | nil => simpa using first
    | cons next records =>
      rw [List.map_cons] at rest
      rw [List.map_cons, List.map_cons, List.intercalate_cons_cons, List.append_assoc,
        List.cons_append, List.singleton_append, blocks_append, first, rest, List.singleton_append]

/-- The records of a listing are its blocks. -/
theorem blocks_print {records : List (List (List Char))}
    (filled : ∀ record ∈ records, record ≠ [] ∧ ∀ line ∈ record, line ≠ [] ∧ '\n' ∉ line)
    (feeds : Nat) : blocks (print records feeds).toList = records := by
  rw [print, String.toList_ofList]
  induction feeds with
  | zero => rw [List.replicate_zero, List.append_nil, blocks_records filled]
  | succ feeds ih => rw [List.replicate_succ', ← List.append_assoc, blocks_append_newline, ih]

/-! ## Records that are written -/

/-- Keys hold no colon and no end of a line, and have no blanks at their ends. -/
theorem plain_of_mem_keys : ∀ key ∈ keys, ':' ∉ key ∧ '\n' ∉ key ∧ trimChars key = key := by
  decide +kernel

/-- The text of an address fits into a line. -/
theorem plain_toString (a : PciAddress) :
    '\n' ∉ (toString a).toList ∧ trimChars (toString a).toList = (toString a).toList := by
  have unblank : ∀ c ∈ (toString a).toList, isBlank c = false := by
    show ∀ c ∈ (String.ofList a.toChars).toList, isBlank c = false
    rw [String.toList_ofList]
    exact fun _ there => PciAddress.not_isBlank_of_mem_toChars there
  exact ⟨newline_notMem unblank, trimChars_of_forall unblank⟩

/-- A device is described under the keys, by texts that fit into lines. -/
theorem plain_of_mem_fieldsOf {d : Descriptor} (plain : IsPlain d) :
    ∀ e ∈ fieldsOf d, e.1 ∈ keys ∧ '\n' ∉ e.2 ∧ trimChars e.2 = e.2 := by
  have text {s : String} (there : s ∈ [d.deviceClass, d.vendor, d.device] ++ d.driver.toList) :
      '\n' ∉ s.toList ∧ trimChars s.toList = s.toList :=
    ⟨(plain s there).1, trimChars_of_trimmed (plain s there).2⟩
  have key {s : String} (known : s ∈ ["Slot", "Class", "Vendor", "Device", "Driver"]) :
      s.toList ∈ keys := List.mem_map_of_mem known
  have address := plain_toString d.address
  intro e he
  unfold fieldsOf at he
  generalize (toString d.address).toList = written at he address
  rcases List.mem_append.1 he with he | he
  · simp only [List.mem_cons, List.not_mem_nil, or_false] at he
    rcases he with rfl | rfl | rfl | rfl
    · exact ⟨key (by simp), address⟩
    · exact ⟨key (by simp), text (by simp)⟩
    · exact ⟨key (by simp), text (by simp)⟩
    · exact ⟨key (by simp), text (by simp)⟩
  · obtain ⟨driver, there, rfl⟩ := List.mem_map.1 he
    exact ⟨key (by simp), text (List.mem_append_right _ there)⟩

/-- A line with a key and a value is read as these. -/
theorem pair?_fieldLine {d : Descriptor} (plain : IsPlain d) {e : List Char × List Char}
    (he : e ∈ fieldsOf d) : pair? (fieldLine e) = some e := by
  obtain ⟨key, -, value⟩ := plain_of_mem_fieldsOf plain e he
  obtain ⟨colonless, -, trimmed⟩ := plain_of_mem_keys e.1 key
  rw [fieldLine, pair?_append_cons colonless, trimChars_cons (by decide), trimmed, value]

/-- What another line is read as has none of the keys. -/
theorem notMem_keys_of_isOther {line : List Char} (other : IsOther line)
    {e : List Char × List Char} (read : pair? line = some e) : e.1 ∉ keys := by
  by_cases colon : ':' ∈ line
  · have unread := other.unread colon
    obtain ⟨key, value, rfl, colonless⟩ := List.eq_append_cons_of_mem colon
    rw [pair?_append_cons colonless] at read
    rw [List.takeWhile_append_of_pos (bne_of_notMem colonless)] at unread
    cases read
    simpa using unread
  · rw [pair?_of_notMem colon] at read
    cases read

/-- What a record says under one of the keys is what the device says under it. -/
theorem filter_entries {record : List (List Char)} {d : Descriptor} (plain : IsPlain d)
    (described : Describes record d) {key : List Char} (known : key ∈ keys) :
    ((record.filterMap pair?).filter (·.1 == key)).Perm ((fieldsOf d).filter (·.1 == key)) := by
  obtain ⟨others, same, unread⟩ := described
  have own : ((fieldsOf d).map fieldLine).filterMap pair? = fieldsOf d := by
    have read : ∀ e ∈ fieldsOf d, (pair? ∘ fieldLine) e = some e := fun _ he =>
      pair?_fieldLine plain he
    rw [List.filterMap_map, List.filterMap_congr read, List.filterMap_some]
  have none : (others.filterMap pair?).filter (·.1 == key) = [] := by
    refine List.filter_eq_nil_iff.2 fun e he => ?_
    obtain ⟨line, there, read⟩ := List.mem_filterMap.1 he
    have unknown := notMem_keys_of_isOther (unread line there) read
    simpa using fun (hit : e.1 = key) => unknown (hit ▸ known)
  have all := (same.filterMap pair?).filter (·.1 == key)
  rwa [List.filterMap_append, List.filter_append, own, none, List.append_nil] at all

/-- The value under a key is that of the first entry with it. -/
theorem find?_eq_head? (key : String) (es : List (List Char × List Char)) :
    find? key es = ((es.filter (·.1 == key.toList)).map Prod.snd).head? := by
  induction es with
  | nil => rfl
  | cons e es ih =>
    obtain ⟨k, v⟩ := e
    rw [find?, List.filter_cons]
    split
    · rfl
    · exact ih

/-- A device says at most one thing under a key. -/
theorem length_filter_fieldsOf (d : Descriptor) {key : List Char} (known : key ∈ keys) :
    ((fieldsOf d).filter (·.1 == key)).length ≤ 1 := by
  obtain ⟨name, there, rfl⟩ := List.mem_map.1 known
  unfold fieldsOf
  generalize (toString d.address).toList = address
  simp only [List.mem_cons, List.not_mem_nil, or_false] at there
  rcases there with rfl | rfl | rfl | rfl | rfl <;> cases d.driver <;> simp

/-- A record that describes a device says under each of the keys what the device says. -/
theorem find?_of_describes {record : List (List Char)} {d : Descriptor} (plain : IsPlain d)
    (described : Describes record d) {key : String} (known : key.toList ∈ keys) :
    find? key (record.filterMap pair?) = find? key (fieldsOf d) := by
  have same := filter_entries plain described known
  have once := length_filter_fieldsOf d known
  rw [find?_eq_head?, find?_eq_head?]
  generalize (fieldsOf d).filter (·.1 == key.toList) = said at same once
  match said, once with
  | [], _ => rw [same.eq_nil]
  | [e], _ => rw [same.eq_singleton]

/-- A device is read back from what it says under the keys. -/
theorem ofPairs?_fieldsOf (d : Descriptor) : ofPairs? (fieldsOf d) = some d := by
  have address : PciAddress.ofChars? (trimChars (toString d.address).toList) = some d.address :=
    PciAddress.parse?_toString d.address
  unfold fieldsOf
  generalize (toString d.address).toList = written at address
  obtain ⟨_, cls, vendor, device, driver⟩ := d
  cases driver <;> simp [ofPairs?, field, find?, address]

/-- The device that a record describes is read from it. -/
theorem ofLines?_of_describes {record : List (List Char)} {d : Descriptor} (plain : IsPlain d)
    (described : Describes record d) : ofLines? record = some d := by
  have told (key : String) (known : key ∈ ["Slot", "Class", "Vendor", "Device", "Driver"]) :
      find? key (record.filterMap pair?) = find? key (fieldsOf d) :=
    find?_of_describes plain described (List.mem_map_of_mem known)
  rw [← ofPairs?_fieldsOf d]
  unfold ofLines? ofPairs? field
  rw [told "Slot" (by simp), told "Class" (by simp), told "Vendor" (by simp),
    told "Device" (by simp), told "Driver" (by simp)]

/-- A record that describes a device is made of lines that hold something. -/
theorem filled_of_describes {record : List (List Char)} {d : Descriptor} (plain : IsPlain d)
    (described : Describes record d) :
    record ≠ [] ∧ ∀ line ∈ record, line ≠ [] ∧ '\n' ∉ line := by
  obtain ⟨others, same, unread⟩ := described
  constructor
  · rintro rfl
    have empty := same.symm.eq_nil
    simp [fieldsOf] at empty
  · intro line there
    rcases List.mem_append.1 (same.mem_iff.1 there) with own | other
    · obtain ⟨e, he, rfl⟩ := List.mem_map.1 own
      obtain ⟨known, single, -⟩ := plain_of_mem_fieldsOf plain e he
      have key := (plain_of_mem_keys e.1 known).2.1
      simp [fieldLine, key, single]
    · exact ⟨(unread line other).filled, (unread line other).single⟩

/-- The listing that is written of devices is read back: the devices in their order, each with all
that is said of it, whatever the order of the lines of its record and whatever other lines stand
among them. -/
theorem listing_read_back {records : List (List (List Char))} {devices : List Descriptor}
    (plain : ∀ d ∈ devices, IsPlain d) (described : List.Forall₂ Describes records devices)
    (feeds : Nat) : parse (print records feeds) = devices := by
  have read : (∀ record ∈ records, record ≠ [] ∧ ∀ line ∈ record, line ≠ [] ∧ '\n' ∉ line) ∧
      records.filterMap ofLines? = devices := by
    induction described with
    | nil => exact ⟨nofun, rfl⟩
    | cons first rest ih =>
      obtain ⟨fits, others⟩ := List.forall_mem_cons.1 plain
      obtain ⟨filled, same⟩ := ih others
      refine ⟨List.forall_mem_cons.2 ⟨filled_of_describes fits first, filled⟩, ?_⟩
      rw [List.filterMap_cons_some (ofLines?_of_describes fits first), same]
  rw [parse_eq_blocks, blocks_print read.1, read.2]

/-- Two network controllers.  The name of the first one's class holds a colon, and its driver has no
name; the second one has no driver. -/
def controllers : List Descriptor :=
  [⟨Topology.managementNic, "Ethernet: 10G", "8086", "", some ""⟩,
    ⟨Topology.dataNic, "0200", "8086", "100f", none⟩]

/-- Lines of the first one's record that say nothing of what is read. -/
def remarks : List (List Char) :=
  ["SVendor:\tone: two", "SVendor:\tthree", "Slot", " \r", ":"].map String.toList

/-- Records of the two, with their lines in another order. -/
def shuffled : List (List (List Char)) :=
  [["Driver:\t", "SVendor:\tone: two", "Device:\t", "Slot", "Class:\tEthernet: 10G", ":",
      "SVendor:\tthree", "Slot:\t0000:02:01.0", " \r", "Vendor:\t8086"].map String.toList,
    ["Vendor:\t8086", "Slot:\t0000:02:02.0", "Device:\t100f", "Class:\t0200"].map String.toList]

/-- The two controllers are read back from their records. -/
theorem shuffled_read_back :
    List.Forall₂ Describes shuffled controllers ∧ parse (print shuffled 1) = controllers := by
  have plain : ∀ d ∈ controllers, IsPlain d := by
    unfold IsPlain
    decide +kernel
  have other : ∀ line ∈ remarks, IsOther line := by decide +kernel
  have described : List.Forall₂ Describes shuffled controllers :=
    .cons ⟨remarks, by decide +kernel, other⟩ (.cons ⟨[], by decide +kernel, nofun⟩ .nil)
  exact ⟨described, listing_read_back plain described 1⟩

end Provision.Listing
