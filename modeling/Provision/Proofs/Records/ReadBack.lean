import Mathlib.Algebra.Group.Nat.Defs
import Provision.Proofs.Text.Splitting
import Provision.Sysfs.Metadata

/-!
# The document of records is read back

What is written of the durable records is read back as it was, whatever texts the
records hold: numbers from their digits, addresses from their text, strings through
their escapes, objects field by field.

Main results:

- `PciAddress.parse?_toString`: an address is read back from its text.
- `Json.readBack_string`, `Json.readBack_object`: strings, and objects whose values are
  read back, are read back.
- `Metadata.parse?_print`: the document is read back from its text.
-/

namespace Provision

/-! ## Numbers -/

namespace Numeral

/-- Digits that follow others are added to the number that those spell. -/
theorem digits?_append (value? : Char → Option Nat) (base acc : Nat) (first second : List Char) :
    digits? value? base acc (first ++ second) =
      (digits? value? base acc first).bind fun n => digits? value? base n second := by
  induction first generalizing acc with
  | nil => rfl
  | cons c first ih =>
    simp only [List.cons_append, digits?]
    cases value? c with
    | none => rfl
    | some d => exact ih _

/-- Where the hexadecimal digits stand among the characters. -/
theorem toNat_of_hexDigit? {c : Char} (h : (hexDigit? c).isSome) :
    (48 ≤ c.toNat ∧ c.toNat ≤ 57) ∨ (97 ≤ c.toNat ∧ c.toNat ≤ 102) ∨
      (65 ≤ c.toNat ∧ c.toNat ≤ 70) := by
  simp only [hexDigit?, Bool.and_eq_true, decide_eq_true_eq, Char.le_def,
    UInt32.le_iff_toNat_le] at h
  split at h
  · next digit => exact .inl digit
  · split at h
    · next lower => exact .inr (.inl lower)
    · split at h
      · next upper => exact .inr (.inr upper)
      · exact absurd h (by decide)

/-- A digit below sixteen is read back. -/
theorem hexDigit?_digitChar : ∀ d < 16, hexDigit? (Nat.digitChar d) = some d := by decide

theorem digits?_toDigits (n : Nat) : digits? hexDigit? 16 0 (Nat.toDigits 16 n) = some n := by
  induction n using Nat.strongRecOn with
  | _ n ih =>
    rw [Nat.toDigits_eq_if (by decide)]
    split
    · next small => simp [digits?, hexDigit?_digitChar n small]
    · next large =>
      have shorter : n / 16 < n := Nat.div_lt_self (by omega) (by decide)
      rw [digits?_append, ih _ shorter, Option.bind_some]
      simp [digits?, hexDigit?_digitChar _ (Nat.mod_lt n (by decide : 16 > 0)), Nat.div_add_mod']

/-- A number is read back from its hexadecimal digits. -/
theorem digits?_toHex (width n : Nat) : digits? hexDigit? 16 0 (toHex width n) = some n := by
  have zeros : ∀ k, digits? hexDigit? 16 0 (List.replicate k '0') = some 0 := by
    intro k
    induction k with
    | zero => rfl
    | succ k ih => simpa [List.replicate_succ, digits?, hexDigit?] using ih
  rw [toHex, digits?_append, zeros, Option.bind_some, digits?_toDigits]

/-- A number that fits into a width is written in it. -/
theorem length_toHex {width n : Nat} (positive : 0 < width) (fits : n < 16 ^ width) :
    (toHex width n).length = width := by
  have short : (Nat.toDigits 16 n).length ≤ width :=
    (Nat.length_toDigits_le_iff (by decide) positive).2 fits
  simp only [toHex, List.length_append, List.length_replicate]
  omega

/-- What spells a number is made of digits. -/
theorem isSome_of_mem_digits? {value? : Char → Option Nat} {base acc n : Nat} {cs : List Char}
    (h : digits? value? base acc cs = some n) : ∀ c ∈ cs, (value? c).isSome := by
  induction cs generalizing acc with
  | nil => simp
  | cons c cs ih =>
    cases value : value? c with
    | none => simp [digits?, value] at h
    | some d =>
      rw [digits?, value] at h
      intro e he
      rcases List.mem_cons.1 he with rfl | he
      · simp [value]
      · exact ih h e he

end Numeral

/-! ## Addresses -/

namespace PciAddress

open Numeral

theorem field?_toHex {limit n width : Nat} (h : n < limit) :
    field? limit (toHex width n) = some ⟨n, h⟩ := by
  simp [field?, digits?_toHex, h]

/-- A hexadecimal digit is no blank. -/
theorem not_isBlank_of_hexDigit? {c : Char} (h : (hexDigit? c).isSome) :
    Text.isBlank c = false := by
  have range := toNat_of_hexDigit? h
  simp only [Text.isBlank, Bool.or_eq_false_iff, Bool.and_eq_false_iff, decide_eq_false_iff_not,
    beq_eq_false_iff_ne]
  omega

/-- Digits in the places of an address are those of its numbers. -/
theorem ofChars?_join : ∀ {domain bus device function : List Char}, domain.length = 4 →
    bus.length = 2 → device.length = 2 → function.length = 1 →
    ofChars? (domain ++ ':' :: bus ++ ':' :: device ++ '.' :: function) =
      ofDigits? domain bus device function
  | [_, _, _, _], [_, _], [_, _], [_], _, _, _, _ => rfl

/-- An address is read back from its text. -/
theorem ofChars?_toChars (a : PciAddress) : ofChars? a.toChars = some a := by
  have one : a.function.val < 16 ^ 1 := Nat.lt_of_lt_of_le a.function.isLt (by decide)
  rw [toChars, ofChars?_join (length_toHex (by decide) a.domain.isLt)
    (length_toHex (by decide) a.bus.isLt) (length_toHex (by decide) a.device.isLt)
    (length_toHex (by decide) one)]
  simp [ofDigits?, field?_toHex]

/-- The text of an address is made of digits, colons and a dot. -/
theorem of_mem_toChars {a : PciAddress} {c : Char} (h : c ∈ a.toChars) :
    (hexDigit? c).isSome ∨ c = ':' ∨ c = '.' := by
  have digit : ∀ {width n : Nat}, c ∈ toHex width n → (hexDigit? c).isSome :=
    fun h => isSome_of_mem_digits? (digits?_toHex _ _) _ h
  simp only [toChars, List.mem_append, List.mem_cons, or_assoc] at h
  rcases h with h | colon | h | colon | h | dot | h
  · exact .inl (digit h)
  · exact .inr (.inl colon)
  · exact .inl (digit h)
  · exact .inr (.inl colon)
  · exact .inl (digit h)
  · exact .inr (.inr dot)
  · exact .inl (digit h)

/-- The text of an address holds no blank. -/
theorem not_isBlank_of_mem_toChars {a : PciAddress} {c : Char} (h : c ∈ a.toChars) :
    Text.isBlank c = false := by
  rcases of_mem_toChars h with digit | rfl | rfl
  · exact not_isBlank_of_hexDigit? digit
  · decide
  · decide

/-- An address is read back from its text. -/
theorem parse?_toString (a : PciAddress) : parse? (toString a) = some a := by
  show ofChars? (Text.trimChars (String.ofList a.toChars).toList) = some a
  rw [String.toList_ofList, Text.trimChars_of_forall fun _ h => not_isBlank_of_mem_toChars h,
    ofChars?_toChars]

end PciAddress

/-! ## Strings -/

namespace Json

/-- Four digits are read as the code unit that they spell. -/
theorem unit?_toHex {n : Nat} (h : n < 16 ^ 4) (rest : List Char) :
    unit? (Numeral.toHex 4 n ++ rest) = some (n, rest) := by
  have spelled : ∀ {cs : List Char}, cs.length = 4 →
      unit? (cs ++ rest) = (Numeral.digits? Numeral.hexDigit? 16 0 cs).map (·, rest)
    | [_, _, _, _], _ => rfl
  rw [spelled (Numeral.length_toHex (by decide) h), Numeral.digits?_toHex, Option.map_some]

/-- A control character that has no short escape is read back. -/
theorem unicode?_toHex {c : Char} (h : c.toNat < 0x20) (rest : List Char) :
    unicode? (Numeral.toHex 4 c.toNat ++ rest) = some (some c, rest) := by
  have small : c.toNat < 16 ^ 4 := by omega
  have first : isFirstHalf c.toNat = false := by simp [isFirstHalf]; omega
  have second : isSecondHalf c.toNat = false := by simp [isSecondHalf]; omega
  simp [unicode?, unit?_toHex small rest, first, second, Char.ofNat_toNat]

/-- An escape is read in one step. -/
theorem stringBody?_backslash {c : Char} {body rest : List Char}
    (h : escaped? body = some (some c, rest)) (fuel : Nat) :
    stringBody? (fuel + 1) ('\\' :: body) =
      (stringBody? fuel rest).map fun r => (before (some c) r.1, r.2) := by
  simp only [stringBody?, h, Option.bind_eq_bind, Option.bind_some]
  cases stringBody? fuel rest <;> rfl

/-- A written character is read in one step. -/
theorem stringBody?_escapeChar (c : Char) (fuel : Nat) (rest : List Char) :
    stringBody? (fuel + 1) (escapeChar c ++ rest) =
      (stringBody? fuel rest).map fun r => (before (some c) r.1, r.2) := by
  unfold escapeChar
  split
  · next special =>
    rcases Bool.or_eq_true _ _ ▸ special with quoted | quoted
    · rw [eq_of_beq quoted]
      exact stringBody?_backslash rfl fuel
    · rw [eq_of_beq quoted]
      exact stringBody?_backslash rfl fuel
  next plain =>
  -- the five control characters that have a letter of their own
  iterate 5
    split
    · next same =>
      rw [eq_of_beq same]
      exact stringBody?_backslash rfl fuel
  split
  · next control =>
    have read : escaped? ('u' :: (Numeral.toHex 4 c.toNat ++ rest)) = some (some c, rest) :=
      unicode?_toHex control rest
    exact stringBody?_backslash read fuel
  · next visible =>
    simp only [Bool.or_eq_true, beq_iff_eq, not_or] at plain
    rw [List.singleton_append, stringBody?, if_neg visible]
    · cases stringBody? fuel rest <;> rfl
    · exact plain.1
    · exact plain.2

/-- A written string is read back up to its closing quotation mark. -/
theorem stringBody?_escape {cs : List Char} {fuel : Nat} (h : cs.length < fuel)
    (rest : List Char) : stringBody? fuel (escape cs ++ '"' :: rest) = some (some cs, rest) := by
  induction cs generalizing fuel with
  | nil =>
    obtain ⟨fuel, rfl⟩ := Nat.exists_eq_succ_of_ne_zero (Nat.ne_of_gt h)
    rfl
  | cons c cs ih =>
    obtain ⟨fuel, rfl⟩ := Nat.exists_eq_succ_of_ne_zero (Nat.ne_of_gt (Nat.zero_lt_of_lt h))
    rw [escape_cons, List.append_assoc, stringBody?_escapeChar,
      ih (Nat.lt_of_succ_lt_succ h), Option.map_some]
    rfl

/-- Escapes lengthen a text. -/
theorem length_le_escape (cs : List Char) : cs.length ≤ (escape cs).length := by
  induction cs with
  | nil => exact Nat.le_refl _
  | cons c cs ih =>
    have written : 1 ≤ (escapeChar c).length := by
      unfold escapeChar
      repeat' split
      all_goals simp
    rw [escape_cons, List.length_append, List.length_cons]
    omega

/-! ## Values -/

/-- A value that is read back from its written form, whatever follows. -/
def ReadBack (value : Json) : Prop :=
  ∀ (level fuel : Nat) (rest : List Char), (write level value).length < fuel →
    value? fuel (write level value ++ rest) = some (value, rest)

/-- The gap before a line does not count. -/
theorem skipGap_newline (level : Nat) (cs : List Char) :
    skipGap (newline level ++ cs) = skipGap cs := by
  refine List.dropWhile_append_of_pos fun c hc => ?_
  rcases List.mem_cons.1 hc with rfl | blank
  · rfl
  · rw [List.eq_of_mem_replicate blank]
    rfl

/-- The gap before a value does not count. -/
theorem value?_congr {a b : List Char} (h : skipGap a = skipGap b) (fuel : Nat) :
    value? fuel a = value? fuel b := by
  cases fuel with
  | zero => rfl
  | succ fuel => simp only [value?, h]

/-- A string is read back. -/
theorem readBack_string (s : String) : ReadBack (.string s) := by
  intro level fuel rest h
  obtain ⟨fuel, rfl⟩ := Nat.exists_eq_succ_of_ne_zero (Nat.ne_of_gt (Nat.zero_lt_of_lt h))
  have short := length_le_escape s.toList
  simp only [write, quote, List.length_cons, List.length_append, List.length_nil] at h
  have body : stringBody? fuel (escape s.toList ++ '"' :: rest) = some (some s.toList, rest) :=
    stringBody?_escape (by omega) rest
  have gap : skipGap ('"' :: (escape s.toList ++ '"' :: rest)) =
      '"' :: (escape s.toList ++ '"' :: rest) := rfl
  simp only [write, quote, List.cons_append, List.append_assoc, List.nil_append, value?, gap, body]
  simp

/-- The written form of a field. -/
def writeField (level : Nat) (key : String) (value : Json) : List Char :=
  quote key ++ [':', ' '] ++ write level value

/-- The gap before a field does not count. -/
theorem field?_congr {a b : List Char} (h : skipGap a = skipGap b) (fuel : Nat) :
    field? fuel a = field? fuel b := by
  cases fuel with
  | zero => rfl
  | succ fuel => simp only [field?, h]

/-- A field is read back, with its key as a text. -/
theorem field?_writeField {key : String} {value : Json} (back : ReadBack value) {level fuel : Nat}
    (h : (writeField level key value).length < fuel) (rest : List Char) :
    field? fuel (writeField level key value ++ rest) = some ((some key.toList, value), rest) := by
  obtain ⟨fuel, rfl⟩ := Nat.exists_eq_succ_of_ne_zero (Nat.ne_of_gt (Nat.zero_lt_of_lt h))
  have short := length_le_escape key.toList
  simp only [writeField, quote, List.length_cons, List.length_append, List.length_nil] at h
  have name (after : List Char) :
      stringBody? fuel (escape key.toList ++ '"' :: after) = some (some key.toList, after) :=
    stringBody?_escape (by omega) after
  have blank (cs : List Char) : skipGap (' ' :: cs) = skipGap cs := rfl
  have inner : value? fuel (' ' :: (write level value ++ rest)) = some (value, rest) := by
    rw [value?_congr (blank _)]
    exact back level fuel rest (by omega)
  have opening (cs : List Char) : skipGap ('"' :: cs) = '"' :: cs := rfl
  have colon (cs : List Char) : skipGap (':' :: cs) = ':' :: cs := rfl
  simp [writeField, quote, field?, opening, colon, name, inner]

/-- The fields of a written object after the first are read back. -/
theorem fields?_writeFields {fields : List (String × Json)} (back : ∀ f ∈ fields, ReadBack f.2)
    {level outer fuel : Nat} (h : (writeFields level fields).length + 1 < fuel)
    (rest : List Char) :
    fields? fuel (writeFields level fields ++ newline outer ++ '\x7d' :: rest) =
      some (fields.map fun f => (some f.1.toList, f.2), rest) := by
  induction fields generalizing fuel with
  | nil =>
    obtain ⟨fuel, rfl⟩ := Nat.exists_eq_succ_of_ne_zero (Nat.ne_of_gt (Nat.zero_lt_of_lt h))
    have closing : skipGap (newline outer ++ '\x7d' :: rest) = '\x7d' :: rest :=
      skipGap_newline outer _
    simp [writeFields, fields?, closing]
  | cons f fields ih =>
    obtain ⟨fuel, rfl⟩ := Nat.exists_eq_succ_of_ne_zero (Nat.ne_of_gt (Nat.zero_lt_of_lt h))
    have written : writeFields level (f :: fields) =
        ',' :: newline level ++ writeField level f.1 f.2 ++ writeFields level fields := by
      simp [writeFields, writeField]
    simp only [written, List.length_cons, List.length_append] at h
    have comma (cs : List Char) : skipGap (',' :: cs) = ',' :: cs := rfl
    have first (after : List Char) :
        field? fuel (newline level ++ writeField level f.1 f.2 ++ after) =
          some ((some f.1.toList, f.2), after) := by
      rw [List.append_assoc, field?_congr (skipGap_newline level _)]
      exact field?_writeField (back f List.mem_cons_self) (by omega) after
    have others : fields? fuel (writeFields level fields ++ newline outer ++ '\x7d' :: rest) =
        some (fields.map fun f => (some f.1.toList, f.2), rest) :=
      ih (fun f hf => back f (List.mem_cons_of_mem _ hf)) (by omega)
    simp only [written, List.cons_append, List.append_assoc, fields?, comma]
    simp only [List.append_assoc] at first others
    simp [first, others]

/-- An object whose keys are texts keeps its fields. -/
theorem ofFields_texts (fields : List (String × Json)) :
    ofFields (fields.map fun f => (some f.1.toList, f.2)) = .object fields := by
  have texts : fields.mapM (fun f => some (f.1, f.2)) = some fields := by
    simpa using List.mapM_pure (m := Option) (l := fields) (f := id)
  simp [ofFields, List.mapM_map, Function.comp_def, texts]

/-- An object is read back when its values are. -/
theorem readBack_object {fields : List (String × Json)} (back : ∀ f ∈ fields, ReadBack f.2) :
    ReadBack (.object fields) := by
  intro level fuel rest h
  obtain ⟨fuel, rfl⟩ := Nat.exists_eq_succ_of_ne_zero (Nat.ne_of_gt (Nat.zero_lt_of_lt h))
  cases fields with
  | nil => rfl
  | cons f fields =>
    have written : write level (.object (f :: fields)) =
        '\x7b' :: newline (level + 1) ++ writeField (level + 1) f.1 f.2 ++
          writeFields (level + 1) fields ++ newline level ++ ['\x7d'] := by
      simp [write, writeField]
    simp only [written, List.length_cons, List.length_append, List.length_nil] at h
    have first (after : List Char) : field? fuel (writeField (level + 1) f.1 f.2 ++ after) =
        some ((some f.1.toList, f.2), after) :=
      field?_writeField (back f List.mem_cons_self) (by omega) after
    have others : fields? fuel (writeFields (level + 1) fields ++ newline level ++ '\x7d' :: rest) =
        some (fields.map fun f => (some f.1.toList, f.2), rest) :=
      fields?_writeFields (fun f hf => back f (List.mem_cons_of_mem _ hf)) (by omega) rest
    have opening (cs : List Char) : skipGap ('\x7b' :: cs) = '\x7b' :: cs := rfl
    have gap (cs : List Char) : skipGap (newline (level + 1) ++ '"' :: cs) = '"' :: cs :=
      skipGap_newline _ _
    have named (cs : List Char) : writeField (level + 1) f.1 f.2 ++ cs =
        '"' :: (escape f.1.toList ++ '"' :: ':' :: ' ' :: (write (level + 1) f.2 ++ cs)) := by
      simp [writeField, quote]
    have first := first (writeFields (level + 1) fields ++ (newline level ++ '\x7d' :: rest))
    simp only [written, List.cons_append, List.append_assoc, value?, opening]
    -- the first field starts with a quotation mark, so it is not taken for the closing brace
    rw [named, gap]
    rw [named] at first
    rw [List.append_assoc] at others
    have value := ofFields_texts (f :: fields)
    rw [List.map_cons] at value
    simp [first, others, value]

/-- A document whose value is read back is read back. -/
theorem parse?_print {value : Json} (back : ReadBack value) : parse? value.print = some value := by
  have whole : value? (2 * value.print.length + 2) value.print.toList = some (value, []) := by
    have read := back 0 (2 * (write 0 value).length + 2) [] (by omega)
    rw [List.append_nil] at read
    rwa [print, String.length_ofList, String.toList_ofList]
  unfold parse?
  rw [whole]
  rfl

end Json

/-! ## The document -/

namespace Metadata

/-- A record is read back. -/
theorem record?_recordToJson (r : DeviceRecord) : record? (recordToJson r) = some r := by
  simp [record?, recordToJson, textField?, uniqueField?, Json.string?]

/-- The records are put into the map one after the other. -/
theorem records?_written (entries : List (PciAddress × DeviceRecord))
    (records : SortedMap PciAddress DeviceRecord) :
    records? (entries.map fun e => (toString e.1, recordToJson e.2)) records =
      some (entries.foldl (fun m e => m.insert e.1 e.2) records) := by
  induction entries generalizing records with
  | nil => rfl
  | cons e entries ih =>
    simp only [List.map_cons, records?, PciAddress.parse?_toString, record?_recordToJson]
    exact ih _

/-- The document is read back from its text. -/
theorem parse?_print (d : Metadata) : parse? d.print = some d := by
  have record (r : DeviceRecord) : (recordToJson r).ReadBack := by
    refine Json.readBack_object fun f hf => ?_
    simp only [List.mem_cons, List.not_mem_nil, or_false] at hf
    rcases hf with rfl | rfl
    · exact Json.readBack_string r.homeDriver
    · exact Json.readBack_string r.recordedAt
  have back : d.toJson.ReadBack := by
    refine Json.readBack_object fun f hf => ?_
    rw [List.mem_singleton.1 hf]
    refine Json.readBack_object fun f hf => ?_
    obtain ⟨e, -, rfl⟩ := List.mem_map.1 hf
    exact record e.2
  have devices : records? (d.devices.entries.map fun e => (toString e.1, recordToJson e.2)) ∅ =
      some d.devices :=
    (records?_written d.devices.entries ∅).trans (congrArg some d.devices.ofList_entries)
  have value : ofJson? d.toJson = some d := by
    simp [toJson, ofJson?, uniqueField?, devices?, Json.entries?, devices]
  simp [parse?, print, Json.parse?_print back, value]

end Metadata

end Provision
