/-!
# TOML values and the building of tables

The values of a TOML document, and the rules by which headers and dotted keys
make tables: a table is opened by one header only, a dotted key extends only
tables that dotted keys made, and inline tables and arrays are closed.

Main results:

- `Toml.inRange_array`, `Toml.inRange_table`: a value is in range when its parts are.
- `Toml.Section.find?_of_insert`: a key is never given two values, and keeps the one it has.
-/

namespace Provision

/-- A TOML value.  The four kinds of dates and times are one kind here. -/
inductive Toml
  | string (s : String)
  | integer (n : Int)
  /-- A float; `bounded` says whether it is a double or was written as an infinity. -/
  | float (bounded : Bool)
  | boolean (b : Bool)
  | dateTime
  | array (items : List Toml)
  | table (fields : List (String × Toml))
  deriving Inhabited

namespace Toml

/-! ## Ranges -/

/-- Whether an integer fits into 128 bits, with a sign or without one. -/
def fitsWide (n : Int) : Bool := -(Int.pow 2 127) ≤ n && n < Int.pow 2 128

mutual

/-- Whether every number in a value is in the range of those that can be looked at. -/
def inRange : Toml → Bool
  | .integer n => fitsWide n
  | .float bounded => bounded
  | .array items => itemsInRange items
  | .table fields => fieldsInRange fields
  | _ => true

/-- Whether every number in several values is in range. -/
def itemsInRange : List Toml → Bool
  | [] => true
  | item :: items => inRange item && itemsInRange items

/-- Whether every number in the values of fields is in range. -/
def fieldsInRange : List (String × Toml) → Bool
  | [] => true
  | (_, v) :: fields => inRange v && fieldsInRange fields

end

/-- An array is in range when its items are. -/
theorem inRange_array (items : List Toml) : inRange (.array items) = items.all inRange := by
  rw [inRange]
  induction items with
  | nil => rfl
  | cons item items ih => rw [itemsInRange, ih, List.all_cons]

/-- A table is in range when the values of its fields are. -/
theorem inRange_table (fields : List (String × Toml)) :
    inRange (.table fields) = fields.all fun f => inRange f.2 := by
  rw [inRange]
  induction fields with
  | nil => rfl
  | cons f fields ih => rw [fieldsInRange, ih, List.all_cons]

/-! ## Building -/

/-- What stands under a key while a document is read. -/
inductive Node
  /-- A closed value. -/
  | value (v : Toml)
  /-- A table: whether no header opened it yet, whether a dotted key made it, and its fields. -/
  | table (implicit dotted : Bool) (fields : List (String × Node))
  /-- An array of tables that headers opened, the latest first. -/
  | tables (latest : List (String × Node)) (earlier : List (List (String × Node)))

mutual

/-- The value of what was read. -/
def Node.toToml : Node → Toml
  | .value v => v
  | .table _ _ fields => .table (Node.fieldsToToml fields)
  | .tables latest earlier => .array (Node.tablesToToml earlier [.table (Node.fieldsToToml latest)])

/-- The values of the fields of a table. -/
def Node.fieldsToToml : List (String × Node) → List (String × Toml)
  | [] => []
  | (key, node) :: fields => (key, node.toToml) :: Node.fieldsToToml fields

/-- The tables of an array, which stand in reverse, in front of `after`. -/
def Node.tablesToToml : List (List (String × Node)) → List Toml → List Toml
  | [], after => after
  | fields :: earlier, after =>
    Node.tablesToToml earlier (.table (Node.fieldsToToml fields) :: after)

end

/-- A table while it is read. -/
structure Section where
  /-- No header opened the table yet. -/
  implicit : Bool
  /-- A dotted key made the table. -/
  dotted : Bool
  /-- The fields in the order in which they came. -/
  fields : List (String × Node)

namespace Section

/-- The table without fields that a header opens. -/
def opened : Section := ⟨false, false, []⟩

/-- The table as a node. -/
def toNode (t : Section) : Node := .table t.implicit t.dotted t.fields

/-- The value under a key. -/
def find? (t : Section) (key : String) : Option Node := t.fields.lookup key

/-- Replaces the value under a key, or adds the key at the end. -/
def put (key : String) (node : Node) : List (String × Node) → List (String × Node)
  | [] => [(key, node)]
  | f :: fs => if f.1 == key then (key, node) :: fs else f :: put key node fs

/-- The value that was put under a key stands there. -/
theorem lookup_put_self (key : String) (node : Node) (fields : List (String × Node)) :
    (put key node fields).lookup key = some node := by
  induction fields with
  | nil => simp [put]
  | cons f fs ih =>
    unfold put
    split
    · simp
    · next ne =>
      have : (key == f.1) = false := by
        rw [Bool.beq_comm]
        exact Bool.eq_false_iff.2 ne
      rw [← ih, List.lookup_cons, this]

/-- The other keys keep their values. -/
theorem lookup_put_of_ne {key other : String} (h : other ≠ key) (node : Node)
    (fields : List (String × Node)) :
    (put key node fields).lookup other = fields.lookup other := by
  induction fields with
  | nil => simp [put, h]
  | cons f fs ih =>
    unfold put
    split
    · next same =>
      have : (other == key) = false := by simpa using h
      have here : (other == f.1) = false := by rwa [eq_of_beq same]
      rw [List.lookup_cons, List.lookup_cons, this, here]
    · rw [List.lookup_cons, List.lookup_cons, ih]

/-- Changes the table at the end of a path.  Missing tables on the way are made; `dotted` says
whether the path is that of a dotted key, which enters no table that a header opened. -/
def descend (dotted : Bool) :
    List String → (Section → Option Section) → Section → Option Section
  | [], change, t => change t
  | key :: path, change, t => do
    let node ← match t.find? key with
      | none => (descend dotted path change ⟨true, dotted, []⟩).map toNode
      | some (.value _) => none
      | some (.table implicit wasDotted fields) =>
        if dotted && !implicit then none
        else (descend dotted path change ⟨implicit, wasDotted, fields⟩).map toNode
      | some (.tables latest earlier) =>
        (descend dotted path change ⟨false, false, latest⟩).map fun t => .tables t.fields earlier
    some { t with fields := put key node t.fields }

/-- Adds a key that must be new. -/
def insert (key : String) (v : Toml) (t : Section) : Option Section :=
  match t.find? key with
  | some _ => none
  | none => some { t with fields := put key (.value v) t.fields }

/-- What a key that was added does to look-ups: it was new, has its value now, and the other keys
keep theirs. -/
theorem find?_of_insert {key : String} {v : Toml} {t t' : Section} (h : t.insert key v = some t') :
    t.find? key = none ∧ t'.find? key = some (.value v) ∧
      ∀ other, other ≠ key → t'.find? other = t.find? other := by
  unfold insert at h
  split at h
  · cases h
  · next new =>
    cases h
    exact ⟨new, lookup_put_self key _ _, fun other ne => lookup_put_of_ne ne _ _⟩

/-- Adds a value under a dotted key, given as the path to its table and its last part.  The table
must be one that dotted keys made exactly when there is a path. -/
def insertPair (path : List String) (key : String) (v : Toml) (t : Section) : Option Section :=
  let addPair (t : Section) : Option Section :=
    if t.dotted == path.isEmpty then none else t.insert key v
  descend true path addPair t

/-- Opens the table of a header: it must be new, or made on the way to another header. -/
def openTable (path : List String) (key : String) (t : Section) : Option Section :=
  let openHere (t : Section) : Option Section :=
    match t.find? key with
    | none => some { t with fields := put key opened.toNode t.fields }
    | some (.table true false fields) =>
      some { t with fields := put key (.table false false fields) t.fields }
    | some _ => none
  descend false path openHere t

/-- Adds a table to the array of a header: the array must be new or one of headers. -/
def openItem (path : List String) (key : String) (t : Section) : Option Section :=
  let openHere (t : Section) : Option Section :=
    match t.find? key with
    | none => some { t with fields := put key (.tables [] []) t.fields }
    | some (.tables latest earlier) =>
      some { t with fields := put key (.tables [] (latest :: earlier)) t.fields }
    | some _ => none
  descend false path openHere t

end Section

end Toml

end Provision
