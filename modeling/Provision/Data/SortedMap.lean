/-!
# Sorted maps

Finite maps and sets whose entries stand in the order of their keys.  Reports
list their entries in that order, and two maps with the same look-ups are equal,
so a map can be compared as a whole.

Main results:

- `SortedMap.get?_insert_self`, `SortedMap.get?_insert_of_ne`: what an insertion
  does to look-ups.
- `SortedMap.get?_erase_self`, `SortedMap.get?_erase_of_ne`: what a removal does.
- `SortedMap.ext`: maps with the same look-ups are equal.
- `SortedMap.contains_ofList`: a map made from a list has the keys of the list.
- `SortedMap.ofList_entries`: a map is the map of its entries.
-/

namespace Provision

/-! ## Orders given by a key -/

/-- The order of the keys that `key` assigns. -/
abbrev ordByKey {α κ : Type} [Ord κ] (key : α → κ) : Ord α where
  compare a b := compare (key a) (key b)

/-- An order by keys is transitive when the order of the keys is. -/
theorem transOrd_ordByKey {α κ : Type} [Ord κ] [Std.TransOrd κ] (key : α → κ) :
    @Std.TransOrd α (ordByKey key) :=
  letI := ordByKey key
  { eq_swap := fun {a b} => @Std.OrientedOrd.eq_swap κ _ _ (key a) (key b)
    isLE_trans := fun {a b c} hab hbc =>
      @Std.TransOrd.isLE_trans κ _ _ (key a) (key b) (key c) hab hbc }

/-- An order by keys tells different values apart when different values have different keys. -/
theorem lawfulEqOrd_ordByKey {α κ : Type} [Ord κ] [Std.LawfulEqOrd κ] (key : α → κ)
    (injective : ∀ a b, key a = key b → a = b) : @Std.LawfulEqOrd α (ordByKey key) :=
  letI := ordByKey key
  { compare_self := fun {a} => @Std.compare_self κ _ _ (key a)
    eq_of_compare := fun {a b} h =>
      injective a b (@Std.LawfulEqOrd.eq_of_compare κ _ _ (key a) (key b) h) }

/-! ## Entry lists -/

namespace Entries

variable {κ β : Type} [Ord κ]

/-- The value that stands under `k`, in a list of entries. -/
def get? (k : κ) : List (κ × β) → Option β
  | [] => none
  | (k', v) :: rest =>
    match compare k k' with
    | .eq => some v
    | .lt => none
    | .gt => get? k rest

/-- Puts `v` under `k`: an entry of that key keeps its key and loses its value. -/
def insert (k : κ) (v : β) : List (κ × β) → List (κ × β)
  | [] => [(k, v)]
  | (k', v') :: rest =>
    match compare k k' with
    | .lt => (k, v) :: (k', v') :: rest
    | .eq => (k', v) :: rest
    | .gt => (k', v') :: insert k v rest

/-- Takes the entry under `k` away. -/
def erase (k : κ) : List (κ × β) → List (κ × β)
  | [] => []
  | (k', v') :: rest =>
    match compare k k' with
    | .lt => (k', v') :: rest
    | .eq => rest
    | .gt => (k', v') :: erase k rest

/-- Entries in strictly ascending order of their keys. -/
def Sorted (entries : List (κ × β)) : Prop :=
  entries.Pairwise fun a b => compare a.1 b.1 = .lt

theorem sorted_nil : Sorted ([] : List (κ × β)) := List.Pairwise.nil

/-- An entry after an insertion is the new one or an old one, up to its value. -/
theorem key_of_mem_insert [Std.LawfulEqOrd κ] {k : κ} {v : β} {e : κ × β}
    {entries : List (κ × β)} (h : e ∈ insert k v entries) :
    e.1 = k ∨ e ∈ entries := by
  induction entries with
  | nil => simp_all [insert]
  | cons head rest ih =>
    obtain ⟨k', v'⟩ := head
    unfold insert at h
    cases hc : compare k k' with
    | lt =>
      simp only [hc, List.mem_cons] at h
      rcases h with h | h | h
      · exact .inl (by simp [h])
      · exact .inr (by simp [h])
      · exact .inr (by simp [h])
    | eq =>
      simp only [hc, List.mem_cons] at h
      rcases h with h | h
      · exact .inl (by simp [h, (Std.LawfulEqCmp.eq_of_compare hc).symm])
      · exact .inr (by simp [h])
    | gt =>
      simp only [hc, List.mem_cons] at h
      rcases h with h | h
      · exact .inr (by simp [h])
      · rcases ih h with h | h
        · exact .inl h
        · exact .inr (by simp [h])

/-- Insertion keeps entries sorted. -/
theorem Sorted.insert [Std.TransOrd κ] [Std.LawfulEqOrd κ] {k : κ} {v : β}
    {entries : List (κ × β)} (h : Sorted entries) : Sorted (insert k v entries) := by
  induction entries with
  | nil => exact List.pairwise_singleton _ _
  | cons head rest ih =>
    obtain ⟨k', v'⟩ := head
    have hhead : ∀ e ∈ rest, compare k' e.1 = .lt := fun e he => List.rel_of_pairwise_cons h he
    have hrest : Sorted rest := h.of_cons
    unfold Entries.insert
    cases hc : compare k k' with
    | lt =>
      refine List.Pairwise.cons (fun e he => ?_) h
      rcases List.mem_cons.1 he with rfl | he
      · exact hc
      · exact Std.TransCmp.lt_trans hc (hhead e he)
    | eq =>
      exact List.Pairwise.cons (fun e he => hhead e he) hrest
    | gt =>
      refine List.Pairwise.cons (fun e he => ?_) (ih hrest)
      rcases key_of_mem_insert he with rfl | he
      · exact Std.OrientedCmp.lt_of_gt hc
      · exact hhead e he

/-- What a removal leaves was there before. -/
theorem mem_of_mem_erase {k : κ} {e : κ × β} {entries : List (κ × β)}
    (h : e ∈ erase k entries) : e ∈ entries := by
  induction entries with
  | nil => simp [erase] at h
  | cons head rest ih =>
    obtain ⟨k', v'⟩ := head
    unfold erase at h
    cases hc : compare k k' with
    | lt => simpa [hc] using h
    | eq => exact List.mem_cons_of_mem _ (by simpa [hc] using h)
    | gt =>
      simp only [hc, List.mem_cons] at h
      rcases h with h | h
      · simp [h]
      · exact List.mem_cons_of_mem _ (ih h)

/-- Removal keeps entries sorted. -/
theorem Sorted.erase {k : κ} {entries : List (κ × β)} (h : Sorted entries) :
    Sorted (erase k entries) := by
  induction entries with
  | nil => exact h
  | cons head rest ih =>
    obtain ⟨k', v'⟩ := head
    have hhead : ∀ e ∈ rest, compare k' e.1 = .lt := fun e he => List.rel_of_pairwise_cons h he
    have hrest : Sorted rest := h.of_cons
    unfold Entries.erase
    cases compare k k' with
    | lt => exact h
    | eq => exact hrest
    | gt => exact List.Pairwise.cons (fun e he => hhead _ (mem_of_mem_erase he)) (ih hrest)

theorem get?_insert_self [Std.LawfulEqOrd κ] (k : κ) (v : β) (entries : List (κ × β)) :
    get? k (insert k v entries) = some v := by
  induction entries with
  | nil => simp [insert, get?]
  | cons head rest ih =>
    obtain ⟨k', v'⟩ := head
    unfold insert
    cases hc : compare k k' <;> simp [get?, hc, ih]

theorem get?_insert_of_ne [Std.TransOrd κ] [Std.LawfulEqOrd κ] {k k' : κ} (v : β)
    (h : k' ≠ k) {entries : List (κ × β)} :
    get? k' (insert k v entries) = get? k' entries := by
  have hne : ∀ a b : κ, a ≠ b → compare a b ≠ .eq := fun a b hab hc =>
    hab (Std.LawfulEqCmp.eq_of_compare hc)
  induction entries with
  | nil =>
    have := hne k' k h
    simp only [insert, get?]
    cases hc : compare k' k <;> simp_all
  | cons head rest ih =>
    obtain ⟨j, w⟩ := head
    unfold insert
    cases hc : compare k j with
    | lt =>
      simp only [get?]
      cases hk : compare k' k with
      | lt => simp [Std.TransCmp.lt_trans hk hc]
      | eq => exact absurd hk (hne k' k h)
      | gt => simp
    | eq =>
      simp only [get?]
      have : k = j := Std.LawfulEqCmp.eq_of_compare hc
      subst this
      cases hk : compare k' k with
      | lt => rfl
      | eq => exact absurd hk (hne k' k h)
      | gt => rfl
    | gt =>
      simp only [get?]
      cases compare k' j with
      | lt => rfl
      | eq => rfl
      | gt => exact ih

/-- Nothing stands under a key that comes before all others. -/
theorem get?_eq_none_of_forall_lt {k : κ} {entries : List (κ × β)}
    (h : ∀ e ∈ entries, compare k e.1 = .lt) : get? k entries = none := by
  cases entries with
  | nil => rfl
  | cons head rest => simp [get?, h head (List.mem_cons_self ..)]

theorem get?_erase_self [Std.TransOrd κ] [Std.LawfulEqOrd κ] (k : κ)
    {entries : List (κ × β)} (h : Sorted entries) : get? k (erase k entries) = none := by
  induction entries with
  | nil => rfl
  | cons head rest ih =>
    obtain ⟨k', v'⟩ := head
    have hhead : ∀ e ∈ rest, compare k' e.1 = .lt := fun e he => List.rel_of_pairwise_cons h he
    have hrest : Sorted rest := h.of_cons
    unfold erase
    cases hc : compare k k' with
    | lt => simp [get?, hc]
    | eq =>
      have : k = k' := Std.LawfulEqCmp.eq_of_compare hc
      subst this
      exact get?_eq_none_of_forall_lt fun e he => hhead e he
    | gt => simp [get?, hc, ih hrest]

theorem get?_erase_of_ne [Std.TransOrd κ] [Std.LawfulEqOrd κ] {k k' : κ} (h : k' ≠ k)
    {entries : List (κ × β)} (hs : Sorted entries) :
    get? k' (erase k entries) = get? k' entries := by
  induction entries with
  | nil => rfl
  | cons head rest ih =>
    obtain ⟨j, w⟩ := head
    have hhead : ∀ e ∈ rest, compare j e.1 = .lt := fun e he => List.rel_of_pairwise_cons hs he
    have hrest : Sorted rest := hs.of_cons
    unfold erase
    cases hc : compare k j with
    | lt => rfl
    | eq =>
      have : k = j := Std.LawfulEqCmp.eq_of_compare hc
      subst this
      cases hk : compare k' k with
      | lt =>
        simp only [get?, hk]
        exact get?_eq_none_of_forall_lt fun e he => Std.TransCmp.lt_trans hk (hhead e he)
      | eq => exact absurd (Std.LawfulEqCmp.eq_of_compare hk) h
      | gt => simp [get?, hk]
    | gt =>
      simp only [get?]
      cases compare k' j with
      | lt => rfl
      | eq => rfl
      | gt => exact ih hrest

theorem get?_head [Std.LawfulEqOrd κ] (k : κ) (v : β) (rest : List (κ × β)) :
    get? k ((k, v) :: rest) = some v := by
  simp [get?]

/-- Every entry is found under its key. -/
theorem get?_of_mem [Std.TransOrd κ] [Std.LawfulEqOrd κ] {k : κ} {v : β} {entries : List (κ × β)}
    (hs : Sorted entries) (h : (k, v) ∈ entries) : get? k entries = some v := by
  induction entries with
  | nil => exact absurd h List.not_mem_nil
  | cons head rest ih =>
    rcases List.mem_cons.1 h with here | later
    · rw [← here]
      exact get?_head k v rest
    · have before : compare head.1 k = .lt := List.rel_of_pairwise_cons hs later
      have after : compare k head.1 = .gt := Std.OrientedCmp.gt_of_lt before
      unfold get?
      simp only [after]
      exact ih hs.of_cons later

/-- What is found is an entry. -/
theorem mem_of_get? [Std.LawfulEqOrd κ] {k : κ} {v : β} {entries : List (κ × β)}
    (h : get? k entries = some v) : (k, v) ∈ entries := by
  induction entries with
  | nil => cases h
  | cons head rest ih =>
    obtain ⟨k', v'⟩ := head
    unfold get? at h
    cases hc : compare k k' with
    | lt => simp [hc] at h
    | eq =>
      rw [Std.LawfulEqCmp.eq_of_compare hc]
      simp only [hc, Option.some.injEq] at h
      exact h ▸ List.mem_cons_self
    | gt =>
      simp only [hc] at h
      exact List.mem_cons_of_mem _ (ih h)

/-- What is found among some of the entries. -/
theorem get?_filter [Std.TransOrd κ] [Std.LawfulEqOrd κ] {entries : List (κ × β)}
    (hs : Sorted entries) (keep : κ × β → Bool) (k : κ) :
    get? k (entries.filter keep) = (get? k entries).filter fun v => keep (k, v) := by
  induction entries with
  | nil => rfl
  | cons head rest ih =>
    obtain ⟨k', v⟩ := head
    have after : ∀ e ∈ rest, compare k' e.1 = .lt := fun e he => List.rel_of_pairwise_cons hs he
    have ih := ih hs.of_cons
    have later (h : ∀ e ∈ rest, compare k e.1 = .lt) : get? k (rest.filter keep) = none :=
      get?_eq_none_of_forall_lt fun e he => h e (List.mem_filter.1 he).1
    rw [List.filter_cons]
    cases hc : compare k k' with
    | lt =>
      have none := later fun e he => Std.TransCmp.lt_trans hc (after e he)
      split <;> simp [get?, hc, none, Option.filter]
    | eq =>
      have same : k = k' := Std.LawfulEqCmp.eq_of_compare hc
      subst same
      have none := later after
      cases kept : keep (k, v) <;> simp [get?, kept, none, Option.filter]
    | gt => split <;> simp [get?, hc, ih]

/-- An entry whose key comes after all others is inserted at the end. -/
theorem insert_of_forall_lt [Std.TransOrd κ] {k : κ} {v : β} {entries : List (κ × β)}
    (h : ∀ e ∈ entries, compare e.1 k = .lt) : insert k v entries = entries ++ [(k, v)] := by
  induction entries with
  | nil => rfl
  | cons head rest ih =>
    have after : compare k head.1 = .gt := Std.OrientedCmp.gt_of_lt (h head List.mem_cons_self)
    simp only [insert, after, ih fun e he => h e (List.mem_cons_of_mem _ he), List.cons_append]

/-- A change of the values changes what is found in the same way. -/
theorem get?_map {γ : Type} (k : κ) (f : β → γ) (entries : List (κ × β)) :
    get? k (entries.map fun e => (e.1, f e.2)) = (get? k entries).map f := by
  induction entries with
  | nil => rfl
  | cons head rest ih =>
    rw [List.map_cons]
    unfold get?
    cases compare k head.1 with
    | lt => rfl
    | eq => rfl
    | gt => exact ih

/-- Sorted entries with the same look-ups are the same entries. -/
theorem Sorted.ext [Std.TransOrd κ] [Std.LawfulEqOrd κ] {a b : List (κ × β)}
    (ha : Sorted a) (hb : Sorted b) (h : ∀ k, get? k a = get? k b) : a = b := by
  induction a generalizing b with
  | nil =>
    cases b with
    | nil => rfl
    | cons y ys =>
      have := h y.1
      rw [get?_head y.1 y.2 ys] at this
      simp [get?] at this
  | cons x xs ih =>
    have hx : ∀ e ∈ xs, compare x.1 e.1 = .lt := fun e he => List.rel_of_pairwise_cons ha he
    cases b with
    | nil =>
      have := h x.1
      rw [get?_head x.1 x.2 xs] at this
      simp [get?] at this
    | cons y ys =>
      have hy : ∀ e ∈ ys, compare y.1 e.1 = .lt := fun e he => List.rel_of_pairwise_cons hb he
      have hkey : x.1 = y.1 := by
        cases hc : compare x.1 y.1 with
        | eq => exact Std.LawfulEqCmp.eq_of_compare hc
        | lt =>
          have := h x.1
          rw [get?_head x.1 x.2 xs] at this
          simp [get?, hc] at this
        | gt =>
          have := h y.1
          rw [get?_head y.1 y.2 ys] at this
          simp [get?, Std.OrientedCmp.lt_of_gt hc] at this
      have hvalue : x.2 = y.2 := by
        have := h x.1
        rw [get?_head x.1 x.2 xs, hkey, get?_head y.1 y.2 ys] at this
        exact Option.some.inj this
      have hrest : xs = ys := by
        refine ih ha.of_cons hb.of_cons fun k => ?_
        have hk := h k
        cases hc : compare k x.1 with
        | gt => simpa [get?, hc, hkey ▸ hc] using hk
        | lt =>
          rw [get?_eq_none_of_forall_lt fun e he => Std.TransCmp.lt_trans hc (hx e he),
            get?_eq_none_of_forall_lt fun e he =>
              Std.TransCmp.lt_trans (hkey ▸ hc) (hy e he)]
        | eq =>
          have : k = x.1 := Std.LawfulEqCmp.eq_of_compare hc
          subst this
          rw [get?_eq_none_of_forall_lt fun e he => hx e he,
            get?_eq_none_of_forall_lt fun e he => hkey ▸ hy e he]
      rw [hrest, show x = y from Prod.ext hkey hvalue]

end Entries

/-! ## Maps -/

/-- A finite map with its entries in the order of their keys. -/
structure SortedMap (κ β : Type) [Ord κ] where
  /-- The entries, in ascending order. -/
  entries : List (κ × β)
  /-- The order is strict, so no key stands twice. -/
  sorted : Entries.Sorted entries

namespace SortedMap

variable {κ β γ : Type} [Ord κ]

instance [DecidableEq κ] [DecidableEq β] : DecidableEq (SortedMap κ β) := fun a b =>
  if h : a.entries = b.entries then
    .isTrue (by cases a; cases b; cases h; rfl)
  else .isFalse fun hab => h (by rw [hab])

/-- The map without entries. -/
def empty : SortedMap κ β := ⟨[], Entries.sorted_nil⟩

instance : EmptyCollection (SortedMap κ β) := ⟨empty⟩

instance : Inhabited (SortedMap κ β) := ⟨empty⟩

/-- The value under a key. -/
def get? (m : SortedMap κ β) (k : κ) : Option β := Entries.get? k m.entries

/-- Whether some value stands under a key. -/
def contains (m : SortedMap κ β) (k : κ) : Bool := (m.get? k).isSome

/-- Whether the map has no entries. -/
def isEmpty (m : SortedMap κ β) : Bool := m.entries.isEmpty

/-- The keys, in order. -/
def keys (m : SortedMap κ β) : List κ := m.entries.map Prod.fst

/-- The values, in the order of their keys. -/
def values (m : SortedMap κ β) : List β := m.entries.map Prod.snd

/-- The map with its values changed by `f`. -/
def mapValues (f : β → γ) (m : SortedMap κ β) : SortedMap κ γ where
  entries := m.entries.map fun e => (e.1, f e.2)
  sorted := by
    unfold Entries.Sorted
    rw [List.pairwise_map]
    exact m.sorted

/-- The map without the entry under a key. -/
def erase (m : SortedMap κ β) (k : κ) : SortedMap κ β :=
  ⟨Entries.erase k m.entries, m.sorted.erase⟩

variable [Std.TransOrd κ] [Std.LawfulEqOrd κ]

/-- The map with `v` under `k`. -/
def insert (m : SortedMap κ β) (k : κ) (v : β) : SortedMap κ β :=
  ⟨Entries.insert k v m.entries, m.sorted.insert⟩

/-- The map with the value under `k`, if there is one, changed by `f`. -/
def modify (m : SortedMap κ β) (k : κ) (f : β → β) : SortedMap κ β :=
  match m.get? k with
  | some v => m.insert k (f v)
  | none => m

/-- The map of a list of entries: of two entries with one key the later stays. -/
def ofList (entries : List (κ × β)) : SortedMap κ β :=
  entries.foldl (fun m e => m.insert e.1 e.2) empty

omit [Std.TransOrd κ] [Std.LawfulEqOrd κ] in
@[simp]
theorem get?_empty (k : κ) : (∅ : SortedMap κ β).get? k = none := rfl

@[simp]
theorem get?_insert_self (m : SortedMap κ β) (k : κ) (v : β) :
    (m.insert k v).get? k = some v :=
  Entries.get?_insert_self k v m.entries

theorem get?_insert_of_ne (m : SortedMap κ β) {k k' : κ} (v : β) (h : k' ≠ k) :
    (m.insert k v).get? k' = m.get? k' :=
  Entries.get?_insert_of_ne v h

theorem get?_insert [DecidableEq κ] (m : SortedMap κ β) (k k' : κ) (v : β) :
    (m.insert k v).get? k' = if k' = k then some v else m.get? k' := by
  split
  · next h => rw [h, get?_insert_self]
  · next h => exact m.get?_insert_of_ne v h

@[simp]
theorem get?_erase_self (m : SortedMap κ β) (k : κ) : (m.erase k).get? k = none :=
  Entries.get?_erase_self k m.sorted

theorem get?_erase_of_ne (m : SortedMap κ β) {k k' : κ} (h : k' ≠ k) :
    (m.erase k).get? k' = m.get? k' :=
  Entries.get?_erase_of_ne h m.sorted

theorem get?_erase [DecidableEq κ] (m : SortedMap κ β) (k k' : κ) :
    (m.erase k).get? k' = if k' = k then none else m.get? k' := by
  split
  · next h => rw [h, get?_erase_self]
  · next h => exact m.get?_erase_of_ne h

theorem get?_of_mem {m : SortedMap κ β} {k : κ} {v : β} (h : (k, v) ∈ m.entries) :
    m.get? k = some v :=
  Entries.get?_of_mem m.sorted h

omit [Std.TransOrd κ] in
/-- What is found under a key is a value of the map. -/
theorem mem_values_of_get? {m : SortedMap κ β} {k : κ} {v : β} (h : m.get? k = some v) :
    v ∈ m.values :=
  List.mem_map.2 ⟨(k, v), Entries.mem_of_get? h, rfl⟩

/-- The keys are those under which a value stands. -/
theorem mem_keys (m : SortedMap κ β) (k : κ) : k ∈ m.keys ↔ m.contains k = true := by
  unfold keys contains
  rw [List.mem_map, Option.isSome_iff_exists]
  constructor
  · rintro ⟨⟨k, v⟩, entry, rfl⟩
    exact ⟨v, get?_of_mem entry⟩
  · rintro ⟨v, found⟩
    exact ⟨(k, v), Entries.mem_of_get? found, rfl⟩

omit [Std.TransOrd κ] [Std.LawfulEqOrd κ] in
@[simp]
theorem get?_mapValues (f : β → γ) (m : SortedMap κ β) (k : κ) :
    (m.mapValues f).get? k = (m.get? k).map f :=
  Entries.get?_map k f m.entries

theorem get?_modify [DecidableEq κ] (m : SortedMap κ β) (k k' : κ) (f : β → β) :
    (m.modify k f).get? k' = if k' = k then (m.get? k).map f else m.get? k' := by
  unfold modify
  cases found : m.get? k with
  | some v => exact m.get?_insert k k' (f v)
  | none =>
    by_cases same : k' = k
    · rw [if_pos same, same, found]
      rfl
    · rw [if_neg same]

theorem get?_foldl_insert [DecidableEq κ] {entries : List (κ × β)} {m : SortedMap κ β} (k : κ)
    (distinct : (entries.map Prod.fst).Nodup) :
    (entries.foldl (fun m e => m.insert e.1 e.2) m).get? k =
      ((entries.find? fun e => e.1 = k).map Prod.snd).or (m.get? k) := by
  induction entries generalizing m with
  | nil => rfl
  | cons e rest ih =>
    rw [List.map_cons, List.nodup_cons] at distinct
    rw [List.foldl_cons, ih distinct.2, get?_insert]
    by_cases here : e.1 = k
    · have later : rest.find? (fun e => e.1 = k) = none := by
        refine List.find?_eq_none.2 fun e' he' => ?_
        have ne : e'.1 ≠ k := fun h => distinct.1 (List.mem_map.2 ⟨e', he', h.trans here.symm⟩)
        simpa using ne
      simp [here, later]
    · have there : k ≠ e.1 := fun h => here h.symm
      simp [here, there]

/-- In the map of a list without repeated keys, the entry of a key is the one in the list. -/
theorem get?_ofList [DecidableEq κ] {entries : List (κ × β)} (k : κ)
    (distinct : (entries.map Prod.fst).Nodup) :
    (ofList entries).get? k = (entries.find? fun e => e.1 = k).map Prod.snd := by
  unfold ofList
  rw [get?_foldl_insert k distinct]
  exact Option.or_none

theorem contains_foldl_insert [DecidableEq κ] (entries : List (κ × β)) (m : SortedMap κ β) (k : κ) :
    (entries.foldl (fun m e => m.insert e.1 e.2) m).contains k = true ↔
      k ∈ entries.map Prod.fst ∨ m.contains k = true := by
  induction entries generalizing m with
  | nil => simp
  | cons e rest ih =>
    rw [List.foldl_cons, ih, List.map_cons, List.mem_cons]
    unfold contains
    rw [get?_insert]
    by_cases same : k = e.1
    · simp [same]
    · simp [same]

/-- The map of a list has the keys of the list. -/
theorem contains_ofList [DecidableEq κ] (entries : List (κ × β)) (k : κ) :
    (ofList entries).contains k = true ↔ k ∈ entries.map Prod.fst := by
  unfold ofList
  rw [contains_foldl_insert]
  exact or_iff_left Bool.false_ne_true

/-- Maps with the same look-ups are equal. -/
theorem ext {a b : SortedMap κ β} (h : ∀ k, a.get? k = b.get? k) : a = b := by
  cases a with
  | mk ea sa =>
    cases b with
    | mk eb sb =>
      have : ea = eb := sa.ext sb h
      subst this
      rfl

/-- Entries that stand in order after those of a map are inserted at the end. -/
theorem entries_foldl_insert {entries : List (κ × β)} {m : SortedMap κ β}
    (sorted : Entries.Sorted (m.entries ++ entries)) :
    (entries.foldl (fun m e => m.insert e.1 e.2) m).entries = m.entries ++ entries := by
  induction entries generalizing m with
  | nil => exact (List.append_nil _).symm
  | cons e rest ih =>
    have last : (m.insert e.1 e.2).entries = m.entries ++ [e] :=
      Entries.insert_of_forall_lt fun f hf =>
        (List.pairwise_append.1 sorted).2.2 f hf e List.mem_cons_self
    rw [List.append_cons, ← last] at sorted ⊢
    exact ih sorted

/-- A map is the map of its entries. -/
theorem ofList_entries (m : SortedMap κ β) : ofList m.entries = m := by
  have same : (ofList m.entries).entries = m.entries := entries_foldl_insert m.sorted
  exact ext fun k => congrArg (Entries.get? k) same

end SortedMap

/-! ## Sets -/

/-- A finite set with its members in order. -/
abbrev SortedSet (α : Type) [Ord α] := SortedMap α Unit

namespace SortedSet

variable {α : Type} [Ord α]

/-- The members, in order. -/
def toList (s : SortedSet α) : List α := SortedMap.keys s

variable [Std.TransOrd α] [Std.LawfulEqOrd α]

/-- The set with one more member. -/
def add (s : SortedSet α) (a : α) : SortedSet α := SortedMap.insert s a ()

/-- The set of the members of a list. -/
def ofList (members : List α) : SortedSet α := members.foldl add ∅

omit [Std.TransOrd α] [Std.LawfulEqOrd α] in
/-- The members stand in ascending order. -/
theorem ascending_toList (s : SortedSet α) : s.toList.Pairwise fun a b => compare a b = .lt := by
  unfold toList SortedMap.keys
  rw [List.pairwise_map]
  exact s.sorted

omit [Std.TransOrd α] in
/-- No member stands twice. -/
theorem nodup_toList (s : SortedSet α) : s.toList.Nodup := by
  apply s.ascending_toList.imp
  intro a b before same
  rw [same, Std.compare_self] at before
  cases before

/-- The set of a list has the members of the list. -/
theorem contains_ofList [DecidableEq α] (members : List α) (a : α) :
    SortedMap.contains (ofList members) a = true ↔ a ∈ members := by
  have entries : ofList members = SortedMap.ofList (members.map fun a => (a, ())) := by
    unfold ofList SortedMap.ofList
    rw [List.foldl_map]
    rfl
  rw [entries, SortedMap.contains_ofList, List.map_map]
  simp

/-- The members are what the set contains. -/
theorem mem_toList (s : SortedSet α) (a : α) : a ∈ s.toList ↔ SortedMap.contains s a = true :=
  SortedMap.mem_keys s a

end SortedSet

end Provision
