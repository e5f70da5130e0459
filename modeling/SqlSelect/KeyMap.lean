/-!
# Maps from texts

A finite map is the list of its entries in strictly ascending order of their keys. The order is
that of code points, which is the order of the UTF-8 bytes too. Since the order belongs to the type,
listing a map lists it sorted, and two maps with the same look-ups are equal (`ext_get?`).
-/

namespace SqlSelect

/-- A finite map from texts. -/
structure KeyMap (α : Type) where
  entries : List (String × α)
  ascending : entries.Pairwise (·.1 < ·.1)

namespace KeyMap

variable {α β : Type}

instance [DecidableEq α] : DecidableEq (KeyMap α) := fun a b =>
  decidable_of_iff (a.entries = b.entries)
    ⟨fun h => by cases a; cases b; cases h; rfl, fun h => h ▸ rfl⟩

instance [Repr α] : Repr (KeyMap α) := ⟨fun m => reprPrec m.entries⟩

/-! ## 1. Operations -/

/-- The map without entries. -/
def empty : KeyMap α := { entries := [], ascending := .nil }

instance : Inhabited (KeyMap α) := ⟨empty⟩

/-- The value of a key. -/
def get? (m : KeyMap α) (key : String) : Option α := m.entries.lookup key

/-- The key has a value. -/
def contains (m : KeyMap α) (key : String) : Bool := (m.get? key).isSome

/-- The keys in ascending order. -/
def keys (m : KeyMap α) : List String := m.entries.map (·.1)

/-- The number of entries. -/
def size (m : KeyMap α) : Nat := m.entries.length

/-- Entries with one more, in the place of an entry with the same key. -/
def insertEntry (key : String) (value : α) : List (String × α) → List (String × α)
  | [] => [(key, value)]
  | (k, v) :: rest =>
    if key < k then (key, value) :: (k, v) :: rest
    else if k < key then (k, v) :: insertEntry key value rest
    else (key, value) :: rest

theorem mem_insertEntry {key : String} {value : α} {entries : List (String × α)}
    {e : String × α} (h : e ∈ insertEntry key value entries) : e = (key, value) ∨ e ∈ entries := by
  induction entries with
  | nil => simpa [insertEntry] using h
  | cons head rest ih =>
    simp only [insertEntry] at h
    split at h
    · simpa using h
    · split at h
      · rcases List.mem_cons.1 h with rfl | h
        · simp
        · exact (ih h).imp_right (List.mem_cons_of_mem _)
      · rcases List.mem_cons.1 h with rfl | h
        · simp
        · exact .inr (List.mem_cons_of_mem _ h)

theorem pairwise_insertEntry {key : String} {value : α} {entries : List (String × α)}
    (h : entries.Pairwise (·.1 < ·.1)) : (insertEntry key value entries).Pairwise (·.1 < ·.1) := by
  induction entries with
  | nil => simp [insertEntry]
  | cons head rest ih =>
    obtain ⟨below, tail⟩ := List.pairwise_cons.1 h
    simp only [insertEntry]
    split
    · next lt =>
      refine List.pairwise_cons.2 ⟨fun e mem => ?_, h⟩
      rcases List.mem_cons.1 mem with rfl | mem
      · exact lt
      · exact String.lt_trans lt (below e mem)
    · next notLt =>
      split
      · next gt =>
        refine List.pairwise_cons.2 ⟨fun e mem => ?_, ih tail⟩
        rcases mem_insertEntry mem with rfl | mem
        · exact gt
        · exact below e mem
      · next notGt =>
        have same : key = head.1 :=
          String.le_antisymm (String.not_lt.1 notGt) (String.not_lt.1 notLt)
        exact List.pairwise_cons.2 ⟨fun e mem => same ▸ below e mem, tail⟩

/-- The map with a value for the key, in the place of any earlier one. -/
def insert (m : KeyMap α) (key : String) (value : α) : KeyMap α :=
  { entries := insertEntry key value m.entries, ascending := pairwise_insertEntry m.ascending }

/-- The map without the key. -/
def erase (m : KeyMap α) (key : String) : KeyMap α :=
  { entries := m.entries.filter (·.1 ≠ key), ascending := m.ascending.filter _ }

/-- The map of a list of entries; the last entry of a key counts. -/
def ofList (entries : List (String × α)) : KeyMap α :=
  entries.foldl (fun m (key, value) => m.insert key value) empty

/-! ## 2. Look-ups decide -/

theorem ne_of_key_lt {a b : String} (h : a < b) : a ≠ b := fun e =>
  String.lt_irrefl b (e ▸ h)

theorem lookup_cons_of_ne {key k : String} {v : α} {rest : List (String × α)} (h : key ≠ k) :
    ((k, v) :: rest).lookup key = rest.lookup key := by
  rw [List.lookup_cons, beq_eq_false_iff_ne.2 h]

theorem lookup_insertEntry (key other : String) (value : α) (entries : List (String × α)) :
    (insertEntry key value entries).lookup other
      = if other = key then some value else entries.lookup other := by
  induction entries with
  | nil =>
    by_cases e : other = key
    · simp [insertEntry, e]
    · simp [insertEntry, lookup_cons_of_ne e, e]
  | cons head rest ih =>
    obtain ⟨k, v⟩ := head
    simp only [insertEntry]
    by_cases e : other = key
    · subst e
      rw [if_pos rfl] at ih ⊢
      split
      · simp
      · split
        · next gt => rw [lookup_cons_of_ne (ne_of_key_lt gt).symm, ih]
        · simp
    · rw [if_neg e] at ih ⊢
      split
      · exact lookup_cons_of_ne e
      · next notLt =>
        split
        · rw [List.lookup_cons, ih, List.lookup_cons]
        · next notGt =>
          have same : key = k := String.le_antisymm (String.not_lt.1 notGt) (String.not_lt.1 notLt)
          rw [lookup_cons_of_ne e, lookup_cons_of_ne (same ▸ e)]

/-- Inserting decides the look-up of its key and changes no other. -/
theorem get?_insert (m : KeyMap α) (key other : String) (value : α) :
    (m.insert key value).get? other = if other = key then some value else m.get? other :=
  lookup_insertEntry key other value m.entries

theorem lookup_eq_some_of_mem {key : String} {value : α} {entries : List (String × α)}
    (h : entries.Pairwise (·.1 < ·.1)) (mem : (key, value) ∈ entries) :
    entries.lookup key = some value := by
  induction entries with
  | nil => cases mem
  | cons head rest ih =>
    obtain ⟨below, tail⟩ := List.pairwise_cons.1 h
    rcases List.mem_cons.1 mem with rfl | mem
    · simp
    · show List.lookup key ((head.1, head.2) :: rest) = _
      rw [lookup_cons_of_ne (ne_of_key_lt (below _ mem)).symm]
      exact ih tail mem

theorem mem_of_lookup_eq_some {key : String} {value : α} {entries : List (String × α)}
    (h : entries.lookup key = some value) : (key, value) ∈ entries := by
  induction entries with
  | nil => cases h
  | cons head rest ih =>
    rw [List.lookup_cons] at h
    split at h
    · next e => obtain rfl := beq_iff_eq.1 e; cases h; exact List.mem_cons_self
    · exact List.mem_cons_of_mem _ (ih h)

/-- A look-up finds exactly the entries. -/
theorem get?_eq_some_iff {m : KeyMap α} {key : String} {value : α} :
    m.get? key = some value ↔ (key, value) ∈ m.entries :=
  ⟨mem_of_lookup_eq_some, lookup_eq_some_of_mem m.ascending⟩

theorem entries_eq_of_mem_iff {a b : List (String × α)} (ha : a.Pairwise (·.1 < ·.1))
    (hb : b.Pairwise (·.1 < ·.1)) (h : ∀ e, e ∈ a ↔ e ∈ b) : a = b := by
  induction a generalizing b with
  | nil => exact (List.eq_nil_iff_forall_not_mem.2 fun e mem => by simpa using (h e).2 mem).symm
  | cons x xs ih =>
    cases b with
    | nil => exact absurd ((h x).1 List.mem_cons_self) (by simp)
    | cons y ys =>
      obtain ⟨belowX, tailX⟩ := List.pairwise_cons.1 ha
      obtain ⟨belowY, tailY⟩ := List.pairwise_cons.1 hb
      obtain rfl : x = y := by
        rcases List.mem_cons.1 ((h x).1 List.mem_cons_self) with e | memX
        · exact e
        · rcases List.mem_cons.1 ((h y).2 List.mem_cons_self) with e | memY
          · exact e.symm
          · exact absurd (String.lt_trans (belowY x memX) (belowX y memY)) (String.lt_irrefl _)
      refine congrArg _ (ih tailX tailY fun e => ⟨fun mem => ?_, fun mem => ?_⟩)
      · rcases List.mem_cons.1 ((h e).1 (List.mem_cons_of_mem _ mem)) with rfl | mem'
        · exact absurd (belowX e mem) (String.lt_irrefl _)
        · exact mem'
      · rcases List.mem_cons.1 ((h e).2 (List.mem_cons_of_mem _ mem)) with rfl | mem'
        · exact absurd (belowY e mem) (String.lt_irrefl _)
        · exact mem'

/-- Two maps with the same look-ups are equal. -/
theorem ext_get? {a b : KeyMap α} (h : ∀ key, a.get? key = b.get? key) : a = b := by
  obtain ⟨ea, ha⟩ := a
  obtain ⟨eb, hb⟩ := b
  obtain rfl : ea = eb := entries_eq_of_mem_iff ha hb fun (key, value) => by
    have := h key
    constructor
    · intro mem
      exact get?_eq_some_iff.1 (this.symm.trans (get?_eq_some_iff.2 mem))
    · intro mem
      exact get?_eq_some_iff.1 (this.trans (get?_eq_some_iff.2 mem))
  rfl

/-- Taking a key out makes the map smaller if the key was there. -/
theorem size_erase_lt {m : KeyMap α} {key : String} {value : α} (h : m.get? key = some value) :
    (m.erase key).size < m.size := by
  refine List.length_filter_lt_length_iff_exists.2 ⟨_, get?_eq_some_iff.1 h, ?_⟩
  simp

theorem lookup_filter_ne {key other : String} {entries : List (String × α)} (h : other ≠ key) :
    (entries.filter (·.1 ≠ key)).lookup other = entries.lookup other := by
  induction entries with
  | nil => rfl
  | cons head rest ih =>
    by_cases e : head.1 = key
    · rw [List.filter_cons_of_neg (by simp [e]), ih, List.lookup_cons,
        beq_eq_false_iff_ne.2 (e ▸ h)]
    · rw [List.filter_cons_of_pos (by simp [e]), List.lookup_cons, List.lookup_cons, ih]

/-- Taking a key out decides the look-up of that key and changes no other. -/
theorem get?_erase (m : KeyMap α) (key other : String) :
    (m.erase key).get? other = if other = key then none else m.get? other := by
  split
  · next e =>
    subst e
    rw [← Option.not_isSome_iff_eq_none, Option.isSome_iff_exists]
    rintro ⟨value, h⟩
    have := List.mem_filter.1 (get?_eq_some_iff.1 h)
    simp at this
  · next ne => exact lookup_filter_ne ne

/-! ## 3. Maps of lists -/

theorem lookup_eq_some_iff_of_nodup {key : String} {value : α} {entries : List (String × α)}
    (distinct : (entries.map (·.1)).Nodup) :
    entries.lookup key = some value ↔ (key, value) ∈ entries := by
  refine ⟨mem_of_lookup_eq_some, fun mem => ?_⟩
  induction entries with
  | nil => cases mem
  | cons head rest ih =>
    obtain ⟨fresh, distinct⟩ := List.nodup_cons.1 distinct
    rcases List.mem_cons.1 mem with rfl | mem
    · simp
    · have other : key ≠ head.1 := fun e =>
        fresh (List.mem_map.2 ⟨(key, value), mem, e⟩)
      show List.lookup key ((head.1, head.2) :: rest) = _
      rw [lookup_cons_of_ne other]
      exact ih distinct mem

/-- The keys of a map are those that have a value. -/
theorem mem_keys_iff {m : KeyMap α} {key : String} : key ∈ m.keys ↔ (m.get? key).isSome := by
  rw [keys, List.mem_map, Option.isSome_iff_exists]
  constructor
  · rintro ⟨⟨k, value⟩, mem, rfl⟩
    exact ⟨value, get?_eq_some_iff.2 mem⟩
  · rintro ⟨value, h⟩
    exact ⟨(key, value), get?_eq_some_iff.1 h, rfl⟩

/-- The keys of a map are distinct. -/
theorem nodup_keys (m : KeyMap α) : m.keys.Nodup :=
  List.pairwise_map.2 (m.ascending.imp ne_of_key_lt)

theorem get?_foldl_insert (entries : List (String × α)) (m : KeyMap α) (key : String) :
    (entries.foldl (fun m (key, value) => m.insert key value) m).get? key
      = (entries.reverse.lookup key).or (m.get? key) := by
  induction entries generalizing m with
  | nil => rfl
  | cons head rest ih =>
    obtain ⟨k, v⟩ := head
    rw [List.foldl_cons, ih, List.reverse_cons, List.lookup_append, Option.or_assoc, get?_insert]
    congr 1
    by_cases e : key = k
    · simp [e]
    · rw [if_neg e, lookup_cons_of_ne e]
      rfl

/-- In the map of a list the last entry of a key counts. -/
theorem get?_ofList (entries : List (String × α)) (key : String) :
    (ofList entries).get? key = entries.reverse.lookup key := by
  rw [ofList, get?_foldl_insert]
  exact Option.or_none

/-- The map of a list without repeated keys has the entries of the list. -/
theorem get?_ofList_eq_some_iff {entries : List (String × α)}
    (distinct : (entries.map (·.1)).Nodup) {key : String} {value : α} :
    (ofList entries).get? key = some value ↔ (key, value) ∈ entries := by
  have reversed : (entries.reverse.map (·.1)).Nodup := by
    rw [List.map_reverse]
    exact List.pairwise_reverse.2 (distinct.imp Ne.symm)
  rw [get?_ofList, lookup_eq_some_iff_of_nodup reversed, List.mem_reverse]

/-- A map is the map of its entries. -/
theorem ofList_entries (m : KeyMap α) : ofList m.entries = m := by
  refine ext_get? fun key => Option.ext fun value => ?_
  rw [get?_ofList_eq_some_iff m.nodup_keys, get?_eq_some_iff]

end KeyMap

end SqlSelect
