import SqlSelect.KeyMap
import SqlSelect.Value
/-!
# Structured data

Documents and settings arrive as text, in one of two notations, and are read into the same tree:
single values, lists, and objects whose members keep their order and may repeat a name. What a
record of named fields is read from is decided here, once for all records.
-/

namespace SqlSelect

/-- A tree of values. -/
inductive Data
  | scalar (value : Value)
  | array (items : List Data)
  | object (members : List (String × Data))
  deriving Inhabited, Repr

namespace Data

/-! ## 1. Single values -/

/-- A text. -/
def ofText (s : String) : Data := .scalar (.text s)

/-- A text that may be missing. -/
def ofText? : Option String → Data
  | none => .scalar .null
  | some s => ofText s

/-- The text that the tree is. -/
def text? : Data → Option String
  | .scalar (.text s) => some s
  | _ => none

/-- The integer that the tree is. -/
def int? : Data → Option Int64
  | .scalar (.int n) => some n
  | _ => none

/-- The single value that the tree is. -/
def scalar? : Data → Option Value
  | .scalar v => some v
  | _ => none

/-- Reads null as the absence of what `read` reads. -/
def nullable {α : Type} (read : Data → Option α) : Data → Option (Option α)
  | .scalar .null => some none
  | d => (read d).map some

/-- Reads a list whose items `read` reads. -/
def list? {α : Type} (read : Data → Option α) : Data → Option (List α)
  | .array items => items.mapM read
  | _ => none

/-- Reads a map whose values `read` reads; the last value of a key counts. -/
def map? {α : Type} (read : Data → Option α) : Data → Option (KeyMap α)
  | .object members => do
    some (.ofList (← members.mapM fun (key, d) => do some (key, ← read d)))
  | _ => none

/-! ## 2. Records -/

/-- The member of a name: `none` if the name is repeated, `some none` if it is missing. -/
def member? (name : String) (members : List (String × Data)) : Option (Option Data) :=
  match members.filter (·.1 = name) with
  | [] => some none
  | [(_, value)] => some (some value)
  | _ => none

/-- The values of the named fields of an object. Other members are passed over; a repeated field is
refused. -/
def fields? (names : List String) : Data → Option (List (Option Data))
  | .object members => names.mapM (member? · members)
  | _ => none

/-- Like `fields?`, but the record may also be the list of its fields in their order, with fields
left out at the end. -/
def record? (names : List String) : Data → Option (List (Option Data))
  | .array items =>
    if items.length ≤ names.length then
      some (items.map some ++ .replicate (names.length - items.length) none)
    else none
  | d => fields? names d

/-- A field that must be there. -/
def required {α : Type} (read : Data → Option α) : Option Data → Option α
  | none => none
  | some d => read d

/-- A field with a value to take in its absence. -/
def optional {α : Type} (absent : α) (read : Data → Option α) : Option Data → Option α
  | none => some absent
  | some d => read d

/-! ## 3. Fields are smaller than their record -/

theorem sizeOf_lt_of_mem_members {name : String} {value : Data} {members : List (String × Data)}
    (h : (name, value) ∈ members) : sizeOf value < sizeOf (Data.object members) := by
  have := List.sizeOf_lt_of_mem h
  simp only [Prod.mk.sizeOf_spec, object.sizeOf_spec] at this ⊢
  omega

theorem sizeOf_lt_of_member? {name : String} {value : Data} {members : List (String × Data)}
    (h : member? name members = some (some value)) :
    sizeOf value < sizeOf (Data.object members) := by
  unfold member? at h
  split at h
  · cases h
  · next found e =>
    obtain rfl : found = value := by simpa using h
    have : (_, found) ∈ members.filter (·.1 = name) := e ▸ List.mem_singleton_self _
    exact sizeOf_lt_of_mem_members (List.mem_filter.1 this).1
  · cases h

theorem sizeOf_lt_of_mem_fields? {names : List String} {d value : Data}
    {values : List (Option Data)} (h : fields? names d = some values)
    (mem : some value ∈ values) : sizeOf value < sizeOf d := by
  cases d with
  | scalar _ => simp [fields?] at h
  | array _ => simp [fields?] at h
  | object members =>
    simp only [fields?] at h
    induction names generalizing values with
    | nil => simp_all
    | cons name names ih =>
      simp only [List.mapM_cons, bind, Option.bind_eq_some_iff, pure, Option.some.injEq] at h
      obtain ⟨first, e, rest, e', rfl⟩ := h
      rcases List.mem_cons.1 mem with rfl | mem
      · exact sizeOf_lt_of_member? e
      · exact ih mem e'

theorem sizeOf_lt_of_mem_record? {names : List String} {d value : Data}
    {values : List (Option Data)} (h : record? names d = some values)
    (mem : some value ∈ values) : sizeOf value < sizeOf d := by
  cases d with
  | scalar _ => simp [record?, fields?] at h
  | object members =>
    have h : fields? names (.object members) = some values := h
    exact sizeOf_lt_of_mem_fields? h mem
  | array items =>
    simp only [record?] at h
    split at h
    · obtain rfl : _ = values := by simpa using h
      have : value ∈ items := by simpa using mem
      have := List.sizeOf_lt_of_mem this
      simp only [array.sizeOf_spec]
      omega
    · cases h

end Data

end SqlSelect
