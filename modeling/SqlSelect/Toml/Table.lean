import SqlSelect.Data
/-!
# Tables of TOML

A document fills its tables piece by piece: headers open tables, keys with points open tables on
their way, and each table may be defined only once. So a table remembers how it came about while the
document is read:

* by a header of its own, after which no header may define it again;
* on the way to the table of a longer header, which may still get a header of its own;
* by a key with points, which only further such keys may add to.

What keys of values and inline tables hold is closed at once.
-/

namespace SqlSelect.Toml

/-- How a table came about. -/
inductive Origin
  | header
  | implied
  | dotted
  deriving DecidableEq, Repr

/-- What is known under a key while a document is read. -/
inductive Node
  | value (data : Data)
  | table (origin : Origin) (members : List (String × Node))
  /-- A list of tables by headers in double brackets, the latest first. -/
  | tables (latest : List (String × Node)) (earlier : List (List (String × Node)))
  deriving Inhabited

/-- The members of a table. -/
abbrev Members := List (String × Node)

namespace Members

/-- The members with another node for a key that is there, or with one more. -/
def put (key : String) (node : Node) : Members → Members
  | [] => [(key, node)]
  | (k, n) :: rest => if k = key then (k, node) :: rest else (k, n) :: put key node rest

/-- Changes the table at the end of a path of headers, making tables that are missing. In a list of
tables the path goes through the latest one. -/
def changeAt (change : Members → Option Members) : List String → Members → Option Members
  | [], members => change members
  | key :: path, members =>
    match members.lookup key with
    | none => do some (put key (.table .implied (← changeAt change path [])) members)
    | some (.table origin inside) => do
      some (put key (.table origin (← changeAt change path inside)) members)
    | some (.tables latest earlier) => do
      some (put key (.tables (← changeAt change path latest) earlier) members)
    | some (.value _) => none

/-- Defines a table by a header that ends with `key`. -/
def openTable (key : String) (members : Members) : Option Members :=
  match members.lookup key with
  | none => some (put key (.table .header []) members)
  | some (.table .implied inside) => some (put key (.table .header inside) members)
  | some _ => none

/-- Adds a table to a list by a header in double brackets that ends with `key`. -/
def appendTable (key : String) (members : Members) : Option Members :=
  match members.lookup key with
  | none => some (put key (.tables [] []) members)
  | some (.tables latest earlier) => some (put key (.tables [] (latest :: earlier)) members)
  | some _ => none

/-- Assigns a value to a key with points. The tables on the way must have come about by such keys
themselves, or be opened by this one. -/
def assign (data : Data) : (path : List String) → (key : String) → Members → Option Members
  | [], key, members =>
    match members.lookup key with
    | none => some (members ++ [(key, .value data)])
    | some _ => none
  | first :: path, key, members =>
    match members.lookup first with
    | none => do some (put first (.table .dotted (← assign data path key [])) members)
    | some (.table .dotted inside) => do
      some (put first (.table .dotted (← assign data path key inside)) members)
    | some (.table .implied inside) =>
      match path with
      | [] => none
      | _ => do some (put first (.table .implied (← assign data path key inside)) members)
    | some (.tables latest earlier) =>
      match path with
      | [] => none
      | _ => do some (put first (.tables (← assign data path key latest) earlier) members)
    | some _ => none

end Members

mutual

/-- A node as finished data. -/
def Node.toData : Node → Data
  | .value d => d
  | .table _ members => .object (membersToData members)
  | .tables latest earlier =>
    .array ((tablesToData earlier).reverse ++ [.object (membersToData latest)])

/-- Members as finished data. -/
def membersToData : List (String × Node) → List (String × Data)
  | [] => []
  | (key, node) :: rest => (key, node.toData) :: membersToData rest

/-- Tables as finished data. -/
def tablesToData : List (List (String × Node)) → List Data
  | [] => []
  | members :: rest => .object (membersToData members) :: tablesToData rest

end

end SqlSelect.Toml
