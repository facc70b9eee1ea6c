import AccessControl.Policy.Bucket

namespace AccessControl

/-! Tables of rows by key. A key may be unique, which keeps equal rows out; the
rows by the value of one field are remembered until the key changes. -/

abbrev FieldIndex := Entries String (List Row)

structure PolicyTable where
  buckets : Entries String Bucket
  uniqueKeys : List String
  indexes : Entries (String × Int) FieldIndex
deriving DecidableEq, Repr

namespace PolicyTable

def empty : PolicyTable := ⟨[], [], []⟩

def bucket (table : PolicyTable) (key : String) : Bucket :=
  (table.buckets.lookup key).getD .empty

def rows (table : PolicyTable) (key : String) : List Row :=
  (table.bucket key).rows

def has (table : PolicyTable) (key : String) (row : Row) : Bool :=
  (table.bucket key).has row

def keys (table : PolicyTable) : List String :=
  Entries.keys table.buckets

def count (table : PolicyTable) (key : String) : Nat :=
  (table.rows key).length

def size (table : PolicyTable) : Nat :=
  (table.buckets.map fun entry => entry.2.rows.length).foldr (· + ·) 0

def isUnique (table : PolicyTable) (key : String) : Bool :=
  table.uniqueKeys.contains key

/-- From now on the key takes no row that it has, or any row. -/
def setUnique (table : PolicyTable) (key : String) (unique : Bool) :
    PolicyTable :=
  let others := table.uniqueKeys.filter (· != key)
  { table with uniqueKeys := if unique then others ++ [key] else others }

/-! Changes. Each of them is made as a whole or not at all. -/

def forgotten (table : PolicyTable) (key : String) :
    Entries (String × Int) FieldIndex :=
  table.indexes.filter fun entry => entry.1.1 != key

def withBucket (table : PolicyTable) (key : String) (bucket : Bucket) :
    PolicyTable :=
  { table with
    buckets := Entries.put key bucket table.buckets
    indexes := table.forgotten key }

def insert? (table : PolicyTable) (key : String) (row : Row) :
    Option PolicyTable :=
  if table.isUnique key && table.has key row then none
  else some (table.withBucket key ((table.bucket key).pushAll [row]))

def insertAll? (table : PolicyTable) (key : String) (rows : List Row) :
    Option PolicyTable :=
  if table.isUnique key && (rows.any (table.has key) || !decide rows.Nodup) then
    none
  else some (table.withBucket key ((table.bucket key).pushAll rows))

def erase? (table : PolicyTable) (key : String) (row : Row) :
    Option PolicyTable :=
  if table.has key row then
    some (table.withBucket key ((table.bucket key).erase row))
  else none

def eraseAll? (table : PolicyTable) (key : String) (rows : List Row) :
    Option PolicyTable :=
  if !(table.bucket key).tally.containsAll rows then none
  else if rows.isEmpty then some table
  else some (table.withBucket key ((table.bucket key).eraseAll rows))

def replace? (table : PolicyTable) (key : String) (old new : Row) :
    Option PolicyTable :=
  if !table.has key old then none
  else if table.isUnique key && new != old && table.has key new then none
  else some (table.withBucket key ((table.bucket key).replace old new))

def replaceAll? (table : PolicyTable) (key : String) (old new : List Row) :
    Option PolicyTable :=
  if old.length != new.length then none
  else if !(table.bucket key).tally.containsAll old then none
  else if old.isEmpty then some { table with indexes := table.forgotten key }
  else
    some (table.withBucket key ((table.bucket key).replaceAll (old.zip new)))

def filtered (table : PolicyTable) (key : String) (filter : RowFilter) :
    List Row :=
  (table.rows key).filter filter.accepts

def eraseFiltered (table : PolicyTable) (key : String) (filter : RowFilter) :
    PolicyTable :=
  if (table.filtered key filter).isEmpty then table
  else table.withBucket key ((table.bucket key).eraseWhere filter.accepts)

def clear (table : PolicyTable) : PolicyTable :=
  { table with buckets := [], indexes := [] }

def clearKey (table : PolicyTable) (key : String) : PolicyTable :=
  { table with
    buckets := Entries.erase key table.buckets
    indexes := table.forgotten key }

/-- A table with the same rows that remembers no fields. -/
def copy (table : PolicyTable) : PolicyTable :=
  { table with indexes := [] }

def indexRow (index : Int) (entries : FieldIndex) (row : Row) :
    Answer FieldIndex := do
  match ← row.field? index with
  | some value =>
      return Entries.put value ((entries.lookup value).getD [] ++ [row]) entries
  | none => return entries

def indexOf (rows : List Row) (index : Int) : Answer FieldIndex :=
  rows.foldlM (indexRow index) []

/-- The rows whose field at an index has the value. The table remembers the rows
by the values of that field. -/
def withField (table : PolicyTable) (key : String) (index : Int)
    (value : String) : Answer (List Row × PolicyTable) :=
  match table.indexes.lookup (key, index) with
  | some entries => .ok ((entries.lookup value).getD [], table)
  | none => do
      let entries ← indexOf (table.rows key) index
      return ((entries.lookup value).getD [],
        { table with indexes := Entries.put (key, index) entries table.indexes })

def fieldValues (table : PolicyTable) (key : String) (index : Int) :
    Answer (List String) := do
  return Entries.keys (← indexOf (table.rows key) index)

end PolicyTable

end AccessControl
