import AccessControl.Policy.Operation
import AccessControl.Proofs.Policy.Table
import Mathlib.Algebra.GroupWithZero.Nat
import Mathlib.Data.List.Perm.Subperm

namespace AccessControl

structure RowLists where
  lists : Entries String (List Row)
  uniqueKeys : List String
deriving DecidableEq, Repr

namespace RowLists

open PolicyTable (Operation)

def empty : RowLists := ⟨[], []⟩

def rows (plain : RowLists) (key : String) : List Row :=
  (plain.lists.lookup key).getD []

def withRows (plain : RowLists) (key : String) (rows : List Row) : RowLists :=
  { plain with lists := Entries.put key rows plain.lists }

def Unique (plain : RowLists) (key : String) : Prop :=
  key ∈ plain.uniqueKeys

instance (plain : RowLists) (key : String) : Decidable (plain.Unique key) :=
  inferInstanceAs (Decidable (key ∈ plain.uniqueKeys))

def setUnique (plain : RowLists) (key : String) (unique : Bool) : RowLists :=
  let others := plain.uniqueKeys.filter (· != key)
  { plain with uniqueKeys := if unique then others ++ [key] else others }

def insert? (plain : RowLists) (key : String) (row : Row) : Option RowLists :=
  if plain.Unique key ∧ row ∈ plain.rows key then none
  else some (plain.withRows key (plain.rows key ++ [row]))

def insertAll? (plain : RowLists) (key : String) (rows : List Row) :
    Option RowLists :=
  if plain.Unique key ∧ ¬(rows.Nodup ∧ ∀ row ∈ rows, row ∉ plain.rows key) then none
  else some (plain.withRows key (plain.rows key ++ rows))

def erase? (plain : RowLists) (key : String) (row : Row) : Option RowLists :=
  if row ∈ plain.rows key then
    some (plain.withRows key ((plain.rows key).erase row))
  else none

def eraseAll? (plain : RowLists) (key : String) (rows : List Row) :
    Option RowLists :=
  if ¬rows.Subperm (plain.rows key) then none
  else if rows = [] then some plain
  else some (plain.withRows key ((plain.rows key).diff rows))

def replace? (plain : RowLists) (key : String) (old new : Row) : Option RowLists :=
  if old ∉ plain.rows key then none
  else if plain.Unique key ∧ new ≠ old ∧ new ∈ plain.rows key then none
  else some (plain.withRows key ((plain.rows key).replace old new))

def replaceAll (rows : List Row) (pairs : List (Row × Row)) : List Row :=
  pairs.foldl (fun rows pair => rows.replace pair.1 pair.2) rows

/-- The row to be replaced is there whenever a replacement is due. -/
def Replaceable : List Row → List (Row × Row) → Prop
  | _, [] => True
  | rows, (old, new) :: pairs =>
      old ∈ rows ∧ Replaceable (rows.replace old new) pairs

def replaceAll? (plain : RowLists) (key : String) (old new : List Row) :
    Option RowLists :=
  if old.length ≠ new.length then none
  else if ¬old.Subperm (plain.rows key) then none
  else if old = [] then some plain
  else some (plain.withRows key (replaceAll (plain.rows key) (old.zip new)))

def filtered (plain : RowLists) (key : String) (filter : RowFilter) : List Row :=
  (plain.rows key).filter filter.accepts

def eraseFiltered (plain : RowLists) (key : String) (filter : RowFilter) :
    RowLists :=
  if plain.filtered key filter = [] then plain
  else plain.withRows key ((plain.rows key).filter fun row => !filter.accepts row)

def changed (plain : RowLists) : Option RowLists → Reply × RowLists
  | some next => (.flag true, next)
  | none => (.flag false, plain)

/-- Indexes of fields are taken as they are when they are not below zero. -/
def perform (plain : RowLists) : Operation → Reply × RowLists
  | .setUnique key unique => (.done, plain.setUnique key unique)
  | .isUnique key => (.flag (plain.Unique key), plain)
  | .insert key row => plain.changed (plain.insert? key row)
  | .insertAll key rows => plain.changed (plain.insertAll? key rows)
  | .erase key row => plain.changed (plain.erase? key row)
  | .eraseAll key rows => plain.changed (plain.eraseAll? key rows)
  | .eraseFiltered key filter =>
      (.rows (plain.filtered key filter), plain.eraseFiltered key filter)
  | .replace key old new => plain.changed (plain.replace? key old new)
  | .replaceAll key old new => plain.changed (plain.replaceAll? key old new)
  | .rows key => (.rows (plain.rows key), plain)
  | .filtered key filter => (.rows (plain.filtered key filter), plain)
  | .withField key index value =>
      (.rows ((plain.rows key).filter fun row => row[index.toNat]? = some value), plain)
  | .fieldValues key index =>
      (.texts ((plain.rows key).filterMap (·[index.toNat]?)).eraseDups, plain)
  | .has key row => (.flag (row ∈ plain.rows key), plain)
  | .keys => (.texts (Entries.keys plain.lists), plain)
  | .count key => (.count (plain.rows key).length, plain)
  | .size => (.count (plain.lists.map fun entry => entry.2.length).sum, plain)
  | .clear => (.done, { plain with lists := [] })
  | .clearKey key => (.done, { plain with lists := Entries.erase key plain.lists })

end RowLists

end AccessControl
