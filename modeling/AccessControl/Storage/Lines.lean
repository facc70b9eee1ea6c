import AccessControl.Policy.Mutation

namespace AccessControl

structure Line where
  key : String
  fields : Fields
deriving Repr

namespace Line

def same (line other : Line) : Bool :=
  line.key == other.key && Value.equalLists line.fields other.fields

/-- The value at an index; below zero it counts from the end. The outer option
is empty where the index leaves the fields. -/
def field? (fields : Fields) (index : Int) : Option Value :=
  let place := if index < 0 then fields.length + index else index
  if place < 0 then none else fields[place.toNat]?

/-- Whether the fields from an index on have the values; an empty text stands
for any value. There is no answer where a field is missing. -/
def agreesFrom? (fields : Fields) (index : Int) : List String → Option Bool
  | [] => some true
  | value :: values =>
      if value.isEmpty then agreesFrom? fields (index + 1) values
      else
        match field? fields index with
        | none => none
        | some field =>
            if field.equal (.text value) then agreesFrom? fields (index + 1) values
            else some false

/-- Whether a line has the key and passes the filter, which may start below
zero. -/
def accepts? (key : String) (filter : RowFilter) (line : Line) : Option Bool :=
  if line.key != key
      || line.fields.length < filter.start + filter.values.length then
    some false
  else agreesFrom? line.fields filter.start filter.values

end Line

abbrev Lines := List Line

namespace Lines

def add (lines : Lines) (key : String) (fields : Fields) : Lines :=
  lines ++ [⟨key, fields⟩]

def remove (lines : Lines) (key : String) (fields : Fields) : Lines :=
  lines.eraseP (Line.same ⟨key, fields⟩)

def update (key : String) (old new : Fields) : Lines → Lines
  | [] => []
  | line :: lines =>
      if Line.same ⟨key, old⟩ line then ⟨key, new⟩ :: lines
      else line :: update key old new lines

/-- Without the lines that a filter accepts, if it has an answer for all. -/
def removeFiltered? (key : String) (filter : RowFilter) : Lines → Option Lines
  | [] => some []
  | line :: lines =>
      match line.accepts? key filter, removeFiltered? key filter lines with
      | some accepted, some rest => some (if accepted then rest else line :: rest)
      | _, _ => none

end Lines

end AccessControl
