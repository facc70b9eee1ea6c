import AccessControl.Fault

namespace AccessControl

abbrev Row := List String

/-- The field at an index, if the row reaches that far. An index below zero
counts from the end of the row and must not leave it. -/
def Row.field? (row : Row) (index : Int) : Answer (Option String) :=
  if row.length ≤ index then .ok none
  else
    let place := if index < 0 then row.length + index else index
    if place < 0 then .error (.trap .indexRange) else .ok row[place.toNat]?

/-- Values that the fields of a row from an index on must have; an empty text
stands for any value. -/
structure RowFilter where
  start : Int
  values : List String
deriving DecidableEq, Repr

namespace RowFilter

def agrees (value field : String) : Bool :=
  value.isEmpty || field == value

/-- Whether the row reaches as far as the filter, and all its fields agree. -/
def accepts (filter : RowFilter) (row : Row) : Bool :=
  0 ≤ filter.start && filter.start + filter.values.length ≤ row.length
    && (filter.values.zip (row.drop filter.start.toNat)).all fun pair =>
      agrees pair.1 pair.2

end RowFilter

end AccessControl
