import AccessControl.Entries
import AccessControl.Policy.Row

namespace AccessControl

abbrev Tally := Entries Row Nat

namespace Tally

def count (tally : Tally) (row : Row) : Nat :=
  (tally.lookup row).getD 0

def add (tally : Tally) (row : Row) : Tally :=
  Entries.put row (tally.count row + 1) tally

def addAll (tally : Tally) (rows : List Row) : Tally :=
  rows.foldl add tally

def discount (tally : Tally) (row : Row) : Tally :=
  if tally.count row ≤ 1 then Entries.erase row tally
  else Entries.put row (tally.count row - 1) tally

def ofRows (rows : List Row) : Tally :=
  addAll [] rows

/-- Every row occurs as often as it does in the list. -/
def containsAll (tally : Tally) (rows : List Row) : Bool :=
  (ofRows rows).all fun entry => entry.2 ≤ tally.count entry.1

end Tally

end AccessControl
