import AccessControl.Policy.Tally

namespace AccessControl

structure Bucket where
  rows : List Row
  tally : Tally
deriving DecidableEq, Repr

namespace Bucket

def empty : Bucket := ⟨[], []⟩

def has (bucket : Bucket) (row : Row) : Bool :=
  0 < bucket.tally.count row

def pushAll (bucket : Bucket) (rows : List Row) : Bucket :=
  ⟨bucket.rows ++ rows, bucket.tally.addAll rows⟩

def erase (bucket : Bucket) (row : Row) : Bucket :=
  ⟨bucket.rows.erase row, bucket.tally.discount row⟩

/-- Rows that are doomed go, each as often as it is doomed. -/
def eraseDoomed (doomed : Tally) (tally : Tally) :
    List Row → List Row × Tally
  | [] => ([], tally)
  | row :: rows =>
      if 0 < doomed.count row then
        eraseDoomed (doomed.discount row) (tally.discount row) rows
      else
        let (kept, tally) := eraseDoomed doomed tally rows
        (row :: kept, tally)

def eraseAll (bucket : Bucket) (rows : List Row) : Bucket :=
  let (kept, tally) := eraseDoomed (.ofRows rows) bucket.tally bucket.rows
  ⟨kept, tally⟩

def eraseWhere (bucket : Bucket) (doomed : Row → Bool) : Bucket :=
  ⟨bucket.rows.filter fun row => !doomed row,
    (bucket.rows.filter doomed).foldl Tally.discount bucket.tally⟩

def replaceFirst (old new : Row) : List Row → List Row
  | [] => []
  | row :: rows =>
      if row = old then new :: rows else row :: replaceFirst old new rows

def replace (bucket : Bucket) (old new : Row) : Bucket :=
  ⟨replaceFirst old new bucket.rows, (bucket.tally.discount old).add new⟩

def replaceAll (bucket : Bucket) : List (Row × Row) → Bucket
  | [] => bucket
  | (old, new) :: pairs => (bucket.replace old new).replaceAll pairs

end Bucket

end AccessControl
