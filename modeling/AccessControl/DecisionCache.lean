namespace AccessControl

structure DecisionCache where
  limit : Option Nat
  entries : List (String × Bool)
  hits : Nat
  misses : Nat
deriving DecidableEq, Repr

namespace DecisionCache

structure Stats where
  size : Nat
  limit : Option Nat
  hits : Nat
  misses : Nat
deriving DecidableEq, Repr

def empty (limit : Option Nat) : DecisionCache :=
  { limit, entries := [], hits := 0, misses := 0 }

/-- A cache with a limit has room for one decision at least. -/
def ofLimit? : Option Int → Option DecisionCache
  | none => some (empty none)
  | some limit => if limit < 1 then none else some (empty (some limit.toNat))

def size (cache : DecisionCache) : Nat :=
  cache.entries.length

def stats (cache : DecisionCache) : Stats :=
  { size := cache.size
    limit := cache.limit
    hits := cache.hits
    misses := cache.misses }

/-- The entries in order of use, with one of them used last. -/
def touched (entries : List (String × Bool)) (key : String)
    (decision : Bool) : List (String × Bool) :=
  entries.filter (fun entry => entry.1 != key) ++ [(key, decision)]

def get (cache : DecisionCache) (key : String) : Option Bool × DecisionCache :=
  match cache.entries.lookup key with
  | some decision =>
      (some decision,
        { cache with
          entries := touched cache.entries key decision
          hits := cache.hits + 1 })
  | none => (none, { cache with misses := cache.misses + 1 })

def trimmedTo (limit : Option Nat) (entries : List (String × Bool)) :
    List (String × Bool) :=
  match limit with
  | none => entries
  | some limit => if limit < entries.length then entries.drop 1 else entries

def put (cache : DecisionCache) (key : String) (decision : Bool) :
    DecisionCache :=
  { cache with entries := trimmedTo cache.limit (touched cache.entries key decision) }

def invalidate (cache : DecisionCache) : DecisionCache :=
  { cache with entries := [] }

end DecisionCache

end AccessControl
