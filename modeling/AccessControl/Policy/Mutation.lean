import AccessControl.Policy.Row

namespace AccessControl

/-- The fields of a row before they are known to be texts. -/
abbrev Fields := List Value

inductive Mutation (ρ : Type)
  | add (key : String) (row : ρ)
  | addAll (key : String) (rows : List ρ)
  | remove (key : String) (row : ρ)
  | removeAll (key : String) (rows : List ρ)
  | removeFiltered (key : String) (filter : RowFilter)
  | update (key : String) (old new : ρ)
deriving DecidableEq, Repr

namespace Mutation

def operation : Mutation ρ → String
  | .add .. => "add_policy"
  | .addAll .. => "add_policies"
  | .remove .. => "remove_policy"
  | .removeAll .. => "remove_policies"
  | .removeFiltered .. => "remove_filtered_policy"
  | .update .. => "update_policy"

def key : Mutation ρ → String
  | .add key _ => key
  | .addAll key _ => key
  | .remove key _ => key
  | .removeAll key _ => key
  | .removeFiltered key _ => key
  | .update key _ _ => key

def rows : Mutation ρ → List ρ
  | .add _ row => [row]
  | .addAll _ rows => rows
  | .remove _ row => [row]
  | .removeAll _ rows => rows
  | .removeFiltered .. => []
  | .update _ old new => [old, new]

def map (f : ρ → σ) : Mutation ρ → Mutation σ
  | .add key row => .add key (f row)
  | .addAll key rows => .addAll key (rows.map f)
  | .remove key row => .remove key (f row)
  | .removeAll key rows => .removeAll key (rows.map f)
  | .removeFiltered key filter => .removeFiltered key filter
  | .update key old new => .update key (f old) (f new)

def read (f : ρ → Except ε σ) : Mutation ρ → Except ε (Mutation σ)
  | .add key row => return .add key (← f row)
  | .addAll key rows => return .addAll key (← rows.mapM f)
  | .remove key row => return .remove key (← f row)
  | .removeAll key rows => return .removeAll key (← rows.mapM f)
  | .removeFiltered key filter => return .removeFiltered key filter
  | .update key old new => do
      let old ← f old
      return .update key old (← f new)

end Mutation

end AccessControl
