import AccessControl.Value

namespace AccessControl.Matcher

inductive Literal
  | text (value : String)
  | int (value : Int)
  | float (value : Binary64)
  | bool (value : Bool)
deriving DecidableEq, Repr

def Literal.value : Literal → Value
  | .text value => .text value
  | .int value => .int value
  | .float value => .float value
  | .bool value => .bool value

inductive Comparison
  | equal
  | unequal
  | less
  | atMost
  | greater
  | atLeast
  | within
  | outside
deriving DecidableEq, Repr

def Comparison.symbol : Comparison → String
  | .equal => "=="
  | .unequal => "!="
  | .less => "<"
  | .atMost => "<="
  | .greater => ">"
  | .atLeast => ">="
  | .within => "in"
  | .outside => "not in"

structure FieldRef where
  shape : String
  field : String
  path : List String
deriving DecidableEq, Repr

def qualified (shape field : String) : String :=
  shape ++ "." ++ field

def FieldRef.name (reference : FieldRef) : String :=
  qualified reference.shape reference.field

inductive Node
  | literal (value : Literal)
  | field (reference : FieldRef)
  | call (function : String) (arguments : List Node)
  | all (operands : List Node)
  | any (operands : List Node)
  | not (operand : Node)
  | compare (comparison : Comparison) (left right : Node)
  | sequence (items : List Node)
deriving Repr, Inhabited

namespace Node

mutual
def same : Node → Node → Bool
  | .literal left, .literal right => left == right
  | .field left, .field right => left == right
  | .call left arguments, .call right others =>
      left == right && sameEach arguments others
  | .all operands, .all others => sameEach operands others
  | .any operands, .any others => sameEach operands others
  | .not operand, .not other => same operand other
  | .compare comparison left right, .compare other first second =>
      comparison == other && same left first && same right second
  | .sequence items, .sequence others => sameEach items others
  | _, _ => false

def sameEach : List Node → List Node → Bool
  | [], [] => true
  | node :: nodes, other :: others => same node other && sameEach nodes others
  | _, _ => false
end

mutual
theorem eq_of_same : ∀ {left right : Node}, same left right = true → left = right
  | .literal _, right, equal => by
      cases right <;> simp_all [same]
  | .field _, right, equal => by
      cases right <;> simp_all [same]
  | .call _ arguments, right, equal => by
      cases right <;> simp [same] at equal
      rw [equal.1, eq_of_sameEach equal.2]
  | .all operands, right, equal => by
      cases right <;> simp [same] at equal
      rw [eq_of_sameEach equal]
  | .any operands, right, equal => by
      cases right <;> simp [same] at equal
      rw [eq_of_sameEach equal]
  | .not operand, right, equal => by
      cases right <;> simp [same] at equal
      rw [eq_of_same equal]
  | .compare _ first second, right, equal => by
      cases right <;> simp [same] at equal
      rw [equal.1.1, eq_of_same equal.1.2, eq_of_same equal.2]
  | .sequence items, right, equal => by
      cases right <;> simp [same] at equal
      rw [eq_of_sameEach equal]

theorem eq_of_sameEach : ∀ {left right : List Node}, sameEach left right = true →
    left = right
  | [], right, equal => by
      cases right <;> simp_all [sameEach]
  | node :: nodes, right, equal => by
      cases right <;> simp [sameEach] at equal
      rw [eq_of_same equal.1, eq_of_sameEach equal.2]
end

mutual
theorem same_self : ∀ node : Node, same node node = true
  | .literal _ => by simp [same]
  | .field _ => by simp [same]
  | .call _ arguments => by simp [same, sameEach_self arguments]
  | .all operands => by simp [same, sameEach_self operands]
  | .any operands => by simp [same, sameEach_self operands]
  | .not operand => by simp [same, same_self operand]
  | .compare _ left right => by simp [same, same_self left, same_self right]
  | .sequence items => by simp [same, sameEach_self items]

theorem sameEach_self : ∀ nodes : List Node, sameEach nodes nodes = true
  | [] => rfl
  | node :: nodes => by simp [sameEach, same_self node, sameEach_self nodes]
end

instance : DecidableEq Node := fun left right =>
  decidable_of_iff (same left right = true)
    ⟨eq_of_same, fun equal => equal ▸ same_self left⟩

mutual
def fieldNames : Node → List String
  | .literal _ => []
  | .field reference => [reference.name]
  | .call _ arguments => fieldNamesOf arguments
  | .all operands => fieldNamesOf operands
  | .any operands => fieldNamesOf operands
  | .not operand => fieldNames operand
  | .compare _ left right => fieldNames left ++ fieldNames right
  | .sequence items => fieldNamesOf items

def fieldNamesOf : List Node → List String
  | [] => []
  | node :: nodes => fieldNames node ++ fieldNamesOf nodes
end

mutual
def functionNames : Node → List String
  | .literal _ => []
  | .field _ => []
  | .call function arguments => function :: functionNamesOf arguments
  | .all operands => functionNamesOf operands
  | .any operands => functionNamesOf operands
  | .not operand => functionNames operand
  | .compare _ left right => functionNames left ++ functionNames right
  | .sequence items => functionNamesOf items

def functionNamesOf : List Node → List String
  | [] => []
  | node :: nodes => functionNames node ++ functionNamesOf nodes
end

end Node

def insertName (name : String) : List String → List String
  | [] => [name]
  | other :: names =>
      if name < other then name :: other :: names
      else if name = other then other :: names
      else other :: insertName name names

def sortedNames (names : List String) : List String :=
  names.foldr insertName []

structure References where
  fields : List String
  functions : List String
deriving DecidableEq, Repr

namespace References

def none : References := ⟨[], []⟩

def withField (met : References) (name : String) : References :=
  { met with fields := insertName name met.fields }

def withFunction (met : References) (name : String) : References :=
  { met with functions := insertName name met.functions }

end References

end AccessControl.Matcher
