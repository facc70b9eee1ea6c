import AccessControl.Matcher.Evaluation

namespace AccessControl

/-! What evaluation is about: the entries and attributes that values hold, and not what all
values of a type have. -/

namespace Value

/-- The methods of texts, numbers and collections. -/
def methods : Value → List String
  | .text _ =>
      ["capitalize", "casefold", "center", "count", "encode", "endswith", "expandtabs",
        "find", "format", "format_map", "index", "isalnum", "isalpha", "isascii",
        "isdecimal", "isdigit", "isidentifier", "islower", "isnumeric", "isprintable",
        "isspace", "istitle", "isupper", "join", "ljust", "lower", "lstrip", "maketrans",
        "partition", "removeprefix", "removesuffix", "replace", "rfind", "rindex", "rjust",
        "rpartition", "rsplit", "rstrip", "split", "splitlines", "startswith", "strip",
        "swapcase", "title", "translate", "upper", "zfill"]
  | .bool _ | .int _ | .float _ =>
      ["as_integer_ratio", "bit_count", "bit_length", "conjugate", "from_bytes", "fromhex",
        "hex", "is_integer", "to_bytes"]
  | .list _ | .tuple _ =>
      ["append", "clear", "copy", "count", "extend", "index", "insert", "pop", "remove",
        "reverse", "sort"]
  | .set _ =>
      ["add", "clear", "copy", "difference", "difference_update", "discard",
        "intersection", "intersection_update", "isdisjoint", "issubset", "issuperset",
        "pop", "remove", "symmetric_difference", "symmetric_difference_update", "union",
        "update"]
  | .null | .mapping _ | .object _ | .user .. => []

/-- Whether a value has an attribute of this name by its type. Names are looked up among
the entries of a mapping alone. -/
def isInherited (value : Value) (name : String) : Bool :=
  match value with
  | .mapping _ => false
  | value => ['_', '_'].isPrefixOf name.toList || value.methods.contains name

/-- No value on the path has the attribute that follows by its type. -/
def OwnPath (value : Value) : List String → Prop
  | [] => True
  | name :: path =>
      value.isInherited name = false ∧
        ∀ inner, value.attribute? name = some inner → OwnPath inner path

mutual
/-- Whether all whole numbers in the value can be written. -/
def isWritable : Value → Bool
  | .int number => AccessControl.isWritable number
  | .list items | .tuple items | .set items => areWritable items
  | .mapping entries | .object entries => entriesWritable entries
  | .user name age tenant => isWritable name && isWritable age && isWritable tenant
  | .null | .bool _ | .float _ | .text _ => true

def areWritable : List Value → Bool
  | [] => true
  | item :: items => isWritable item && areWritable items

def entriesWritable : List (String × Value) → Bool
  | [] => true
  | (_, value) :: entries => isWritable value && entriesWritable entries
end

end Value

namespace Matcher.Node

mutual
/-- The fields that a tree refers to, with the paths that are followed from them. -/
def references : Node → List FieldRef
  | .literal _ => []
  | .field reference => [reference]
  | .call _ arguments => referencesOf arguments
  | .all operands => referencesOf operands
  | .any operands => referencesOf operands
  | .not operand => references operand
  | .compare _ left right => references left ++ references right
  | .sequence items => referencesOf items

def referencesOf : List Node → List FieldRef
  | [] => []
  | node :: nodes => references node ++ referencesOf nodes
end

/-- The tree asks for nothing that a value has by its type. -/
def IsPlain (environment : Environment) (node : Node) : Prop :=
  ∀ reference ∈ node.references, ∀ value,
    environment.value? reference.name = some value → value.OwnPath reference.path

theorem isPlain_of_noPaths {node : Node}
    (noPaths : ∀ reference ∈ node.references, reference.path = []) (environment : Environment) :
    node.IsPlain environment := by
  intro reference member value _
  rw [noPaths reference member]
  trivial

end Matcher.Node

end AccessControl
