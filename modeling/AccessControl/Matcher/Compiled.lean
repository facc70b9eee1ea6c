import AccessControl.Matcher.Lowering
import AccessControl.Matcher.Operators

namespace AccessControl

structure Matcher where
  text : String
  root : Matcher.Node
  fields : List String
  functions : List String
deriving DecidableEq, Repr

namespace Matcher

def read (text : String) : Answer (Node × References) := do
  let refuse (cause : CompileCause) : Failure := .compile ⟨text, cause⟩
  if Text.allBlank text then throw (refuse .empty)
  let spelled ← (spellOut text).mapError .compile
  if spelled.toList.contains '\x00' then throw (refuse .malformed)
  match phrase? spelled with
  | none => throw (refuse .malformed)
  | some phrase =>
      (phrase.lower.run .none).mapError fun flaw =>
        refuse (.unsupported flaw.defect flaw.column)

def unknownNames (used : List String) (known : Option (List String)) :
    List String :=
  match known with
  | some known => used.filter fun name => !known.contains name
  | none => []

/-- Reads a matcher text and checks the names that it uses; a list of known
names that is not given allows all names. -/
def compile (text : String) (knownFields knownFunctions : Option (List String)) :
    Answer Matcher := do
  let (root, used) ← read text
  let refuse (cause : CompileCause) : Failure := .compile ⟨text, cause⟩
  let fields := unknownNames used.fields knownFields
  if !fields.isEmpty then throw (refuse (.unknownFields fields))
  let functions := unknownNames used.functions knownFunctions
  if !functions.isEmpty then throw (refuse (.unknownFunctions functions))
  return { text, root, fields := used.fields, functions := used.functions }

end Matcher

end AccessControl
