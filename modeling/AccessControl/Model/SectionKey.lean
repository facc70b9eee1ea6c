import AccessControl.Text.Decimal

namespace AccessControl

/-! Keys of the sections of a model: a letter for the kind of the section, and a
number that tells sections of one kind apart. -/

inductive Section
  | request
  | policy
  | role
  | effect
  | matcher
deriving DecidableEq, Repr

namespace Section

def letter : Section → Char
  | .request => 'r'
  | .policy => 'p'
  | .role => 'g'
  | .effect => 'e'
  | .matcher => 'm'

def name : Section → String
  | .request => "request_definition"
  | .policy => "policy_definition"
  | .role => "role_definition"
  | .effect => "policy_effect"
  | .matcher => "matchers"

/-- The kinds that every model has a section of, without a number. -/
def required : List Section :=
  [.request, .policy, .effect, .matcher]

def key (kind : Section) (suffix : String) : String :=
  kind.letter.toString ++ suffix

def ofLetter? (letter : Char) : Option Section :=
  [request, policy, role, effect, matcher].find? (·.letter == letter)

end Section

structure SectionKey where
  kind : Section
  suffix : String
deriving DecidableEq, Repr

/-- Reads a key; a line break may end it. -/
def SectionKey.ofText? (text : String) : Option SectionKey :=
  match text.toList with
  | [] => none
  | letter :: rest =>
      let digits := rest.takeWhile Text.isDecimal
      let after := rest.drop digits.length
      if after = [] ∨ after = ['\n'] then
        (Section.ofLetter? letter).map fun kind => ⟨kind, String.ofList digits⟩
      else none

end AccessControl
