import AccessControl.Matcher.Token

namespace AccessControl.Matcher

inductive Form
  | listing
  | starListing
  | conditional
  | lambda
  | named
  | disjunction
  | conjunction
  | negation
  | comparison
  | absence
  | difference
  | bitOr
  | bitXor
  | bitAnd
  | shift
  | sum
  | product
  | sign
  | power
  | awaiting
  | primary
  | attribution
  | call
  | subscript
  | slice
  | strings
  | paren
  | bracket
  | brace
  | starred
  | spread
  | keyword
  | yielding
  | clause
  | targets
  | target
  | targetAtom
deriving DecidableEq, Repr

inductive Phrase
  | leaf (token : Token)
  | node (form : Form) (parts : List Phrase)
deriving Repr

namespace Phrase

/-- A form with a single part is that part, unless the part alone would lose
the form. -/
def ofParts (form : Form) (parts : List Phrase) : Phrase :=
  match form, parts with
  | .yielding, parts => .node .yielding parts
  | _, [only] => only
  | form, parts => .node form parts

mutual
def tokens : Phrase → List Token
  | .leaf token => [token]
  | .node _ parts => tokensOf parts

def tokensOf : List Phrase → List Token
  | [] => []
  | part :: parts => tokens part ++ tokensOf parts
end

def start (phrase : Phrase) : Nat :=
  (phrase.tokens.head?.map (·.column)).getD 0

def isMark (mark : String) : Phrase → Bool
  | .leaf token => token.lexeme == .mark mark
  | .node .. => false

def isWord (word : String) : Phrase → Bool
  | .leaf token => token.lexeme == .word word
  | .node .. => false

def isForm (form : Form) : Phrase → Bool
  | .leaf _ => false
  | .node other _ => other == form

@[simp] theorem tokensOf_append (first second : List Phrase) :
    tokensOf (first ++ second) = tokensOf first ++ tokensOf second := by
  induction first with
  | nil => rfl
  | cons part parts induction => simp [tokensOf, induction]

theorem tokens_ofParts (form : Form) (parts : List Phrase) :
    (ofParts form parts).tokens = tokensOf parts := by
  unfold ofParts
  split <;> simp [tokens, tokensOf]

end Phrase

end AccessControl.Matcher
