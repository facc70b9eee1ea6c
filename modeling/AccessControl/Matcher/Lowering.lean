import AccessControl.Fault
import AccessControl.Matcher.Grammar
import AccessControl.Matcher.Tree
import AccessControl.Text.NormalForm

namespace AccessControl.Matcher

/-! Phrases that a matcher may use become trees, and the names that they use are
noted on the way; the first defect refuses any other phrase. -/

structure Flaw where
  defect : Defect
  column : Nat
deriving DecidableEq, Repr

abbrev Lowered := StateT References (Except Flaw)

def noteField (name : String) : Lowered Unit :=
  modify (·.withField name)

def noteFunction (name : String) : Lowered Unit :=
  modify (·.withFunction name)

namespace Phrase

def refuse (phrase : Phrase) (defect : Defect) : Lowered α :=
  throw ⟨defect, phrase.start⟩

def ungrouped : Phrase → Phrase
  | .node .paren [_, inner, _] => ungrouped inner
  | phrase => phrase

def name? (phrase : Phrase) : Option String :=
  match phrase.ungrouped with
  | .leaf ⟨.word text, _⟩ =>
      if Text.isKeyword text then none else some (Text.normalName text)
  | _ => none

def attribute? : Phrase → Option String
  | .node .attribution [_, .leaf ⟨.word text, _⟩] => some (Text.normalName text)
  | _ => none

def path? : Phrase → Option (String × List String)
  | .leaf ⟨.word text, _⟩ =>
      if Text.isKeyword text then none else some (Text.normalName text, [])
  | .node .paren [_, inner, _] => path? inner
  | .node .primary (base :: suffixes) =>
      match path? base, suffixes.mapM attribute? with
      | some (name, path), some attributes => some (name, path ++ attributes)
      | _, _ => none
  | _ => none

/-- The text of adjacent literals; none if one of them is a template. -/
def joinedText? : List Phrase → Option String
  | [] => some ""
  | .leaf ⟨.text value, _⟩ :: parts => (joinedText? parts).map (value ++ ·)
  | _ => none

def joinedBytes? : List Phrase → Option (List Nat)
  | [] => some []
  | .leaf ⟨.bytes value, _⟩ :: parts => (joinedBytes? parts).map (value ++ ·)
  | _ => none

end Phrase

/-- A request or policy shape: its letter and a number. -/
def isShapeToken (text : String) : Bool :=
  match text.toList with
  | letter :: digits =>
      (letter = 'r' || letter = 'p') && digits.all Text.isDecimal
  | [] => false

def imaginaryText (value : Binary64) : String :=
  let text := value.display.toList
  let tail := ['.', '0']
  let short := if tail.isSuffixOf text then text.take (text.length - 2) else text
  String.ofList (short ++ ['j'])

/-- The comparison that an operator stands for, or the name of a test of identity. -/
def Comparison.ofPhrase : Phrase → Except String Comparison
  | .leaf ⟨.mark "==", _⟩ => .ok .equal
  | .leaf ⟨.mark "!=", _⟩ => .ok .unequal
  | .leaf ⟨.mark "<", _⟩ => .ok .less
  | .leaf ⟨.mark "<=", _⟩ => .ok .atMost
  | .leaf ⟨.mark ">", _⟩ => .ok .greater
  | .leaf ⟨.mark ">=", _⟩ => .ok .atLeast
  | .leaf ⟨.word "in", _⟩ => .ok .within
  | .node .absence _ => .ok .outside
  | .node .difference _ => .error "IsNot"
  | _ => .error "Is"

def Form.refusal : Form → List Phrase → String
  | .conditional, _ => "IfExp"
  | .lambda, _ => "Lambda"
  | .named, _ => "NamedExpr"
  | .awaiting, _ => "Await"
  | .starred, _ | .spread, _ => "Starred"
  | .yielding, parts =>
      if parts.any (·.isWord "from") then "YieldFrom" else "Yield"
  | .brace, parts => braceRefusal parts
  | _, _ => "BinOp"
where
  single (alone comprehension : String) (parts : List Phrase) : String :=
    if parts.any (·.isForm .clause) then comprehension else alone
  braceRefusal : List Phrase → String
    | _ :: first :: second :: rest =>
        if first.isMark "**" || second.isMark ":" then
          single "Dict" "DictComp" rest
        else single "Set" "SetComp" (second :: rest)
    | _ => "Dict"

def Token.refuse (token : Token) (defect : Defect) : Lowered α :=
  throw ⟨defect, token.column⟩

def Token.lower (token : Token) : Lowered Node :=
  match token.lexeme with
  | .numeral (.int value) => return .literal (.int value)
  | .numeral (.float value) => return .literal (.float value)
  | .numeral (.imaginary value) => token.refuse (.literal (imaginaryText value))
  | .text value => return .literal (.text value)
  | .bytes value => token.refuse (.literal (Text.quotedBytes value))
  | .template _ => token.refuse (.form "JoinedStr")
  | .mark _ => token.refuse (.literal "Ellipsis")
  | .word "True" => return .literal (.bool true)
  | .word "False" => return .literal (.bool false)
  | .word "None" => token.refuse (.literal "None")
  | .word text =>
      match Text.normalName text with
      | "true" => return .literal (.bool true)
      | "false" => return .literal (.bool false)
      | name => token.refuse (.identifier name)

def lowerStrings (phrase : Phrase) (parts : List Phrase) : Lowered Node :=
  match Phrase.joinedText? parts with
  | some value => return .literal (.text value)
  | none =>
      match Phrase.joinedBytes? parts with
      | some value => phrase.refuse (.literal (Text.quotedBytes value))
      | none => phrase.refuse (.form "JoinedStr")

def lowerSign (phrase operator operand : Phrase) : Lowered Node :=
  if operator.isMark "-" then
    match operand.ungrouped with
    | .leaf ⟨.numeral (.int value), _⟩ => return .literal (.int (-value))
    | .leaf ⟨.numeral (.float value), _⟩ => return .literal (.float value.negate)
    | _ => phrase.refuse .unaryOperator
  else phrase.refuse .unaryOperator

def lowerField (phrase : Phrase) : Lowered Node :=
  match phrase.path? with
  | some (base, field :: path) =>
      if isShapeToken base then do
        let reference : FieldRef := ⟨base, field, path⟩
        noteField reference.name
        return .field reference
      else phrase.refuse .foreignField
  | _ => phrase.refuse .foreignField

/-- The function that the phrase calls, unless it calls it with arguments that
are not allowed. -/
def calledName (phrase : Phrase) (arguments : List Phrase) : Lowered String :=
  match phrase with
  | .node .primary [callee, _] =>
      match callee.name? with
      | some name =>
          if arguments.any (·.isForm .keyword) then phrase.refuse .keywordArgument
          else if arguments.any (·.isForm .spread) then phrase.refuse .starArgument
          else return name
      | none => phrase.refuse .indirectCall
  | _ => phrase.refuse .indirectCall

/-- Refuses a collection that a comprehension describes. -/
def refuseComprehension (phrase : Phrase) (parts : List Phrase) (name : String) :
    Lowered Unit :=
  if parts.any (·.isForm .clause) then phrase.refuse (.form name) else return ()

/-- Brackets, commas and connectives between items. -/
def Phrase.separates : Phrase → Bool
  | .leaf ⟨.mark mark, _⟩ => ["(", ")", "[", "]", ","].contains mark
  | .leaf ⟨.word word, _⟩ => word == "and" || word == "or"
  | _ => false

/-- A chain of comparisons holds if each of its links holds. -/
def Node.chain : List Node → Node
  | [only] => only
  | links => .all links

mutual
def Phrase.lower : Phrase → Lowered Node
  | .leaf token => token.lower
  | .node .paren [_, inner, _] => inner.lower
  | phrase@(.node .paren parts) => do
      refuseComprehension phrase parts "GeneratorExp"
      return .sequence (← lowerItems parts)
  | phrase@(.node .bracket parts) => do
      refuseComprehension phrase parts "ListComp"
      return .sequence (← lowerItems parts)
  | .node .listing parts => return .sequence (← lowerItems parts)
  | .node .disjunction parts => return .any (← lowerItems parts)
  | .node .conjunction parts => return .all (← lowerItems parts)
  | .node .negation [_, operand] => return .not (← operand.lower)
  | phrase@(.node .comparison (left :: links)) => do
      return Node.chain (← lowerLinks phrase (← left.lower) links)
  | phrase@(.node .strings parts) => lowerStrings phrase parts
  | phrase@(.node .sign [operator, operand]) => lowerSign phrase operator operand
  | phrase@(.node .primary parts) => lowerPrimary phrase parts
  | phrase@(.node form parts) => phrase.refuse (.form (form.refusal parts))

def lowerItems : List Phrase → Lowered (List Node)
  | [] => return []
  | part :: parts => do
      if part.separates then lowerItems parts
      else return (← part.lower) :: (← lowerItems parts)

/-- The comparisons of a chain, each with the right side of the one before. -/
def lowerLinks (phrase : Phrase) (left : Node) :
    List Phrase → Lowered (List Node)
  | operator :: right :: links =>
      match Comparison.ofPhrase operator with
      | .error name => phrase.refuse (.comparison name)
      | .ok comparison => do
          let right ← right.lower
          return .compare comparison left right :: (← lowerLinks phrase right links)
  | _ => return []

/-- What the last suffix of a primary makes of it. -/
def lowerPrimary (phrase : Phrase) : List Phrase → Lowered Node
  | [call@(.node .call arguments)] => do
      let name ← calledName phrase arguments
      noteFunction name
      refuseComprehension call arguments "GeneratorExp"
      return .call name (← lowerItems arguments)
  | [.node .attribution _] => lowerField phrase
  | _ :: part :: parts => lowerPrimary phrase (part :: parts)
  | _ => phrase.refuse (.form "Subscript")
end

end AccessControl.Matcher
