import AccessControl.Matcher.Phrase

namespace AccessControl.Matcher

/-! The grammar of matcher texts, and its reading. Of two alternatives the first
that fits is taken. -/

inductive TokenClass
  | word (text : String)
  | name
  | mark (text : String)
  | numeral
  | text
  | bytes
deriving DecidableEq, Repr

def TokenClass.accepts : TokenClass → Lexeme → Bool
  | .word expected, .word found => expected == found
  | .name, .word found => !Text.isKeyword found
  | .mark expected, .mark found => expected == found
  | .numeral, .numeral _ => true
  | .text, .text _ => true
  | .text, .template _ => true
  | .bytes, .bytes _ => true
  | _, _ => false

inductive Peg
  | empty
  | token (accepted : TokenClass)
  | form (form : Form)
  | both (first second : Peg)
  | either (first second : Peg)
  | many (item : Peg)
  | ahead (item : Peg)
  | notAhead (item : Peg)
deriving Repr

namespace Peg

def word (text : String) : Peg := .token (.word text)

def mark (text : String) : Peg := .token (.mark text)

def name : Peg := .token .name

def sequence : List Peg → Peg
  | [] => .empty
  | [only] => only
  | first :: rest => .both first (sequence rest)

def oneOf : List Peg → Peg
  | [] => .notAhead .empty
  | [only] => only
  | first :: rest => .either first (oneOf rest)

def optional (item : Peg) : Peg := .either item .empty

def atLeastOne (item : Peg) : Peg := .both item (.many item)

def infixed (operand : Form) (operators : List Peg) : Peg :=
  .both (.form operand) (.many (.both (oneOf operators) (.form operand)))

def comma : Peg := mark ","

def furtherItems (item : Peg) : Peg :=
  .both (.many (.both comma item)) (optional comma)

def items (item : Peg) : Peg := .both item (furtherItems item)

def clauses : Peg := atLeastOne (.form .clause)

/-- An element of a collection: a starred operand, or a named expression. -/
def element : Peg := .either (.form .starred) (.form .named)

def collectionRest : Peg := .either clauses (furtherItems element)

def assignment : Peg := sequence [name, mark ":=", .form .conditional]

def unassigned : Peg := .both (.form .conditional) (.notAhead (mark ":="))

/-! Arguments: positional ones first, then keywords, and double stars after the
first of them. -/

def positional : Peg :=
  .either (.form .spread) (.both (.form .named) (.notAhead (mark "=")))

def keywordOrStar : Peg :=
  .either (.both (.ahead (.both name (mark "="))) (.form .keyword))
    (.form .spread)

def keywordOrDoubleStar : Peg :=
  .either (.both (.ahead (.both name (mark "="))) (.form .keyword))
    (.both (.ahead (mark "**")) (.form .keyword))

def keywordArguments : Peg :=
  .either
    (sequence [keywordOrStar, .many (.both comma keywordOrStar),
      optional (sequence [comma, keywordOrDoubleStar,
        .many (.both comma keywordOrDoubleStar)])])
    (.both keywordOrDoubleStar (.many (.both comma keywordOrDoubleStar)))

def argumentsRest : Peg :=
  sequence [.many (.both comma positional),
    optional (.both comma keywordArguments), optional comma]

def arguments : Peg :=
  oneOf [
    .both (.form .spread) argumentsRest,
    .both (.form .named)
      (.either clauses (.both (.notAhead (mark "=")) argumentsRest)),
    .both keywordArguments (optional comma)]

/-! Parameters of a lambda: those before a slash, those without and with a
default, and those behind a star. -/

def parameterEnd : Peg := .either comma (.ahead (mark ":"))

def defaultValue : Peg := .both (mark "=") (.form .conditional)

def plainParameter : Peg := .both name parameterEnd

def defaultParameter : Peg := sequence [name, defaultValue, parameterEnd]

def anyParameter : Peg := sequence [name, optional defaultValue, parameterEnd]

def slash : Peg := .both (mark "/") parameterEnd

def restParameters : Peg := .both (mark "**") plainParameter

def starParameters : Peg :=
  oneOf [
    sequence [mark "*", plainParameter, .many anyParameter,
      optional restParameters],
    sequence [mark "*", comma, atLeastOne anyParameter, optional restParameters],
    restParameters]

def parameters : Peg :=
  oneOf [
    sequence [atLeastOne plainParameter, slash, .many plainParameter,
      .many defaultParameter, optional starParameters],
    sequence [.many plainParameter, atLeastOne defaultParameter, slash,
      .many defaultParameter, optional starParameters],
    sequence [atLeastOne plainParameter, .many defaultParameter,
      optional starParameters],
    sequence [atLeastOne defaultParameter, optional starParameters],
    starParameters]

def atom : Peg :=
  oneOf [name, word "True", word "False", word "None", .form .strings,
    .token .numeral, .form .paren, .form .bracket, .form .brace, mark "..."]

def suffixed : Peg :=
  oneOf [.form .attribution, .form .call, .form .subscript]

def suffixAhead : Peg := oneOf [mark "(", mark "[", mark "."]

def sliceEnd : Peg :=
  sequence [mark ":", optional (.form .conditional),
    optional (.both (mark ":") (optional (.form .conditional)))]

def targetTuple : Peg :=
  .both (.form .target)
    (.either
      (.both (atLeastOne (.both comma (.form .target))) (optional comma)) comma)

end Peg

open Peg in
def Form.pattern : Form → Peg
  | .listing => items (.form .conditional)
  | .starListing => items (.either (.form .starred) (.form .conditional))
  | .conditional =>
      .either (.form .lambda)
        (.both (.form .disjunction)
          (optional (sequence [word "if", .form .disjunction, word "else",
            .form .conditional])))
  | .lambda =>
      sequence [word "lambda", optional parameters, mark ":",
        .form .conditional]
  | .named => .either assignment unassigned
  | .disjunction => infixed .conjunction [word "or"]
  | .conjunction => infixed .negation [word "and"]
  | .negation => .either (.both (word "not") (.form .negation)) (.form .comparison)
  | .comparison =>
      infixed .bitOr [mark "==", mark "!=", mark "<=", mark "<", mark ">=",
        mark ">", .form .absence, word "in", .form .difference, word "is"]
  | .absence => .both (word "not") (word "in")
  | .difference => .both (word "is") (word "not")
  | .bitOr => infixed .bitXor [mark "|"]
  | .bitXor => infixed .bitAnd [mark "^"]
  | .bitAnd => infixed .shift [mark "&"]
  | .shift => infixed .sum [mark "<<", mark ">>"]
  | .sum => infixed .product [mark "+", mark "-"]
  | .product =>
      infixed .sign [mark "*", mark "/", mark "//", mark "%", mark "@"]
  | .sign =>
      .either
        (.both (oneOf [mark "+", mark "-", mark "~"]) (.form .sign))
        (.form .power)
  | .power =>
      .both (.form .awaiting) (optional (.both (mark "**") (.form .sign)))
  | .awaiting => .either (.both (word "await") (.form .primary)) (.form .primary)
  | .primary => .both atom (.many suffixed)
  | .attribution => .both (mark ".") name
  | .call => sequence [mark "(", optional arguments, mark ")"]
  | .subscript =>
      sequence [mark "[", items (.either (.form .spread) (.form .slice)),
        mark "]"]
  | .slice =>
      oneOf [assignment,
        .both (.form .conditional) (.either sliceEnd (.notAhead (mark ":="))),
        sliceEnd]
  | .strings =>
      .either (atLeastOne (.token .text)) (atLeastOne (.token .bytes))
  | .paren =>
      sequence [mark "(",
        optional (oneOf [
          .form .yielding,
          sequence [.form .starred, comma, optional (items element)],
          .both (.form .named)
            (optional (.either clauses
              (.both comma (optional (items element)))))]),
        mark ")"]
  | .bracket =>
      sequence [mark "[",
        optional (.either (.both (.form .starred) (furtherItems element))
          (.both (.form .named) collectionRest)),
        mark "]"]
  | .brace =>
      let pair := .either (.both (mark "**") (.form .bitOr))
        (sequence [.form .conditional, mark ":", .form .conditional])
      sequence [mark "\x7b",
        optional (oneOf [
          sequence [mark "**", .form .bitOr, furtherItems pair],
          .both (.form .starred) (furtherItems element),
          .both assignment collectionRest,
          .both (.form .conditional)
            (.either
              (sequence [mark ":", .form .conditional,
                .either clauses (furtherItems pair)])
              (.both (.notAhead (mark ":=")) collectionRest))]),
        mark "\x7d"]
  | .starred => .both (mark "*") (.form .bitOr)
  | .spread => .both (mark "*") (.form .conditional)
  | .keyword =>
      .either (sequence [name, mark "=", .form .conditional])
        (.both (mark "**") (.form .conditional))
  | .yielding =>
      .either (sequence [word "yield", word "from", .form .conditional])
        (.both (word "yield") (optional (.form .starListing)))
  | .clause =>
      sequence [optional (word "async"), word "for", .form .targets, word "in",
        .form .disjunction, .many (.both (word "if") (.form .disjunction))]
  | .targets => items (.form .target)
  | .target =>
      .either (sequence [mark "*", .notAhead (mark "*"), .form .target])
        (.form .targetAtom)
  | .targetAtom =>
      oneOf [
        sequence [atom, .many (.both suffixed (.ahead suffixAhead)),
          .either (.form .attribution) (.form .subscript),
          .notAhead suffixAhead],
        name,
        sequence [mark "(", .form .targetAtom, mark ")"],
        sequence [mark "(", optional targetTuple, mark ")"],
        sequence [mark "[", optional (items (.form .target)), mark "]"]]

/-- The phrases that a pattern takes from the front of the tokens, and the
tokens that it leaves. -/
def Peg.take? : Nat → Peg → List Token → Option (List Phrase × List Token)
  | 0, _, _ => none
  | _ + 1, .empty, tokens => some ([], tokens)
  | _ + 1, .token accepted, tokens =>
      match tokens with
      | next :: rest =>
          if accepted.accepts next.lexeme then some ([.leaf next], rest)
          else none
      | [] => none
  | fuel + 1, .form shape, tokens =>
      (take? fuel shape.pattern tokens).map fun (parts, rest) =>
        ([Phrase.ofParts shape parts], rest)
  | fuel + 1, .both first second, tokens =>
      match take? fuel first tokens with
      | some (front, rest) =>
          (take? fuel second rest).map fun (back, rest) => (front ++ back, rest)
      | none => none
  | fuel + 1, .either first second, tokens =>
      match take? fuel first tokens with
      | some found => some found
      | none => take? fuel second tokens
  | fuel + 1, .many item, tokens =>
      match take? fuel item tokens with
      | some (front, rest) =>
          (take? fuel (.many item) rest).map fun (back, rest) =>
            (front ++ back, rest)
      | none => some ([], tokens)
  | fuel + 1, .ahead item, tokens =>
      (take? fuel item tokens).map fun _ => ([], tokens)
  | fuel + 1, .notAhead item, tokens =>
      match take? fuel item tokens with
      | some _ => none
      | none => some ([], tokens)

/-- More than the depth to which patterns nest around a single token. -/
def patternDepth : Nat := 250

def Form.phrase? (form : Form) (tokens : List Token) : Option Phrase :=
  match Peg.take? (patternDepth * (tokens.length + 1)) (.form form) tokens with
  | some ([phrase], []) => some phrase
  | _ => none

/-- An embedded expression stands between parentheses of its own. -/
def embeddedText (expression : List Char) : String :=
  String.ofList ('(' :: expression ++ [')'])

/-- The tokens of a text in which all templates embed readable expressions. -/
def soundTokens? : Nat → String → Option (List Token)
  | 0, _ => none
  | fuel + 1, text => do
      let tokens ← tokens? text
      let readable (expression : List Char) : Bool :=
        match soundTokens? fuel (embeddedText expression) with
        | some tokens => (Form.paren.phrase? tokens).isSome
        | none => false
      let sound := tokens.all fun token =>
        match token.lexeme with
        | .template embedded => embedded.all readable
        | _ => true
      if sound then some tokens else none

def phrase? (text : String) : Option Phrase := do
  Form.listing.phrase? (← soundTokens? (text.length + 1) text)

end AccessControl.Matcher
