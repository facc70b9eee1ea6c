import AccessControl.Matcher.Literal

namespace AccessControl.Matcher.Template

/-! Format templates: texts with embedded expressions between braces. A doubled
brace stands for itself; an expression may be followed by a sign of equality,
a conversion and a format, and the format may embed expressions again. -/

/-- A run of plain text. `resumed` tells that it ended in a doubled brace. -/
structure Plain where
  text : List Char
  resumed : Bool
  rest : List Char

private def Plain.cons (front : List Char) (plain : Plain) : Plain :=
  { plain with text := front ++ plain.text }

private def isBrace (character : Char) : Bool :=
  character = '\x7b' || character = '\x7d'

/-- Ends plain text at a brace, with the text that came right before it. -/
private def atBrace (top : Bool) (before : List Char) (brace : Char)
    (rest : List Char) : Option Plain :=
  if top ∧ rest.head? = some brace then
    some ⟨before ++ [brace], true, rest.drop 1⟩
  else if top ∧ brace = '\x7d' then none
  else some ⟨before, false, brace :: rest⟩

/-- The plain text up to the next brace that does not stand for itself. -/
def plain? (raw top : Bool) : List Char → Option Plain
  | [] => some ⟨[], false, []⟩
  | '\\' :: escaped :: rest =>
      if raw then
        if isBrace escaped then atBrace top ['\\'] escaped rest
        else (plain? raw top (escaped :: rest)).map (Plain.cons ['\\'])
      else if isBrace escaped then atBrace top ['\\'] escaped rest
      else (plain? raw top rest).map (Plain.cons ['\\', escaped])
  | character :: rest =>
      if isBrace character then atBrace top [] character rest
      else (plain? raw top rest).map (Plain.cons [character])

/-! Expressions end at a sign that is not inside brackets or quotes. -/

structure Quote where
  character : Char
  triple : Bool

private def opening (closing : Char) : Char :=
  if closing = ')' then '(' else if closing = ']' then '[' else '\x7b'

private def opens (character : Char) : Bool :=
  character = '(' || character = '[' || character = '\x7b'

private def closes (character : Char) : Bool :=
  character = ')' || character = ']' || character = '\x7d'

/-- Signs that end an expression, unless a sign of equality follows them. -/
private def ends (character : Char) : Bool :=
  character = '!' || character = ':' || character = '\x7d' || character = '='
    || character = '<' || character = '>'

private def pairs (character : Char) : Bool :=
  character = '!' || character = '=' || character = '<' || character = '>'

private def tripled (character : Char) (rest : List Char) : Bool :=
  [character, character].isPrefixOf rest

def nestingLimit : Nat := 200

def expression? (quote : Option Quote) (brackets : List Char) :
    Nat → List Char → Option (List Char × List Char)
  | 0, _ => none
  | _, [] => none
  | fuel + 1, character :: rest =>
      let keep (taken : List Char) (found : Option (List Char × List Char)) :=
        found.map fun (expression, rest) => (taken ++ expression, rest)
      if character = '\\' then none
      else match quote with
        | some around =>
            if character ≠ around.character then
              keep [character] (expression? quote brackets fuel rest)
            else if !around.triple then
              keep [character] (expression? none brackets fuel rest)
            else if tripled character rest then
              keep [character, character, character]
                (expression? none brackets fuel (rest.drop 2))
            else keep [character] (expression? quote brackets fuel rest)
        | none =>
            if character = '\'' ∨ character = '"' then
              if tripled character rest then
                keep [character, character, character]
                  (expression? (some ⟨character, true⟩) brackets fuel (rest.drop 2))
              else
                keep [character]
                  (expression? (some ⟨character, false⟩) brackets fuel rest)
            else if opens character then
              if nestingLimit ≤ brackets.length then none
              else
                keep [character] (expression? none (character :: brackets) fuel rest)
            else if character = '#' then none
            else if brackets.isEmpty ∧ ends character then
              if pairs character ∧ rest.head? = some '=' then
                keep [character, '='] (expression? none brackets fuel (rest.drop 1))
              else if character = '<' ∨ character = '>' then
                keep [character] (expression? none brackets fuel rest)
              else some ([], character :: rest)
            else if closes character then
              match brackets with
              | bracket :: outer =>
                  if bracket = opening character then
                    keep [character] (expression? none outer fuel rest)
                  else none
              | [] => none
            else keep [character] (expression? none brackets fuel rest)

private def isFiller (character : Char) : Bool :=
  character = ' ' || character = '\t' || character = '\n' || character = '\x0c'

private def isAsciiBlank (character : Char) : Bool :=
  isFiller character || character = '\x0b' || character = '\r'

private def afterEquality (text : List Char) : List Char :=
  match text with
  | '=' :: rest => rest.dropWhile isAsciiBlank
  | text => text

/-- Skips a conversion, which is one of three letters. -/
def afterConversion? : List Char → Option (List Char)
  | '!' :: letter :: next :: rest =>
      if (letter = 's' ∨ letter = 'r' ∨ letter = 'a')
          ∧ (next = '\x7d' ∨ next = ':') then some (next :: rest)
      else none
  | '!' :: _ => none
  | text => some text

def levelLimit : Nat := 2

/-- The expressions embedded in the pieces of a template, with the rest after
them; a format ends at its closing brace. -/
def pieces? (raw : Bool) (level : Nat) :
    Nat → List Char → Option (List (List Char) × List Char)
  | 0, _ => none
  | fuel + 1, text => do
      let plain ← plain? raw (level == 0) text
      if !raw then let _ ← unescape plain.text
      if plain.resumed then pieces? raw level fuel plain.rest
      else match plain.rest with
        | '\x7b' :: rest => do
            if levelLimit ≤ level then none
            let (expression, rest) ← expression? none [] (rest.length + 1) rest
            if expression.all isFiller then none
            let rest ← afterConversion? (afterEquality rest)
            let (nested, rest) ← match rest with
              | ':' :: [] => none
              | ':' :: rest => pieces? raw (level + 1) fuel rest
              | rest => some ([], rest)
            match rest with
            | '\x7d' :: rest => do
                let (others, rest) ← pieces? raw level fuel rest
                some (expression :: nested ++ others, rest)
            | _ => none
        | rest => some ([], rest)

def embedded? (raw : Bool) (body : List Char) : Option (List (List Char)) :=
  match pieces? raw 0 (body.length + 1) body with
  | some (expressions, []) => some expressions
  | _ => none

end AccessControl.Matcher.Template
