import AccessControl.Matcher.Template
import AccessControl.Text.Identifier

namespace AccessControl.Matcher

/-! Tokens of a matcher text, each with the column at which it starts. Columns
count the encoded bytes of the line before the token. -/

inductive Lexeme
  | word (text : String)
  | numeral (value : Numeral)
  | text (value : String)
  | bytes (value : List Nat)
  | template (embedded : List (List Char))
  | mark (text : String)
deriving DecidableEq, Repr

structure Token where
  lexeme : Lexeme
  column : Nat
deriving DecidableEq, Repr

def columnAfter (column : Nat) (character : Char) : Nat :=
  if character = '\n' then 0 else column + character.utf8Size

def columnBehind (column : Nat) (consumed : List Char) : Nat :=
  consumed.foldl columnAfter column

def unifyLines : List Char → List Char
  | [] => []
  | '\r' :: '\n' :: rest => '\n' :: unifyLines rest
  | '\r' :: rest => '\n' :: unifyLines rest
  | character :: rest => character :: unifyLines rest

structure LiteralMark where
  raw : Bool
  bytes : Bool
  template : Bool

def LiteralMark.ofLetters? : List Char → Option LiteralMark
  | [] | ['u'] => some ⟨false, false, false⟩
  | ['r'] => some ⟨true, false, false⟩
  | ['b'] => some ⟨false, true, false⟩
  | ['b', 'r'] | ['r', 'b'] => some ⟨true, true, false⟩
  | ['f'] => some ⟨false, false, true⟩
  | ['f', 'r'] | ['r', 'f'] => some ⟨true, false, true⟩
  | _ => none

def shortBody? (quote : Char) : List Char → Option (List Char × List Char)
  | [] => none
  | '\\' :: escaped :: rest =>
      (shortBody? quote rest).map fun (body, rest) =>
        ('\\' :: escaped :: body, rest)
  | character :: rest =>
      if character = quote then some ([], rest)
      else if character = '\n' then none
      else (shortBody? quote rest).map fun (body, rest) => (character :: body, rest)

def longBody? (quote : Char) : List Char → Option (List Char × List Char)
  | [] => none
  | '\\' :: escaped :: rest =>
      (longBody? quote rest).map fun (body, rest) =>
        ('\\' :: escaped :: body, rest)
  | character :: rest =>
      if character = quote ∧ [quote, quote].isPrefixOf rest then
        some ([], rest.drop 2)
      else (longBody? quote rest).map fun (body, rest) => (character :: body, rest)

def body? (text : List Char) : Option (List Char × List Char) :=
  match text with
  | quote :: rest =>
      if [quote, quote].isPrefixOf rest then longBody? quote (rest.drop 2)
      else shortBody? quote rest
  | [] => none

def isAscii (character : Char) : Bool :=
  character.toNat < 128

def LiteralMark.lexeme? (mark : LiteralMark) (body : List Char) :
    Option Lexeme :=
  if mark.template then
    (Template.embedded? mark.raw body).map .template
  else if mark.bytes then
    if !body.all isAscii then none
    else if mark.raw then some (.bytes (body.map Char.toNat))
    else (unescapeBytes body).map .bytes
  else if mark.raw then some (.text (String.ofList body))
  else (unescape body).map fun text => .text (String.ofList text)

def isQuote (character : Char) : Bool :=
  character = '\'' || character = '"'

def literalMark? (text : List Char) : Option (LiteralMark × List Char) :=
  let letters := (text.take 3).takeWhile fun character => !isQuote character
  let rest := text.drop letters.length
  if rest.head?.any isQuote then
    (LiteralMark.ofLetters? (letters.map Char.toLower)).map (·, rest)
  else none

def word? (text : List Char) : Option (Lexeme × List Char) :=
  let word := text.takeWhile continuesWord
  let rest := text.drop word.length
  let name := String.ofList word
  if word.all isAscii || Text.isIdentifier name then some (.word name, rest)
  else none

/-- Marks of several characters, the longer ones first. -/
def longMarks : List String :=
  ["...", "**=", "//=", "<<=", ">>=", "!=", "%=", "&=", "**", "*=", "+=", "-=",
    "->", "//", "/=", ":=", "<<", "<=", "<>", "==", ">=", ">>", "@=", "^=", "|="]

def shortMarks : List Char :=
  ['%', '&', '(', ')', '*', '+', ',', '-', '.', '/', ':', ';', '<', '=', '>',
    '@', '[', ']', '^', '\x7b', '|', '\x7d', '~']

def mark? (text : List Char) : Option (String × List Char) :=
  match longMarks.find? fun mark => mark.toList.isPrefixOf text with
  | some mark => some (mark, text.drop mark.length)
  | none =>
      match text with
      | character :: rest =>
          if shortMarks.contains character then some (character.toString, rest)
          else none
      | [] => none

/-- The token at the start of a text that does not start with a space, a line
break or a comment. -/
def lexeme? (text : List Char) : Option (Lexeme × List Char) :=
  match literalMark? text with
  | some (mark, rest) => do
      let (body, rest) ← body? rest
      (mark.lexeme? body).map (·, rest)
  | none =>
      match text with
      | [] => none
      | first :: rest =>
          if Text.isAsciiDigit first
              ∨ first = '.' ∧ rest.head?.any Text.isAsciiDigit then
            (numeral? text).map fun (value, rest) => (.numeral value, rest)
          else if continuesWord first then word? text
          else (mark? text).map fun (mark, rest) => (.mark mark, rest)

/-! Lines. A text is one logical line, with blank lines and comments around it;
brackets and hidden line breaks carry it on over several lines. -/

def isLineSpace (character : Char) : Bool :=
  character = ' ' || character = '\t' || character = '\x0c'

def afterComment (text : List Char) : List Char :=
  text.dropWhile (· != '\n')

/-- The text of the next line after a hidden line break; there must be one. -/
def afterHiddenBreak? : List Char → Option (List Char)
  | '\n' :: character :: rest => some (character :: rest)
  | _ => none

/-- The text from its first line with a token on. That line must not be
indented; `hidden` is the indentation before the first hidden line break. -/
def skipBlankLines? (indent hidden : Nat) : Nat → List Char → Option (List Char)
  | 0, _ => none
  | _, [] => some []
  | fuel + 1, character :: rest =>
      if character = ' ' then skipBlankLines? (indent + 1) hidden fuel rest
      else if character = '\t' then
        skipBlankLines? ((indent / 8 + 1) * 8) hidden fuel rest
      else if character = '\x0c' then skipBlankLines? 0 hidden fuel rest
      else if character = '\\' then do
        let next ← afterHiddenBreak? rest
        skipBlankLines? indent (if hidden = 0 then indent else hidden) fuel next
      else if character = '#' then
        skipBlankLines? indent hidden fuel (afterComment rest)
      else if character = '\n' then skipBlankLines? 0 0 fuel rest
      else if (if hidden = 0 then indent else hidden) = 0 then
        some (character :: rest)
      else none

def isEmptyTail : Nat → List Char → Bool
  | 0, _ => false
  | _, [] => true
  | fuel + 1, character :: rest =>
      if isLineSpace character ∨ character = '\n' then isEmptyTail fuel rest
      else if character = '#' then isEmptyTail fuel (afterComment rest)
      else if character = '\\' then
        match afterHiddenBreak? rest with
        | some next => isEmptyTail fuel next
        | none => false
      else false

def brackets? (outer : List String) (mark : String) : Option (List String) :=
  if mark = "(" ∨ mark = "[" ∨ mark = "\x7b" then
    if Template.nestingLimit ≤ outer.length then none else some (mark :: outer)
  else if mark = ")" ∨ mark = "]" ∨ mark = "\x7d" then
    match outer with
    | bracket :: enclosing =>
        if bracket ++ mark = "()" ∨ bracket ++ mark = "[]"
            ∨ bracket ++ mark = "\x7b\x7d" then some enclosing
        else none
    | [] => none
  else some outer

def Lexeme.brackets? (outer : List String) : Lexeme → Option (List String)
  | .mark sign => Matcher.brackets? outer sign
  | _ => some outer

def tokensFrom? (outer : List String) (column : Nat) :
    Nat → List Char → Option (List Token)
  | 0, _ => none
  | _, [] => if outer.isEmpty then some [] else none
  | fuel + 1, character :: rest =>
      if isLineSpace character then tokensFrom? outer (column + 1) fuel rest
      else if character = '#' then
        tokensFrom? outer column fuel (afterComment rest)
      else if character = '\n' then
        if outer.isEmpty then
          if isEmptyTail (rest.length + 1) rest then some [] else none
        else tokensFrom? outer 0 fuel rest
      else if character = '\\' then do
        let next ← afterHiddenBreak? rest
        tokensFrom? outer 0 fuel next
      else do
        let text := character :: rest
        let (lexeme, after) ← lexeme? text
        let inner ← lexeme.brackets? outer
        let consumed := text.take (text.length - after.length)
        let tokens ←
          tokensFrom? inner (columnBehind column consumed) fuel after
        some (⟨lexeme, column⟩ :: tokens)

def startColumn (text after : List Char) : Nat :=
  columnBehind 0 (text.take (text.length - after.length))

def tokens? (text : String) : Option (List Token) := do
  let lines := unifyLines text.toList
  let start ← skipBlankLines? 0 0 (lines.length + 1) lines
  tokensFrom? [] (startColumn lines start) (start.length + 1) start

end AccessControl.Matcher
