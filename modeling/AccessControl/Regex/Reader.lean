import AccessControl.Regex.Basic
import AccessControl.Text.Identifier
import AccessControl.Text.Integer

namespace AccessControl.Regex

inductive ReadFault
  | malformed
  | repeatTooLarge
  | conflictingFlags
deriving DecidableEq, Repr

/-- A character of a pattern, behind a backslash or not. -/
structure Mark where
  escaped : Bool
  character : Char
deriving DecidableEq, Repr

def Mark.plain (character : Char) : Mark := ⟨false, character⟩

def Mark.text (mark : Mark) : List Char :=
  if mark.escaped then ['\\', mark.character] else [mark.character]

/-- The marks of a pattern, and whether a lone backslash ends it. -/
def marks : List Char → List Mark × Bool
  | [] => ([], false)
  | ['\\'] => ([], true)
  | '\\' :: character :: rest =>
      let (others, broken) := marks rest
      (⟨true, character⟩ :: others, broken)
  | character :: rest =>
      let (others, broken) := marks rest
      (⟨false, character⟩ :: others, broken)

inductive Flag
  | ignoreCase
  | multiline
  | dotAll
  | verbose
  | ascii
  | unicode
  | template
deriving DecidableEq, Repr

def Flag.ofLetter? (letter : Char) : Option Flag :=
  match letter with
  | 'i' => some .ignoreCase
  | 'm' => some .multiline
  | 's' => some .dotAll
  | 'x' => some .verbose
  | 'a' => some .ascii
  | 'u' => some .unicode
  | 't' => some .template
  | _ => none

def Flag.choosesClasses (flag : Flag) : Bool :=
  flag == .ascii || flag == .unicode

abbrev Flags := List Flag

def Flags.has (flags : Flags) (flag : Flag) : Bool :=
  flags.contains flag

def Flags.combine (flags added removed : Flags) : Flags :=
  let kept := if added.any Flag.choosesClasses then
      flags.filter fun flag => !flag.choosesClasses
    else flags
  (kept ++ added).filter fun flag => !removed.contains flag

def Flags.folding (flags : Flags) : Folding :=
  if flags.has .ignoreCase then
    if flags.has .ascii then .ascii else .full
  else .exact

structure Progress where
  rest : List Mark
  broken : Bool
  flags : Flags
  widths : List (Option Width)
  names : List (String × Nat)
  lookbehind : Option Nat
  conditions : List Nat

abbrev Reading := StateT Progress (Except ReadFault)

namespace Reading

def fail : Reading α := throw .malformed

def checkEnd : Reading Unit := do
  let progress ← get
  if progress.rest.isEmpty ∧ progress.broken then fail

def peek : Reading (Option Mark) := return (← get).rest.head?

def next : Reading (Option Mark) := do
  let progress ← get
  match progress.rest with
  | [] => return none
  | mark :: rest =>
      set { progress with rest }
      checkEnd
      return some mark

def accept (character : Char) : Reading Bool := do
  if (← peek) == some (.plain character) then
    let _ ← next
    return true
  else return false

def takeWhile (holds : Char → Bool) : Nat → Reading (List Char)
  | 0 => return []
  | count + 1 => do
      match ← peek with
      | some ⟨false, character⟩ =>
          if holds character then
            let _ ← next
            return character :: (← takeWhile holds count)
          else return []
      | _ => return []

def remaining : Reading Nat := return (← get).rest.length

/-- The text up to a plain character, which is taken too; not an empty one. -/
def textUntil (terminator : Char) : Reading (List Char) := do
  let text ← collect ((← remaining) + 1)
  if text.isEmpty then fail else return text
where
  collect : Nat → Reading (List Char)
    | 0 => fail
    | fuel + 1 => do
        match ← next with
        | none => fail
        | some mark =>
            if mark = .plain terminator then return []
            else return mark.text ++ (← collect fuel)

def groupCount : Reading Nat := return (← get).widths.length + 1

def openGroup (name : Option String) : Reading Nat := do
  let index ← groupCount
  modify fun progress => { progress with widths := progress.widths ++ [none] }
  match name with
  | none => return index
  | some name =>
      if ((← get).names.lookup name).isSome then fail
      modify fun progress => { progress with names := (name, index) :: progress.names }
      return index

def closeGroup (index : Nat) (width : Width) : Reading Unit :=
  modify fun progress =>
    { progress with widths := progress.widths.set (index - 1) (some width) }

def closedWidth? (index : Nat) : Reading (Option Width) := do
  if index = 0 then return none
  else return ((← get).widths[index - 1]?).join

/-- Inside an expression that looks behind, only groups closed before it count. -/
def checkLookbehind (index : Nat) : Reading Unit := do
  match (← get).lookbehind with
  | none => return ()
  | some count =>
      if (← closedWidth? index).isNone ∨ count ≤ index then fail

def groupName (terminator : Char) : Reading String := do
  let name := String.ofList (← textUntil terminator)
  if Text.isIdentifier name then return name else fail

def groupReference (flags : Flags) (index : Nat) : Reading Regex := do
  match ← closedWidth? index with
  | none => fail
  | some width =>
      checkLookbehind index
      return .reference flags.folding index width

end Reading

open Reading

def hexDigitValue (character : Char) : Nat :=
  if Text.isAsciiDigit character then character.toNat - '0'.toNat
  else character.toLower.toNat - 'a'.toNat + 10

def isHexDigit (character : Char) : Bool :=
  Text.isAsciiDigit character || ('a' ≤ character.toLower && character.toLower ≤ 'f')

def isOctalDigit (character : Char) : Bool :=
  '0' ≤ character && character ≤ '7'

def baseValue (base : Nat) (digits : List Char) : Nat :=
  digits.foldl (fun value digit => value * base + hexDigitValue digit) 0

def controlEscape? : Char → Option Char
  | 'a' => some '\x07'
  | 'b' => some '\x08'
  | 'f' => some '\x0c'
  | 'n' => some '\n'
  | 'r' => some '\r'
  | 't' => some '\t'
  | 'v' => some '\x0b'
  | '\\' => some '\\'
  | _ => none

def classEscape? (flags : Flags) (letter : Char) : Option CharClass :=
  let named (name : ClassName) (negated : Bool) :=
    some ⟨name, negated, flags.has .ascii⟩
  match letter with
  | 'd' => named .digit false
  | 'D' => named .digit true
  | 's' => named .space false
  | 'S' => named .space true
  | 'w' => named .word false
  | 'W' => named .word true
  | _ => none

def hexCode (width : Nat) : Reading Nat := do
  let digits ← takeWhile isHexDigit width
  let code := baseValue 16 digits
  if digits.length < width ∨ 0x110000 ≤ code then fail else return code

def codeEscape? (letter : Char) : Reading (Option Nat) := do
  match letter with
  | 'x' => return some (← hexCode 2)
  | 'u' => return some (← hexCode 4)
  | 'U' => return some (← hexCode 8)
  | _ => return none

/-- An escaped character that stands for itself; letters never do. -/
def ownCode (character : Char) : Reading Nat :=
  if character.isAlpha then fail else return character.toNat

def octalCode (digits : List Char) : Reading Nat := do
  let code := baseValue 8 digits
  if 0o377 < code then fail else return code

def memberEscape (flags : Flags) (letter : Char) : Reading Member := do
  match controlEscape? letter, classEscape? flags letter with
  | some character, _ => return .single character.toNat
  | none, some charClass => return .named charClass
  | none, none =>
      match ← codeEscape? letter with
      | some code => return .single code
      | none =>
          if isOctalDigit letter then
            return .single (← octalCode (letter :: (← takeWhile isOctalDigit 2)))
          else if Text.isAsciiDigit letter then fail
          else return .single (← ownCode letter)

/-- A number that is an octal code if it has three octal digits, and the number
of a group otherwise. -/
def numberEscape (flags : Flags) (literal : Nat → Regex) (letter : Char) :
    Reading Regex := do
  let second ← takeWhile Text.isAsciiDigit 1
  let octal := isOctalDigit letter && !second.isEmpty && second.all isOctalDigit
  let third ← if octal then takeWhile isOctalDigit 1 else pure []
  let digits := letter :: second ++ third
  if third.isEmpty then groupReference flags (baseValue 10 digits)
  else return literal (← octalCode digits)

def anchorEscape? (flags : Flags) : Char → Option Anchor
  | 'A' => some .textStart
  | 'Z' => some .textEnd
  | 'b' => some (.wordBoundary (flags.has .ascii))
  | 'B' => some (.noWordBoundary (flags.has .ascii))
  | _ => none

def literalOf (flags : Flags) (code : Nat) : Regex :=
  .one (.literal flags.folding false code)

def escape (flags : Flags) (letter : Char) : Reading Regex := do
  match anchorEscape? flags letter with
  | some condition => return .anchor condition
  | none =>
      match classEscape? flags letter, controlEscape? letter with
      | some charClass, _ =>
          return .one (.oneOf flags.folding false [.named charClass])
      | none, some character => return literalOf flags character.toNat
      | none, none =>
          match ← codeEscape? letter with
          | some code => return literalOf flags code
          | none =>
              if letter = '0' then
                let digits ← takeWhile isOctalDigit 2
                return literalOf flags (baseValue 8 digits)
              else if Text.isAsciiDigit letter then
                numberEscape flags (literalOf flags) letter
              else return literalOf flags (← ownCode letter)

def memberOf (flags : Flags) (mark : Mark) : Reading Member :=
  if mark.escaped then memberEscape flags mark.character
  else return .single mark.character.toNat

/-- The members up to the closing bracket, which may be the first of them. -/
def members (flags : Flags) : Nat → List Member → Reading (List Member)
  | 0, _ => fail
  | fuel + 1, found => do
      let some mark ← next | fail
      if mark = .plain ']' ∧ !found.isEmpty then return found
      let first ← memberOf flags mark
      if ← accept '-' then
        let some mark ← next | fail
        if mark = .plain ']' then
          return found ++ [first, .single '-'.toNat]
        let last ← memberOf flags mark
        match first, last with
        | .single low, .single high =>
            if high < low then fail
            else members flags fuel (found ++ [.range low high])
        | _, _ => fail
      else members flags fuel (found ++ [first])

def charSet (flags : Flags) : Reading Regex := do
  let negated ← accept '^'
  let found := (← members flags ((← remaining) + 1) []).eraseDups
  match found with
  | [.single code] => return .one (.literal flags.folding negated code)
  | found => return .one (.oneOf flags.folding negated found)

structure Bounds where
  least : Nat
  most : Option Nat

def repeatLimit : Nat := 4294967295

/-- The bounds between braces, after the opening one. A brace without them is a
plain character. -/
def braceBounds? : Reading (Option Bounds) := do
  if (← peek) == some (.plain '\x7d') then return none
  let start ← get
  let low ← takeWhile Text.isAsciiDigit (← remaining)
  let ranged ← accept ','
  let high ← if ranged then takeWhile Text.isAsciiDigit (← remaining) else pure low
  if !(← accept '\x7d') then
    set start
    return none
  let least := baseValue 10 low
  let most := if high.isEmpty then none else some (baseValue 10 high)
  if repeatLimit ≤ least then throw .repeatTooLarge
  if most.any (repeatLimit ≤ ·) then throw .repeatTooLarge
  if most.any (· < least) then fail
  return some ⟨least, most⟩

def boundsOf? (sign : Char) : Reading (Option Bounds) := do
  match sign with
  | '?' => return some ⟨0, some 1⟩
  | '*' => return some ⟨0, none⟩
  | '+' => return some ⟨1, none⟩
  | _ => braceBounds?

def repeatMode : Reading RepeatMode := do
  if ← accept '?' then return .lazy
  else if ← accept '+' then return .possessive
  else return .greedy

/-- A part of a sequence. A group stands for itself, whatever it holds. -/
structure Part where
  regex : Regex
  grouped : Bool

def Part.repeatable (part : Part) : Bool :=
  part.grouped ||
    match part.regex with
    | .anchor _ => false
    | .repeated .. => false
    | _ => true

structure FlagChange where
  added : Flags
  removed : Flags

def flagOf (mark : Mark) : Reading Flag := do
  if mark.escaped then fail
  match Flag.ofLetter? mark.character with
  | some flag => return flag
  | none => fail

def addedFlags : Nat → Mark → Flags → Reading (Flags × Char)
  | 0, _, _ => fail
  | fuel + 1, mark, found => do
      let found := (← flagOf mark) :: found
      if found.contains .ascii ∧ found.contains .unicode then fail
      let some mark ← next | fail
      if mark = .plain ')' ∨ mark = .plain '-' ∨ mark = .plain ':' then
        return (found, mark.character)
      else addedFlags fuel mark found

def removedFlags : Nat → Flags → Reading Flags
  | 0, _ => fail
  | fuel + 1, found => do
      let some mark ← next | fail
      if mark = .plain ':' ∧ !found.isEmpty then return found
      let flag ← flagOf mark
      if flag.choosesClasses then fail
      removedFlags fuel (flag :: found)

/-- The flags of a group from their first letter on; flags for the whole
expression are kept, and leave no group. -/
def flagChange? (mark : Mark) : Reading (Option FlagChange) := do
  let fuel := (← remaining) + 1
  let (added, sign) ← if mark = .plain '-' then pure ([], '-')
    else addedFlags fuel mark []
  if sign = ')' then
    modify fun progress => { progress with flags := progress.flags ++ added }
    return none
  if added.contains .template then fail
  let removed ← if sign = '-' then removedFlags fuel [] else pure []
  if removed.contains .template ∨ added.any removed.contains then fail
  return some ⟨added, removed⟩

inductive GroupKind
  | capture (name : Option String)
  | plain (change : FlagChange)
  | atomic
  | ahead (negated : Bool)
  | behind (negated : Bool)
  | conditional (index : Nat)
  | reference (name : String)
  | comment
  | flagsOnly

def conditionIndex : Reading Nat := do
  let name ← textUntil ')'
  if Text.isIdentifier (String.ofList name) then
    match (← get).names.lookup (String.ofList name) with
    | some index => return index
    | none => fail
  else
    match Text.integer? name with
    | some number =>
        if number ≤ 0 then fail
        modify fun progress =>
          { progress with conditions := number.toNat :: progress.conditions }
        return number.toNat
    | none => fail

def skipComment : Nat → Reading Unit
  | 0 => fail
  | fuel + 1 => do
      let some mark ← next | fail
      if mark = .plain ')' then return () else skipComment fuel

def groupKind : Reading GroupKind := do
  if !(← accept '?') then return .capture none
  let some mark ← next | fail
  if mark.escaped then fail
  match mark.character with
  | 'P' =>
      if ← accept '<' then return .capture (some (← groupName '>'))
      else if ← accept '=' then return .reference (← groupName ')')
      else fail
  | ':' => return .plain ⟨[], []⟩
  | '#' => do
      skipComment ((← remaining) + 1)
      return .comment
  | '=' => return .ahead false
  | '!' => return .ahead true
  | '<' => do
      let some mark ← next | fail
      if mark = .plain '=' then return .behind false
      else if mark = .plain '!' then return .behind true
      else fail
  | '(' => return .conditional (← conditionIndex)
  | '>' => return .atomic
  | _ => do
      match ← flagChange? mark with
      | some change => return .plain change
      | none => return .flagsOnly

def closeParen : Reading Unit := do
  if !(← accept ')') then fail

def isVerboseBlank (character : Char) : Bool :=
  isAsciiSpace character

def skipLine : Nat → Reading Unit
  | 0 => return ()
  | fuel + 1 => do
      match ← next with
      | none => return ()
      | some mark => if mark = .plain '\n' then return () else skipLine fuel

def repeatLast (parts : List Part) (bounds : Bounds) : Reading (List Part) := do
  match parts with
  | last :: others =>
      if !last.repeatable then fail
      let mode ← repeatMode
      let regex := Regex.repeated mode bounds.least bounds.most last.regex
      return ⟨regex, false⟩ :: others
  | [] => fail

def anchorOf (flags : Flags) (character : Char) : Anchor :=
  if character = '^' then
    if flags.has .multiline then .lineStart else .textStart
  else if flags.has .multiline then .lineEnd else .finalLineEnd

def anyOf (flags : Flags) : Regex :=
  .one (if flags.has .dotAll then .any else .anyButBreak)

mutual
/-- Alternatives up to the end or a closing parenthesis. The flags of the whole
expression are known only behind its start. -/
def alternatives : Nat → Option Flags → Bool → Reading Regex
  | 0, _, _ => fail
  | fuel + 1, inner, first => do
      let flags := inner.getD (← get).flags
      let branch ← sequenceOf fuel flags first []
      if ← accept '|' then
        return .either branch (← alternatives fuel inner false)
      else return branch

/-- A sequence of parts, the last part first. `first` tells that flags of the
whole expression may stand here. -/
def sequenceOf : Nat → Flags → Bool → List Part → Reading Regex
  | 0, _, _, _ => fail
  | fuel + 1, flags, first, parts => do
      let finished := Regex.concat (parts.reverse.map (·.regex))
      let some mark ← peek | return finished
      if mark = .plain '|' ∨ mark = .plain ')' then return finished
      let _ ← next
      let proceed (regex : Regex) (grouped : Bool) : Reading Regex :=
        sequenceOf fuel flags first (⟨regex, grouped⟩ :: parts)
      if mark.escaped then proceed (← escape flags mark.character) false
      else
        let character := mark.character
        if flags.has .verbose ∧ isVerboseBlank character then
          sequenceOf fuel flags first parts
        else if flags.has .verbose ∧ character = '#' then
          skipLine ((← remaining) + 1)
          sequenceOf fuel flags first parts
        else match character with
          | '[' => proceed (← charSet flags) false
          | '.' => proceed (anyOf flags) false
          | '^' => proceed (.anchor (anchorOf flags '^')) false
          | '$' => proceed (.anchor (anchorOf flags '$')) false
          | '(' => groupOf fuel flags first parts
          | character =>
              if ['?', '*', '+', '\x7b'].contains character then
                match ← boundsOf? character with
                | some bounds =>
                    sequenceOf fuel flags first (← repeatLast parts bounds)
                | none => proceed (literalOf flags character.toNat) false
              else proceed (literalOf flags character.toNat) false

def groupOf : Nat → Flags → Bool → List Part → Reading Regex
  | 0, _, _, _ => fail
  | fuel + 1, flags, first, parts => do
      let proceed (regex : Regex) : Reading Regex :=
        sequenceOf fuel flags first (⟨regex, true⟩ :: parts)
      match ← groupKind with
      | .comment => sequenceOf fuel flags first parts
      | .flagsOnly =>
          if !first ∨ !parts.isEmpty then fail
          sequenceOf fuel (← get).flags first parts
      | .reference name =>
          match (← get).names.lookup name with
          | some index => proceed (← groupReference flags index)
          | none => fail
      | .capture name => do
          let index ← openGroup name
          let body ← alternatives fuel (some flags) false
          closeParen
          closeGroup index body.width
          proceed (.group index body)
      | .plain change => do
          let inner := flags.combine change.added change.removed
          let body ← alternatives fuel (some inner) false
          closeParen
          proceed body
      | .atomic => do
          let body ← alternatives fuel (some flags) false
          closeParen
          proceed (.atomic body)
      | .ahead negated => do
          let body ← alternatives fuel (some flags) false
          closeParen
          proceed (.ahead negated body)
      | .behind negated => do
          let outer := (← get).lookbehind
          let count ← groupCount
          modify fun progress =>
            { progress with lookbehind := some (outer.getD count) }
          let body ← alternatives fuel (some flags) false
          modify fun progress => { progress with lookbehind := outer }
          closeParen
          proceed (.behind negated body)
      | .conditional index => do
          checkLookbehind index
          let present ← sequenceOf fuel flags false []
          let absent ← if ← accept '|' then
              let absent ← sequenceOf fuel flags false []
              if (← peek) == some (.plain '|') then fail
              pure absent
            else pure .empty
          closeParen
          proceed (.conditional index present absent)
end

/-- Reads a whole pattern, checks its flags, and then what is left to check. -/
def wholePattern (size : Nat) : Reading Regex := do
  checkEnd
  let regex ← alternatives (3 * (size + 2)) none true
  let progress ← get
  if progress.flags.has .ascii ∧ progress.flags.has .unicode then
    throw .conflictingFlags
  if !progress.rest.isEmpty then fail
  let count ← groupCount
  if progress.conditions.any (count ≤ ·) then fail
  if !regex.looksBehindFixed then fail
  if progress.flags.has .template ∧ regex.hasRepetition then fail
  return regex

def read (pattern : String) : Except ReadFault Regex :=
  let (rest, broken) := marks pattern.toList
  let progress : Progress :=
    { rest, broken, flags := [], widths := [], names := [], lookbehind := none,
      conditions := [] }
  (wholePattern rest.length progress).map (·.1)

end AccessControl.Regex
