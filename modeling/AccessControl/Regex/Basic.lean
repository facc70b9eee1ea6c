import AccessControl.Regex.CharTest

namespace AccessControl

/-! Regular expressions and their matching by backtracking: of several ways to
match, the first that lets the rest match is taken. -/

namespace Regex

structure Width where
  least : Nat
  greatest : Nat
deriving DecidableEq, Repr

inductive Anchor
  | textStart
  | lineStart
  | textEnd
  | finalLineEnd
  | lineEnd
  | wordBoundary (ascii : Bool)
  | noWordBoundary (ascii : Bool)
deriving DecidableEq, Repr

inductive RepeatMode
  | greedy
  | lazy
  | possessive
deriving DecidableEq, Repr

end Regex

open Regex in
inductive Regex
  | empty
  | one (test : CharTest)
  | sequence (first second : Regex)
  | either (first second : Regex)
  | repeated (mode : RepeatMode) (least : Nat) (most : Option Nat)
      (body : Regex)
  | group (index : Nat) (body : Regex)
  | reference (folding : Folding) (index : Nat) (width : Width)
  | anchor (anchor : Anchor)
  | ahead (negated : Bool) (body : Regex)
  | behind (negated : Bool) (body : Regex)
  | atomic (body : Regex)
  | conditional (index : Nat) (present absent : Regex)
deriving Repr

namespace Regex

def widthLimit : Nat := Nat.pow 2 64

private def clamped (width : Width) : Width :=
  ⟨min width.least widthLimit, min width.greatest widthLimit⟩

def Width.add (first second : Width) : Width :=
  clamped ⟨first.least + second.least, first.greatest + second.greatest⟩

def Width.join (first second : Width) : Width :=
  ⟨min first.least second.least, max first.greatest second.greatest⟩

def Width.times (width : Width) (least : Nat) (most : Option Nat) : Width :=
  clamped {
    least := width.least * least
    greatest := match most with
      | some most => width.greatest * most
      | none => if width.greatest = 0 then 0 else widthLimit }

def width : Regex → Width
  | .empty => ⟨0, 0⟩
  | .one _ => ⟨1, 1⟩
  | .sequence first second => (width first).add (width second)
  | .either first second => (width first).join (width second)
  | .repeated _ least most body => (width body).times least most
  | .group _ body => width body
  | .reference _ _ own => own
  | .anchor _ => ⟨0, 0⟩
  | .ahead .. => ⟨0, 0⟩
  | .behind .. => ⟨0, 0⟩
  | .atomic body => width body
  | .conditional _ present absent => (width present).join (width absent)

def looksBehindFixed : Regex → Bool
  | .empty | .one _ | .reference .. | .anchor _ => true
  | .sequence first second | .either first second
  | .conditional _ first second =>
      looksBehindFixed first && looksBehindFixed second
  | .repeated _ _ _ body | .group _ body | .ahead _ body | .atomic body =>
      looksBehindFixed body
  | .behind _ body =>
      body.width.least == body.width.greatest
        && body.width.least < Nat.pow 2 32 && looksBehindFixed body

def hasRepetition : Regex → Bool
  | .empty | .one _ | .reference .. | .anchor _ => false
  | .sequence first second | .either first second
  | .conditional _ first second => hasRepetition first || hasRepetition second
  | .repeated .. => true
  | .group _ body | .ahead _ body | .behind _ body | .atomic body =>
      hasRepetition body

/-- The text before the place, last character first, the text after it, and the
texts of the groups that have matched. -/
structure Cursor where
  before : List Char
  after : List Char
  groups : List (Nat × List Char)

namespace Cursor

def start (text : List Char) : Cursor :=
  ⟨[], text, []⟩

def position (cursor : Cursor) : Nat :=
  cursor.before.length

def advance? (cursor : Cursor) : Option (Char × Cursor) :=
  match cursor.after with
  | [] => none
  | character :: rest =>
      some (character,
        { cursor with before := character :: cursor.before, after := rest })

def back? : Nat → Cursor → Option Cursor
  | 0, cursor => some cursor
  | count + 1, cursor =>
      match cursor.before with
      | [] => none
      | character :: rest =>
          back? count
            { cursor with before := rest, after := character :: cursor.after }

def since (cursor earlier : Cursor) : List Char :=
  (cursor.before.take (cursor.position - earlier.position)).reverse

def withGroup (cursor : Cursor) (index : Nat) (text : List Char) : Cursor :=
  { cursor with
    groups := (index, text) :: cursor.groups.filter (·.1 != index) }

end Cursor

def isWordOf (ascii : Bool) (character : Char) : Bool :=
  if ascii then Text.isAsciiWord character else Text.isWord character

private def atBoundary (ascii : Bool) (cursor : Cursor) : Bool :=
  cursor.before.head?.any (isWordOf ascii)
    != cursor.after.head?.any (isWordOf ascii)

/-- There is no place in an empty text that counts as a boundary of a word, or
as none. -/
def Anchor.holds (cursor : Cursor) : Anchor → Bool
  | .textStart => cursor.before.isEmpty
  | .lineStart => cursor.before.isEmpty || cursor.before.head? == some '\n'
  | .textEnd => cursor.after.isEmpty
  | .finalLineEnd => cursor.after.isEmpty || cursor.after == ['\n']
  | .lineEnd => cursor.after.isEmpty || cursor.after.head? == some '\n'
  | .wordBoundary ascii => atBoundary ascii cursor
  | .noWordBoundary ascii =>
      !(cursor.before.isEmpty && cursor.after.isEmpty)
        && !atBoundary ascii cursor

def repeatText? (folding : Folding) : List Char → Cursor → Option Cursor
  | [], cursor => some cursor
  | expected :: rest, cursor =>
      match cursor.advance? with
      | some (found, after) =>
          if folding.lower expected.toNat == folding.lower found.toNat then
            repeatText? folding rest after
          else none
      | none => none

/-! Matching. The continuation matches what comes after the expression. -/

abbrev Continuation := Cursor → Option Cursor

abbrev Step := Cursor → Continuation → Option Cursor

def times : Nat → Step → Step
  | 0, _, cursor, next => next cursor
  | count + 1, step, cursor, next =>
      step cursor fun cursor => times count step cursor next

/-- Whether a further repetition may start: not after the most repetitions, and
not where the last one started. -/
def mayRepeat (most : Option Nat) (last : Option Nat) (cursor : Cursor) : Bool :=
  most != some 0 && last != some cursor.position

def greedyLoop (step : Step) :
    Nat → Option Nat → Option Nat → Step
  | 0, _, _, cursor, next => next cursor
  | fuel + 1, most, last, cursor, next =>
      if mayRepeat most last cursor then
        (step cursor fun after =>
          greedyLoop step fuel (most.map (· - 1)) (some cursor.position) after
            next) <|> next cursor
      else next cursor

def lazyLoop (step : Step) :
    Nat → Option Nat → Option Nat → Step
  | 0, _, _, cursor, next => next cursor
  | fuel + 1, most, last, cursor, next =>
      next cursor <|>
        if mayRepeat most last cursor then
          step cursor fun after =>
            lazyLoop step fuel (most.map (· - 1)) (some cursor.position) after
              next
        else none

def possessiveLoop (step : Step) :
    Nat → Option Nat → Option Nat → Cursor → Cursor
  | 0, _, _, cursor => cursor
  | fuel + 1, most, last, cursor =>
      if mayRepeat most last cursor then
        match step cursor some with
        | some after =>
            possessiveLoop step fuel (most.map (· - 1)) (some cursor.position) after
        | none => cursor
      else cursor

def possessiveTimes (step : Step) : Nat → Cursor → Option Cursor
  | 0, cursor => some cursor
  | count + 1, cursor =>
      match step cursor some with
      | some after => possessiveTimes step count after
      | none => none

/-- More repetitions than can each take a character. -/
def loopBound (cursor : Cursor) : Nat :=
  cursor.after.length + 2

def repeatStep (mode : RepeatMode) (least : Nat) (most : Option Nat)
    (step : Step) : Step := fun cursor next =>
  let further := most.map (· - least)
  match mode with
  | .greedy =>
      times least step cursor fun cursor =>
        greedyLoop step (loopBound cursor) further none cursor next
  | .lazy =>
      times least step cursor fun cursor =>
        lazyLoop step (loopBound cursor) further none cursor next
  | .possessive =>
      match possessiveTimes step least cursor with
      | some cursor =>
          next (possessiveLoop step (loopBound cursor) further none cursor)
      | none => none

def run : Regex → Step
  | .empty, cursor, next => next cursor
  | .one test, cursor, next =>
      match cursor.advance? with
      | some (character, after) =>
          if test.holds character then next after else none
      | none => none
  | .sequence first second, cursor, next =>
      run first cursor fun cursor => run second cursor next
  | .either first second, cursor, next =>
      run first cursor next <|> run second cursor next
  | .repeated mode least most body, cursor, next =>
      repeatStep mode least most (run body) cursor next
  | .group index body, cursor, next =>
      run body cursor fun finish =>
        next (finish.withGroup index (finish.since cursor))
  | .reference folding index _, cursor, next =>
      match cursor.groups.lookup index with
      | some text => (repeatText? folding text cursor).bind next
      | none => none
  | .anchor condition, cursor, next =>
      if condition.holds cursor then next cursor else none
  | .ahead negated body, cursor, next =>
      match run body cursor some with
      | some found =>
          if negated then none
          else next { cursor with groups := found.groups }
      | none => if negated then next cursor else none
  | .behind negated body, cursor, next =>
      match (cursor.back? body.width.least).bind fun back => run body back some with
      | some found =>
          if negated then none
          else next { cursor with groups := found.groups }
      | none => if negated then next cursor else none
  | .atomic body, cursor, next =>
      (run body cursor some).bind next
  | .conditional index present absent, cursor, next =>
      if (cursor.groups.lookup index).isSome then run present cursor next
      else run absent cursor next

def matchesStart (regex : Regex) (text : List Char) : Bool :=
  (regex.run (Cursor.start text) some).isSome

def foundFrom (regex : Regex) (before : List Char) : List Char → Bool
  | [] => (regex.run ⟨before, [], []⟩ some).isSome
  | text@(character :: rest) =>
      (regex.run ⟨before, text, []⟩ some).isSome
        || foundFrom regex (character :: before) rest

def foundIn (regex : Regex) (text : List Char) : Bool :=
  regex.foundFrom [] text

def concat : List Regex → Regex
  | [] => .empty
  | [only] => only
  | first :: rest => .sequence first (concat rest)

end Regex

end AccessControl
