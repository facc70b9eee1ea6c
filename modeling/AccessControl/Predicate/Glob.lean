import AccessControl.Regex.CharTest

namespace AccessControl

namespace Glob

open Regex (CharTest Member)

inductive Piece
  | star
  | one (test : CharTest)
deriving DecidableEq, Repr

/-- A character of a set, or a dash between the ends of a range. -/
inductive Symbol
  | character (value : Char)
  | dash
deriving DecidableEq, Repr

/-- The parts of a set between the dashes that may stand for ranges. Such a dash
has `gap` characters or more in front of it. -/
def chunks (gap : Nat) (done : List Char) : List Char → List (List Char)
  | [] => [done.reverse]
  | character :: rest =>
      if character = '-' ∧ gap = 0 then done.reverse :: chunks 2 [] rest
      else chunks (gap - 1) (character :: done) rest

/-- A dash at the end of the set stands for itself. -/
def closed : List (List Char) → List (List Char)
  | [] => []
  | [only] => [only]
  | [first, []] => [first ++ ['-']]
  | first :: rest => first :: closed rest

/-- Ranges whose ends are in the wrong order vanish, from the last one on. -/
def withoutEmptyRanges : List (List Char) → List (List Char)
  | [] => []
  | chunk :: rest =>
      match withoutEmptyRanges rest with
      | [] => [chunk]
      | next :: others =>
          match chunk.getLast?, next with
          | some last, first :: remaining =>
              if first < last then (chunk.dropLast ++ remaining) :: others
              else chunk :: next :: others
          | _, _ => chunk :: next :: others

def symbols : List (List Char) → List Symbol
  | [] => []
  | [only] => only.map .character
  | chunk :: rest => chunk.map .character ++ .dash :: symbols rest

def setSymbols (set : List Char) : List Symbol :=
  if set.contains '-' then
    let gap := if set.head? = some '!' then 2 else 1
    symbols (withoutEmptyRanges (closed (chunks gap [] set)))
  else set.map .character

def members : List Symbol → List Member
  | [] => []
  | .character first :: .dash :: .character last :: rest =>
      .range first.toNat last.toNat :: members rest
  | .character single :: rest => .single single.toNat :: members rest
  | .dash :: rest => .single '-'.toNat :: members rest

/-- The test of a set; an exclamation mark in front negates it. -/
def setTest (set : List Char) : CharTest :=
  match setSymbols set with
  | [] => .oneOf .exact false []
  | [.character '!'] => .any
  | .character '!' :: rest => .oneOf .exact true (members rest)
  | all => .oneOf .exact false (members all)

/-- The length of a set behind its opening bracket; a closing bracket at its
start is a member. -/
def setLength? (text : List Char) : Option Nat :=
  let mark := if text.head? = some '!' then 1 else 0
  let skipped := if (text.drop mark).head? = some ']' then mark + 1 else mark
  let length := skipped + ((text.drop skipped).takeWhile (· != ']')).length
  if length < text.length then some length else none

/-- The pieces of a pattern; the first characters, which belong to a set that
has been read, are left out. -/
def pieces (skipped : Nat) : List Char → List Piece
  | [] => []
  | character :: rest =>
      match skipped with
      | skipped + 1 => pieces skipped rest
      | 0 =>
          match character with
          | '*' => .star :: pieces 0 rest
          | '?' => .one .any :: pieces 0 rest
          | '[' =>
              match setLength? rest with
              | some length =>
                  .one (setTest (rest.take length)) :: pieces (length + 1) rest
              | none => .one (.literal .exact false character.toNat) :: pieces 0 rest
          | other => .one (.literal .exact false other.toNat) :: pieces 0 rest

/-! Matching. Between stars, the first place that fits is as good as any. -/

def segments : List Piece → List (List CharTest)
  | [] => [[]]
  | .star :: rest => [] :: segments rest
  | .one test :: rest =>
      match segments rest with
      | [] => [[test]]
      | segment :: others => (test :: segment) :: others

def take? : List CharTest → List Char → Option (List Char)
  | [], text => some text
  | test :: tests, character :: rest =>
      if test.holds character then take? tests rest else none
  | _ :: _, [] => none

def skipTo? (segment : List CharTest) : List Char → Option (List Char)
  | [] => take? segment []
  | text@(_ :: rest) => (take? segment text).orElse fun _ => skipTo? segment rest

def endsWith (segment : List CharTest) (text : List Char) : Bool :=
  segment.length ≤ text.length
    && take? segment (text.drop (text.length - segment.length)) == some []

def matchesStarred : List (List CharTest) → List Char → Bool
  | [], text => text.isEmpty
  | [last], text => endsWith last text
  | segment :: others, text => (skipTo? segment text).any (matchesStarred others)

end Glob

def globMatch (text pattern : String) : Bool :=
  match Glob.segments (Glob.pieces 0 pattern.toList) with
  | [] => false
  | first :: others =>
      (Glob.take? first text.toList).any (Glob.matchesStarred others)

end AccessControl
