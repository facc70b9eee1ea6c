import AccessControl.Fault
import AccessControl.Regex.Reader

namespace AccessControl

/-! Patterns of key paths: a star stands for any rest, and a named parameter for
one segment that is not empty. -/

def regexOf (pattern : String) : Answer Regex :=
  match Regex.read pattern with
  | .ok regex => .ok regex
  | .error .malformed => .error (.eval (.malformedPattern pattern))
  | .error .repeatTooLarge => .error (.trap .repeatTooLarge)
  | .error .conflictingFlags => .error (.trap .conflictingFlags)

namespace KeyPath

/-- Whether the key starts with all that the pattern has before its first star;
without a star both are the same. -/
def matchesStem (key pattern : List Char) : Bool :=
  if pattern.contains '*' then (pattern.takeWhile (· != '*')).isPrefixOf key
  else key == pattern

/-- A star behind a slash stands for any text. -/
def starsSpelled : List Char → List Char
  | [] => []
  | '/' :: '*' :: rest => '/' :: '.' :: '*' :: starsSpelled rest
  | character :: rest => character :: starsSpelled rest

inductive Style
  | colon
  | braces
deriving DecidableEq, Repr

def Style.parameterLength? (style : Style) (text : List Char) : Option Nat :=
  match style, text with
  | .colon, ':' :: rest =>
      let name := rest.takeWhile (· != '/')
      if name.isEmpty then none else some (name.length + 1)
  | .braces, '\x7b' :: first :: rest =>
      let name := rest.takeWhile fun character =>
        character != '/' && character != '\x7d'
      if first != '/' && (rest.drop name.length).head? == some '\x7d' then
        some (name.length + 3)
      else none
  | _, _ => none

def segmentExpression : List Char := "[^/]+".toList

/-- Parameters become expressions; the first characters, which belong to a
parameter that has been read, are left out. -/
def parametersSpelled (style : Style) (skipped : Nat) : List Char → List Char
  | [] => []
  | character :: rest =>
      match skipped with
      | skipped + 1 => parametersSpelled style skipped rest
      | 0 =>
          match style.parameterLength? (character :: rest) with
          | some length =>
              segmentExpression ++ parametersSpelled style (length - 1) rest
          | none => character :: parametersSpelled style 0 rest

def expression (style : Style) (pattern : String) : String :=
  String.ofList
    ('^' :: parametersSpelled style 0 (starsSpelled pattern.toList) ++ ['$'])

def fits (style : Style) (key pattern : String) : Answer Bool := do
  let regex ← regexOf (expression style pattern)
  return regex.matchesStart key.toList

end KeyPath

end AccessControl
