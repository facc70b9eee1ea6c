import AccessControl.Fault
import AccessControl.Text.Blank

namespace AccessControl.Matcher

/-! Logical operators spelled as signs are spelled out as words. Quoted texts
stay as they are. -/

/-- The characters from a place on; the quote is that of the text around the
place, if there is one. A text left open has no spelling. -/
def spellOutFrom : Option Char → List Char → Option (List Char)
  | none, [] => some []
  | some _, [] => none
  | some quote, '\\' :: escaped :: rest =>
      (spellOutFrom (some quote) rest).map fun spelled =>
        '\\' :: escaped :: spelled
  | some quote, character :: rest =>
      (spellOutFrom (if character = quote then none else some quote) rest).map
        (character :: ·)
  | none, '&' :: '&' :: rest =>
      (spellOutFrom none rest).map ([' ', 'a', 'n', 'd', ' '] ++ ·)
  | none, '|' :: '|' :: rest =>
      (spellOutFrom none rest).map ([' ', 'o', 'r', ' '] ++ ·)
  | none, '!' :: '=' :: rest =>
      (spellOutFrom none rest).map ('!' :: '=' :: ·)
  | none, '!' :: rest =>
      (spellOutFrom none rest).map ([' ', 'n', 'o', 't', ' '] ++ ·)
  | none, character :: rest =>
      (spellOutFrom
        (if character = '\'' ∨ character = '"' then some character else none)
        rest).map (character :: ·)

def spellOut (text : String) : Except CompileFault String :=
  match spellOutFrom none text.toList with
  | some spelled => .ok (String.ofList (Text.trim spelled))
  | none => .error ⟨text, .unterminatedText⟩

end AccessControl.Matcher
