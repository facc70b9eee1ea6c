import AccessControl.Text.Ranges

namespace AccessControl.Text

def blankRanges : Ranges := ⟨[
  (0x9, 0xd), (0x1c, 0x20),
  (0x85, 0x85), (0xa0, 0xa0), (0x1680, 0x1680), (0x2000, 0x200a), (0x2028, 0x2029),
  (0x202f, 0x202f), (0x205f, 0x205f), (0x3000, 0x3000)]⟩

def isBlank (character : Char) : Bool :=
  blankRanges.has character

def trimStart (text : List Char) : List Char :=
  text.dropWhile isBlank

def trimEnd (text : List Char) : List Char :=
  (text.reverse.dropWhile isBlank).reverse

def trim (text : List Char) : List Char :=
  trimEnd (trimStart text)

@[simp] theorem trim_nil : trim [] = [] := rfl

def trimmed (text : String) : String :=
  String.ofList (trim text.toList)

def allBlank (text : String) : Bool :=
  text.toList.all isBlank

end AccessControl.Text
