import AccessControl.Text.Blank
import AccessControl.Text.Decimal
import AccessControl.Text.Word
import Mathlib.Data.List.TakeWhile

namespace AccessControl.Text

def Blanks (text : List Char) : Prop :=
  ∀ character ∈ text, isBlank character = true

def Padded (text part : List Char) : Prop :=
  ∃ before after, Blanks before ∧ Blanks after ∧ part = before ++ (text ++ after)

theorem padded_self (text : List Char) : Padded text text :=
  ⟨[], [], nofun, nofun, (List.append_nil text).symm⟩

theorem padded_cons {blank : Char} (isBlank : isBlank blank = true) (text : List Char) :
    Padded text (blank :: text) :=
  ⟨[blank], [], by simpa [Blanks] using isBlank, nofun, by simp⟩

theorem dropWhile_of_blanks {text : List Char} (blanks : Blanks text) :
    text.dropWhile isBlank = [] :=
  List.dropWhile_eq_nil_iff.mpr blanks

theorem trimEnd_append (text : List Char) {after : List Char} (blanks : Blanks after) :
    trimEnd (text ++ after) = trimEnd text := by
  have reversed : Blanks after.reverse := fun character member =>
    blanks character (List.mem_reverse.mp member)
  rw [trimEnd, List.reverse_append, List.dropWhile_append, dropWhile_of_blanks reversed]
  rfl

theorem Padded.trim_eq {text part : List Char} (padded : Padded text part) :
    trim part = trim text := by
  obtain ⟨before, after, blanksBefore, blanksAfter, rfl⟩ := padded
  unfold trim trimStart
  rw [List.dropWhile_append, dropWhile_of_blanks blanksBefore, List.dropWhile_append]
  simp only [List.isEmpty_nil, if_true]
  split
  · next blank =>
      rw [List.isEmpty_iff.mp blank, dropWhile_of_blanks blanksAfter]
  · exact trimEnd_append _ blanksAfter

theorem padded_trim (text : List Char) : Padded (trim text) text := by
  refine ⟨text.takeWhile isBlank, ((trimStart text).reverse.takeWhile isBlank).reverse,
    fun _ member => List.all_eq_true.mp List.all_takeWhile _ member,
    fun _ member => List.all_eq_true.mp List.all_takeWhile _ (List.mem_reverse.mp member), ?_⟩
  have ending : trim text ++ ((trimStart text).reverse.takeWhile isBlank).reverse =
      trimStart text := by
    rw [trim, trimEnd, ← List.reverse_append, List.takeWhile_append_dropWhile,
      List.reverse_reverse]
  rw [ending]
  exact List.takeWhile_append_dropWhile.symm

theorem trim_trim (text : List Char) : trim (trim text) = trim text :=
  (padded_trim text).trim_eq.symm

theorem trimmed_trimmed (text : String) : trimmed (trimmed text) = trimmed text := by
  rw [trimmed, trimmed, String.toList_ofList, trim_trim]

theorem Padded.mem_iff {text part : List Char} (padded : Padded text part) {mark : Char}
    (visible : isBlank mark = false) : mark ∈ part ↔ mark ∈ text := by
  obtain ⟨before, after, blanksBefore, blanksAfter, rfl⟩ := padded
  have absent : ∀ {blanks}, Blanks blanks → mark ∉ blanks := by
    intro blanks all member
    rw [all mark member] at visible
    cases visible
  simp [absent blanksBefore, absent blanksAfter]

theorem allBlank_iff (text : String) : allBlank text = true ↔ Blanks text.toList :=
  List.all_eq_true

theorem Padded.blanks_iff {text part : List Char} (padded : Padded text part) :
    Blanks part ↔ Blanks text := by
  obtain ⟨before, after, blanksBefore, blanksAfter, rfl⟩ := padded
  constructor
  · intro all character member
    exact all character (by simp [member])
  · intro all character member
    rcases List.mem_append.mp member with first | later
    · exact blanksBefore character first
    · rcases List.mem_append.mp later with inner | last
      · exact all character inner
      · exact blanksAfter character last

theorem ne_of_blank {character mark : Char} (blank : isBlank character = true)
    (visible : isBlank mark = false) : character ≠ mark := by
  rintro rfl
  rw [blank] at visible
  cases visible

theorem Ranges.forall_has {ranges : Ranges} {test : Char → Bool}
    (all : ranges.bounds.all (fun bound =>
      (List.range' bound.1 (bound.2 + 1 - bound.1)).all fun code =>
        test (Char.ofNat code)) = true)
    {character : Char} (has : ranges.has character = true) : test character = true := by
  obtain ⟨bound, member, low, high⟩ := (ranges.has_iff character).mp has
  have inside := List.all_eq_true.mp (List.all_eq_true.mp all bound member) character.toNat
    (List.mem_range'_1.mpr ⟨low, by omega⟩)
  rwa [Char.ofNat_toNat] at inside

theorem isAsciiWord_of_blank {character : Char} (blank : isBlank character = true) :
    isAsciiWord character = false := by
  have all := @Ranges.forall_has blankRanges (fun character => !isAsciiWord character)
    (by decide) character blank
  simpa using all

theorem isAsciiDigit_of_blank {character : Char} (blank : isBlank character = true) :
    isAsciiDigit character = false := by
  have all := @Ranges.forall_has blankRanges (fun character => !isAsciiDigit character)
    (by decide) character blank
  simpa using all

def Ranges.apart (ranges others : Ranges) : Bool :=
  ranges.bounds.all fun bound => others.bounds.all fun other =>
    Nat.blt bound.2 other.1 || Nat.blt other.2 bound.1

theorem Ranges.has_eq_false_of_apart {ranges others : Ranges}
    (apart : ranges.apart others = true) {character : Char}
    (has : ranges.has character = true) : others.has character = false := by
  obtain ⟨bound, member, low, high⟩ := (ranges.has_iff character).mp has
  rw [← Bool.not_eq_true, others.has_iff]
  rintro ⟨other, memberToo, lowToo, highToo⟩
  have disjoint :=
    List.all_eq_true.mp (List.all_eq_true.mp apart bound member) other memberToo
  simp only [Bool.or_eq_true, Nat.blt_eq] at disjoint
  omega

theorem fails_of_blank {ascii : Char → Bool} {ranges : Ranges} {character : Char}
    (low : ascii character = false) (apart : blankRanges.apart ranges = true)
    (blank : isBlank character = true) :
    (if character.toNat < 128 then ascii character else ranges.has character) = false := by
  split
  · exact low
  · exact Ranges.has_eq_false_of_apart apart blank

theorem isWord_of_blank {character : Char} (blank : isBlank character = true) :
    isWord character = false :=
  fails_of_blank (isAsciiWord_of_blank blank) (by decide +kernel) blank

theorem isDecimal_of_blank {character : Char} (blank : isBlank character = true) :
    isDecimal character = false :=
  fails_of_blank (isAsciiDigit_of_blank blank) (by decide +kernel) blank

end AccessControl.Text
