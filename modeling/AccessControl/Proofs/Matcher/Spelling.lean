import AccessControl.Matcher.Compiled
import AccessControl.Proofs.Answer
import AccessControl.Proofs.Text.Trim

namespace AccessControl.Matcher

open Text

def IsQuote (mark : Char) : Prop :=
  mark = '\'' ∨ mark = '"'

theorem IsQuote.visible {mark : Char} (isQuote : IsQuote mark) : isBlank mark = false := by
  rcases isQuote with rfl | rfl <;> decide +kernel

theorem IsQuote.ne_backslash {mark : Char} (isQuote : IsQuote mark) : mark ≠ '\\' := by
  rcases isQuote with rfl | rfl <;> decide

/-- Within a quoted text, a character that escapes no other one stands for itself. -/
theorem spellOutFrom_quoted {quote character : Char} {text : List Char}
    (single : character = '\\' → text = []) :
    spellOutFrom (some quote) (character :: text) =
      (spellOutFrom (if character = quote then none else some quote) text).map
        (character :: ·) := by
  rw [spellOutFrom]
  rintro escaped rest same rfl
  cases single same

theorem spellOutFrom_plain {character : Char} {text : List Char}
    (noAnd : ∀ rest, character = '&' → text ≠ '&' :: rest)
    (noOr : ∀ rest, character = '|' → text ≠ '|' :: rest) (noNot : character ≠ '!') :
    spellOutFrom none (character :: text) =
      (spellOutFrom (if character = '\'' ∨ character = '"' then some character else none)
        text).map (character :: ·) := by
  rw [spellOutFrom]
  · exact fun rest same => noAnd rest same
  · exact fun rest same => noOr rest same
  · exact fun _ same _ => noNot same
  · exact noNot

section

variable {blank : Char} (isBlank : isBlank blank = true)

include isBlank

theorem spellOutFrom_blank_cons (text : List Char) :
    spellOutFrom none (blank :: text) = (spellOutFrom none text).map (blank :: ·) := by
  have ne : ∀ {mark : Char}, Text.isBlank mark = false → blank ≠ mark := ne_of_blank isBlank
  have noQuote : ¬ (blank = '\'' ∨ blank = '"') := fun isQuote =>
    ne (IsQuote.visible isQuote) rfl
  rw [spellOutFrom_plain (fun _ same => absurd same (ne (by decide +kernel)))
    (fun _ same => absurd same (ne (by decide +kernel))) (ne (by decide +kernel)),
    if_neg noQuote]

theorem append_blank_ne {mark : Char} (visible : Text.isBlank mark = false)
    {text : List Char} (other : ∀ rest, text ≠ mark :: rest) (rest : List Char) :
    text ++ [blank] ≠ mark :: rest := by
  cases text with
  | nil =>
      rintro ⟨⟩
      exact ne_of_blank isBlank visible rfl
  | cons first others =>
      rintro ⟨⟩
      exact other others rfl

theorem spellOutFrom_append_blank {quote : Option Char} (quotes : ∀ mark ∈ quote, IsQuote mark)
    (text : List Char) :
    spellOutFrom quote (text ++ [blank]) = (spellOutFrom quote text).map (· ++ [blank]) := by
  have ne : ∀ {mark : Char}, Text.isBlank mark = false → blank ≠ mark := ne_of_blank isBlank
  induction quote, text using spellOutFrom.induct with
  | case1 =>
      rw [List.nil_append, spellOutFrom_blank_cons isBlank]
      rfl
  | case2 quote =>
      have inside : blank ≠ quote := ne (quotes quote rfl).visible
      rw [List.nil_append, spellOutFrom_quoted fun _ => rfl, if_neg inside]
      rfl
  | case3 quote escaped rest ih =>
      rw [List.cons_append, List.cons_append, spellOutFrom, spellOutFrom, ih quotes,
        Option.map_map, Option.map_map]
      rfl
  | case4 quote character rest single ih =>
      by_cases escapes : character = '\\'
      · -- the text ends with a character that would escape the white space
        have last : rest = [] := by
          cases rest with
          | nil => rfl
          | cons escaped others => exact absurd rfl (single escaped others escapes)
        have inside : character ≠ quote := by
          rw [escapes]
          exact (quotes quote rfl).ne_backslash.symm
        subst escapes last
        rw [List.singleton_append, spellOutFrom, spellOutFrom_quoted fun _ => rfl,
          if_neg inside]
        rfl
      · rw [List.cons_append, spellOutFrom_quoted fun same => absurd same escapes,
          spellOutFrom_quoted fun same => absurd same escapes, ih, Option.map_map,
          Option.map_map]
        · rfl
        · intro mark
          split
          · exact nofun
          · exact quotes mark
  | case5 rest ih | case6 rest ih | case7 rest ih =>
      rw [List.cons_append, List.cons_append, spellOutFrom, spellOutFrom, ih quotes,
        Option.map_map, Option.map_map]
      rfl
  | case8 rest single ih =>
      rw [List.cons_append, spellOutFrom, spellOutFrom, ih quotes, Option.map_map,
        Option.map_map]
      · rfl
      · exact single
      · exact append_blank_ne isBlank (by decide +kernel) single
  | case9 character rest noAnd noOr noUnequal noNot ih =>
      rw [List.cons_append, spellOutFrom_plain
          (fun others same => append_blank_ne isBlank (by decide +kernel)
            (fun rest => noAnd rest same) others)
          (fun others same => append_blank_ne isBlank (by decide +kernel)
            (fun rest => noOr rest same) others) noNot,
        spellOutFrom_plain (fun others same => noAnd others same)
          (fun others same => noOr others same) noNot,
        ih, Option.map_map, Option.map_map]
      · rfl
      · intro mark
        split
        · next isQuote =>
            rintro ⟨⟩
            exact isQuote
        · exact nofun

end

theorem spellOutFrom_blanks_append {before : List Char} (blanks : Blanks before)
    (text : List Char) :
    spellOutFrom none (before ++ text) = (spellOutFrom none text).map (before ++ ·) := by
  induction before with
  | nil => simp
  | cons blank before ih =>
      obtain ⟨isBlank, blanks⟩ := List.forall_mem_cons.mp blanks
      rw [List.cons_append, spellOutFrom_blank_cons isBlank, ih blanks, Option.map_map]
      rfl

theorem spellOutFrom_append_blanks {after : List Char} (blanks : Blanks after)
    (text : List Char) :
    spellOutFrom none (text ++ after) = (spellOutFrom none text).map (· ++ after) := by
  induction after generalizing text with
  | nil => simp
  | cons blank after ih =>
      obtain ⟨isBlank, blanks⟩ := List.forall_mem_cons.mp blanks
      rw [List.append_cons, ih blanks, spellOutFrom_append_blank isBlank (by simp),
        Option.map_map]
      congr 1
      funext spelled
      exact (List.append_cons spelled blank after).symm

theorem spellOut_eq_ok {text spelled : String} :
    spellOut text = .ok spelled ↔
      (spellOutFrom none text.toList).map (fun found => String.ofList (trim found)) =
        some spelled := by
  unfold spellOut
  cases spellOutFrom none text.toList <;> simp

theorem spellOut_of_padded {text part spelled : String}
    (padded : Padded text.toList part.toList) :
    spellOut part = .ok spelled ↔ spellOut text = .ok spelled := by
  obtain ⟨before, after, blanksBefore, blanksAfter, same⟩ := padded
  rw [spellOut_eq_ok, spellOut_eq_ok, same, spellOutFrom_blanks_append blanksBefore,
    spellOutFrom_append_blanks blanksAfter, Option.map_map, Option.map_map]
  have trims : ∀ found, trim (before ++ (found ++ after)) = trim found := fun found =>
    Padded.trim_eq ⟨before, after, blanksBefore, blanksAfter, rfl⟩
  simp only [Function.comp_def, trims]

theorem read_eq_ok {text : String} {result : Node × References} :
    read text = .ok result ↔
      allBlank text = false ∧ ∃ spelled, spellOut text = .ok spelled ∧
        spelled.toList.contains '\x00' = false ∧ ∃ phrase, phrase? spelled = some phrase ∧
          phrase.lower.run .none = .ok result := by
  unfold read
  simp only
  constructor
  · intro reading
    split at reading
    · cases reading
    · next visible =>
        obtain ⟨spelled, spells, reading⟩ := Answer.bind_eq_ok.mp reading
        split at reading
        · cases reading
        · next clean =>
            split at reading
            · cases reading
            · next phrase found =>
                exact ⟨by simpa using visible, spelled, Answer.mapError_eq_ok.mp spells,
                  by simpa using clean, phrase, found, Answer.mapError_eq_ok.mp reading⟩
  · rintro ⟨visible, spelled, spells, clean, phrase, found, lowered⟩
    rw [if_neg (by simp [visible])]
    refine Answer.bind_eq_ok.mpr ⟨spelled, Answer.mapError_eq_ok.mpr spells, ?_⟩
    rw [if_neg (by simpa using clean)]
    simp only [found]
    exact Answer.mapError_eq_ok.mpr lowered

theorem read_of_padded {text part : String} (padded : Padded text.toList part.toList)
    {result : Node × References} : read part = .ok result ↔ read text = .ok result := by
  have visible : allBlank part = false ↔ allBlank text = false := by
    rw [Bool.eq_false_iff, Bool.eq_false_iff, ne_eq, ne_eq, allBlank_iff, allBlank_iff,
      padded.blanks_iff]
  simp only [read_eq_ok, visible, spellOut_of_padded padded]

end AccessControl.Matcher
