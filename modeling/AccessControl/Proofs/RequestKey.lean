import AccessControl.Enforcer.Context
import AccessControl.Proofs.Number.Display
import AccessControl.Proofs.Text.Ascii
import AccessControl.RequestKey

namespace AccessControl

def Value.isUndefined : Value → Bool
  | .float number => number.isUndefined
  | _ => false

namespace RequestKey

/-- Values that no key tells apart. -/
inductive Alike : Value → Value → Prop
  | same (value : Value) : Alike value value
  | undefined {left right : Binary64} (leftUndefined : left.isUndefined = true)
      (rightUndefined : right.isUndefined = true) :
      Alike (.float left) (.float right)

theorem Alike.eq {left right : Value} (alike : Alike left right)
    (defined : left.isUndefined = false) : left = right := by
  cases alike with
  | same => rfl
  | undefined leftUndefined _ =>
      rw [Value.isUndefined, leftUndefined] at defined
      cases defined

def IsWholeMark (character : Char) : Prop :=
  character.isDigit = true ∨ character = '-'

theorem int_marks (number : Int) :
    ∀ character ∈ (toString number).toList, IsWholeMark character := by
  intro character member
  rw [Int.toString_eq_repr, Int.repr_eq_if] at member
  split at member
  · rw [Nat.toList_repr] at member
    exact .inl (Binary64.digits_toDigits _ character member)
  · rw [String.toList_append, Nat.toList_repr] at member
    rcases List.mem_append.mp member with sign | digit
    · exact .inr (by simpa using sign)
    · exact .inl (Binary64.digits_toDigits _ character digit)

theorem int_inj {left right : Int}
    (agree : (toString left).toList = (toString right).toList) : left = right := by
  have digits : ∀ number rest, Nat.toDigits 10 number ≠ '-' :: rest := by
    intro number rest same
    have digit := Binary64.digits_toDigits number '-' (by simp [same])
    cases digit
  have values : ∀ {number other : Nat}, Nat.toDigits 10 number = Nat.toDigits 10 other →
      number = other := by
    intro number other same
    rw [← @Nat.ofDigitChars_ten_toDigits number, same, Nat.ofDigitChars_ten_toDigits]
  simp only [Int.toString_eq_repr, Int.repr_eq_if] at agree
  split at agree <;> split at agree
  · rw [Nat.toList_repr, Nat.toList_repr] at agree
    have same := values agree
    omega
  · rw [String.toList_append, Nat.toList_repr, Nat.toList_repr] at agree
    exact absurd agree (digits _ _)
  · rw [String.toList_append, Nat.toList_repr, Nat.toList_repr] at agree
    exact absurd agree.symm (digits _ _)
  · rw [String.toList_append, String.toList_append, Nat.toList_repr,
      Nat.toList_repr] at agree
    have same := values (List.append_cancel_left agree)
    omega

def IsNumberMark (character : Char) : Prop :=
  character.isDigit = true ∨ character ∈ ['.', 'e', '-', '+']

theorem display_marks {number : Binary64} {negative : Bool} {mantissa : Nat}
    {exponent : Int} (read : number.reading = .finite negative mantissa exponent) :
    ∀ character ∈ number.display.toList, IsNumberMark character := by
  intro character member
  rw [Binary64.display_finite read] at member
  split at member
  · rcases List.mem_cons.mp member with rfl | written
    · exact .inr (by simp)
    · exact Binary64.write_mem (Binary64.digits_shortest _ _) written
  · exact Binary64.write_mem (Binary64.digits_shortest _ _) member

theorem display_not_whole {number : Binary64} {negative : Bool} {mantissa : Nat}
    {exponent : Int} (read : number.reading = .finite negative mantissa exponent) :
    ∃ character ∈ number.display.toList, ¬ IsWholeMark character := by
  have marked := Binary64.write_marked (Binary64.digits_shortest mantissa exponent)
  rw [Binary64.display_finite read]
  rcases marked with point | scientific
  · refine ⟨'.', ?_, by simp [IsWholeMark]⟩
    split
    · exact List.mem_cons_of_mem _ point
    · exact point
  · refine ⟨'e', ?_, by simp [IsWholeMark]⟩
    split
    · exact List.mem_cons_of_mem _ scientific
    · exact scientific

theorem double_undefined {number : Binary64} (read : number.reading = .undefined) :
    double number = "NaN".toList := by
  rw [double, read]

theorem double_infinite {number : Binary64} {negative : Bool}
    (read : number.reading = .infinite negative) :
    double number = (if negative then "-Infinity" else "Infinity").toList := by
  rw [double, read]
  cases negative <;> rfl

theorem double_finite {number : Binary64} {negative : Bool} {mantissa : Nat}
    {exponent : Int} (read : number.reading = .finite negative mantissa exponent) :
    double number = number.display.toList := by
  rw [double, read]

theorem double_not_whole (number : Binary64) :
    ∃ character ∈ double number, ¬ IsWholeMark character := by
  cases read : number.reading with
  | undefined =>
      rw [double_undefined read]
      exact ⟨'N', by simp, by simp [IsWholeMark]⟩
  | infinite negative =>
      rw [double_infinite read]
      refine ⟨'I', ?_, by simp [IsWholeMark]⟩
      cases negative <;> simp
  | finite =>
      rw [double_finite read]
      exact display_not_whole read

theorem truth_not_whole (value : Bool) :
    ∃ character ∈ truth value, ¬ IsWholeMark character := by
  refine ⟨'e', ?_, by simp [IsWholeMark]⟩
  cases value <;> simp [truth]

theorem display_ne {number : Binary64} {negative : Bool} {mantissa : Nat}
    {exponent : Int} (read : number.reading = .finite negative mantissa exponent)
    {text : List Char} (mark : Char) (member : mark ∈ text)
    (foreign : ¬ IsNumberMark mark) : number.display.toList ≠ text := by
  rintro rfl
  exact foreign (display_marks read mark member)

theorem truth_ne_double (value : Bool) (number : Binary64) :
    truth value ≠ double number := by
  cases read : number.reading with
  | undefined =>
      rw [double_undefined read]
      cases value <;> decide
  | infinite negative =>
      rw [double_infinite read]
      cases value <;> cases negative <;> decide
  | finite =>
      rw [double_finite read]
      cases value
      · exact (display_ne read 'l' (by simp [truth]) (by simp [IsNumberMark])).symm
      · exact (display_ne read 'u' (by simp [truth]) (by simp [IsNumberMark])).symm

/-- Only undefined numbers share their text. -/
theorem double_inj {left right : Binary64} (agree : double left = double right) :
    left = right ∨ (left.isUndefined = true ∧ right.isUndefined = true) := by
  have infinite_ne : ∀ {number other : Binary64} {negative : Bool},
      number.reading = .infinite negative → double number = double other →
        other.reading = .infinite negative := by
    intro number other negative read same
    rw [double_infinite read] at same
    cases readOther : other.reading with
    | undefined =>
        rw [double_undefined readOther] at same
        cases negative <;> simp at same
    | infinite sign =>
        rw [double_infinite readOther] at same
        cases negative <;> cases sign <;> simp_all
    | finite =>
        rw [double_finite readOther] at same
        refine absurd same.symm (display_ne readOther 'I' ?_ (by simp [IsNumberMark]))
        cases negative <;> simp
  have undefined_ne : ∀ {number other : Binary64},
      number.reading = .undefined → double number = double other →
        other.reading = .undefined := by
    intro number other read same
    rw [double_undefined read] at same
    cases readOther : other.reading with
    | undefined => rfl
    | infinite sign =>
        rw [double_infinite readOther] at same
        cases sign <;> simp at same
    | finite =>
        rw [double_finite readOther] at same
        exact absurd same.symm
          (display_ne readOther 'N' (by simp) (by simp [IsNumberMark]))
  cases readLeft : left.reading with
  | undefined =>
      have readRight := undefined_ne readLeft agree
      exact .inr ⟨by rw [Binary64.isUndefined, readLeft],
        by rw [Binary64.isUndefined, readRight]⟩
  | infinite negative =>
      exact .inl (Binary64.eq_of_infinite readLeft (infinite_ne readLeft agree))
  | finite =>
      cases readRight : right.reading with
      | undefined =>
          have same := undefined_ne readRight agree.symm
          rw [readLeft] at same
          cases same
      | infinite negative =>
          have same := infinite_ne readRight agree.symm
          rw [readLeft] at same
          cases same
      | finite =>
          rw [double_finite readLeft, double_finite readRight] at agree
          exact .inl (Binary64.display_inj readLeft readRight agree)

/-- A part without quotes and commas. -/
def Plain (part : List Char) : Prop :=
  '"' ∉ part ∧ ',' ∉ part

theorem plain_of_marks {part : List Char}
    (marks : ∀ character ∈ part, IsNumberMark character) : Plain part := by
  constructor
  · intro member
    simpa [IsNumberMark] using marks _ member
  · intro member
    simpa [IsNumberMark] using marks _ member

theorem plain_truth (value : Bool) : Plain (truth value) := by
  cases value <;> exact ⟨by decide, by decide⟩

theorem plain_int (number : Int) : Plain (toString number).toList := by
  refine plain_of_marks fun character member => ?_
  rcases int_marks number character member with digit | rfl
  · exact .inl digit
  · exact .inr (by simp)

theorem plain_double (number : Binary64) : Plain (double number) := by
  cases read : number.reading with
  | undefined =>
      rw [double_undefined read]
      exact ⟨by decide, by decide⟩
  | infinite negative =>
      rw [double_infinite read]
      cases negative <;> exact ⟨by decide, by decide⟩
  | finite =>
      rw [double_finite read]
      exact plain_of_marks (display_marks read)

theorem ascii_not_plain (text : String) : ¬ Plain (Text.ascii text) := by
  intro plain
  exact plain.1 (by simp [Text.ascii])

theorem part?_int_eq_some {number : Int} {part : List Char} :
    part? (.int number) = some part ↔
      isWritable number = true ∧ (toString number).toList = part := by
  simp [part?]

theorem part?_cases {value : Value} {part : List Char}
    (spelled : part? value = some part) :
    (∃ text, value = .text text ∧ part = Text.ascii text) ∨ Plain part := by
  cases value with
  | bool value =>
      cases spelled
      exact .inr (plain_truth value)
  | int value =>
      obtain ⟨-, rfl⟩ := part?_int_eq_some.mp spelled
      exact .inr (plain_int value)
  | float value =>
      cases spelled
      exact .inr (plain_double value)
  | text value =>
      cases spelled
      exact .inl ⟨value, rfl, rfl⟩
  | _ => cases spelled

theorem bool_of_part? {value : Bool} {other : Value}
    (spelled : part? other = some (truth value)) : other = .bool value := by
  cases other with
  | bool other =>
      cases value <;> cases other <;> simp_all [part?, truth]
  | int number =>
      obtain ⟨mark, member, foreign⟩ := truth_not_whole value
      rw [← (part?_int_eq_some.mp spelled).2] at member
      exact absurd (int_marks number mark member) foreign
  | float number =>
      exact absurd (Option.some.inj spelled).symm (truth_ne_double value number)
  | text text =>
      have plain := plain_truth value
      rw [← Option.some.inj spelled] at plain
      exact absurd plain (ascii_not_plain text)
  | _ => cases spelled

theorem int_of_part? {number : Int} {other : Value}
    (spelled : part? other = some (toString number).toList) : other = .int number := by
  have marks := int_marks number
  cases other with
  | bool other =>
      obtain ⟨mark, member, foreign⟩ := truth_not_whole other
      rw [← Option.some.inj spelled] at marks
      exact absurd (marks mark member) foreign
  | int other => rw [int_inj (part?_int_eq_some.mp spelled).2]
  | float other =>
      obtain ⟨mark, member, foreign⟩ := double_not_whole other
      rw [← Option.some.inj spelled] at marks
      exact absurd (marks mark member) foreign
  | text text =>
      have plain := plain_int number
      rw [← Option.some.inj spelled] at plain
      exact absurd plain (ascii_not_plain text)
  | _ => cases spelled

theorem text_of_part? {text : String} {other : Value}
    (spelled : part? other = some (Text.ascii text)) : other = .text text := by
  rcases part?_cases spelled with ⟨same, rfl, agree⟩ | plain
  · have appended : Text.ascii text ++ [] = Text.ascii same ++ [] := by rw [agree]
    rw [(Text.ascii_append_inj appended).1]
  · exact absurd plain (ascii_not_plain text)

theorem alike_of_part? {left right : Value} {part : List Char}
    (first : part? left = some part) (second : part? right = some part) :
    Alike left right := by
  cases left with
  | bool value =>
      cases first
      rw [bool_of_part? second]
      exact .same _
  | int value =>
      obtain ⟨-, rfl⟩ := part?_int_eq_some.mp first
      rw [int_of_part? second]
      exact .same _
  | text value =>
      cases first
      rw [text_of_part? second]
      exact .same _
  | float value =>
      cases right with
      | bool other =>
          cases second
          rw [bool_of_part? first]
          exact .same _
      | int other =>
          obtain ⟨-, rfl⟩ := part?_int_eq_some.mp second
          rw [int_of_part? first]
          exact .same _
      | text other =>
          cases second
          rw [text_of_part? first]
          exact .same _
      | float other =>
          cases first
          rcases double_inj (Option.some.inj second) with rfl | ⟨undefined, also⟩
          · exact .same _
          · exact .undefined also undefined
      | _ => cases second
  | _ => cases first

def Ending (rest : List Char) : Prop :=
  rest = [] ∨ ∃ further, rest = ',' :: further

def IsPart (part : List Char) : Prop :=
  (∃ text, part = Text.ascii text) ∨ Plain part

theorem isPart_of_part? {value : Value} {part : List Char}
    (spelled : part? value = some part) : IsPart part := by
  rcases part?_cases spelled with ⟨text, -, quoted⟩ | plain
  · exact .inl ⟨text, quoted⟩
  · exact .inr plain

theorem plain_takeWhile {part rest : List Char} (plain : Plain part)
    (ending : Ending rest) : (part ++ rest).takeWhile (· != ',') = part := by
  have noComma : ∀ character ∈ part, (character != ',') = true := by
    intro character member
    rw [bne_iff_ne]
    rintro rfl
    exact plain.2 member
  rw [List.takeWhile_append_of_pos noComma]
  rcases ending with rfl | ⟨further, rfl⟩ <;> simp

theorem ascii_ne_plain {text : String} {part rest after : List Char}
    (plain : Plain part) (ending : Ending after) :
    Text.ascii text ++ rest ≠ part ++ after := by
  intro agree
  cases part with
  | nil =>
      rcases ending with rfl | ⟨further, rfl⟩
      · simp [Text.ascii] at agree
      · simp [Text.ascii] at agree
  | cons first others =>
      have quote : '"' = first := by simpa [Text.ascii] using congrArg List.head? agree
      exact plain.1 (quote ▸ List.mem_cons_self)

theorem part_append_inj {part other rest after : List Char} (isPart : IsPart part)
    (isOther : IsPart other) (ending : Ending rest) (endingOther : Ending after)
    (agree : part ++ rest = other ++ after) : part = other ∧ rest = after := by
  rcases isPart with ⟨text, rfl⟩ | plain
  · rcases isOther with ⟨otherText, rfl⟩ | plainOther
    · obtain ⟨rfl, same⟩ := Text.ascii_append_inj agree
      exact ⟨rfl, same⟩
    · exact absurd agree (ascii_ne_plain plainOther endingOther)
  · rcases isOther with ⟨otherText, rfl⟩ | plainOther
    · exact absurd agree.symm (ascii_ne_plain plain ending)
    · have taken := congrArg (List.takeWhile (· != ',')) agree
      rw [plain_takeWhile plain ending, plain_takeWhile plainOther endingOther] at taken
      rw [taken] at agree
      exact ⟨taken, List.append_cancel_left agree⟩

def following (parts : List (List Char)) : List Char :=
  parts.flatMap (',' :: ·)

theorem join_cons (part : List Char) (parts : List (List Char)) :
    join (part :: parts) = part ++ following parts := by
  induction parts generalizing part with
  | nil => simp [join, following]
  | cons next others ih =>
      rw [join, ih]
      · simp [following]
      · simp

theorem ending_following (parts : List (List Char)) : Ending (following parts) := by
  cases parts with
  | nil => exact .inl rfl
  | cons part others => exact .inr ⟨_, rfl⟩

theorem following_inj {parts others : List (List Char)}
    (areParts : ∀ part ∈ parts, IsPart part)
    (areOthers : ∀ part ∈ others, IsPart part)
    (agree : following parts = following others) : parts = others := by
  induction parts generalizing others with
  | nil =>
      cases others with
      | nil => rfl
      | cons other rest => simp [following] at agree
  | cons part parts ih =>
      cases others with
      | nil => simp [following] at agree
      | cons other rest =>
          have cut : part ++ following parts = other ++ following rest :=
            List.tail_eq_of_cons_eq agree
          obtain ⟨rfl, remaining⟩ := part_append_inj
            (areParts part (by simp)) (areOthers other (by simp))
            (ending_following parts) (ending_following rest) cut
          rw [ih (fun part member => areParts part (by simp [member]))
            (fun part member => areOthers part (by simp [member])) remaining]

theorem parts?_eq_some {values : List Value} {parts : List (List Char)}
    (spelled : parts? values = some parts) :
    List.Forall₂ (fun value part => part? value = some part) values parts := by
  induction values generalizing parts with
  | nil =>
      cases spelled
      exact .nil
  | cons value values ih =>
      unfold parts? at spelled
      cases first : part? value with
      | none => simp [first] at spelled
      | some part =>
          cases others : parts? values with
          | none => simp [first, others] at spelled
          | some rest =>
              simp only [first, others, Option.some.injEq] at spelled
              subst spelled
              exact .cons first (ih others)

theorem isPart_of_forall₂ {values : List Value} {parts : List (List Char)}
    (spelled : List.Forall₂ (fun value part => part? value = some part) values parts) :
    ∀ part ∈ parts, IsPart part := by
  induction spelled with
  | nil => simp
  | cons first _ ih =>
      intro part member
      rcases List.mem_cons.mp member with rfl | inRest
      · exact isPart_of_part? first
      · exact ih part inRest

theorem alike_of_forall₂ {left right : List Value} {parts : List (List Char)}
    (first : List.Forall₂ (fun value part => part? value = some part) left parts)
    (second : List.Forall₂ (fun value part => part? value = some part) right parts) :
    List.Forall₂ Alike left right := by
  induction first generalizing right with
  | nil =>
      cases second
      exact .nil
  | cons head _ ih =>
      cases second with
      | cons other others => exact .cons (alike_of_part? head other) (ih others)

theorem parts_of_requestKey? {context : String} {values : List Value} {key : String}
    (spelled : requestKey? context values = some key) :
    ∃ parts, parts? values = some parts ∧
      String.ofList ('[' :: join (Text.ascii context :: parts) ++ [']']) = key := by
  unfold requestKey? requestKey at spelled
  split at spelled
  · split at spelled
    · next parts written => exact ⟨parts, written, Option.some.inj spelled⟩
    · cases spelled
  · cases spelled

/-- A key tells the context and the values it is made from. -/
theorem of_requestKey?_eq {context other : String} {left right : List Value}
    {key : String} (first : requestKey? context left = some key)
    (second : requestKey? other right = some key) :
    context = other ∧ List.Forall₂ Alike left right := by
  obtain ⟨parts, spelled, rfl⟩ := parts_of_requestKey? first
  obtain ⟨others, spelledOther, agree⟩ := parts_of_requestKey? second
  have forall₂ := parts?_eq_some spelled
  have forall₂Other := parts?_eq_some spelledOther
  have rows := String.ofList_injective agree
  simp only [List.cons_append, List.cons.injEq, true_and, join_cons,
    List.append_cancel_right_eq] at rows
  obtain ⟨same, remaining⟩ := part_append_inj (.inl ⟨_, rfl⟩) (.inl ⟨_, rfl⟩)
    (ending_following others) (ending_following parts) rows
  have contexts : Text.ascii other ++ [] = Text.ascii context ++ [] := by rw [same]
  have equal := following_inj (isPart_of_forall₂ forall₂Other)
    (isPart_of_forall₂ forall₂) remaining
  rw [equal] at forall₂Other
  exact ⟨(Text.ascii_append_inj contexts).1.symm,
    alike_of_forall₂ forall₂ forall₂Other⟩

theorem eq_of_alike {left right : List Value} (alike : List.Forall₂ Alike left right)
    (defined : ∀ value ∈ left, value.isUndefined = false) : left = right := by
  induction alike with
  | nil => rfl
  | cons head _ ih =>
      rw [head.eq (defined _ (by simp)), ih fun value member =>
        defined value (by simp [member])]

end RequestKey

end AccessControl
