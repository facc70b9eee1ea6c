import AccessControl.Proofs.Matcher.Quotation

namespace AccessControl.Matcher

/-! Words, numerals and marks are made of characters that belong to no literal. Their letters
might begin one, but not within a word. -/

/-- The pieces from a place on are other characters, and then those from a later place on. -/
def Skims (joined : Bool) (text : List Char) (later : Bool) (after : List Char) : Prop :=
  ∃ count, piecesFrom 0 joined text =
    List.replicate count .other ++ piecesFrom 0 later after

namespace Skims

variable {joined later last : Bool} {text between after : List Char}

theorem refl (joined : Bool) (text : List Char) : Skims joined text joined text :=
  ⟨0, rfl⟩

theorem trans (before : Skims joined text later between)
    (behind : Skims later between last after) : Skims joined text last after := by
  obtain ⟨count, pieces⟩ := before
  obtain ⟨more, rest⟩ := behind
  exact ⟨count + more, by rw [pieces, rest, ← List.append_assoc, List.replicate_append_replicate]⟩

theorem plain {character : Char} (isPlain : isPlain character = true)
    (noLetter : joined = true ∨ isMarkLetter character = false) (rest : List Char) :
    Skims joined (character :: rest) (continuesWord character) rest :=
  ⟨1, piecesFrom_plain isPlain noLetter rest⟩

end Skims

theorem literalAt?_joined {text : List Char} (noLetter : text.head?.any isMarkLetter = false) :
    literalAt? true text = literalAt? false text := by
  cases text with
  | nil => rfl
  | cons character rest =>
      rw [List.head?_cons, Option.any_some] at noLetter
      cases quotes : isQuote character with
      | true => simp [literalAt?, quotes]
      | false =>
          rw [literalAt?_eq_none quotes (.inl rfl), literalAt?_eq_none quotes (.inr noLetter)]

theorem piecesFrom_joined {text : List Char} (same : literalAt? true text = literalAt? false text)
    (joined : Bool) : piecesFrom 0 joined text = piecesFrom 0 true text := by
  cases joined with
  | true => rfl
  | false =>
      cases text with
      | nil => rfl
      | cons character rest => rw [piecesFrom, piecesFrom, same]

namespace Skims

variable {joined later : Bool} {text after : List Char}

theorem begin (skims : Skims true text later after)
    (same : literalAt? true text = literalAt? false text) (joined : Bool) :
    Skims joined text later after := by
  obtain ⟨count, pieces⟩ := skims
  exact ⟨count, by rw [piecesFrom_joined same, pieces]⟩

theorem finish (skims : Skims joined text later after)
    (same : literalAt? true after = literalAt? false after) : Skims joined text false after := by
  obtain ⟨count, pieces⟩ := skims
  exact ⟨count, by rw [pieces, piecesFrom_joined same later, piecesFrom_joined same false]⟩

end Skims

theorem not_isMarkLetter_of_ends {text : List Char}
    (ends : text.head?.any continuesWord = false) : text.head?.any isMarkLetter = false := by
  cases text with
  | nil => rfl
  | cons character rest =>
      rw [List.head?_cons, Option.any_some] at ends ⊢
      rw [← Bool.not_eq_true]
      intro letter
      rw [continuesWord_of_isMarkLetter letter] at ends
      cases ends

theorem isPlain_of_test {test : Char → Bool}
    (blanks : ∀ {character}, Text.isBlank character = true → test character = false)
    (marks : ['\'', '"', '#', '\\'].all (fun mark => !test mark) = true)
    {character : Char} (passes : test character = true) : isPlain character = true := by
  have noBlank : Text.isBlank character = false := by
    rw [← Bool.not_eq_true]
    intro blank
    rw [blanks blank] at passes
    cases passes
  have noMark : character ∉ ['\'', '"', '#', '\\'] := by
    intro member
    have fails := List.all_eq_true.mp marks character member
    simp [passes] at fails
  simp only [List.mem_cons, List.not_mem_nil, or_false, not_or] at noMark
  simp [isPlain, isQuote, noBlank, noMark]

theorem isPlain_of_isAsciiWord {character : Char} (word : Text.isAsciiWord character = true) :
    isPlain character = true :=
  isPlain_of_test Text.isAsciiWord_of_blank (by decide) word

theorem isIdentifierStart_of_blank {character : Char} (blank : Text.isBlank character = true) :
    Text.isIdentifierStart character = false := by
  have all := @Text.Ranges.forall_has Text.blankRanges
    (fun character => !(character.isAlpha || character == '_')) (by decide) character blank
  have low : (character.isAlpha || character == '_') = false := by simpa using all
  exact @Text.fails_of_blank (fun character => character.isAlpha || character == '_')
    Text.identifierStartRanges character low (by decide +kernel) blank

theorem isIdentifierPart_of_blank {character : Char} (blank : Text.isBlank character = true) :
    Text.isIdentifierPart character = false :=
  Text.fails_of_blank (Text.isAsciiWord_of_blank blank) (by decide +kernel) blank

theorem isPlain_of_word {text : List Char}
    (word : (text.all isAscii || Text.isIdentifier (String.ofList text)) = true)
    (continues : ∀ character ∈ text, continuesWord character = true) :
    ∀ character ∈ text, isPlain character = true := by
  rcases Bool.or_eq_true_iff.mp word with ascii | identifier
  · intro character member
    apply isPlain_of_isAsciiWord
    have low : isAscii character = true := List.all_eq_true.mp ascii character member
    have carries := continues character member
    simp only [continuesWord, Bool.or_eq_true, decide_eq_true_eq] at carries
    rw [isAscii, decide_eq_true_eq] at low
    exact carries.resolve_right (by omega)
  · unfold Text.isIdentifier at identifier
    rw [String.toList_ofList] at identifier
    cases text with
    | nil =>
        intro character member
        cases member
    | cons first rest =>
        obtain ⟨start, parts⟩ := Bool.and_eq_true_iff.mp identifier
        rw [List.forall_mem_cons]
        exact ⟨isPlain_of_test isIdentifierStart_of_blank (by decide) start,
          fun character member => isPlain_of_test isIdentifierPart_of_blank (by decide)
            (List.all_eq_true.mp parts character member)⟩

theorem skims_takeWhile {text : List Char}
    (plain : ∀ character ∈ text.takeWhile continuesWord, isPlain character = true) :
    Skims true text true (text.dropWhile continuesWord) := by
  induction text with
  | nil => exact .refl true []
  | cons character rest ih =>
      by_cases word : continuesWord character = true
      · rw [List.takeWhile_cons_of_pos word] at plain
        rw [List.dropWhile_cons_of_pos word]
        have one := Skims.plain (plain character List.mem_cons_self) (.inl rfl) rest
        rw [word] at one
        exact one.trans (ih fun other member => plain other (List.mem_cons_of_mem character member))
      · rw [List.dropWhile_cons_of_neg word]
        exact .refl true _

theorem mayFollowNumeral_joined {text : List Char} (may : mayFollowNumeral text = true) :
    literalAt? true text = literalAt? false text := by
  rw [mayFollowNumeral, Bool.or_eq_true, Bool.not_eq_true'] at may
  rcases may with follower | ends
  · obtain ⟨word, member, starts⟩ := List.any_eq_true.mp follower
    obtain ⟨rest, rfl⟩ := List.isPrefixOf_iff_prefix.mp starts
    have starts : ∀ word ∈ numeralFollowers, word = ['f', 'o', 'r'] ∨
        ∃ first ∈ word.head?, isMarkLetter first = false := by
      simp [numeralFollowers, isMarkLetter]
    rcases starts word member with rfl | start
    · -- its first letter is one of a literal, but its second one is not
      simp [literalAt?, literalMark?, isQuote, LiteralMark.ofLetters?]
    · obtain ⟨first, isFirst, noLetter⟩ := start
      obtain ⟨others, rfl⟩ := List.head?_eq_some_iff.mp isFirst
      exact literalAt?_joined noLetter
  · exact literalAt?_joined (not_isMarkLetter_of_ends ends)

theorem isAsciiWord_of_isAsciiDigit {digit : Char} (isDigit : Text.isAsciiDigit digit = true) :
    Text.isAsciiWord digit = true := by
  have decimal : digit.isDigit = true := by
    simpa only [Text.isAsciiDigit, Char.isDigit, Char.le_def] using isDigit
  simp [Text.isAsciiWord, Char.isAlphanum, decimal]

theorem isAsciiWord_of_isDigitOf {base : Nat} {digit : Char}
    (isDigit : isDigitOf base digit = true) : Text.isAsciiWord digit = true := by
  simp only [isDigitOf, digitValue?] at isDigit
  split at isDigit
  · next decimal => exact isAsciiWord_of_isAsciiDigit decimal
  split at isDigit
  · next letter =>
      have isLower : digit.isLower = true := by
        unfold Char.isLower
        rw [Bool.and_eq_true, decide_eq_true_eq, decide_eq_true_eq]
        exact ⟨letter.1, UInt32.le_trans letter.2 (by decide)⟩
      unfold Text.isAsciiWord Char.isAlphanum Char.isAlpha
      rw [isLower, Bool.or_true, Bool.true_or, Bool.true_or]
  split at isDigit
  · next letter =>
      have isUpper : digit.isUpper = true := by
        unfold Char.isUpper
        rw [decide_eq_true_eq]
        exact ⟨letter.1, UInt32.le_trans letter.2 (by decide)⟩
      unfold Text.isAsciiWord Char.isAlphanum Char.isAlpha
      rw [isUpper, Bool.true_or, Bool.true_or, Bool.true_or]
  · simp at isDigit

theorem isMarkLetter_of_isAsciiDigit {digit : Char} (isDigit : Text.isAsciiDigit digit = true) :
    isMarkLetter digit = false := by
  have inside : (⟨[(0x30, 0x39)]⟩ : Text.Ranges).has digit = true := by
    simpa [Text.isAsciiDigit, Text.Ranges.has, Char.le_def, UInt32.le_iff_toNat_le] using isDigit
  have all := @Text.Ranges.forall_has _ (fun digit => !isMarkLetter digit) (by decide) _
    inside
  simpa using all

theorem Skims.word {joined : Bool} {character : Char}
    (word : Text.isAsciiWord character = true)
    (noLetter : joined = true ∨ isMarkLetter character = false) (rest : List Char) :
    Skims joined (character :: rest) true rest := by
  have one := Skims.plain (isPlain_of_isAsciiWord word) noLetter rest
  rwa [continuesWord, word, Bool.true_or] at one

theorem skims_digitsOf {base : Nat} {text digits after : List Char}
    (found : digitsOf? base text = some (digits, after)) : Skims true text true after := by
  induction text using digitsOf?.induct base generalizing digits with
  | case1 =>
      cases found
      exact .refl true []
  | case2 rest follows ih =>
      rw [digitsOf?, if_pos follows] at found
      exact (Skims.word (by decide) (.inl rfl) rest).trans (ih found)
  | case3 rest alone =>
      rw [digitsOf?, if_neg alone] at found
      cases found
  | case4 character rest noScore isDigit ih =>
      rw [digitsOf?, if_pos isDigit] at found
      · simp only [Option.map_eq_some_iff, Prod.mk.injEq] at found
        obtain ⟨⟨more, _⟩, found, -, rfl⟩ := found
        exact (Skims.word (isAsciiWord_of_isDigitOf isDigit) (.inl rfl) rest).trans (ih found)
      · exact noScore
  | case5 character rest noScore noDigit =>
      rw [digitsOf?, if_neg noDigit] at found
      · cases found
        exact .refl true _
      · exact noScore

theorem skims_decimal {text digits after : List Char}
    (starts : text.head?.any Text.isAsciiDigit = true)
    (found : digitsOf? 10 text = some (digits, after)) (joined : Bool) :
    Skims joined text true after := by
  refine (skims_digitsOf found).begin (literalAt?_joined ?_) joined
  cases text with
  | nil => cases starts
  | cons digit rest => exact isMarkLetter_of_isAsciiDigit starts

theorem skims_fraction {text after : List Char} {fraction : Option (List Char)}
    (found : fraction? text = some (fraction, after)) (joined : Bool) :
    ∃ later, Skims joined text later after := by
  unfold fraction? at found
  split at found
  · next rest =>
      have point : Skims joined ('.' :: rest) false rest :=
        .plain (by decide) (.inr (by decide)) rest
      split at found
      · next starts =>
          simp only [Option.map_eq_some_iff, Prod.mk.injEq] at found
          obtain ⟨⟨digits, _⟩, found, -, rfl⟩ := found
          exact ⟨true, point.trans (skims_decimal starts found false)⟩
      · cases found
        exact ⟨false, point⟩
  · cases found
    exact ⟨joined, .refl joined _⟩

theorem skims_signed {sign : Int} {text after : List Char} {exponent : Exponent}
    (found : exponent?.signed sign text = some (exponent, after)) (joined : Bool) :
    Skims joined text true after := by
  unfold exponent?.signed at found
  split at found
  · next starts =>
      simp only [Option.map_eq_some_iff, Prod.mk.injEq] at found
      obtain ⟨⟨digits, _⟩, found, -, rfl⟩ := found
      exact skims_decimal starts found joined
  · cases found

theorem skims_exponent {text after : List Char} {exponent : Exponent}
    (found : exponent? text = some (exponent, after)) (joined : Bool) :
    ∃ later, Skims joined text later after := by
  unfold exponent? at found
  split at found
  · next mark rest =>
      split at found
      · next isMark =>
          have first : Skims joined (mark :: rest) true rest := by
            rcases isMark with rfl | rfl
            · exact .word (by decide) (.inr (by decide)) rest
            · exact .word (by decide) (.inr (by decide)) rest
          split at found
          · exact ⟨true, first.trans
              ((Skims.plain (by decide) (.inl rfl) _).trans (skims_signed found _))⟩
          · exact ⟨true, first.trans
              ((Skims.plain (by decide) (.inl rfl) _).trans (skims_signed found _))⟩
          · split at found
            · exact ⟨true, first.trans (skims_signed found true)⟩
            · cases found
              exact ⟨joined, .refl joined _⟩
      · cases found
        exact ⟨joined, .refl joined _⟩
  · cases found
    exact ⟨joined, .refl joined _⟩

theorem skims_basedNumeral {base : Nat} {text after : List Char} {value : Numeral}
    (found : basedNumeral? base text = some (value, after)) : Skims true text false after := by
  unfold basedNumeral? at found
  split at found
  · next digits rest digitsFound =>
      split at found
      · cases found
      · next allowed =>
          cases found
          simp only [Bool.or_eq_true, Bool.not_eq_true', not_or, Bool.not_eq_false] at allowed
          exact (skims_digitsOf digitsFound).finish (mayFollowNumeral_joined allowed.2)
  · cases found

theorem skims_decimalNumeral {text after : List Char} {value : Numeral}
    (found : decimalNumeral? text = some (value, after)) (joined : Bool) :
    Skims joined text false after := by
  unfold decimalNumeral? at found
  simp only [Option.bind_eq_bind] at found
  rw [← apply_ite (Option.bind · _)] at found
  obtain ⟨⟨whole, behindWhole⟩, wholeFound, found⟩ := Option.bind_eq_some_iff.mp found
  obtain ⟨⟨fraction, behindFraction⟩, fractionFound, found⟩ := Option.bind_eq_some_iff.mp found
  obtain ⟨⟨exponent, rest⟩, exponentFound, found⟩ := Option.bind_eq_some_iff.mp found
  have wholeSkims : ∃ later, Skims joined text later behindWhole := by
    split at wholeFound
    · next starts => exact ⟨true, skims_decimal starts wholeFound joined⟩
    · cases wholeFound
      exact ⟨joined, .refl joined _⟩
  obtain ⟨first, wholeSkims⟩ := wholeSkims
  obtain ⟨second, fractionSkims⟩ := skims_fraction fractionFound first
  obtain ⟨third, exponentSkims⟩ := skims_exponent exponentFound second
  have skims := wholeSkims.trans (fractionSkims.trans exponentSkims)
  simp only at found
  split at found
  · obtain ⟨may, same⟩ := Option.ite_none_right_eq_some.mp found
    cases same
    exact (skims.trans (.word (by decide) (.inr (by decide)) _)).finish
      (mayFollowNumeral_joined may)
  · obtain ⟨may, same⟩ := Option.ite_none_right_eq_some.mp found
    cases same
    exact (skims.trans (.word (by decide) (.inr (by decide)) _)).finish
      (mayFollowNumeral_joined may)
  · simp only [Option.ite_none_left_eq_some, Bool.not_eq_true', Bool.not_eq_false] at found
    obtain ⟨may, found⟩ := found
    have same : rest = after := by
      split at found
      · exact (Prod.mk.inj (Option.some.inj found)).2
      · simp only [Option.ite_none_left_eq_some] at found
        exact (Prod.mk.inj (Option.some.inj found.2.2)).2
    exact same ▸ skims.finish (mayFollowNumeral_joined may)

theorem skims_numeral {text after : List Char} {value : Numeral}
    (found : numeral? text = some (value, after)) : Skims false text false after := by
  unfold numeral? at found
  split at found
  · next mark rest =>
      have based : ∀ {base : Nat}, Text.isAsciiWord mark = true →
          basedNumeral? base rest = some (value, after) →
          Skims false ('0' :: mark :: rest) false after := fun word found =>
        (Skims.word (by decide) (.inr (by decide)) _).trans
          ((Skims.word word (.inl rfl) rest).trans (skims_basedNumeral found))
      split at found
      · next hex => exact based (by rcases hex with rfl | rfl <;> decide) found
      split at found
      · next octal => exact based (by rcases octal with rfl | rfl <;> decide) found
      split at found
      · next binary => exact based (by rcases binary with rfl | rfl <;> decide) found
      · exact skims_decimalNumeral found false
  · exact skims_decimalNumeral found false

def isSign (character : Char) : Bool :=
  isPlain character && !isMarkLetter character && !continuesWord character

theorem isPlain_of_isSign {character : Char} (sign : isSign character = true) :
    isPlain character = true := by
  simp only [isSign, Bool.and_eq_true] at sign
  exact sign.1.1

theorem skims_signs {sign : List Char} (signs : ∀ character ∈ sign, isSign character = true)
    (after : List Char) : Skims false (sign ++ after) false after := by
  induction sign with
  | nil => exact .refl false after
  | cons character sign ih =>
      obtain ⟨first, others⟩ := List.forall_mem_cons.mp signs
      simp only [isSign, Bool.and_eq_true, Bool.not_eq_true'] at first
      obtain ⟨⟨plain, noLetter⟩, ends⟩ := first
      have one : Skims false (character :: (sign ++ after)) (continuesWord character) _ :=
        .plain plain (.inr noLetter) _
      rw [ends] at one
      exact one.trans (ih others)

theorem signs_of_mark? {text after : List Char} {mark : String}
    (found : mark? text = some (mark, after)) :
    ∃ first others, text = first :: others ++ after ∧
      ∀ character ∈ first :: others, isSign character = true := by
  unfold mark? at found
  split at found
  · next sign isFirst =>
      obtain ⟨rfl, rfl⟩ : sign = mark ∧ text.drop sign.length = after := by simpa using found
      have starts : sign.toList <+: text := by simpa using List.find?_some isFirst
      obtain ⟨rest, rfl⟩ := starts
      have signs : longMarks.all
          (fun sign => sign.toList ≠ [] && sign.toList.all isSign) = true := by decide
      obtain ⟨nonempty, all⟩ : sign.toList ≠ [] ∧ sign.toList.all isSign = true := by
        simpa using List.all_eq_true.mp signs sign (List.mem_of_find?_eq_some isFirst)
      obtain ⟨first, others, whole⟩ := List.exists_cons_of_ne_nil nonempty
      rw [← String.length_toList, List.drop_left]
      exact ⟨first, others, whole ▸ rfl, whole ▸ List.all_eq_true.mp all⟩
  · split at found
    · next sign rest _ =>
        obtain ⟨isMark, same⟩ := Option.ite_none_right_eq_some.mp found
        cases same
        have signs : shortMarks.all isSign = true := by decide
        exact ⟨_, [], rfl, by
          simpa using List.all_eq_true.mp signs _ (List.contains_iff_mem.mp isMark)⟩
    · cases found

end AccessControl.Matcher
