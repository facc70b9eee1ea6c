import AccessControl.Matcher.Compiled
import AccessControl.Proofs.Text.Trim

namespace AccessControl.Matcher

/-! The quoted texts that a matcher text is written with. Its characters belong to quoted
literals, to comments, to the space between tokens or to other tokens; signs that are no
tokens of the grammar are not told from others here. -/

/-- What counts of a piece for the texts that are quoted. A template is quoted, but has no
text. -/
inductive Part (α : Type)
  | text (value? : Option α)
  | gap
  | other
deriving DecidableEq, Repr

inductive Piece
  | literal (mark : LiteralMark) (quote : Char) (long : Bool) (body : List Char)
  | unclosed (quote : Char) (long : Bool) (rest : List Char)
  | comment (text : List Char)
  | space
  | other

namespace Piece

/-- The literal whose quote is at the start of the text, perhaps three of them. -/
def ofQuoted (mark : LiteralMark) : List Char → Piece
  | [] => .other
  | quote :: rest =>
      let long := [quote, quote].isPrefixOf rest
      match body? (quote :: rest) with
      | some (body, _) => .literal mark quote long body
      | none => .unclosed quote long (if long then rest.drop 2 else rest)

end Piece

def afterQuoted (quoted : List Char) : List Char :=
  match body? quoted with
  | some (_, after) => after
  | none => []

/-- The mark of the literal that starts here, and the text from its quote on. Within a word
no letter is a mark. -/
def literalAt? (joined : Bool) (text : List Char) : Option (LiteralMark × List Char) :=
  if joined && !text.head?.any isQuote then none else literalMark? text

def comment (text : List Char) : List Char :=
  text.takeWhile (· != '\n')

/-- The pieces of a text, without those characters at its start that belong to the piece
before. -/
def piecesFrom : (skipped : Nat) → (joined : Bool) → List Char → List Piece
  | _, _, [] => []
  | skipped + 1, joined, _ :: rest => piecesFrom skipped joined rest
  | 0, joined, character :: rest =>
      match literalAt? joined (character :: rest) with
      | some (mark, quoted) =>
          .ofQuoted mark quoted ::
            piecesFrom (rest.length - (afterQuoted quoted).length) false rest
      | none =>
          if character = '#' then
            .comment (comment rest) :: piecesFrom (comment rest).length false rest
          else if Text.isBlank character ∨ character = '\\' then
            .space :: piecesFrom 0 false rest
          else .other :: piecesFrom 0 (continuesWord character) rest

def pieces (text : String) : List Piece :=
  piecesFrom 0 false (unifyLines text.toList)

def Lexeme.part : Lexeme → Part String
  | .text value => .text (some value)
  | .template _ => .text none
  | _ => .other

def Piece.part : Piece → Part String
  | .literal mark _ _ body => ((mark.lexeme? body).map Lexeme.part).getD .other
  | .comment _ | .space => .gap
  | .unclosed .. | .other => .other

section

variable {α : Type} [Append α]

def joinedValue? : Option (Option α) → Option α → Option α
  | none, value? => value?
  | some before?, value? => do return (← before?) ++ (← value?)

/-- The texts of literals, where adjacent literals are one; those that come right before may
be adjacent to the first ones. -/
def joinedTexts : Option (Option α) → List (Part α) → List α
  | before?, [] => before?.join.toList
  | before?, .text value? :: parts => joinedTexts (some (joinedValue? before? value?)) parts
  | before?, .gap :: parts => joinedTexts before? parts
  | before?, .other :: parts => before?.join.toList ++ joinedTexts none parts

end

def quotedTexts (text : String) : List String :=
  joinedTexts none ((pieces text).map Piece.part)

def codePoints (text : String) : List Nat :=
  text.toList.map Char.toNat

/-- The code points of a literal that is a text. -/
def LiteralMark.codes? (mark : LiteralMark) (body : List Char) : Option (List Nat) :=
  if mark.raw then some (body.map Char.toNat) else unescapeCodes body

def Piece.coded : Piece → Part (List Nat)
  | .literal mark _ _ body =>
      match mark.lexeme? body with
      | some (.text _) => .text (mark.codes? body)
      | some (.template _) => .text none
      | _ => .other
  | .comment _ | .space => .gap
  | .unclosed .. | .other => .other

def quotedCodes (text : String) : List (List Nat) :=
  joinedTexts none ((pieces text).map Piece.coded)

def Piece.isSpelled : Piece → Bool
  | .literal mark _ _ body =>
      mark.template || mark.bytes ||
        (mark.codes? body).any (·.all fun code => decide code.isValidChar)
  | _ => true

/-- Every escape in a text stands for a character: for none by its name, and for no half of a
pair. -/
def Spelled (text : String) : Prop :=
  ∀ piece ∈ pieces text, piece.isSpelled = true

instance (text : String) : Decidable (Spelled text) :=
  inferInstanceAs (Decidable (∀ piece ∈ pieces text, piece.isSpelled = true))

def Part.map {α β : Type} (encode : α → β) : Part α → Part β
  | .text value? => .text (value?.map encode)
  | .gap => .gap
  | .other => .other

theorem joinedTexts_map {α β : Type} [Append α] [Append β] {encode : α → β}
    (ofAppend : ∀ first second, encode (first ++ second) = encode first ++ encode second)
    (before? : Option (Option α)) (parts : List (Part α)) :
    joinedTexts (before?.map (·.map encode)) (parts.map (Part.map encode)) =
      (joinedTexts before? parts).map encode := by
  have ofValue : ∀ before? value?, joinedValue? (before?.map (·.map encode)) (value?.map encode) =
      (joinedValue? before? value?).map encode := by
    rintro (_ | _ | before) (_ | value) <;> simp [joinedValue?, ofAppend]
  induction parts generalizing before? with
  | nil => rcases before? with _ | _ | before <;> rfl
  | cons part parts ih =>
      cases part with
      | text value? =>
          rw [List.map_cons, Part.map, joinedTexts, ofValue]
          exact ih (some (joinedValue? before? value?))
      | gap => exact ih before?
      | other =>
          have later := ih none
          rcases before? with _ | _ | before
          · exact later
          · exact later
          · exact congrArg (encode before :: ·) later

theorem codePoints_append (first second : String) :
    codePoints (first ++ second) = codePoints first ++ codePoints second := by
  simp [codePoints]

theorem toNat_scalar {code : Nat} (valid : code.isValidChar) : (scalar code).toNat = code := by
  have noHalf : ¬ (0xd800 ≤ code ∧ code < 0xe000) := by
    rcases valid with low | ⟨high, -⟩ <;> omega
  rw [scalar, if_neg noHalf, Char.ofNat, dif_pos valid]
  rfl

theorem scalar_toNat (character : Char) : scalar character.toNat = character := by
  have noHalf : ¬ (0xd800 ≤ character.toNat ∧ character.toNat < 0xe000) := by
    have valid : character.toNat.isValidChar := character.valid
    rcases valid with low | ⟨high, -⟩ <;> omega
  rw [scalar, if_neg noHalf, Char.ofNat_toNat]

theorem codePoints_scalars {codes : List Nat} (valid : ∀ code ∈ codes, code.isValidChar) :
    codePoints (String.ofList (codes.map scalar)) = codes := by
  have same : ∀ code ∈ codes, (Char.toNat ∘ scalar) code = id code := fun code member =>
    toNat_scalar (valid code member)
  rw [codePoints, String.toList_ofList, List.map_map, List.map_congr_left same, List.map_id]

theorem LiteralMark.codes?_of_lexeme? {mark : LiteralMark} {body : List Char} {value : String}
    (isText : mark.lexeme? body = some (.text value)) :
    mark.template = false ∧ mark.bytes = false ∧
      ∃ codes, mark.codes? body = some codes ∧ value = String.ofList (codes.map scalar) := by
  obtain ⟨raw, bytes, template⟩ := mark
  unfold lexeme? at isText
  cases template with
  | true => simp at isText
  | false =>
      cases bytes with
      | true =>
          simp only [Bool.false_eq_true, if_false, if_true] at isText
          split at isText
          · cases isText
          split at isText
          · cases isText
          · simp at isText
      | false =>
          refine ⟨rfl, rfl, ?_⟩
          cases raw with
          | true =>
              cases isText
              exact ⟨_, rfl, by simp [Function.comp_def, scalar_toNat]⟩
          | false =>
              obtain ⟨characters, unescaped, same⟩ := Option.map_eq_some_iff.mp isText
              cases same
              obtain ⟨codes, areCodes, rfl⟩ := Option.map_eq_some_iff.mp unescaped
              exact ⟨codes, areCodes, rfl⟩

theorem Piece.coded_eq {piece : Piece} (spelled : piece.isSpelled = true) :
    piece.coded = piece.part.map codePoints := by
  cases piece with
  | literal mark quote long body =>
      rw [coded, part]
      cases isLexeme : mark.lexeme? body with
      | none => rfl
      | some lexeme =>
          cases lexeme with
          | text value =>
              obtain ⟨noTemplate, noBytes, codes, areCodes, rfl⟩ :=
                LiteralMark.codes?_of_lexeme? isLexeme
              have valid : ∀ code ∈ codes, code.isValidChar := by
                simpa [isSpelled, noTemplate, noBytes, areCodes] using spelled
              rw [areCodes]
              simp only [Option.map_some, Option.getD_some, Lexeme.part, Part.map,
                codePoints_scalars valid]
          | _ => rfl
  | _ => rfl

/-- Where every escape stands for a character, the texts that are quoted are those that their
code points tell. -/
theorem quotedCodes_eq {text : String} (spelled : Spelled text) :
    quotedCodes text = (quotedTexts text).map codePoints := by
  have coded : (pieces text).map Piece.coded =
      ((pieces text).map Piece.part).map (Part.map codePoints) := by
    rw [List.map_map]
    exact List.map_congr_left fun piece member => Piece.coded_eq (spelled piece member)
  rw [quotedCodes, coded]
  exact joinedTexts_map codePoints_append none _

/-- Whether the mark occurs without a backslash that hides it. -/
def shows (mark : Char) : List Char → Bool
  | [] => false
  | '\\' :: _ :: rest => shows mark rest
  | character :: rest => character = mark || shows mark rest

def Piece.legible : Piece → Bool
  | .literal _ quote long body => !(long && shows quote body)
  | .unclosed quote long rest => !(long && shows quote rest)
  | .comment text => !text.any isQuote
  | .space | .other => true

/-- No comment holds a quote, and no literal between three quotes holds one that is not
hidden. -/
def Legible (text : String) : Prop :=
  ∀ piece ∈ pieces text, piece.legible = true

instance (text : String) : Decidable (Legible text) :=
  inferInstanceAs (Decidable (∀ piece ∈ pieces text, piece.legible = true))

def isMarkLetter (character : Char) : Bool :=
  ['u', 'r', 'b', 'f'].contains character.toLower

theorem continuesWord_of_isMarkLetter {character : Char}
    (letter : isMarkLetter character = true) : continuesWord character = true := by
  have word : character.isAlphanum = true := by
    unfold isMarkLetter Char.toLower at letter
    split at letter
    · next upper =>
        have isUpper : character.isUpper = true := by
          unfold Char.isUpper
          simpa using upper
        unfold Char.isAlphanum Char.isAlpha
        rw [isUpper, Bool.true_or, Bool.true_or]
    · simp only [List.contains_iff_mem, List.mem_cons, List.not_mem_nil, or_false] at letter
      rcases letter with rfl | rfl | rfl | rfl <;> decide
  simp [continuesWord, Text.isAsciiWord, word]

theorem isMarkLetter_of_blank {blank : Char} (isBlank : Text.isBlank blank = true) :
    isMarkLetter blank = false := by
  have all := @Text.Ranges.forall_has Text.blankRanges (fun character => !isMarkLetter character)
    (by decide) blank isBlank
  simpa using all

theorem eq_of_isQuote {quote : Char} (quotes : isQuote quote = true) :
    quote = '\'' ∨ quote = '"' := by
  simpa [isQuote] using quotes

theorem LiteralMark.of_ofLetters? {letters : List Char} {mark : LiteralMark}
    (found : ofLetters? letters = some mark) :
    letters.length ≤ 2 ∧ ∀ letter ∈ letters, letter ∈ ['u', 'r', 'b', 'f'] := by
  unfold ofLetters? at found
  split at found
  case h_10 => cases found
  all_goals simp

structure Opens (mark : LiteralMark) (letters quoted text : List Char) : Prop where
  whole : text = letters ++ quoted
  mark : LiteralMark.ofLetters? (letters.map Char.toLower) = some mark
  quote : quoted.head?.any isQuote = true

namespace Opens

variable {mark : LiteralMark} {letters quoted text : List Char}

theorem length_le (opens : Opens mark letters quoted text) : letters.length ≤ 2 := by
  simpa using (LiteralMark.of_ofLetters? opens.mark).1

theorem isMarkLetter (opens : Opens mark letters quoted text) :
    ∀ letter ∈ letters, isMarkLetter letter = true := by
  intro letter member
  rw [Matcher.isMarkLetter, List.contains_iff_mem]
  exact (LiteralMark.of_ofLetters? opens.mark).2 _ (List.mem_map_of_mem member)

theorem exists_quote (opens : Opens mark letters quoted text) :
    ∃ quote rest, quoted = quote :: rest ∧ isQuote quote = true := by
  have quotes := opens.quote
  cases quoted with
  | nil => cases quotes
  | cons quote rest => exact ⟨quote, rest, rfl, by simpa using quotes⟩

end Opens

theorem not_isQuote_of_isMarkLetter {letter : Char} (isLetter : isMarkLetter letter = true) :
    isQuote letter = false := by
  rw [← Bool.not_eq_true]
  intro quotes
  rcases eq_of_isQuote quotes with rfl | rfl <;> revert isLetter <;> decide

theorem literalMark?_eq_some {text quoted : List Char} {mark : LiteralMark} :
    literalMark? text = some (mark, quoted) ↔ ∃ letters, Opens mark letters quoted text := by
  constructor
  · intro found
    unfold literalMark? at found
    simp only at found
    split at found
    · next quotes =>
        simp only [Option.map_eq_some_iff, Prod.mk.injEq] at found
        obtain ⟨_, isMark, rfl, rfl⟩ := found
        refine ⟨_, ?_, isMark, quotes⟩
        have start := List.takeWhile_prefix (fun character => !isQuote character) (l := text.take 3)
        exact (List.prefix_iff_eq_append.mp (start.trans (List.take_prefix 3 text))).symm
    · cases found
  · rintro ⟨letters, opens⟩
    obtain ⟨quote, rest, rfl, quotes⟩ := opens.exists_quote
    have length := opens.length_le
    have spared : ((letters ++ quote :: rest).take 3).takeWhile
        (fun character => !isQuote character) = letters := by
      have noQuote : ∀ letter ∈ letters, isQuote letter = false := fun letter member =>
        not_isQuote_of_isMarkLetter (opens.isMarkLetter letter member)
      match letters, length, noQuote with
      | [], _, _ => simp [quotes]
      | [first], _, noQuote => simp [quotes, noQuote]
      | [first, second], _, noQuote => simp [quotes, noQuote]
    rw [opens.whole, literalMark?, spared]
    simp [quotes, opens.mark]

theorem literalAt?_eq_some {joined : Bool} {text quoted : List Char} {mark : LiteralMark} :
    literalAt? joined text = some (mark, quoted) ↔
      ∃ letters, Opens mark letters quoted text ∧ (joined = true → letters = []) := by
  have bare : ∀ {letters}, Opens mark letters quoted text →
      (text.head?.any isQuote = true ↔ letters = []) := by
    intro letters opens
    obtain ⟨quote, rest, rfl, quotes⟩ := opens.exists_quote
    rw [opens.whole]
    match letters, opens.isMarkLetter with
    | [], _ => simp [quotes]
    | first :: others, isLetter =>
        simp [not_isQuote_of_isMarkLetter (isLetter first List.mem_cons_self)]
  unfold literalAt?
  constructor
  · intro found
    split at found
    · cases found
    · next free =>
        obtain ⟨letters, opens⟩ := literalMark?_eq_some.mp found
        refine ⟨letters, opens, fun isJoined => (bare opens).mp ?_⟩
        simpa [isJoined] using free
  · rintro ⟨letters, opens, unlettered⟩
    rw [if_neg, literalMark?_eq_some]
    · exact ⟨letters, opens⟩
    · rw [Bool.and_eq_true, Bool.not_eq_true', not_and, Bool.not_eq_false]
      exact fun isJoined => (bare opens).mpr (unlettered isJoined)

theorem literalAt?_eq_none {joined : Bool} {character : Char} (noQuote : isQuote character = false)
    (noLetter : joined = true ∨ isMarkLetter character = false) (rest : List Char) :
    literalAt? joined (character :: rest) = none := by
  rw [Option.eq_none_iff_forall_ne_some]
  rintro ⟨mark, quoted⟩ found
  obtain ⟨letters, opens, unlettered⟩ := literalAt?_eq_some.mp found
  obtain ⟨quote, others, rfl, quotes⟩ := opens.exists_quote
  have whole := opens.whole
  match letters, opens.isMarkLetter, unlettered with
  | [], _, _ =>
      cases whole
      rw [quotes] at noQuote
      cases noQuote
  | first :: more, isLetter, unlettered =>
      rcases noLetter with isJoined | noLetter
      · cases unlettered isJoined
      · cases whole
        rw [isLetter _ List.mem_cons_self] at noLetter
        cases noLetter

theorem ne_backslash_of_isQuote {quote : Char} (quotes : isQuote quote = true) :
    quote ≠ '\\' := by
  rcases eq_of_isQuote quotes with rfl | rfl <;> decide

def ShortBody (quote : Char) (body : List Char) : Prop :=
  ∀ after, shortBody? quote (body ++ quote :: after) = some (body, after)

def LongBody (quote : Char) (body : List Char) : Prop :=
  ∀ after, longBody? quote (body ++ quote :: quote :: quote :: after) = some (body, after)

section

variable {quote : Char} (quotes : isQuote quote = true)

include quotes

theorem shortBody_of_shortBody? {text body after : List Char}
    (found : shortBody? quote text = some (body, after)) :
    text = body ++ quote :: after ∧ ShortBody quote body := by
  induction text using shortBody?.induct quote generalizing body with
  | case1 => cases found
  | case2 escaped rest ih =>
      simp only [shortBody?, Option.map_eq_some_iff, Prod.mk.injEq] at found
      obtain ⟨⟨inner, _⟩, found, rfl, rfl⟩ := found
      obtain ⟨rfl, isBody⟩ := ih found
      refine ⟨rfl, fun other => ?_⟩
      simp only [List.cons_append, shortBody?, isBody other, Option.map_some]
  | case3 rest single =>
      rw [shortBody?, if_pos rfl] at found
      · cases found
        refine ⟨rfl, fun other => ?_⟩
        rw [List.nil_append, shortBody?, if_pos rfl]
        exact fun _ _ same => absurd same (ne_backslash_of_isQuote quotes)
      · exact single
  | case4 rest single noQuote =>
      rw [shortBody?, if_neg noQuote, if_pos rfl] at found
      · cases found
      · exact single
  | case5 character rest single noQuote noBreak ih =>
      rw [shortBody?, if_neg noQuote, if_neg noBreak] at found
      · simp only [Option.map_eq_some_iff, Prod.mk.injEq] at found
        obtain ⟨⟨inner, _⟩, found, rfl, rfl⟩ := found
        obtain ⟨rfl, isBody⟩ := ih found
        refine ⟨rfl, fun other => ?_⟩
        rw [List.cons_append, shortBody?, if_neg noQuote, if_neg noBreak, isBody other]
        · rfl
        · -- a backslash that escapes nothing would be the last character
          rintro escaped others rfl same
          cases inner with
          | nil => exact single quote _ rfl rfl
          | cons next inner => exact single next _ rfl rfl
      · exact single

omit quotes in
theorem isPrefixOf_quotes (inner after other : List Char) :
    [quote, quote].isPrefixOf (inner ++ quote :: quote :: quote :: after) =
      [quote, quote].isPrefixOf (inner ++ quote :: quote :: quote :: other) := by
  match inner with
  | [] | [_] | _ :: _ :: _ => simp [List.isPrefixOf]

theorem longBody_of_longBody? {text body after : List Char}
    (found : longBody? quote text = some (body, after)) :
    text = body ++ quote :: quote :: quote :: after ∧ LongBody quote body := by
  induction text using longBody?.induct quote generalizing body with
  | case1 => cases found
  | case2 escaped rest ih =>
      simp only [longBody?, Option.map_eq_some_iff, Prod.mk.injEq] at found
      obtain ⟨⟨inner, _⟩, found, rfl, rfl⟩ := found
      obtain ⟨rfl, isBody⟩ := ih found
      refine ⟨rfl, fun other => ?_⟩
      simp only [List.cons_append, longBody?, isBody other, Option.map_some]
  | case3 character rest single closing =>
      rw [longBody?, if_pos closing] at found
      · cases found
        obtain ⟨rfl, closes⟩ := closing
        obtain ⟨others, rfl⟩ := List.isPrefixOf_iff_prefix.mp closes
        refine ⟨rfl, fun other => ?_⟩
        rw [List.nil_append, longBody?, if_pos ⟨rfl, by simp [List.isPrefixOf]⟩]
        · rfl
        · exact fun _ _ same => absurd same (ne_backslash_of_isQuote quotes)
      · exact single
  | case4 character rest single open_ ih =>
      rw [longBody?, if_neg open_] at found
      · simp only [Option.map_eq_some_iff, Prod.mk.injEq] at found
        obtain ⟨⟨inner, _⟩, found, rfl, rfl⟩ := found
        obtain ⟨rfl, isBody⟩ := ih found
        refine ⟨rfl, fun other => ?_⟩
        rw [List.cons_append, longBody?, if_neg, isBody other]
        · rfl
        · rwa [isPrefixOf_quotes inner other]
        · rintro escaped others rfl same
          cases inner with
          | nil => exact single quote _ rfl rfl
          | cons next inner => exact single next _ rfl rfl
      · exact single

theorem ShortBody.ne_quote {first : Char} {body : List Char}
    (isBody : ShortBody quote (first :: body)) : first ≠ quote := by
  rintro rfl
  have found := isBody []
  rw [List.cons_append, shortBody?, if_pos rfl] at found
  · cases found
  · exact fun _ _ same => absurd same (ne_backslash_of_isQuote quotes)

end

def quoteMarks (quote : Char) (long : Bool) : List Char :=
  if long then [quote, quote, quote] else [quote]

/-- A literal with its body, and what is behind it. Two quotes that no third one follows are
an empty literal. -/
structure Encloses (quote : Char) (long : Bool) (body after quoted : List Char) : Prop where
  isQuote : isQuote quote = true
  whole : quoted = quoteMarks quote long ++ (body ++ (quoteMarks quote long ++ after))
  body : if long then LongBody quote body
    else ShortBody quote body ∧ (body = [] → after.head? ≠ some quote)

theorem encloses_of_body? {quote : Char} {rest body after : List Char}
    (quotes : isQuote quote = true) (found : body? (quote :: rest) = some (body, after)) :
    Encloses quote ([quote, quote].isPrefixOf rest) body after (quote :: rest) := by
  unfold body? at found
  simp only at found
  split at found
  · next long =>
      obtain ⟨others, rfl⟩ := List.isPrefixOf_iff_prefix.mp long
      rw [long]
      obtain ⟨whole, isBody⟩ := longBody_of_longBody? quotes found
      exact ⟨quotes, congrArg (quote :: quote :: quote :: ·) whole, isBody⟩
  · next short =>
      rw [Bool.not_eq_true] at short
      obtain ⟨rfl, isBody⟩ := shortBody_of_shortBody? quotes found
      rw [short]
      refine ⟨quotes, rfl, isBody, ?_⟩
      rintro rfl follows
      obtain ⟨others, rfl⟩ := List.head?_eq_some_iff.mp follows
      simp [List.isPrefixOf] at short

namespace Encloses

variable {quote : Char} {long : Bool} {body after quoted : List Char}

theorem exists_rest (encloses : Encloses quote long body after quoted) :
    ∃ rest, quoted = quote :: rest ∧ after <:+ rest ∧
      [quote, quote].isPrefixOf rest = long ∧ body? quoted = some (body, after) := by
  obtain ⟨quotes, whole, isBody⟩ := encloses
  cases long with
  | true =>
      have long : [quote, quote].isPrefixOf
          (quote :: quote :: (body ++ quote :: quote :: quote :: after)) = true := by
        simp [List.isPrefixOf]
      refine ⟨_, whole, ⟨quote :: quote :: (body ++ [quote, quote, quote]), by simp [quoteMarks]⟩,
        long, ?_⟩
      rw [whole]
      exact (if_pos long).trans (isBody after)
  | false =>
      obtain ⟨isBody, unfollowed⟩ := isBody
      have short : [quote, quote].isPrefixOf (body ++ quote :: after) = false := by
        rw [Bool.eq_false_iff]
        intro long
        obtain ⟨others, same⟩ := List.isPrefixOf_iff_prefix.mp long
        match body, isBody, unfollowed with
        | [], _, unfollowed =>
            cases same
            exact unfollowed rfl rfl
        | first :: more, isBody, _ => exact isBody.ne_quote quotes (List.cons.inj same).1.symm
      refine ⟨_, whole, ⟨body ++ [quote], by simp [quoteMarks]⟩, short, ?_⟩
      rw [whole]
      exact (if_neg (Bool.eq_false_iff.mp short)).trans (isBody after)

theorem length_lt (encloses : Encloses quote long body after quoted) {mark : LiteralMark}
    {letters text : List Char} (opens : Opens mark letters quoted text) :
    after.length < text.length := by
  obtain ⟨rest, rfl, suffix, -⟩ := encloses.exists_rest
  have shorter := suffix.length_le
  rw [opens.whole, List.length_append, List.length_cons]
  omega

theorem ofQuoted_eq (encloses : Encloses quote long body after quoted) (mark : LiteralMark) :
    Piece.ofQuoted mark quoted = .literal mark quote long body := by
  obtain ⟨rest, rfl, -, isLong, found⟩ := encloses.exists_rest
  rw [Piece.ofQuoted, found, isLong]

theorem afterQuoted_eq (encloses : Encloses quote long body after quoted) :
    afterQuoted quoted = after := by
  obtain ⟨rest, rfl, -, -, found⟩ := encloses.exists_rest
  rw [afterQuoted, found]

end Encloses

theorem afterQuoted_suffix {quote : Char} (quotes : isQuote quote = true) (rest : List Char) :
    afterQuoted (quote :: rest) <:+ rest := by
  unfold afterQuoted
  split
  · next body after found =>
      obtain ⟨_, same, suffix, -⟩ := (encloses_of_body? quotes found).exists_rest
      cases same
      exact suffix
  · exact List.nil_suffix

theorem drop_takeWhile (test : Char → Bool) (text : List Char) :
    text.drop (text.takeWhile test).length = text.dropWhile test := by
  have behind := @List.drop_left _ (text.takeWhile test) (text.dropWhile test)
  rwa [List.takeWhile_append_dropWhile] at behind

theorem piecesFrom_drop (skipped : Nat) (joined : Bool) (text : List Char) :
    piecesFrom skipped joined text = piecesFrom 0 joined (text.drop skipped) := by
  induction text generalizing skipped with
  | nil => simp [piecesFrom]
  | cons character rest ih =>
      cases skipped with
      | zero => rfl
      | succ skipped => exact ih skipped

section

variable {joined : Bool}

theorem piecesFrom_quoted {mark : LiteralMark} {text quoted : List Char}
    (found : literalAt? joined text = some (mark, quoted)) :
    piecesFrom 0 joined text = .ofQuoted mark quoted :: piecesFrom 0 false (afterQuoted quoted) := by
  obtain ⟨letters, opens, -⟩ := literalAt?_eq_some.mp found
  obtain ⟨quote, behind, rfl, quotes⟩ := opens.exists_quote
  have suffix := afterQuoted_suffix quotes behind
  cases text with
  | nil => cases letters <;> cases opens.whole
  | cons character rest =>
      have inside : afterQuoted (quote :: behind) <:+ rest := by
        have whole := opens.whole
        cases letters with
        | nil =>
            cases whole
            exact suffix
        | cons letter letters =>
            cases whole
            exact suffix.trans ((List.suffix_cons quote behind).trans (List.suffix_append _ _))
      rw [piecesFrom, found]
      simp only
      rw [piecesFrom_drop, ← List.suffix_iff_eq_drop.mp inside]

theorem piecesFrom_comment (rest : List Char) :
    piecesFrom 0 joined ('#' :: rest) =
      .comment (comment rest) :: piecesFrom 0 false (afterComment rest) := by
  rw [piecesFrom, literalAt?_eq_none (by decide) (.inr (by decide))]
  simp only [if_true]
  rw [piecesFrom_drop, comment, drop_takeWhile]
  rfl

theorem not_isQuote_of_space {space : Char}
    (isSpace : Text.isBlank space = true ∨ space = '\\') : isQuote space = false := by
  rw [← Bool.not_eq_true]
  intro quotes
  rcases eq_of_isQuote quotes with rfl | rfl <;> revert isSpace <;> decide

theorem piecesFrom_space {space : Char} (isSpace : Text.isBlank space = true ∨ space = '\\')
    (rest : List Char) :
    piecesFrom 0 joined (space :: rest) = .space :: piecesFrom 0 false rest := by
  have noComment : space ≠ '#' := by
    rcases isSpace with blank | rfl
    · exact Text.ne_of_blank blank (by decide)
    · decide
  have noLetter : isMarkLetter space = false := by
    rcases isSpace with blank | rfl
    · exact isMarkLetter_of_blank blank
    · decide
  rw [piecesFrom, literalAt?_eq_none (not_isQuote_of_space isSpace) (.inr noLetter)]
  simp only
  rw [if_neg noComment, if_pos isSpace]

def isPlain (character : Char) : Bool :=
  !isQuote character && character != '#' && !Text.isBlank character && character != '\\'

theorem piecesFrom_other {character : Char} (plain : isPlain character = true) {rest : List Char}
    (noLiteral : literalAt? joined (character :: rest) = none) :
    piecesFrom 0 joined (character :: rest) =
      .other :: piecesFrom 0 (continuesWord character) rest := by
  simp only [isPlain, Bool.and_eq_true, Bool.not_eq_true', bne_iff_ne] at plain
  obtain ⟨⟨⟨-, noComment⟩, noBlank⟩, noBackslash⟩ := plain
  rw [piecesFrom, noLiteral]
  simp only
  rw [if_neg noComment, if_neg (by simp [noBlank, noBackslash])]

theorem piecesFrom_plain {character : Char} (plain : isPlain character = true)
    (noLetter : joined = true ∨ isMarkLetter character = false) (rest : List Char) :
    piecesFrom 0 joined (character :: rest) =
      .other :: piecesFrom 0 (continuesWord character) rest := by
  have noQuote : isQuote character = false := by
    simp only [isPlain, Bool.and_eq_true, Bool.not_eq_true'] at plain
    exact plain.1.1.1
  exact piecesFrom_other plain (literalAt?_eq_none noQuote noLetter rest)

end

inductive Start (joined : Bool) : List Char → Prop
  | nothing : Start joined []
  | literal {mark : LiteralMark} {letters quoted text : List Char}
      (opens : Opens mark letters quoted text) (unlettered : joined = true → letters = []) :
      Start joined text
  | comment (rest : List Char) : Start joined ('#' :: rest)
  | space {space : Char} (isSpace : Text.isBlank space = true ∨ space = '\\')
      (rest : List Char) : Start joined (space :: rest)
  | other {character : Char} {rest : List Char} (plain : isPlain character = true)
      (noLiteral : literalAt? joined (character :: rest) = none) :
      Start joined (character :: rest)

theorem start (joined : Bool) (text : List Char) : Start joined text := by
  cases found : literalAt? joined text with
  | some start =>
      obtain ⟨letters, opens, unlettered⟩ := literalAt?_eq_some.mp found
      exact .literal opens unlettered
  | none =>
      cases text with
      | nil => exact .nothing
      | cons character rest =>
          by_cases hash : character = '#'
          · subst hash
            exact .comment rest
          by_cases isSpace : Text.isBlank character = true ∨ character = '\\'
          · exact .space isSpace rest
          · refine .other ?_ found
            have noQuote : isQuote character = false := by
              rw [← Bool.not_eq_true]
              intro quotes
              have opens : Opens ⟨false, false, false⟩ [] (character :: rest) (character :: rest) :=
                ⟨rfl, rfl, quotes⟩
              rw [literalAt?_eq_some.mpr ⟨[], opens, fun _ => rfl⟩] at found
              cases found
            simp only [not_or, Bool.not_eq_true] at isSpace
            simp [isPlain, noQuote, hash, isSpace]

end AccessControl.Matcher
