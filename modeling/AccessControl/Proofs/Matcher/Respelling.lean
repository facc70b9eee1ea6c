import AccessControl.Proofs.Matcher.Lexing
import AccessControl.Proofs.Matcher.Spelling

namespace AccessControl.Matcher

def signWords : List (List Char × List Char) :=
  [(['&', '&'], ['a', 'n', 'd']), (['|', '|'], ['o', 'r']), (['!'], ['n', 'o', 't'])]

theorem mem_signWords {sign word : List Char} :
    (sign, word) ∈ signWords ↔ sign = ['&', '&'] ∧ word = ['a', 'n', 'd'] ∨
      sign = ['|', '|'] ∧ word = ['o', 'r'] ∨ sign = ['!'] ∧ word = ['n', 'o', 't'] := by
  simp [signWords]

/-- Outside of quoted texts, signs may be spelled out; the quote is that of the text around
the place, if there is one. -/
inductive Respells : Option Char → List Char → List Char → Prop
  | done : Respells none [] []
  | sign {text rest spelled sign word : List Char} (means : (sign, word) ∈ signWords)
      (whole : text = sign ++ rest) (later : Respells none rest spelled) :
      Respells none text (' ' :: (word ++ ' ' :: spelled))
  | same {character : Char} {rest spelled : List Char} (noQuote : isQuote character = false)
      (later : Respells none rest spelled) :
      Respells none (character :: rest) (character :: spelled)
  | opening {quote : Char} {rest spelled : List Char} (quotes : isQuote quote = true)
      (later : Respells (some quote) rest spelled) :
      Respells none (quote :: rest) (quote :: spelled)
  | escape {quote escaped : Char} {rest spelled : List Char}
      (later : Respells (some quote) rest spelled) :
      Respells (some quote) ('\\' :: escaped :: rest) ('\\' :: escaped :: spelled)
  | within {quote character : Char} {rest spelled : List Char} (noEscape : character ≠ '\\')
      (noQuote : character ≠ quote) (later : Respells (some quote) rest spelled) :
      Respells (some quote) (character :: rest) (character :: spelled)
  | closing {quote : Char} {rest spelled : List Char} (quotes : isQuote quote = true)
      (later : Respells none rest spelled) :
      Respells (some quote) (quote :: rest) (quote :: spelled)

theorem respells_of_spellOutFrom {quote? : Option Char} {text spelled : List Char}
    (quotes : ∀ quote ∈ quote?, isQuote quote = true)
    (found : spellOutFrom quote? text = some spelled) : Respells quote? text spelled := by
  have spelledOut : ∀ {sign word rest later : List Char}, (sign, word) ∈ signWords →
      Respells none rest later → Respells none (sign ++ rest) (' ' :: (word ++ ' ' :: later)) :=
    fun means => .sign means rfl
  have outside : ∀ quote ∈ (none : Option Char), isQuote quote = true := by simp
  induction quote?, text using spellOutFrom.induct generalizing spelled with
  | case1 =>
      cases found
      exact .done
  | case2 quote => cases found
  | case3 quote escaped rest ih =>
      obtain ⟨later, behind, rfl⟩ := Option.map_eq_some_iff.mp found
      exact .escape (ih quotes behind)
  | case4 quote character rest single ih =>
      rw [spellOutFrom] at found
      · obtain ⟨later, behind, rfl⟩ := Option.map_eq_some_iff.mp found
        by_cases same : character = quote
        · subst same
          rw [if_pos rfl] at behind ih
          exact .closing (quotes character rfl) (ih outside behind)
        · rw [if_neg same] at behind ih
          refine .within ?_ same (ih quotes behind)
          rintro rfl
          -- a backslash that escapes nothing would be the last character
          cases rest with
          | nil => cases behind
          | cons escaped rest => exact single escaped rest rfl rfl
      · exact single
  | case5 rest ih =>
      obtain ⟨later, behind, rfl⟩ := Option.map_eq_some_iff.mp found
      exact spelledOut (.head _) (ih quotes behind)
  | case6 rest ih =>
      obtain ⟨later, behind, rfl⟩ := Option.map_eq_some_iff.mp found
      exact spelledOut (.tail _ (.head _)) (ih quotes behind)
  | case7 rest ih =>
      obtain ⟨later, behind, rfl⟩ := Option.map_eq_some_iff.mp found
      exact .same (by decide) (.same (by decide) (ih quotes behind))
  | case8 rest single ih =>
      rw [spellOutFrom] at found
      · obtain ⟨later, behind, rfl⟩ := Option.map_eq_some_iff.mp found
        exact spelledOut (.tail _ (.tail _ (.head _))) (ih quotes behind)
      · exact single
  | case9 character rest noAnd noOr noUnequal noNot ih =>
      rw [spellOutFrom_plain (fun others same => noAnd others same)
        (fun others same => noOr others same) noNot] at found
      obtain ⟨later, behind, rfl⟩ := Option.map_eq_some_iff.mp found
      by_cases isQuote : character = '\'' ∨ character = '"'
      · rw [if_pos isQuote] at behind ih
        have quotes : Matcher.isQuote character = true := by simpa [Matcher.isQuote] using isQuote
        exact .opening quotes (ih (by simpa using quotes) behind)
      · rw [if_neg isQuote] at behind ih
        exact .same (by simpa [Matcher.isQuote] using isQuote) (ih outside behind)

def stays (character : Char) : Bool :=
  character != '&' && character != '|' && character != '!'

theorem eq_of_stays_eq_false {character : Char} (leaves : stays character = false) :
    character = '&' ∨ character = '|' ∨ character = '!' := by
  rw [stays, Bool.and_eq_false_iff, Bool.and_eq_false_iff, or_assoc] at leaves
  simpa only [bne_eq_false_iff_eq] using leaves

theorem head_of_means {sign word : List Char} (means : (sign, word) ∈ signWords) :
    ∃ first rest, sign = first :: rest ∧ stays first = false := by
  rcases mem_signWords.mp means with ⟨rfl, -⟩ | ⟨rfl, -⟩ | ⟨rfl, -⟩ <;> exact ⟨_, _, rfl, rfl⟩

namespace Respells

variable {quote character : Char} {text rest spelled : List Char}

theorem cons_of_stays (respells : Respells none (character :: rest) spelled)
    (stays : stays character = true) (noQuote : isQuote character = false) :
    ∃ later, spelled = character :: later ∧ Respells none rest later := by
  cases respells with
  | sign means whole later =>
      obtain ⟨first, others, rfl, gone⟩ := head_of_means means
      cases whole
      rw [stays] at gone
      cases gone
  | same _ later => exact ⟨_, rfl, later⟩
  | opening quotes later =>
      rw [quotes] at noQuote
      cases noQuote

theorem cons_of_isQuote (respells : Respells none (quote :: rest) spelled)
    (quotes : isQuote quote = true) :
    ∃ later, spelled = quote :: later ∧ Respells (some quote) rest later := by
  cases respells with
  | sign means whole later =>
      obtain ⟨first, others, rfl, gone⟩ := head_of_means means
      cases whole
      rcases eq_of_isQuote quotes with rfl | rfl <;> cases gone
  | same noQuote later =>
      rw [quotes] at noQuote
      cases noQuote
  | opening _ later => exact ⟨_, rfl, later⟩

theorem of_cons (respells : Respells none text (character :: spelled))
    (noSpace : character ≠ ' ') :
    ∃ rest, text = character :: rest ∧
      (isQuote character = false → Respells none rest spelled) := by
  cases respells with
  | sign => exact absurd rfl noSpace
  | same _ later => exact ⟨_, rfl, fun _ => later⟩
  | opening quotes _ =>
      refine ⟨_, rfl, fun noQuote => ?_⟩
      rw [quotes] at noQuote
      cases noQuote

theorem closed (respells : Respells (some quote) (quote :: rest) spelled)
    (quotes : isQuote quote = true) :
    ∃ later, spelled = quote :: later ∧ Respells none rest later := by
  cases respells with
  | escape => exact absurd rfl (ne_backslash_of_isQuote quotes)
  | within _ noQuote => exact absurd rfl noQuote
  | closing _ later => exact ⟨_, rfl, later⟩

end Respells

theorem shortBody?_cons {quote character : Char} (noEscape : character ≠ '\\')
    (rest : List Char) :
    shortBody? quote (character :: rest) =
      if character = quote then some ([], rest)
      else if character = '\n' then none
      else (shortBody? quote rest).map fun (body, rest) => (character :: body, rest) := by
  rw [shortBody?]
  exact fun _ _ same => absurd same noEscape

theorem longBody?_cons {quote character : Char} (noEscape : character ≠ '\\')
    (rest : List Char) :
    longBody? quote (character :: rest) =
      if character = quote ∧ [quote, quote].isPrefixOf rest then some ([], rest.drop 2)
      else (longBody? quote rest).map fun (body, rest) => (character :: body, rest) := by
  rw [longBody?]
  exact fun _ _ same => absurd same noEscape

theorem shows_cons {mark character : Char} (noEscape : character ≠ '\\') (rest : List Char) :
    shows mark (character :: rest) = (character = mark || shows mark rest) := by
  rw [shows]
  exact fun _ _ same => absurd same noEscape

theorem stays_of_isMarkLetter {letter : Char} (isLetter : isMarkLetter letter = true) :
    stays letter = true := by
  rw [← Bool.not_eq_false]
  intro leaves
  rcases eq_of_stays_eq_false leaves with rfl | rfl | rfl <;> revert isLetter <;> decide

namespace Respells

variable {quote : Char} {text rest spelled : List Char}

theorem of_letters {letters : List Char}
    (isLetter : ∀ letter ∈ letters, isMarkLetter letter = true)
    (respells : Respells none (letters ++ rest) spelled) :
    ∃ later, spelled = letters ++ later ∧ Respells none rest later := by
  induction letters generalizing spelled with
  | nil => exact ⟨spelled, rfl, respells⟩
  | cons letter letters ih =>
      obtain ⟨first, others⟩ := List.forall_mem_cons.mp isLetter
      obtain ⟨spelled, rfl, behind⟩ := respells.cons_of_stays (stays_of_isMarkLetter first)
        (not_isQuote_of_isMarkLetter first)
      obtain ⟨later, rfl, last⟩ := ih others behind
      exact ⟨later, rfl, last⟩

theorem to_letters {letters quoted : List Char}
    (isLetter : ∀ letter ∈ letters, isMarkLetter letter = true)
    (quotes : quoted.head?.any isQuote = true)
    (respells : Respells none text (letters ++ quoted)) :
    ∃ rest, text = letters ++ rest ∧ rest.head?.any isQuote = true := by
  induction letters generalizing text with
  | nil =>
      cases quoted with
      | nil => cases quotes
      | cons quote quoted =>
          have isQuote : isQuote quote = true := quotes
          obtain ⟨rest, rfl, -⟩ := respells.of_cons (by rintro rfl; cases isQuote)
          exact ⟨_, rfl, quotes⟩
  | cons letter letters ih =>
      obtain ⟨first, others⟩ := List.forall_mem_cons.mp isLetter
      obtain ⟨rest, rfl, later⟩ := respells.of_cons (by rintro rfl; cases first)
      obtain ⟨last, rfl, quotes⟩ := ih others (later (not_isQuote_of_isMarkLetter first))
      exact ⟨last, rfl, quotes⟩

theorem literalAt?_eq_none {joined : Bool} (respells : Respells none text spelled)
    (noLiteral : literalAt? joined text = none) : literalAt? joined spelled = none := by
  rw [Option.eq_none_iff_forall_ne_some]
  rintro ⟨mark, quoted⟩ found
  obtain ⟨letters, opens, unlettered⟩ := literalAt?_eq_some.mp found
  rw [opens.whole] at respells
  obtain ⟨rest, whole, quotes⟩ := respells.to_letters opens.isMarkLetter opens.quote
  rw [literalAt?_eq_some.mpr ⟨letters, ⟨whole, opens.mark, quotes⟩, unlettered⟩] at noLiteral
  cases noLiteral

theorem shortBody (respells : Respells (some quote) text spelled) :
    (shortBody? quote text = none ∧ shortBody? quote spelled = none) ∨
      ∃ body after later, shortBody? quote text = some (body, after) ∧
        shortBody? quote spelled = some (body, later) ∧ Respells none after later := by
  generalize around : some quote = quote? at respells
  induction respells with
  | escape _ ih =>
      cases around
      rcases ih rfl with ⟨open_, alsoOpen⟩ | ⟨body, after, later, found, alsoFound, behind⟩
      · exact .inl ⟨by rw [shortBody?, open_]; rfl, by rw [shortBody?, alsoOpen]; rfl⟩
      · exact .inr ⟨_, after, later, by rw [shortBody?, found]; rfl,
          by rw [shortBody?, alsoFound]; rfl, behind⟩
  | @within _ character rest spelled noEscape noQuote _ ih =>
      cases around
      rw [shortBody?_cons noEscape, shortBody?_cons noEscape, if_neg noQuote, if_neg noQuote]
      by_cases lineBreak : character = '\n'
      · rw [if_pos lineBreak, if_pos lineBreak]
        exact .inl ⟨rfl, rfl⟩
      rw [if_neg lineBreak, if_neg lineBreak]
      rcases ih rfl with ⟨open_, alsoOpen⟩ | ⟨body, after, later, found, alsoFound, behind⟩
      · exact .inl ⟨by rw [open_]; rfl, by rw [alsoOpen]; rfl⟩
      · exact .inr ⟨_, after, later, by rw [found]; rfl, by rw [alsoFound]; rfl, behind⟩
  | closing quotes behind _ =>
      cases around
      have noEscape := ne_backslash_of_isQuote quotes
      rw [shortBody?_cons noEscape, shortBody?_cons noEscape, if_pos rfl, if_pos rfl]
      exact .inr ⟨[], _, _, rfl, rfl, behind⟩
  | _ => cases around

theorem shows_of_quoted (respells : Respells (some quote) text spelled) : shows quote text = true := by
  generalize around : some quote = quote? at respells
  induction respells with
  | escape _ ih =>
      cases around
      exact ih rfl
  | within noEscape _ _ ih =>
      cases around
      rw [shows_cons noEscape, ih rfl, Bool.or_true]
  | closing quotes _ _ =>
      cases around
      rw [shows_cons (ne_backslash_of_isQuote quotes), decide_eq_true rfl, Bool.true_or]
  | _ => cases around

theorem longBody {body after : List Char} (respells : Respells (some quote) text spelled)
    (found : longBody? quote text = some (body, after))
    (hidden : Matcher.shows quote body = false) :
    ∃ later, spelled = body ++ quote :: quote :: quote :: later ∧ Respells none after later := by
  generalize around : some quote = quote? at respells
  induction respells generalizing body with
  | escape _ ih =>
      cases around
      simp only [longBody?, Option.map_eq_some_iff, Prod.mk.injEq] at found
      obtain ⟨⟨inner, _⟩, found, rfl, rfl⟩ := found
      obtain ⟨later, rfl, behind⟩ := ih found hidden rfl
      exact ⟨later, rfl, behind⟩
  | within noEscape noQuote _ ih =>
      cases around
      rw [longBody?_cons noEscape, if_neg fun closes => noQuote closes.1] at found
      simp only [Option.map_eq_some_iff, Prod.mk.injEq] at found
      obtain ⟨⟨inner, _⟩, found, rfl, rfl⟩ := found
      rw [shows_cons noEscape, Bool.or_eq_false_iff] at hidden
      obtain ⟨later, rfl, behind⟩ := ih found hidden.2 rfl
      exact ⟨later, rfl, behind⟩
  | closing quotes behind _ =>
      cases around
      have noEscape := ne_backslash_of_isQuote quotes
      rw [longBody?_cons noEscape] at found
      split at found
      · next closes =>
          obtain ⟨others, rfl⟩ := List.isPrefixOf_iff_prefix.mp closes.2
          cases found
          obtain ⟨_, rfl, inner⟩ := behind.cons_of_isQuote quotes
          obtain ⟨later, rfl, outer⟩ := inner.closed quotes
          exact ⟨later, rfl, outer⟩
      · simp only [Option.map_eq_some_iff, Prod.mk.injEq] at found
        obtain ⟨⟨inner, _⟩, -, rfl, -⟩ := found
        rw [shows_cons noEscape, decide_eq_true rfl, Bool.true_or] at hidden
        cases hidden
  | _ => cases around

theorem encloses {long : Bool} {body after quoted : List Char}
    (encloses : Encloses quote long body after quoted)
    (legible : (long && Matcher.shows quote body) = false)
    (respells : Respells none quoted spelled) :
    ∃ later, Encloses quote long body later spelled ∧ Respells none after later := by
  obtain ⟨quotes, rfl, isBody⟩ := encloses
  cases long with
  | false =>
      obtain ⟨isBody, unfollowed⟩ := isBody
      obtain ⟨spelled, rfl, first⟩ := respells.cons_of_isQuote quotes
      rcases first.shortBody with ⟨open_, -⟩ | ⟨_, _, later, same, found, behind⟩
      · cases open_.symm.trans (isBody after)
      · cases same.symm.trans (isBody after)
        obtain ⟨rfl, -⟩ := shortBody_of_shortBody? quotes found
        refine ⟨later, ⟨quotes, rfl, isBody, fun nothing follows => ?_⟩, behind⟩
        obtain ⟨others, rfl⟩ := List.head?_eq_some_iff.mp follows
        obtain ⟨rest, rfl, -⟩ := behind.of_cons (by rintro rfl; cases quotes)
        exact unfollowed nothing rfl
  | true =>
      obtain ⟨_, rfl, first⟩ := respells.cons_of_isQuote quotes
      obtain ⟨_, rfl, second⟩ := first.closed quotes
      obtain ⟨_, rfl, third⟩ := second.cons_of_isQuote quotes
      obtain ⟨later, rfl, behind⟩ := third.longBody (isBody after) (by simpa using legible)
      exact ⟨later, ⟨quotes, rfl, isBody⟩, behind⟩

theorem body?_eq_none (quotes : isQuote quote = true)
    (respells : Respells none (quote :: rest) spelled) (open_ : body? (quote :: rest) = none)
    (legible : ([quote, quote].isPrefixOf rest && Matcher.shows quote (rest.drop 2)) = false) :
    body? spelled = none := by
  obtain ⟨spelled, rfl, first⟩ := respells.cons_of_isQuote quotes
  rw [body?] at open_
  split at open_
  · next long =>
      obtain ⟨others, rfl⟩ := List.isPrefixOf_iff_prefix.mp long
      obtain ⟨_, rfl, second⟩ := first.closed quotes
      obtain ⟨_, rfl, third⟩ := second.cons_of_isQuote quotes
      rw [long, Bool.true_and] at legible
      exact absurd third.shows_of_quoted (Bool.eq_false_iff.mp legible)
  · rcases first.shortBody with ⟨-, open_⟩ | ⟨body, after, later, found, -⟩
    · rw [body?, if_neg, open_]
      intro long
      obtain ⟨others, rfl⟩ := List.isPrefixOf_iff_prefix.mp long
      rw [List.cons_append, shortBody?_cons (ne_backslash_of_isQuote quotes), if_pos rfl] at open_
      cases open_
    · cases open_.symm.trans found

end Respells

theorem comment_cons {character : Char} (inside : character ≠ '\n') (rest : List Char) :
    comment (character :: rest) = character :: comment rest ∧
      afterComment (character :: rest) = afterComment rest := by
  simp [comment, afterComment, inside]

theorem Respells.afterComment {text spelled : List Char} (respells : Respells none text spelled)
    (legible : (comment text).any isQuote = false) :
    Respells none (afterComment text) (afterComment spelled) := by
  generalize outside : none = quote? at respells
  induction respells with
  | done => exact .done
  | sign means whole _ ih =>
      subst whole
      rcases mem_signWords.mp means with ⟨rfl, rfl⟩ | ⟨rfl, rfl⟩ | ⟨rfl, rfl⟩
      · exact ih legible outside
      · exact ih legible outside
      · exact ih legible outside
  | @same character rest spelled noQuote respells ih =>
      by_cases lineBreak : character = '\n'
      · subst lineBreak
        exact .same noQuote respells
      · rw [(comment_cons lineBreak rest).1, List.any_cons, Bool.or_eq_false_iff] at legible
        rw [(comment_cons lineBreak rest).2, (comment_cons lineBreak spelled).2]
        exact ih legible.2 outside
  | @opening quote rest spelled quotes _ _ =>
      have inside : quote ≠ '\n' := by rintro rfl; cases quotes
      rw [(comment_cons inside rest).1, List.any_cons, quotes, Bool.true_or] at legible
      cases legible
  | _ => cases outside

/-- If all literals of some pieces are closed, so are those of the others, and their texts are
the same. -/
def Recalls (pieces others : List Piece) : Prop :=
  (∀ piece ∈ pieces, piece.isClosed = true) →
    (∀ piece ∈ others, piece.isClosed = true) ∧
      ∀ before?, joinedTexts before? (others.map Piece.part) =
        joinedTexts before? (pieces.map Piece.part)

namespace Recalls

variable {pieces others : List Piece}

theorem refl (pieces : List Piece) : Recalls pieces pieces :=
  fun closed => ⟨closed, fun _ => rfl⟩

theorem cons {piece next : Piece} (recalls : Recalls pieces others)
    (same : next.part = piece.part) (closed : piece.isClosed = true → next.isClosed = true) :
    Recalls (piece :: pieces) (next :: others) := by
  intro all
  obtain ⟨first, later⟩ := List.forall_mem_cons.mp all
  obtain ⟨alsoClosed, texts⟩ := recalls later
  refine ⟨List.forall_mem_cons.mpr ⟨closed first, alsoClosed⟩, fun before? => ?_⟩
  rw [List.map_cons, List.map_cons, same]
  exact joinedTexts_congr _ texts before?

theorem operator (recalls : Recalls pieces others) (size count : Nat) :
    Recalls (.space :: .other :: (List.replicate size .other ++ .space :: pieces))
      (.other :: (List.replicate count .other ++ others)) := by
  intro all
  have closed : ∀ piece ∈ pieces, piece.isClosed = true := fun piece member =>
    all piece (by simp [member])
  obtain ⟨alsoClosed, texts⟩ := recalls closed
  constructor
  · intro piece member
    rcases List.mem_cons.mp member with rfl | member
    · rfl
    rcases List.mem_append.mp member with sign | later
    · rw [List.eq_of_mem_replicate sign]
      rfl
    · exact alsoClosed piece later
  · intro before?
    simp only [List.map_cons, List.map_append, List.map_replicate, Piece.part, joinedTexts,
      joinedTexts_others, texts]

end Recalls

theorem piecesFrom_sign {sign word : List Char} (means : (sign, word) ∈ signWords)
    (joined : Bool) (rest : List Char) :
    ∃ count, piecesFrom 0 joined (sign ++ rest) =
      .other :: (List.replicate count .other ++ piecesFrom 0 false rest) := by
  have plain : ∀ {character : Char}, isSign character = true → ∀ (joined : Bool) rest,
      piecesFrom 0 joined (character :: rest) = .other :: piecesFrom 0 false rest := by
    intro character sign joined rest
    simp only [isSign, Bool.and_eq_true, Bool.not_eq_true'] at sign
    rw [piecesFrom_plain sign.1.1 (.inr sign.1.2), sign.2]
  rcases mem_signWords.mp means with ⟨rfl, -⟩ | ⟨rfl, -⟩ | ⟨rfl, -⟩
  · exact ⟨1, (plain (by decide +kernel) joined _).trans
      (congrArg _ (plain (by decide +kernel) false rest))⟩
  · exact ⟨1, (plain (by decide +kernel) joined _).trans
      (congrArg _ (plain (by decide +kernel) false rest))⟩
  · exact ⟨0, plain (by decide +kernel) joined rest⟩

theorem skims_letters {letters : List Char} (words : letters.all Text.isAsciiWord = true)
    (rest : List Char) : Skims true (letters ++ rest) true rest := by
  induction letters with
  | nil => exact .refl true rest
  | cons letter letters ih =>
      obtain ⟨word, words⟩ := Bool.and_eq_true_iff.mp words
      exact (Skims.word word (.inl rfl) (letters ++ rest)).trans (ih words)

theorem piecesFrom_word {sign word : List Char} (means : (sign, word) ∈ signWords)
    (joined : Bool) (rest : List Char) :
    ∃ count, piecesFrom 0 joined (' ' :: (word ++ ' ' :: rest)) =
      .space :: .other :: (List.replicate count .other ++ .space :: piecesFrom 0 false rest) := by
  have shape : ∃ first letters, word = first :: letters ∧ Text.isAsciiWord first = true ∧
      isMarkLetter first = false ∧ letters.all Text.isAsciiWord = true := by
    rcases mem_signWords.mp means with ⟨-, rfl⟩ | ⟨-, rfl⟩ | ⟨-, rfl⟩ <;>
      exact ⟨_, _, rfl, by decide⟩
  obtain ⟨first, letters, rfl, isFirst, noLetter, words⟩ := shape
  have space : ∀ {joined : Bool} {rest : List Char},
      piecesFrom 0 joined (' ' :: rest) = .space :: piecesFrom 0 false rest :=
    piecesFrom_space (.inl (by decide +kernel)) _
  obtain ⟨count, pieces⟩ := skims_letters words (' ' :: rest)
  refine ⟨count, ?_⟩
  rw [space, List.cons_append, piecesFrom_plain (isPlain_of_isAsciiWord isFirst) (.inr noLetter),
    continuesWord, isFirst, Bool.true_or, pieces, space]

theorem stays_of_space {space : Char} (isSpace : Text.isBlank space = true ∨ space = '\\') :
    stays space = true := by
  rw [← Bool.not_eq_false]
  intro leaves
  rcases eq_of_stays_eq_false leaves with rfl | rfl | rfl <;> revert isSpace <;> decide +kernel

theorem Respells.recalls_literal {mark : LiteralMark} {letters quoted text spelled : List Char}
    {joined : Bool} (opens : Opens mark letters quoted text)
    (unlettered : joined = true → letters = []) (respells : Respells none text spelled)
    (legible : ∀ piece ∈ piecesFrom 0 joined text, piece.legible = true)
    (rest : ∀ {after later : List Char}, after.length < text.length → Respells none after later →
      (∀ piece ∈ piecesFrom 0 false after, piece.legible = true) →
        Recalls (piecesFrom 0 false later) (piecesFrom 0 false after)) :
    Recalls (piecesFrom 0 joined spelled) (piecesFrom 0 joined text) := by
  obtain ⟨quote, behind, rfl, quotes⟩ := opens.exists_quote
  have isMark := opens.mark
  have isLetter := opens.isMarkLetter
  have shorter : ∀ {long body after}, Encloses quote long body after (quote :: behind) →
      after.length < text.length := fun encloses => encloses.length_lt opens
  rw [piecesFrom_quoted (literalAt?_eq_some.mpr ⟨letters, opens, unlettered⟩),
    List.forall_mem_cons] at legible
  rw [piecesFrom_quoted (literalAt?_eq_some.mpr ⟨letters, opens, unlettered⟩)]
  obtain ⟨rfl, -, -⟩ := opens
  obtain ⟨quoted, rfl, inner⟩ := respells.of_letters isLetter
  obtain ⟨spelled, rfl, -⟩ := inner.cons_of_isQuote quotes
  have alsoOpens : Opens mark letters (quote :: spelled) (letters ++ quote :: spelled) :=
    ⟨rfl, isMark, quotes⟩
  rw [piecesFrom_quoted (literalAt?_eq_some.mpr ⟨letters, alsoOpens, unlettered⟩)]
  cases isBody : body? (quote :: behind) with
  | none =>
      have hidden : ([quote, quote].isPrefixOf behind && shows quote (behind.drop 2)) = false := by
        have seen := legible.1
        rw [Piece.ofQuoted, isBody] at seen
        cases long : [quote, quote].isPrefixOf behind with
        | false => rfl
        | true => simpa [Piece.legible, long] using seen
      intro closed
      have first := closed _ List.mem_cons_self
      rw [Piece.ofQuoted, inner.body?_eq_none quotes isBody hidden] at first
      cases first
  | some found =>
      obtain ⟨body, after⟩ := found
      have encloses := encloses_of_body? quotes isBody
      rw [encloses.ofQuoted_eq, encloses.afterQuoted_eq] at legible ⊢
      obtain ⟨later, alsoEncloses, outer⟩ := inner.encloses encloses
        (by simpa only [Piece.legible, Bool.not_eq_true'] using legible.1)
      rw [alsoEncloses.ofQuoted_eq, alsoEncloses.afterQuoted_eq]
      exact (rest (shorter encloses) outer legible.2).cons rfl id

/-- The literals of a legible text are those of its spelling. -/
theorem Respells.recalls {text spelled : List Char} (respells : Respells none text spelled)
    (joined : Bool) (legible : ∀ piece ∈ piecesFrom 0 joined text, piece.legible = true) :
    Recalls (piecesFrom 0 joined spelled) (piecesFrom 0 joined text) := by
  induction length : text.length using Nat.strong_induction_on generalizing text spelled joined with
  | h size ih =>
      subst length
      cases start joined text with
      | nothing =>
          cases respells with
          | done => exact .refl _
          | sign means whole _ =>
              obtain ⟨_, _, rfl, -⟩ := head_of_means means
              cases whole
      | literal opens unlettered =>
          exact respells.recalls_literal opens unlettered legible fun shorter later legible =>
            ih _ shorter later false legible rfl
      | comment rest =>
          obtain ⟨spelled, rfl, later⟩ := respells.cons_of_stays (by decide) (by decide)
          rw [piecesFrom_comment, List.forall_mem_cons] at legible
          rw [piecesFrom_comment, piecesFrom_comment]
          have noQuote : (Matcher.comment rest).any isQuote = false := by
            simpa [Piece.legible] using legible.1
          have shorter := List.length_dropWhile_le (· != '\n') rest
          exact (ih _ (Nat.lt_succ_of_le shorter) (later.afterComment noQuote) false legible.2
            rfl).cons rfl id
      | space isSpace rest =>
          obtain ⟨spelled, rfl, later⟩ := respells.cons_of_stays (stays_of_space isSpace)
            (not_isQuote_of_space isSpace)
          rw [piecesFrom_space isSpace, List.forall_mem_cons] at legible
          rw [piecesFrom_space isSpace, piecesFrom_space isSpace]
          exact (ih _ (Nat.lt_succ_self _) later false legible.2 rfl).cons rfl id
      | @other character rest plain noLiteral =>
          have alsoNone := respells.literalAt?_eq_none noLiteral
          cases respells with
          | @sign _ behind spelled sign word means whole later =>
              rw [whole] at legible ⊢
              obtain ⟨size, ofSign⟩ := piecesFrom_sign means joined behind
              obtain ⟨count, ofWord⟩ := piecesFrom_word means joined spelled
              rw [ofSign] at legible ⊢
              rw [ofWord]
              have shorter : behind.length < (character :: rest).length := by
                obtain ⟨_, _, rfl, -⟩ := head_of_means means
                rw [whole, List.length_append, List.length_cons]
                omega
              exact (ih _ shorter later false (fun piece member => legible piece (by simp [member]))
                rfl).operator count size
          | same noQuote later =>
              rw [piecesFrom_other plain noLiteral, List.forall_mem_cons] at legible
              rw [piecesFrom_other plain noLiteral, piecesFrom_other plain alsoNone]
              exact (ih _ (Nat.lt_succ_self _) later _ legible.2 rfl).cons rfl id
          | opening quotes later =>
              simp [isPlain, quotes] at plain

end AccessControl.Matcher
