import AccessControl.Proofs.Matcher.Respelling

namespace AccessControl.Matcher

open Text

theorem unifyLines_cons {character : Char} (noReturn : character ≠ '\r') (rest : List Char) :
    unifyLines (character :: rest) = character :: unifyLines rest := by
  rw [unifyLines]
  · exact fun _ same => absurd same noReturn
  · exact noReturn

theorem unifyLines_return (rest : List Char) :
    unifyLines ('\r' :: rest) =
      if rest.head? = some '\n' then unifyLines rest else '\n' :: unifyLines rest := by
  split
  · next follows =>
      obtain ⟨rest, rfl⟩ := List.head?_eq_some_iff.mp follows
      rw [unifyLines, unifyLines_cons (by decide)]
  · next alone =>
      rw [unifyLines]
      rintro others rfl
      exact alone rfl

theorem unifyLines_append {front rest : List Char}
    (apart : front.getLast? ≠ some '\r' ∨ rest.head? ≠ some '\n') :
    unifyLines (front ++ rest) = unifyLines front ++ unifyLines rest := by
  induction front with
  | nil => rfl
  | cons character front ih =>
      have later : front = [] ∨ unifyLines (front ++ rest) = unifyLines front ++ unifyLines rest ∧
          (front ++ rest).head? = front.head? := by
        cases front with
        | nil => exact .inl rfl
        | cons next front => exact .inr ⟨ih (by rwa [List.getLast?_cons_cons] at apart), rfl⟩
      rw [List.cons_append]
      by_cases isReturn : character = '\r'
      · subst isReturn
        rw [unifyLines_return, unifyLines_return]
        rcases later with rfl | ⟨whole, head⟩
        · have alone : rest.head? ≠ some '\n' := apart.resolve_left (by simp)
          rw [List.nil_append, if_neg alone]
          rfl
        · rw [head, whole]
          split <;> rfl
      · rw [unifyLines_cons isReturn, unifyLines_cons isReturn]
        rcases later with rfl | ⟨whole, -⟩
        · rfl
        · rw [whole, List.cons_append]

theorem blanks_unifyLines {text : List Char} (blanks : Blanks text) :
    Blanks (unifyLines text) := by
  induction text with
  | nil => exact nofun
  | cons character text ih =>
      obtain ⟨isBlank, others⟩ := List.forall_mem_cons.mp blanks
      by_cases isReturn : character = '\r'
      · subst isReturn
        rw [unifyLines_return]
        split
        · exact ih others
        · exact List.forall_mem_cons.mpr ⟨by decide +kernel, ih others⟩
      · rw [unifyLines_cons isReturn]
        exact List.forall_mem_cons.mpr ⟨isBlank, ih others⟩

theorem Respells.head_lineBreak {quote? : Option Char} {text spelled : List Char}
    (respells : Respells quote? text spelled) :
    text.head? = some '\n' ↔ spelled.head? = some '\n' := by
  cases respells with
  | done => exact Iff.rfl
  | sign means whole _ =>
      subst whole
      rcases mem_signWords.mp means with ⟨rfl, -⟩ | ⟨rfl, -⟩ | ⟨rfl, -⟩ <;> simp
  | _ => exact Iff.rfl

theorem Respells.unifyLines {quote? : Option Char} {text spelled : List Char}
    (respells : Respells quote? text spelled) (quotes : ∀ quote ∈ quote?, isQuote quote = true) :
    Respells quote? (unifyLines text) (unifyLines spelled) := by
  induction respells with
  | done => exact .done
  | @sign text rest spelled sign word means whole _ ih =>
      subst whole
      rcases mem_signWords.mp means with ⟨rfl, rfl⟩ | ⟨rfl, rfl⟩ | ⟨rfl, rfl⟩
      · exact .sign means rfl (ih nofun)
      · exact .sign means rfl (ih nofun)
      · exact .sign means rfl (ih nofun)
  | @same character rest spelled noQuote later ih =>
      by_cases isReturn : character = '\r'
      · subst isReturn
        rw [unifyLines_return, unifyLines_return]
        simp only [later.head_lineBreak]
        split
        · exact ih nofun
        · exact .same (by decide) (ih nofun)
      · rw [unifyLines_cons isReturn, unifyLines_cons isReturn]
        exact .same noQuote (ih nofun)
  | @opening quote rest spelled isQuote later ih =>
      have noReturn : quote ≠ '\r' := by rintro rfl; cases isQuote
      rw [unifyLines_cons noReturn, unifyLines_cons noReturn]
      exact .opening isQuote (ih (by simpa using isQuote))
  | @escape quote escaped rest spelled later ih =>
      have noReturn : '\\' ≠ '\r' := by decide
      rw [unifyLines_cons noReturn, unifyLines_cons noReturn]
      by_cases isReturn : escaped = '\r'
      · subst isReturn
        rw [unifyLines_return, unifyLines_return]
        simp only [later.head_lineBreak]
        split
        · next follows =>
            -- the break that is hidden is the one that the text has behind the return
            obtain ⟨others, rfl⟩ := List.head?_eq_some_iff.mp (later.head_lineBreak.mpr follows)
            obtain ⟨behind, rfl⟩ := List.head?_eq_some_iff.mp follows
            have inner := ih quotes
            have noReturn : '\n' ≠ '\r' := by decide
            rw [unifyLines_cons noReturn, unifyLines_cons noReturn] at inner ⊢
            cases inner with
            | within _ _ inner => exact .escape inner
            | closing isQuote _ => cases isQuote
        · exact .escape (ih quotes)
      · rw [unifyLines_cons isReturn, unifyLines_cons isReturn]
        exact .escape (ih quotes)
  | @within quote character rest spelled noEscape noQuote later ih =>
      by_cases isReturn : character = '\r'
      · subst isReturn
        rw [unifyLines_return, unifyLines_return]
        simp only [later.head_lineBreak]
        split
        · exact ih quotes
        · exact .within (by decide) (by rintro rfl; cases quotes _ rfl) (ih quotes)
      · rw [unifyLines_cons isReturn, unifyLines_cons isReturn]
        exact .within noEscape noQuote (ih quotes)
  | @closing quote rest spelled isQuote later ih =>
      have noReturn : quote ≠ '\r' := by rintro rfl; cases isQuote
      rw [unifyLines_cons noReturn, unifyLines_cons noReturn]
      exact .closing isQuote (ih nofun)

theorem visible_of_head?_dropWhile {text : List Char} {first : Char}
    (isFirst : (text.dropWhile isBlank).head? = some first) : isBlank first = false := by
  have stops := List.head?_dropWhile_not isBlank text
  rwa [isFirst] at stops

theorem visible_of_getLast?_trim {text : List Char} {last : Char}
    (isLast : (trim text).getLast? = some last) : isBlank last = false := by
  rw [trim, trimEnd, List.getLast?_reverse] at isLast
  exact visible_of_head?_dropWhile isLast

theorem visible_of_head?_trim {text : List Char} {first : Char}
    (isFirst : (trim text).head? = some first) : isBlank first = false := by
  have start : trim text <+: trimStart text := by
    have ending := List.dropWhile_suffix isBlank (l := (trimStart text).reverse)
    rwa [← List.reverse_prefix, List.reverse_reverse] at ending
  obtain ⟨rest, whole⟩ := start
  obtain ⟨others, isTrim⟩ := List.head?_eq_some_iff.mp isFirst
  apply visible_of_head?_dropWhile
  rw [trimStart, isTrim] at whole
  rw [← whole]
  rfl

theorem padded_unifyLines_trim (text : List Char) :
    Padded (unifyLines (trim text)) (unifyLines text) := by
  obtain ⟨before, after, blanksBefore, blanksAfter, whole⟩ := padded_trim text
  cases isTrim : trim text with
  | nil =>
      refine ⟨unifyLines text, [], blanks_unifyLines ?_, nofun, by simp [unifyLines]⟩
      rw [isTrim] at whole
      rw [whole]
      exact fun character member => (List.mem_append.mp member).elim (blanksBefore character)
        (blanksAfter character)
  | cons first others =>
      have starts : first ≠ '\n' := by
        rintro rfl
        exact absurd (visible_of_head?_trim (congrArg List.head? isTrim)) (by decide +kernel)
      have ends : (first :: others).getLast? ≠ some '\r' := by
        intro isLast
        rw [← isTrim] at isLast
        exact absurd (visible_of_getLast?_trim isLast) (by decide +kernel)
      refine ⟨unifyLines before, unifyLines after, blanks_unifyLines blanksBefore,
        blanks_unifyLines blanksAfter, ?_⟩
      rw [← unifyLines_append (.inl ends), ← unifyLines_append (.inr (by simpa using starts)),
        ← isTrim, ← whole]

theorem piecesFrom_blanks {blanks : List Char} (all : Blanks blanks) (joined : Bool) :
    ∀ piece ∈ piecesFrom 0 joined blanks, piece.part = .gap := by
  induction blanks generalizing joined with
  | nil => exact nofun
  | cons blank blanks ih =>
      obtain ⟨isBlank, others⟩ := List.forall_mem_cons.mp all
      rw [piecesFrom_space (.inl isBlank), List.forall_mem_cons]
      exact ⟨rfl, ih others false⟩

theorem glides_blanks {before : List Char} (all : Blanks before) (text : List Char) :
    Glides (before ++ text) text := by
  induction before with
  | nil => exact .refl text
  | cons blank before ih =>
      obtain ⟨isBlank, others⟩ := List.forall_mem_cons.mp all
      exact (glides_space (.inl isBlank) _).trans (ih others)

section

variable {after : List Char} (blanks : Blanks after)

include blanks

theorem not_isQuote_of_head {quote : Char} (isFirst : after.head? = some quote) :
    isQuote quote = false := by
  obtain ⟨rest, rfl⟩ := List.head?_eq_some_iff.mp isFirst
  exact not_isQuote_of_space (.inl (blanks quote List.mem_cons_self))

omit blanks in
theorem Opens.append {mark : LiteralMark} {letters quoted text : List Char}
    (opens : Opens mark letters quoted text) (after : List Char) :
    Opens mark letters (quoted ++ after) (text ++ after) := by
  obtain ⟨quote, rest, rfl, quotes⟩ := opens.exists_quote
  exact ⟨by rw [opens.whole, List.append_assoc], opens.mark, quotes⟩

theorem literalAt?_append_eq_none {joined : Bool} {text : List Char}
    (noLiteral : literalAt? joined text = none) : literalAt? joined (text ++ after) = none := by
  rw [Option.eq_none_iff_forall_ne_some]
  rintro ⟨mark, quoted⟩ found
  obtain ⟨letters, opens, unlettered⟩ := literalAt?_eq_some.mp found
  obtain ⟨quote, rest, rfl, quotes⟩ := opens.exists_quote
  have late : ∀ {others : List Char}, after ≠ others ++ quote :: rest := by
    rintro others rfl
    have visible := not_isQuote_of_space (.inl (blanks quote (by simp)))
    rw [quotes] at visible
    cases visible
  rcases List.append_eq_append_iff.mp opens.whole with ⟨others, -, whole⟩ | ⟨others, whole, behind⟩
  · exact late whole
  · cases others with
    | nil => exact @late [] behind.symm
    | cons first others =>
        cases behind
        rw [literalAt?_eq_some.mpr ⟨letters, ⟨whole, opens.mark, quotes⟩, unlettered⟩] at noLiteral
        cases noLiteral

theorem Encloses.append {quote : Char} {long : Bool} {body rest quoted : List Char}
    (encloses : Encloses quote long body rest quoted) :
    Encloses quote long body (rest ++ after) (quoted ++ after) := by
  obtain ⟨quotes, rfl, isBody⟩ := encloses
  refine ⟨quotes, by simp, ?_⟩
  cases long with
  | true => exact isBody
  | false =>
      refine ⟨isBody.1, fun nothing follows => ?_⟩
      cases rest with
      | nil =>
          have visible := not_isQuote_of_head blanks follows
          rw [quotes] at visible
          cases visible
      | cons first rest => exact isBody.2 nothing follows

theorem recalls_blanks (joined : Bool) : Recalls [] (piecesFrom 0 joined after) := by
  intro _
  have gaps := piecesFrom_blanks blanks joined
  refine ⟨fun piece member => isClosed_of_gap (gaps piece member), fun before? => ?_⟩
  have texts := joinedTexts_gaps gaps before? []
  rwa [List.append_nil] at texts

theorem recalls_append_blanks (joined : Bool) (text : List Char) :
    Recalls (piecesFrom 0 joined text) (piecesFrom 0 joined (text ++ after)) := by
  induction length : text.length using Nat.strong_induction_on generalizing text joined with
  | h size ih =>
      subst length
      cases start joined text with
      | nothing => exact recalls_blanks blanks joined
      | @literal mark letters quoted _ opens unlettered =>
          rw [piecesFrom_quoted (literalAt?_eq_some.mpr ⟨letters, opens, unlettered⟩),
            piecesFrom_quoted (literalAt?_eq_some.mpr ⟨letters, opens.append after, unlettered⟩)]
          obtain ⟨quote, rest, rfl, quotes⟩ := opens.exists_quote
          cases isBody : body? (quote :: rest) with
          | none =>
              intro closed
              have first := closed _ List.mem_cons_self
              rw [Piece.ofQuoted, isBody] at first
              cases first
          | some found =>
              have encloses := encloses_of_body? quotes isBody
              have alsoEncloses := encloses.append blanks
              rw [encloses.ofQuoted_eq, encloses.afterQuoted_eq, alsoEncloses.ofQuoted_eq,
                alsoEncloses.afterQuoted_eq]
              exact (ih _ (encloses.length_lt opens) false found.2 rfl).cons rfl id
      | comment rest =>
          rw [List.cons_append, piecesFrom_comment, piecesFrom_comment]
          refine Recalls.cons ?_ rfl id
          have whole : afterComment (rest ++ after) = _ := List.dropWhile_append
          rw [whole]
          split
          · next nothing =>
              rw [afterComment, List.isEmpty_iff.mp nothing]
              exact recalls_blanks (fun character member => blanks character
                ((List.dropWhile_suffix _).mem member)) false
          · have shorter := List.length_dropWhile_le (· != '\n') rest
            exact ih _ (Nat.lt_succ_of_le shorter) false (afterComment rest) rfl
      | @space space isSpace rest =>
          rw [List.cons_append, piecesFrom_space isSpace, piecesFrom_space isSpace]
          exact (ih _ (Nat.lt_succ_self _) false rest rfl).cons rfl id
      | @other character rest plain noLiteral =>
          have alsoNone := literalAt?_append_eq_none blanks noLiteral
          rw [List.cons_append] at alsoNone ⊢
          rw [piecesFrom_other plain noLiteral, piecesFrom_other plain alsoNone]
          exact (ih _ (Nat.lt_succ_self _) _ rest rfl).cons rfl id

end

theorem Tells.recall {text next : List Char} {parts : List (Part String)} (tells : Tells text parts)
    (recalls : Recalls (piecesFrom 0 false text) (piecesFrom 0 false next)) : Tells next parts := by
  obtain ⟨closed, texts⟩ := recalls tells.closed
  exact ⟨closed, fun before? => (texts before?).trans (tells.texts before?)⟩

/-- The texts that a legible text quotes are those of the tokens of its spelling. -/
theorem quotedTexts_of_spellOut {text spelled : String} {tokens : List Token}
    (spells : spellOut text = .ok spelled) (legible : Legible text)
    (found : tokens? spelled = some tokens) :
    quotedTexts text = joinedTexts none (tokens.map (·.lexeme.part)) := by
  obtain ⟨respelled, spellsOut, rfl⟩ := Option.map_eq_some_iff.mp (spellOut_eq_ok.mp spells)
  have respells := (respells_of_spellOutFrom (by simp) spellsOut).unifyLines (by simp)
  have tells := tells_tokens found
  rw [String.toList_ofList] at tells
  obtain ⟨before, after, blanksBefore, blanksAfter, whole⟩ := padded_unifyLines_trim respelled
  have ofSpelled := (tells.recall (recalls_append_blanks blanksAfter false _)).glide
    (glides_blanks blanksBefore _)
  rw [← whole] at ofSpelled
  exact (ofSpelled.recall (respells.recalls false legible)).texts none

end AccessControl.Matcher
