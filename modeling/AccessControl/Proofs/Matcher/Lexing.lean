import AccessControl.Proofs.Matcher.Skimming

namespace AccessControl.Matcher

def Piece.isClosed : Piece → Bool
  | .unclosed .. => false
  | _ => true

/-- All literals of the text are closed, and what it quotes is what the parts tell. -/
structure Tells (text : List Char) (parts : List (Part String)) : Prop where
  closed : ∀ piece ∈ piecesFrom 0 false text, piece.isClosed = true
  texts : ∀ before?, joinedTexts before? ((piecesFrom 0 false text).map Piece.part) =
    joinedTexts before? parts

theorem isClosed_of_gap {piece : Piece} (gap : piece.part = .gap) : piece.isClosed = true := by
  cases piece with
  | unclosed => cases gap
  | _ => rfl

theorem joinedTexts_gaps {gaps : List Piece} (all : ∀ piece ∈ gaps, piece.part = .gap)
    (before? : Option (Option String)) (parts : List (Part String)) :
    joinedTexts before? (gaps.map Piece.part ++ parts) = joinedTexts before? parts := by
  induction gaps with
  | nil => rfl
  | cons piece gaps ih =>
      rw [List.map_cons, all piece List.mem_cons_self, List.cons_append, joinedTexts]
      exact ih fun gap later => all gap (List.mem_cons_of_mem piece later)

theorem joinedTexts_others (count : Nat) (parts : List (Part String)) :
    joinedTexts none (List.replicate count .other ++ parts) = joinedTexts none parts := by
  induction count with
  | zero => rfl
  | succ count ih => exact ih

theorem joinedTexts_congr {parts others : List (Part String)} (part : Part String)
    (same : ∀ before?, joinedTexts before? parts = joinedTexts before? others)
    (before? : Option (Option String)) :
    joinedTexts before? (part :: parts) = joinedTexts before? (part :: others) := by
  cases part with
  | text value? => exact same _
  | gap => exact same _
  | other => exact congrArg (before?.join.toList ++ ·) (same none)

theorem tells_nil : Tells [] [] :=
  ⟨nofun, fun _ => rfl⟩

/-- The pieces of one text are space and comments, and then those of the other. -/
def Glides (text after : List Char) : Prop :=
  ∃ gaps, (∀ piece ∈ gaps, piece.part = .gap) ∧
    piecesFrom 0 false text = gaps ++ piecesFrom 0 false after

theorem Glides.refl (text : List Char) : Glides text text :=
  ⟨[], nofun, rfl⟩

theorem Glides.trans {text between after : List Char} (before : Glides text between)
    (behind : Glides between after) : Glides text after := by
  obtain ⟨gaps, all, pieces⟩ := before
  obtain ⟨more, allMore, rest⟩ := behind
  refine ⟨gaps ++ more, fun piece member => ?_, by rw [pieces, rest, List.append_assoc]⟩
  exact (List.mem_append.mp member).elim (all piece) (allMore piece)

theorem glides_space {space : Char} (isSpace : Text.isBlank space = true ∨ space = '\\')
    (rest : List Char) : Glides (space :: rest) rest :=
  ⟨[.space], by simp [Piece.part], piecesFrom_space isSpace rest⟩

theorem glides_comment (rest : List Char) : Glides ('#' :: rest) (afterComment rest) :=
  ⟨[.comment (comment rest)], by simp [Piece.part], piecesFrom_comment rest⟩

theorem isBlank_of_isLineSpace {space : Char} (isSpace : isLineSpace space = true) :
    Text.isBlank space = true := by
  simp only [isLineSpace, Bool.or_eq_true, decide_eq_true_eq] at isSpace
  rcases isSpace with (rfl | rfl) | rfl <;> decide

theorem glides_lineSpace {space : Char} (isSpace : isLineSpace space = true)
    (rest : List Char) : Glides (space :: rest) rest :=
  glides_space (.inl (isBlank_of_isLineSpace isSpace)) rest

theorem glides_break (rest : List Char) : Glides ('\n' :: rest) rest :=
  glides_space (.inl (by decide)) rest

theorem glides_hiddenBreak {rest next : List Char} (hidden : afterHiddenBreak? rest = some next) :
    Glides ('\\' :: rest) next := by
  unfold afterHiddenBreak? at hidden
  split at hidden
  · cases hidden
    exact (glides_space (.inr rfl) _).trans (glides_break _)
  · cases hidden

theorem Tells.glide {text after : List Char} {parts : List (Part String)} (tells : Tells after parts)
    (glides : Glides text after) : Tells text parts := by
  obtain ⟨gaps, all, pieces⟩ := glides
  constructor
  · intro piece member
    rw [pieces] at member
    exact (List.mem_append.mp member).elim (fun gap => isClosed_of_gap (all piece gap))
      (tells.closed piece)
  · intro before?
    rw [pieces, List.map_append, joinedTexts_gaps all, tells.texts]

theorem glides_skipBlankLines {indent hidden fuel : Nat} {text start : List Char}
    (skipped : skipBlankLines? indent hidden fuel text = some start) : Glides text start := by
  induction fuel generalizing indent hidden text with
  | zero => cases skipped
  | succ fuel ih =>
      cases text with
      | nil =>
          cases skipped
          exact .refl []
      | cons character rest =>
          rw [skipBlankLines?] at skipped
          split at skipped
          · next space =>
              subst space
              exact (glides_lineSpace rfl rest).trans (ih skipped)
          split at skipped
          · next tab =>
              subst tab
              exact (glides_lineSpace rfl rest).trans (ih skipped)
          split at skipped
          · next feed =>
              subst feed
              exact (glides_lineSpace rfl rest).trans (ih skipped)
          split at skipped
          · next backslash =>
              subst backslash
              obtain ⟨next, found, later⟩ := Option.bind_eq_some_iff.mp skipped
              exact (glides_hiddenBreak found).trans (ih later)
          split at skipped
          · next hash =>
              subst hash
              exact (glides_comment rest).trans (ih skipped)
          split at skipped
          · next lineBreak =>
              subst lineBreak
              exact (glides_break rest).trans (ih skipped)
          obtain ⟨-, same⟩ := Option.ite_none_right_eq_some.mp skipped
          cases same
          exact .refl _

theorem glides_isEmptyTail {fuel : Nat} {text : List Char}
    (isEmpty : isEmptyTail fuel text = true) : Glides text [] := by
  induction fuel generalizing text with
  | zero => cases isEmpty
  | succ fuel ih =>
      cases text with
      | nil => exact .refl []
      | cons character rest =>
          rw [isEmptyTail] at isEmpty
          split at isEmpty
          · next space =>
              rcases space with space | rfl
              · exact (glides_lineSpace space rest).trans (ih isEmpty)
              · exact (glides_break rest).trans (ih isEmpty)
          split at isEmpty
          · next hash =>
              subst hash
              exact (glides_comment rest).trans (ih isEmpty)
          split at isEmpty
          · next backslash =>
              subst backslash
              split at isEmpty
              · next found => exact (glides_hiddenBreak found).trans (ih isEmpty)
              · cases isEmpty
          · cases isEmpty

theorem tells_literal {text quoted body after : List Char} {mark : LiteralMark} {lexeme : Lexeme}
    {parts : List (Part String)} (isMark : literalMark? text = some (mark, quoted))
    (isBody : body? quoted = some (body, after)) (isLexeme : mark.lexeme? body = some lexeme)
    (tells : Tells after parts) : Tells text (lexeme.part :: parts) := by
  obtain ⟨letters, opens⟩ := literalMark?_eq_some.mp isMark
  obtain ⟨quote, rest, rfl, quotes⟩ := opens.exists_quote
  have encloses := encloses_of_body? quotes isBody
  have pieces : piecesFrom 0 false text = _ := piecesFrom_quoted isMark
  rw [encloses.ofQuoted_eq, encloses.afterQuoted_eq] at pieces
  constructor
  · rw [pieces, List.forall_mem_cons]
    exact ⟨rfl, tells.closed⟩
  · intro before?
    have part : (Piece.literal mark quote ([quote, quote].isPrefixOf rest) body).part =
        lexeme.part := by
      rw [Piece.part, isLexeme]
      rfl
    rw [pieces, List.map_cons, part]
    exact joinedTexts_congr lexeme.part tells.texts before?

theorem tells_other {text after : List Char} {parts : List (Part String)}
    (begins : ∃ others, piecesFrom 0 false text = .other :: others)
    (skims : Skims false text false after) (tells : Tells after parts) :
    Tells text (.other :: parts) := by
  obtain ⟨others, pieces⟩ := begins
  obtain ⟨count, skims⟩ := skims
  constructor
  · rw [skims]
    intro piece member
    rcases List.mem_append.mp member with early | late
    · rw [List.eq_of_mem_replicate early]
      rfl
    · exact tells.closed piece late
  · intro before?
    have later : joinedTexts none ((piecesFrom 0 false text).map Piece.part) =
        joinedTexts none parts := by
      rw [skims, List.map_append, List.map_replicate]
      exact (joinedTexts_others count _).trans (tells.texts none)
    rw [pieces] at later ⊢
    exact congrArg (before?.join.toList ++ ·) later

theorem tells_word {first : Char} {rest after : List Char} {lexeme : Lexeme} {parts : List (Part String)}
    (noLiteral : literalMark? (first :: rest) = none) (continues : continuesWord first = true)
    (found : word? (first :: rest) = some (lexeme, after)) (tells : Tells after parts) :
    Tells (first :: rest) (lexeme.part :: parts) := by
  obtain ⟨word, same⟩ := Option.ite_none_right_eq_some.mp found
  cases same
  rw [drop_takeWhile] at tells
  rw [List.takeWhile_cons_of_pos continues] at word
  rw [List.dropWhile_cons_of_pos continues] at tells
  obtain ⟨plain, others⟩ := List.forall_mem_cons.mp (isPlain_of_word word (by
    rw [List.forall_mem_cons]
    exact ⟨continues, fun _ => List.mem_takeWhile_imp⟩))
  have one : piecesFrom 0 false (first :: rest) = _ := piecesFrom_other plain noLiteral
  have skims : Skims false (first :: rest) true rest := ⟨1, by rw [one, continues]; rfl⟩
  have ends : (rest.dropWhile continuesWord).head?.any continuesWord = false := by
    have stops := List.head?_dropWhile_not continuesWord rest
    cases behind : (rest.dropWhile continuesWord).head? with
    | none => rfl
    | some character =>
        rw [behind] at stops
        exact stops
  exact tells_other ⟨_, one⟩ ((skims.trans (skims_takeWhile others)).finish
    (literalAt?_joined (not_isMarkLetter_of_ends ends))) tells

theorem tells_lexeme {text after : List Char} {lexeme : Lexeme} {parts : List (Part String)}
    (found : lexeme? text = some (lexeme, after)) (tells : Tells after parts) :
    Tells text (lexeme.part :: parts) := by
  unfold lexeme? at found
  split at found
  · next mark quoted isMark =>
      obtain ⟨⟨body, rest⟩, isBody, found⟩ := Option.bind_eq_some_iff.mp found
      simp only [Option.map_eq_some_iff, Prod.mk.injEq] at found
      obtain ⟨_, isLexeme, rfl, rfl⟩ := found
      exact tells_literal isMark isBody isLexeme tells
  · next noLiteral =>
      split at found
      · cases found
      · next first rest =>
          have begins : isPlain first = true →
              ∃ others, piecesFrom 0 false (first :: rest) = .other :: others := fun plain =>
            ⟨_, piecesFrom_other plain noLiteral⟩
          split at found
          · next digit =>
              simp only [Option.map_eq_some_iff, Prod.mk.injEq] at found
              obtain ⟨⟨value, _⟩, found, rfl, rfl⟩ := found
              refine tells_other (begins ?_) (skims_numeral found) tells
              rcases digit with digit | ⟨rfl, -⟩
              · exact isPlain_of_isAsciiWord (isAsciiWord_of_isAsciiDigit digit)
              · decide
          split at found
          · next continues => exact tells_word noLiteral continues found tells
          · simp only [Option.map_eq_some_iff, Prod.mk.injEq] at found
            obtain ⟨⟨sign, _⟩, found, rfl, rfl⟩ := found
            obtain ⟨_, others, whole, signs⟩ := signs_of_mark? found
            cases whole
            exact tells_other (begins (isPlain_of_isSign (signs first List.mem_cons_self)))
              (skims_signs signs _) tells

theorem tells_tokensFrom {outer : List String} {column fuel : Nat} {text : List Char}
    {tokens : List Token} (found : tokensFrom? outer column fuel text = some tokens) :
    Tells text (tokens.map (·.lexeme.part)) := by
  induction fuel generalizing outer column text tokens with
  | zero => cases found
  | succ fuel ih =>
      cases text with
      | nil =>
          obtain ⟨-, same⟩ := Option.ite_none_right_eq_some.mp found
          cases same
          exact tells_nil
      | cons character rest =>
          rw [tokensFrom?] at found
          split at found
          · next space =>
              exact (ih found).glide (glides_lineSpace space rest)
          split at found
          · next hash =>
              subst hash
              exact (ih found).glide (glides_comment rest)
          split at found
          · next lineBreak =>
              subst lineBreak
              split at found
              · obtain ⟨isEmpty, same⟩ := Option.ite_none_right_eq_some.mp found
                cases same
                exact tells_nil.glide ((glides_break rest).trans (glides_isEmptyTail isEmpty))
              · exact (ih found).glide (glides_break rest)
          split at found
          · next backslash =>
              subst backslash
              obtain ⟨next, hidden, found⟩ := Option.bind_eq_some_iff.mp found
              exact (ih found).glide (glides_hiddenBreak hidden)
          · obtain ⟨⟨lexeme, after⟩, isLexeme, found⟩ := Option.bind_eq_some_iff.mp found
            obtain ⟨inner, -, found⟩ := Option.bind_eq_some_iff.mp found
            obtain ⟨later, isLater, same⟩ := Option.bind_eq_some_iff.mp found
            cases same
            exact tells_lexeme isLexeme (ih isLater)

theorem tells_tokens {text : String} {tokens : List Token} (found : tokens? text = some tokens) :
    Tells (unifyLines text.toList) (tokens.map (·.lexeme.part)) := by
  obtain ⟨start, skipped, found⟩ := Option.bind_eq_some_iff.mp found
  exact (tells_tokensFrom found).glide (glides_skipBlankLines skipped)

end AccessControl.Matcher
