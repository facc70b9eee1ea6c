import AccessControl.Proofs.Matcher.Respelling

namespace AccessControl.Matcher

open Text

def startsSign : List Char → Bool
  | '&' :: '&' :: _ => true
  | '|' :: '|' :: _ => true
  | '!' :: '=' :: _ => false
  | '!' :: _ => true
  | _ => false

/-- No sign that is to be spelled out is outside of the quoted texts, all of which are closed;
the quote is that of the text around the place, if there is one. -/
inductive Settled : Option Char → List Char → Prop
  | done : Settled none []
  | plain {character : Char} {rest : List Char} (noQuote : isQuote character = false)
      (noSign : startsSign (character :: rest) = false) (later : Settled none rest) :
      Settled none (character :: rest)
  | opening {quote : Char} {rest : List Char} (quotes : isQuote quote = true)
      (later : Settled (some quote) rest) : Settled none (quote :: rest)
  | escape {quote escaped : Char} {rest : List Char} (later : Settled (some quote) rest) :
      Settled (some quote) ('\\' :: escaped :: rest)
  | within {quote character : Char} {rest : List Char} (noEscape : character ≠ '\\')
      (noQuote : character ≠ quote) (later : Settled (some quote) rest) :
      Settled (some quote) (character :: rest)
  | closing {quote : Char} {rest : List Char} (quotes : isQuote quote = true)
      (later : Settled none rest) : Settled (some quote) (quote :: rest)

theorem startsSign_cons_eq_false {character : Char} {rest : List Char} (noNot : character ≠ '!')
    (single : character = '&' ∨ character = '|' → rest.head? ≠ some character) :
    startsSign (character :: rest) = false := by
  unfold startsSign
  split
  · next same =>
      obtain ⟨rfl, rfl⟩ := List.cons.inj same
      exact absurd rfl (single (.inl rfl))
  · next same =>
      obtain ⟨rfl, rfl⟩ := List.cons.inj same
      exact absurd rfl (single (.inr rfl))
  · rfl
  · next same =>
      obtain ⟨rfl, -⟩ := List.cons.inj same
      exact absurd rfl noNot
  · rfl

theorem spellOutFrom_cons_of_noSign {character : Char} {rest : List Char}
    (noQuote : isQuote character = false) (noSign : startsSign (character :: rest) = false) :
    spellOutFrom none (character :: rest) =
      (spellOutFrom none rest).map (character :: ·) := by
  have notQuoting : ¬ (character = '\'' ∨ character = '"') := by
    simpa [isQuote] using noQuote
  by_cases isNot : character = '!'
  · subst isNot
    obtain ⟨others, rfl⟩ : ∃ others, rest = '=' :: others := by
      unfold startsSign at noSign
      split at noSign <;> simp_all
    rw [spellOutFrom, @spellOutFrom_plain '=' others (fun _ same => absurd same (by decide))
      (fun _ same => absurd same (by decide)) (by decide), if_neg (by decide), Option.map_map]
    rfl
  · rw [spellOutFrom_plain ?_ ?_ isNot, if_neg notQuoting]
    · rintro others rfl rfl
      cases noSign
    · rintro others rfl rfl
      cases noSign

theorem Respells.head? {text spelled : List Char} (respells : Respells none text spelled)
    {character : Char} (noSpace : character ≠ ' ') (head : spelled.head? = some character) :
    text.head? = some character := by
  obtain ⟨rest, rfl⟩ := List.head?_eq_some_iff.mp head
  obtain ⟨others, rfl, -⟩ := respells.of_cons noSpace
  rfl

theorem Settled.word {sign word spelled : List Char} (means : (sign, word) ∈ signWords)
    (later : Settled none spelled) : Settled none (' ' :: (word ++ ' ' :: spelled)) := by
  rcases mem_signWords.mp means with ⟨-, rfl⟩ | ⟨-, rfl⟩ | ⟨-, rfl⟩ <;>
    repeat' first
      | exact later
      | refine .plain rfl rfl ?_

theorem settled_of_spellOutFrom {quote? : Option Char} {text spelled : List Char}
    (quotes : ∀ quote ∈ quote?, isQuote quote = true)
    (found : spellOutFrom quote? text = some spelled) : Settled quote? spelled := by
  have outside : ∀ quote ∈ (none : Option Char), isQuote quote = true := by simp
  induction quote?, text using spellOutFrom.induct generalizing spelled with
  | case1 =>
      cases found
      exact .done
  | case2 quote => cases found
  | case3 quote escaped rest ih =>
      obtain ⟨later, behind, rfl⟩ := Option.map_eq_some_iff.mp found
      exact .escape (ih quotes behind)
  | case4 quote character rest single ih =>
      rw [spellOutFrom] at found
      · obtain ⟨later, behind, rfl⟩ := Option.map_eq_some_iff.mp found
        by_cases same : character = quote
        · subst same
          rw [if_pos rfl] at behind ih
          exact .closing (quotes character rfl) (ih outside behind)
        · rw [if_neg same] at behind ih
          refine .within ?_ same (ih quotes behind)
          rintro rfl
          cases rest with
          | nil => cases behind
          | cons escaped rest => exact single escaped rest rfl rfl
      · exact single
  | case5 rest ih =>
      obtain ⟨later, behind, rfl⟩ := Option.map_eq_some_iff.mp found
      exact .word (.head _) (ih quotes behind)
  | case6 rest ih =>
      obtain ⟨later, behind, rfl⟩ := Option.map_eq_some_iff.mp found
      exact .word (.tail _ (.head _)) (ih quotes behind)
  | case7 rest ih =>
      obtain ⟨later, behind, rfl⟩ := Option.map_eq_some_iff.mp found
      exact .plain rfl rfl (.plain rfl rfl (ih quotes behind))
  | case8 rest single ih =>
      rw [spellOutFrom] at found
      · obtain ⟨later, behind, rfl⟩ := Option.map_eq_some_iff.mp found
        exact .word (.tail _ (.tail _ (.head _))) (ih quotes behind)
      · exact single
  | case9 character rest noAnd noOr noUnequal noNot ih =>
      rw [spellOutFrom_plain (fun others same => noAnd others same)
        (fun others same => noOr others same) noNot] at found
      obtain ⟨later, behind, rfl⟩ := Option.map_eq_some_iff.mp found
      by_cases quoting : character = '\'' ∨ character = '"'
      · rw [if_pos quoting] at behind ih
        have isQuote : isQuote character = true := by simpa [isQuote] using quoting
        exact .opening isQuote (ih (by simpa using isQuote) behind)
      · rw [if_neg quoting] at behind ih
        refine .plain (by simpa [isQuote] using quoting) ?_ (ih outside behind)
        refine startsSign_cons_eq_false noNot fun halves head => ?_
        -- half a sign that comes next was there before, and made a whole one
        have noSpace : character ≠ ' ' := by rcases halves with rfl | rfl <;> decide
        have before := (respells_of_spellOutFrom outside behind).head? noSpace head
        obtain ⟨others, rfl⟩ := List.head?_eq_some_iff.mp before
        rcases halves with rfl | rfl
        · exact noAnd others rfl rfl
        · exact noOr others rfl rfl

theorem Settled.spellOutFrom {quote? : Option Char} {text : List Char}
    (settled : Settled quote? text) : spellOutFrom quote? text = some text := by
  induction settled with
  | done => rfl
  | plain noQuote noSign _ ih => rw [spellOutFrom_cons_of_noSign noQuote noSign, ih]; rfl
  | @opening quote rest quotes _ ih =>
      have noNot : quote ≠ '!' := by rintro rfl; cases quotes
      rw [spellOutFrom_plain ?_ ?_ noNot, if_pos (by simpa [isQuote] using quotes), ih]
      · rfl
      · rintro _ rfl
        cases quotes
      · rintro _ rfl
        cases quotes
  | escape _ ih => rw [Matcher.spellOutFrom, ih]; rfl
  | within noEscape noQuote _ ih =>
      rw [spellOutFrom_quoted fun same => absurd same noEscape, if_neg noQuote, ih]
      rfl
  | closing quotes _ ih =>
      have noEscape := ne_backslash_of_isQuote quotes
      rw [spellOutFrom_quoted fun same => absurd same.symm noEscape.symm, if_pos rfl, ih]
      rfl

/-- The texts that are spelled as they are. -/
theorem spellOutFrom_eq_self_iff {text : List Char} :
    spellOutFrom none text = some text ↔ Settled none text :=
  ⟨settled_of_spellOutFrom (by simp), Settled.spellOutFrom⟩

theorem Settled.trim {text : List Char} (settled : Settled none text) :
    Settled none (trim text) := by
  obtain ⟨before, after, blanksBefore, blanksAfter, whole⟩ := padded_trim text
  have spelled := settled.spellOutFrom
  rw [whole, spellOutFrom_blanks_append blanksBefore, spellOutFrom_append_blanks blanksAfter,
    Option.map_map, Option.map_eq_some_iff] at spelled
  obtain ⟨found, inner, same⟩ := spelled
  have unchanged : found = Text.trim text :=
    List.append_cancel_right (List.append_cancel_left same)
  rw [unchanged] at inner
  exact spellOutFrom_eq_self_iff.mp inner

theorem not_blanks_of_mem {mark : Char} {text : List Char} (visible : isBlank mark = false)
    (member : mark ∈ text) : ¬ Blanks text := by
  intro blanks
  rw [blanks mark member] at visible
  cases visible

theorem Respells.blanks_iff {text spelled : List Char} (respells : Respells none text spelled) :
    Blanks spelled ↔ Blanks text := by
  induction text generalizing spelled with
  | nil =>
      cases respells with
      | done => exact Iff.rfl
      | sign means whole _ =>
          obtain ⟨first, others, rfl, -⟩ := head_of_means means
          cases whole
  | cons character rest ih =>
      cases respells with
      | sign means whole _ =>
          rw [whole]
          rcases mem_signWords.mp means with ⟨rfl, rfl⟩ | ⟨rfl, rfl⟩ | ⟨rfl, rfl⟩
          · exact iff_of_false (@not_blanks_of_mem 'a' _ (by decide +kernel) (by simp))
              (@not_blanks_of_mem '&' _ (by decide +kernel) (by simp))
          · exact iff_of_false (@not_blanks_of_mem 'o' _ (by decide +kernel) (by simp))
              (@not_blanks_of_mem '|' _ (by decide +kernel) (by simp))
          · exact iff_of_false (@not_blanks_of_mem 'n' _ (by decide +kernel) (by simp))
              (@not_blanks_of_mem '!' _ (by decide +kernel) (by simp))
      | same _ later =>
          unfold Blanks
          rw [List.forall_mem_cons, List.forall_mem_cons]
          exact and_congr_right fun _ => ih later
      | opening quotes _ =>
          have visible := IsQuote.visible (eq_of_isQuote quotes)
          exact iff_of_false (not_blanks_of_mem visible List.mem_cons_self)
            (not_blanks_of_mem visible List.mem_cons_self)

/-- The spelling of a text is spelled as it is. -/
theorem spellOut_eq_self {text spelled : String} (spells : spellOut text = .ok spelled) :
    spellOut spelled = .ok spelled ∧ Settled none spelled.toList ∧
      (allBlank spelled = allBlank text) := by
  obtain ⟨found, spelledOut, rfl⟩ := Option.map_eq_some_iff.mp (spellOut_eq_ok.mp spells)
  have settled := (settled_of_spellOutFrom (by simp) spelledOut).trim
  refine ⟨spellOut_eq_ok.mpr ?_, ?_, ?_⟩
  · rw [String.toList_ofList, settled.spellOutFrom, Option.map_some, trim_trim]
  · rwa [String.toList_ofList]
  · rw [Bool.eq_iff_iff, allBlank_iff, allBlank_iff, String.toList_ofList,
      ← (padded_trim found).blanks_iff]
    exact (respells_of_spellOutFrom (by simp) spelledOut).blanks_iff

def readSpelled (spelled : String) : Except CompileCause (Node × References) :=
  if allBlank spelled then .error .empty
  else if spelled.toList.contains '\x00' then .error .malformed
  else
    match phrase? spelled with
    | none => .error .malformed
    | some phrase =>
        (phrase.lower.run .none).mapError fun flaw => .unsupported flaw.defect flaw.column

theorem read_of_spellOut {text spelled : String} (spells : spellOut text = .ok spelled) :
    read text = (readSpelled spelled).mapError fun cause => .compile ⟨text, cause⟩ := by
  obtain ⟨-, -, blank⟩ := spellOut_eq_self spells
  unfold read readSpelled
  rw [blank]
  cases allBlank text with
  | true => rfl
  | false =>
      simp only [spells, Bool.false_eq_true, if_false]
      change (if spelled.toList.contains '\x00' = true then _ else _) = _
      cases spelled.toList.contains '\x00' with
      | true => rfl
      | false =>
          simp only [Bool.false_eq_true, if_false]
          cases phrase? spelled with
          | none => rfl
          | some phrase =>
              simp only
              cases phrase.lower.run .none <;> rfl

/-- A text that has been spelled out holds no sign any more outside of its quoted texts, and
is spelled as it is. So the same is read from it as from the text before, or nothing is, for
the same cause. -/
theorem spellOut_settles {text spelled : String} (spells : spellOut text = .ok spelled) :
    spellOut spelled = .ok spelled ∧ Settled none spelled.toList ∧
      ∃ outcome : Except CompileCause (Node × References),
        (read text = outcome.mapError fun cause => .compile ⟨text, cause⟩) ∧
        read spelled = outcome.mapError fun cause => .compile ⟨spelled, cause⟩ := by
  obtain ⟨stays, settled, -⟩ := spellOut_eq_self spells
  exact ⟨stays, settled, readSpelled spelled, read_of_spellOut spells, read_of_spellOut stays⟩

namespace Sample

def signs : String :=
  "!!r.ok&&!(r.sub=='!&&\\'||'||r.act!=\"!\")"

def signsSpelled : String :=
  "not  not r.ok and  not (r.sub=='!&&\\'||' or r.act!=\"!\")"

theorem spellOut_signs : spellOut signs = .ok signsSpelled :=
  Answer.eq_ok_of_gives (by decide +kernel)

end Sample

theorem spellOut_settles_signs :
    spellOut Sample.signsSpelled = .ok Sample.signsSpelled ∧
      ∃ result, read Sample.signs = .ok result ∧ read Sample.signsSpelled = .ok result := by
  obtain ⟨stays, -, outcome, before, after⟩ := spellOut_settles Sample.spellOut_signs
  refine ⟨stays, ?_⟩
  have reads : (read Sample.signs).isOk = true := by decide +kernel
  rw [before] at reads ⊢
  rw [after]
  cases outcome with
  | error cause => cases reads
  | ok result => exact ⟨result, rfl, rfl⟩

end AccessControl.Matcher
