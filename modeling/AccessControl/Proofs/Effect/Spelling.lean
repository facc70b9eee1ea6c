import AccessControl.Proofs.Model.Spelling

namespace AccessControl.EffectRule

/-! Which spellings of an effect expression stand for a rule. The number of a policy field is
taken away first and white space afterwards, so a numbered field has to be in one piece, while
any other word of the expression may be broken by white space. -/

open Text

def visible (text : List Char) : List Char :=
  text.filter fun character => !isBlank character

/-- What remains of a text if white space is deleted first, and after that the number of each
policy field that stands as a word of its own. -/
def reduced (text : List Char) : List Char :=
  unnumbered false (visible text)

def Numbered (field : List Char) : Prop :=
  ∃ digits, digits ≠ [] ∧ (∀ digit ∈ digits, isDecimal digit = true) ∧
    field = 'p' :: (digits ++ effectField)

/-- White space stands inside a numbered field: between its first and its last letter. -/
def Broken (text : List Char) : Prop :=
  ∃ before field after, text = before ++ (field ++ after) ∧ Numbered (visible field) ∧
    field.head? = some 'p' ∧ field.getLast? = some 't' ∧
    ∃ blank ∈ field, isBlank blank = true

def startsWord (text : List Char) : Bool := text.head?.any isWord

def endsWord (text : List Char) : Bool := text.getLast?.any isWord

theorem Numbered.eq_cons {field : List Char} (numbered : Numbered field) :
    ∃ digit rest, field = 'p' :: digit :: rest ∧ isDecimal digit = true := by
  obtain ⟨digits, nonempty, decimal, rfl⟩ := numbered
  obtain ⟨digit, others, rfl⟩ := List.exists_cons_of_ne_nil nonempty
  exact ⟨digit, others ++ effectField, rfl, decimal digit List.mem_cons_self⟩

theorem takeWhile_isDecimal_field {digits : List Char}
    (decimal : ∀ digit ∈ digits, isDecimal digit = true) (rest : List Char) :
    (digits ++ effectField ++ rest).takeWhile isDecimal = digits := by
  rw [List.append_assoc, List.takeWhile_append_of_pos decimal]
  exact List.append_right_eq_self.mpr (List.takeWhile_cons_of_neg (by decide))

theorem Numbered.append_inj {field other rest more : List Char} (numbered : Numbered field)
    (numberedToo : Numbered other) (same : field ++ rest = other ++ more) :
    field = other ∧ rest = more := by
  obtain ⟨digits, -, decimal, rfl⟩ := numbered
  obtain ⟨others, -, decimalToo, rfl⟩ := numberedToo
  have tails : digits ++ effectField ++ rest = others ++ effectField ++ more :=
    List.tail_eq_of_cons_eq same
  have agree := congrArg (List.takeWhile isDecimal) tails
  rw [takeWhile_isDecimal_field decimal, takeWhile_isDecimal_field decimalToo] at agree
  subst agree
  exact ⟨rfl, List.append_cancel_left same⟩

theorem isBlank_of_isDecimal {digit : Char} (decimal : isDecimal digit = true) :
    isBlank digit = false := by
  cases blank : isBlank digit with
  | false => rfl
  | true =>
      rw [isDecimal_of_blank blank] at decimal
      cases decimal

theorem Numbered.isBlank_eq_false {field : List Char} (numbered : Numbered field) {mark : Char}
    (member : mark ∈ field) : isBlank mark = false := by
  obtain ⟨digits, -, decimal, rfl⟩ := numbered
  rcases List.mem_cons.mp member with rfl | later
  · decide
  · rcases List.mem_append.mp later with digit | letter
    · exact isBlank_of_isDecimal (decimal mark digit)
    · have all : effectField.all (fun letter => !isBlank letter) = true := by decide
      simpa using List.all_eq_true.mp all mark letter

theorem Numbered.visible_eq {field : List Char} (numbered : Numbered field) :
    visible field = field :=
  List.filter_eq_self.mpr fun mark member => by simp [numbered.isBlank_eq_false member]

theorem Numbered.not_mem_tail {tail : List Char} (numbered : Numbered ('p' :: tail)) :
    'p' ∉ tail := by
  obtain ⟨digits, -, decimal, same⟩ := numbered
  rw [List.tail_eq_of_cons_eq same, List.mem_append]
  rintro (digit | letter)
  · exact absurd (decimal 'p' digit) (by decide)
  · exact absurd letter (by decide)

/-- A number is taken away exactly if a numbered field stands as a word of its own. -/
theorem afterNumberedField?_eq_some {joined : Bool} {text after : List Char} :
    afterNumberedField? joined text = some after ↔
      joined = false ∧ startsWord after = false ∧
        ∃ field, Numbered field ∧ text = field ++ after := by
  constructor
  · intro found
    unfold afterNumberedField? at found
    split at found
    · next rest =>
        simp only [Option.ite_none_left_eq_some, Option.some.injEq, Bool.or_eq_true,
          Bool.not_eq_true', not_or, Bool.not_eq_true, Bool.not_eq_false] at found
        obtain ⟨⟨⟨nonempty, begins⟩, apart⟩, rfl⟩ := found
        have taken := List.prefix_iff_eq_append.mp (List.takeWhile_prefix (l := rest) isDecimal)
        have named := List.prefix_iff_eq_append.mp (List.isPrefixOf_iff_prefix.mp begins)
        refine ⟨rfl, apart, 'p' :: (rest.takeWhile isDecimal ++ effectField),
          ⟨_, List.isEmpty_eq_false_iff.mp nonempty, fun digit member =>
            List.all_eq_true.mp List.all_takeWhile digit member, rfl⟩, ?_⟩
        rw [List.cons_append, List.append_assoc, named, taken]
    · cases found
  · rintro ⟨rfl, apart, field, ⟨digits, nonempty, decimal, rfl⟩, rfl⟩
    have taken := takeWhile_isDecimal_field decimal after
    have named : effectField.isPrefixOf (effectField ++ after) = true :=
      List.isPrefixOf_iff_prefix.mpr (List.prefix_append _ _)
    simp only [List.cons_append, afterNumberedField?, taken]
    rw [List.append_assoc, List.drop_left, List.drop_left, named, ← startsWord, apart,
      List.isEmpty_eq_false_iff.mpr nonempty]
    rfl

theorem unnumbered_field {field after : List Char} (numbered : Numbered field)
    (apart : startsWord after = false) :
    unnumbered false (field ++ after) = 'p' :: effectField ++ unnumbered true after := by
  have found : afterNumberedField? false (field ++ after) = some after :=
    afterNumberedField?_eq_some.mpr ⟨rfl, apart, field, numbered, rfl⟩
  obtain ⟨digit, others, rfl, -⟩ := numbered.eq_cons
  exact unnumbered_of_some found

theorem head?_unnumbered (joined : Bool) (text : List Char) :
    (unnumbered joined text).head? = text.head? := by
  cases text with
  | nil => rw [unnumbered]
  | cons first rest =>
      cases found : afterNumberedField? joined (first :: rest) with
      | none => rw [unnumbered_of_none found, List.head?_cons, List.head?_cons]
      | some after =>
          obtain ⟨-, -, field, numbered, split⟩ := afterNumberedField?_eq_some.mp found
          obtain ⟨digit, others, rfl, -⟩ := numbered.eq_cons
          rw [unnumbered_of_some found, split]
          rfl

theorem visible_cons_blank {blank : Char} (isBlank : isBlank blank = true) (text : List Char) :
    visible (blank :: text) = visible text :=
  List.filter_cons_of_neg (by simp [isBlank])

theorem visible_cons {mark : Char} (shown : isBlank mark = false) (text : List Char) :
    visible (mark :: text) = mark :: visible text :=
  List.filter_cons_of_pos (by simp [shown])

theorem visible_append (text after : List Char) :
    visible (text ++ after) = visible text ++ visible after :=
  List.filter_append text after

/-- The first visible character is never a number that is taken away. -/
theorem head?_visible_unnumbered (joined : Bool) (text : List Char) :
    (visible (unnumbered joined text)).head? = (visible text).head? := by
  induction joined, text using unnumbered.induct with
  | case1 joined => rw [unnumbered]
  | case2 joined first rest after found ih =>
      obtain ⟨-, -, field, numbered, split⟩ := afterNumberedField?_eq_some.mp found
      obtain ⟨digit, others, rfl, -⟩ := numbered.eq_cons
      have shown : isBlank 'p' = false := by decide
      rw [unnumbered_of_some found, split, List.cons_append, List.cons_append,
        visible_cons shown, visible_cons shown]
      rfl
  | case3 joined first rest none ih =>
      rw [unnumbered_of_none none]
      cases shown : isBlank first with
      | true => rw [visible_cons_blank shown, visible_cons_blank shown, ih]
      | false =>
          rw [visible_cons shown, visible_cons shown]
          rfl

theorem exists_of_visible_eq_append {text part rest : List Char} {last : Char}
    (split : visible text = part ++ last :: rest) :
    ∃ field after, text = field ++ after ∧ visible field = part ++ [last] ∧
      visible after = rest ∧ field.getLast? = some last := by
  obtain ⟨before, behind, rfl, first, later⟩ := List.filter_eq_append_iff.mp split
  obtain ⟨blanks, after, rfl, hidden, shown, others⟩ := List.filter_eq_cons_iff.mp later
  refine ⟨before ++ blanks ++ [last], after, by simp, ?_, others, by simp⟩
  rw [visible_append, visible_append, visible, visible, first, List.filter_eq_nil_iff.mpr hidden,
    List.append_nil]
  exact congrArg (part ++ ·) (List.filter_cons_of_pos shown)

structure Plain (text : List Char) : Prop where
  undigited : ∀ mark ∈ text, isDecimal mark = false
  apart : ∀ before after, text = before ++ ('p' :: effectField ++ after) →
    endsWord before = false ∧ startsWord after = false

/-- What is visible of the condition that some row has an effect. -/
def someRow (effect : List Char) : List Char :=
  ['s', 'o', 'm', 'e', '(', 'w', 'h', 'e', 'r', 'e', '(', 'p'] ++ effectField ++ ['=', '='] ++
    effect ++ [')', ')']

def words : EffectRule → List Char
  | .allowOverride => someRow ['a', 'l', 'l', 'o', 'w']
  | .denyOverride => '!' :: someRow ['d', 'e', 'n', 'y']
  | .allowAndDeny =>
      someRow ['a', 'l', 'l', 'o', 'w'] ++ ['&', '&', '!'] ++ someRow ['d', 'e', 'n', 'y']
  | .priority =>
      ['p', 'r', 'i', 'o', 'r', 'i', 't', 'y', '(', 'p'] ++ effectField ++
        [')', '|', '|', 'd', 'e', 'n', 'y']

theorem visible_text (rule : EffectRule) : visible rule.text.toList = rule.words := by
  cases rule <;> rw [text, String.toList_ofList] <;> decide

theorem plain_words (rule : EffectRule) : Plain rule.words where
  undigited := by
    have all : rule.words.all (fun mark => !isDecimal mark) = true := by
      cases rule <;> decide
    intro mark member
    simpa using List.all_eq_true.mp all mark member
  apart := by
    have all : ∀ place ≤ rule.words.length,
        ('p' :: effectField).isPrefixOf (rule.words.drop place) = true →
          endsWord (rule.words.take place) = false ∧
          startsWord (rule.words.drop (place + 5)) = false := by
      cases rule <;> decide
    intro before after split
    have here := all before.length (by simp [split])
    have behind : rule.words.drop (before.length + 5) = after := by
      rw [split, ← List.append_assoc]
      exact List.drop_left' (by simp [effectField])
    rw [behind, split, List.drop_left, List.take_left] at here
    exact here (List.isPrefixOf_iff_prefix.mpr (List.prefix_append _ _))

theorem Plain.not_isDecimal {text before after : List Char} {mark : Char} (plain : Plain text)
    (split : before ++ mark :: after = text) : ¬ isDecimal mark = true := by
  rw [plain.undigited mark (by simp [← split])]
  exact Bool.false_ne_true

theorem endsWord_append (before : List Char) (mark : Char) :
    endsWord (before ++ [mark]) = isWord mark := by
  rw [endsWord, List.getLast?_append]
  rfl

theorem endsWord_append_field (before : List Char) :
    endsWord (before ++ 'p' :: effectField) = true := by
  have letters : 'p' :: effectField = ['p', '.', 'e', 'f'] ++ ['t'] := rfl
  rw [letters, ← List.append_assoc, endsWord_append]
  decide

theorem visible_field : visible ('p' :: effectField) = 'p' :: effectField := by
  decide

theorem Broken.append_left {text : List Char} (broken : Broken text) (more : List Char) :
    Broken (more ++ text) := by
  obtain ⟨before, field, after, rfl, inside⟩ := broken
  exact ⟨more ++ before, field, after, by simp, inside⟩

theorem startsWord_of_visible {text : List Char} (apart : startsWord (visible text) = false) :
    startsWord text = false := by
  cases text with
  | nil => rfl
  | cons first rest =>
      cases shown : isBlank first with
      | true => exact isWord_of_blank shown
      | false => rwa [visible_cons shown] at apart

/-- Where no field is broken, a field that is visible stands in one piece. -/
theorem Numbered.exists_of_unbroken {field rest next : List Char} {first : Char}
    (numbered : Numbered field) (unbroken : ¬ Broken (first :: rest))
    (shown : isBlank first = false) (split : visible (first :: rest) = field ++ next) :
    ∃ after, first :: rest = field ++ after ∧ visible after = next := by
  obtain ⟨digits, nonempty, decimal, rfl⟩ := id numbered
  have letters : 'p' :: (digits ++ effectField) ++ next =
      'p' :: (digits ++ ['.', 'e', 'f']) ++ 't' :: next := by
    simp [effectField]
  obtain ⟨piece, after, whole, part, behind, last⟩ :=
    exists_of_visible_eq_append (split.trans letters)
  have same : visible piece = 'p' :: (digits ++ effectField) := by
    rw [part]
    simp [effectField]
  have head : piece.head? = some 'p' := by
    cases piece with
    | nil => cases last
    | cons mark others =>
        obtain ⟨rfl, -⟩ := List.cons.inj whole
        rw [visible_cons shown] at same
        rw [List.head_eq_of_cons_eq same]
        rfl
  have solid : visible piece = piece := by
    rw [visible, List.filter_eq_self]
    intro mark member
    cases blank : isBlank mark with
    | false => rfl
    | true =>
        exact absurd ⟨[], piece, after, whole, same ▸ numbered, head, last, mark, member, blank⟩
          unbroken
  exact ⟨after, by rw [whole, ← same, solid], behind⟩

/-- Where no field is broken, no number is taken away behind the white space only. -/
theorem afterNumberedField?_visible_eq_none {first : Char} {rest : List Char}
    {joined outer : Bool} (unbroken : ¬ Broken (first :: rest)) (shown : isBlank first = false)
    (ends : joined = true → outer = true)
    (absent : afterNumberedField? joined (first :: rest) = none) :
    afterNumberedField? outer (visible (first :: rest)) = none := by
  cases found : afterNumberedField? outer (visible (first :: rest)) with
  | none => rfl
  | some next =>
      obtain ⟨rfl, nextApart, field, numbered, split⟩ := afterNumberedField?_eq_some.mp found
      obtain ⟨after, whole, rfl⟩ := numbered.exists_of_unbroken unbroken shown split
      have unjoined : joined = false := by
        cases joined with
        | false => rfl
        | true => exact absurd (ends rfl) Bool.false_ne_true
      have foundToo : afterNumberedField? joined (first :: rest) = some after :=
        afterNumberedField?_eq_some.mpr
          ⟨unjoined, startsWord_of_visible nextApart, field, numbered, whole⟩
      rw [absent] at foundToo
      cases foundToo

/-- The first letter of a field is in no other field. -/
theorem exists_unnumbered_append (joined : Bool) (before rest : List Char) :
    ∃ done inner, unnumbered joined (before ++ 'p' :: rest) =
      done ++ unnumbered inner ('p' :: rest) := by
  generalize whole : before ++ 'p' :: rest = text
  induction joined, text using unnumbered.induct generalizing before with
  | case1 joined => simp at whole
  | case2 joined first others after found ih =>
      obtain ⟨-, -, field, numbered, split⟩ := afterNumberedField?_eq_some.mp found
      cases before with
      | nil => exact ⟨[], joined, by rw [← whole]; rfl⟩
      | cons mark before =>
          rcases List.append_eq_append_iff.mp (whole.trans split) with
            ⟨inside, rfl, behind⟩ | ⟨between, -, behind⟩
          · cases inside with
            | nil => exact ⟨'p' :: effectField, true, by rw [unnumbered_of_some found, behind]; rfl⟩
            | cons letter inside =>
                obtain ⟨digit, digits, shape, -⟩ := numbered.eq_cons
                obtain ⟨rfl, -⟩ := List.cons.inj shape
                obtain ⟨rfl, -⟩ := List.cons.inj behind
                exact absurd (by simp) numbered.not_mem_tail
          · obtain ⟨done, inner, taken⟩ := ih between behind.symm
            refine ⟨'p' :: effectField ++ done, inner, ?_⟩
            rw [unnumbered_of_some found, taken, List.append_assoc]
  | case3 joined first others none ih =>
      cases before with
      | nil => exact ⟨[], joined, by rw [← whole]; rfl⟩
      | cons mark before =>
          obtain ⟨rfl, tails⟩ := List.cons.inj whole
          obtain ⟨done, inner, taken⟩ := ih before tails
          exact ⟨mark :: done, inner, by rw [unnumbered_of_none none, taken]; rfl⟩

theorem afterNumberedField?_broken {tail : List Char} (numbered : Numbered (visible ('p' :: tail)))
    (last : ('p' :: tail).getLast? = some 't')
    (broken : ∃ blank ∈ 'p' :: tail, isBlank blank = true) (joined : Bool) (after : List Char) :
    afterNumberedField? joined ('p' :: (tail ++ after)) = none := by
  cases found : afterNumberedField? joined ('p' :: (tail ++ after)) with
  | none => rfl
  | some next =>
      obtain ⟨-, -, field, numberedToo, split⟩ := afterNumberedField?_eq_some.mp found
      obtain ⟨blank, member, isBlank⟩ := broken
      have solid : ∀ mark ∈ field, Text.isBlank mark = false :=
        fun mark => numberedToo.isBlank_eq_false
      rw [← List.cons_append] at split
      rcases List.append_eq_append_iff.mp split with ⟨more, rfl, -⟩ | ⟨more, shape, -⟩
      · rw [solid blank (List.mem_append_left more member)] at isBlank
        cases isBlank
      · -- What is behind the field ends with a letter, and yet nothing of it is visible.
        rw [shape, visible_append, numberedToo.visible_eq] at numbered
        obtain ⟨-, hidden⟩ := numbered.append_inj numberedToo (List.append_nil _)
        cases more with
        | nil =>
            rw [shape, List.append_nil] at member
            rw [solid blank member] at isBlank
            cases isBlank
        | cons mark more =>
            rw [shape, List.getLast?_append_of_ne_nil _ (List.cons_ne_nil _ _)] at last
            have letter : 't' ∈ visible (mark :: more) :=
              List.mem_filter.mpr ⟨List.mem_of_getLast? last, by decide⟩
            rw [← hidden] at letter
            cases letter

section

variable {whole : List Char} (plain : Plain whole)
include plain

/-- Where a plain text is left, no number is behind a letter. -/
theorem Plain.afterNumberedField?_eq_none {before rest : List Char} {first : Char}
    {inner : Bool} (split : before ++ first :: visible (unnumbered inner rest) = whole)
    (joined : Bool) : afterNumberedField? joined (first :: visible rest) = none := by
  cases found : afterNumberedField? joined (first :: visible rest) with
  | none => rfl
  | some after =>
      obtain ⟨-, -, field, numbered, same⟩ := afterNumberedField?_eq_some.mp found
      obtain ⟨digit, others, rfl, decimal⟩ := numbered.eq_cons
      have number : (visible (unnumbered inner rest)).head? = some digit := by
        rw [head?_visible_unnumbered, List.tail_eq_of_cons_eq same]
        rfl
      obtain ⟨tail, shown⟩ := List.head?_eq_some_iff.mp number
      rw [shown, List.append_cons] at split
      exact absurd decimal (plain.not_isDecimal split)

theorem Plain.afterNumberedField?_ne_none {before field rest : List Char} {joined : Bool}
    (numbered : Numbered field) (left : before ++ unnumbered joined (field ++ rest) = whole) :
    afterNumberedField? joined (field ++ rest) ≠ none := by
  intro absent
  obtain ⟨digit, others, rfl, decimal⟩ := numbered.eq_cons
  have stays : unnumbered joined ('p' :: digit :: others ++ rest) =
      'p' :: unnumbered (isWord 'p') (digit :: others ++ rest) := unnumbered_of_none absent
  have first : (unnumbered (isWord 'p') (digit :: others ++ rest)).head? = some digit := by
    rw [head?_unnumbered]
    rfl
  obtain ⟨tail, shown⟩ := List.head?_eq_some_iff.mp first
  rw [stays, shown, List.append_cons] at left
  exact plain.not_isDecimal left decimal

/-- If a plain text is left when numbers are taken away first, then it is also left when white
space is deleted first. -/
theorem reduced_of_visible {joined : Bool} {text before : List Char}
    (left : before ++ visible (unnumbered joined text) = whole) :
    before ++ unnumbered (endsWord before) (visible text) = whole := by
  induction joined, text using unnumbered.induct generalizing before with
  | case1 joined =>
      rw [unnumbered] at left
      rwa [visible, List.filter_nil, unnumbered]
  | case2 joined first rest after found ih =>
      rw [unnumbered_of_some found, visible_append, visible_field] at left
      obtain ⟨-, -, field, numbered, split⟩ := afterNumberedField?_eq_some.mp found
      obtain ⟨endsApart, startsApart⟩ := plain.apart before _ left.symm
      rw [startsWord, head?_visible_unnumbered, ← startsWord] at startsApart
      have later := @ih (before ++ 'p' :: effectField) (by rwa [List.append_assoc])
      rw [endsWord_append_field] at later
      rw [split, visible_append, numbered.visible_eq, endsApart,
        unnumbered_field numbered startsApart, ← List.append_assoc, later]
  | case3 joined first rest none ih =>
      rw [unnumbered_of_none none] at left
      cases shown : isBlank first with
      | true =>
          rw [visible_cons_blank shown] at left ⊢
          exact ih left
      | false =>
          rw [visible_cons shown] at left ⊢
          have noneToo := plain.afterNumberedField?_eq_none left (endsWord before)
          rw [List.append_cons] at left
          have later := ih left
          rwa [endsWord_append, ← List.append_cons, ← unnumbered_of_none noneToo] at later

/-- If a plain text is left when white space is deleted first, and no field is broken, then it
is also left when numbers are taken away first. -/
theorem visible_of_reduced {joined : Bool} {text before : List Char} (unbroken : ¬ Broken text)
    (ends : joined = true → endsWord before = true)
    (left : before ++ unnumbered (endsWord before) (visible text) = whole) :
    before ++ visible (unnumbered joined text) = whole := by
  induction joined, text using unnumbered.induct generalizing before with
  | case1 joined =>
      rw [visible, List.filter_nil, unnumbered] at left
      rwa [unnumbered]
  | case2 joined first rest after found ih =>
      obtain ⟨-, -, field, numbered, split⟩ := afterNumberedField?_eq_some.mp found
      rw [split] at unbroken left
      rw [visible_append, numbered.visible_eq] at left
      obtain ⟨next, again⟩ :=
        Option.ne_none_iff_exists'.mp (plain.afterNumberedField?_ne_none numbered left)
      obtain ⟨endsApart, nextApart, other, numberedToo, same⟩ :=
        afterNumberedField?_eq_some.mp again
      obtain ⟨-, rfl⟩ := numbered.append_inj numberedToo same
      rw [endsApart, unnumbered_field numbered nextApart, ← List.append_assoc,
        ← endsWord_append_field before] at left
      rw [unnumbered_of_some found, visible_append, visible_field, ← List.append_assoc]
      exact ih (fun broken => unbroken (broken.append_left field))
        (fun _ => endsWord_append_field before) left
  | case3 joined first rest none ih =>
      have later : ¬ Broken rest := fun broken => unbroken (broken.append_left [first])
      rw [unnumbered_of_none none]
      cases shown : isBlank first with
      | true =>
          rw [visible_cons_blank shown] at left ⊢
          refine ih later (fun word => ?_) left
          rw [isWord_of_blank shown] at word
          cases word
      | false =>
          have noneToo : afterNumberedField? (endsWord before) (first :: visible rest) = .none := by
            rw [← visible_cons shown]
            exact afterNumberedField?_visible_eq_none unbroken shown ends none
          rw [visible_cons shown, unnumbered_of_none noneToo, List.append_cons] at left
          rw [visible_cons shown, List.append_cons]
          refine ih later (fun word => ?_) ?_
          · rwa [endsWord_append]
          · rwa [endsWord_append]

/-- A plain text is left only of a text in which no field is broken. -/
theorem not_broken_of_visible {joined : Bool} {text : List Char}
    (left : visible (unnumbered joined text) = whole) : ¬ Broken text := by
  rintro ⟨before, field, after, rfl, numbered, head, last, broken⟩
  obtain ⟨tail, rfl⟩ := List.head?_eq_some_iff.mp head
  obtain ⟨done, inner, taken⟩ := exists_unnumbered_append joined before (tail ++ after)
  have absent : afterNumberedField? inner ('p' :: (tail ++ after)) = none :=
    afterNumberedField?_broken numbered last broken inner after
  obtain ⟨digit, others, shape, decimal⟩ := numbered.eq_cons
  have shownField : isBlank 'p' = false := by decide
  have number : (visible (unnumbered (isWord 'p') (tail ++ after))).head? = some digit := by
    rw [visible_cons shownField] at shape
    rw [head?_visible_unnumbered, visible_append, List.tail_eq_of_cons_eq shape]
    rfl
  obtain ⟨more, shown⟩ := List.head?_eq_some_iff.mp number
  rw [List.cons_append, taken, unnumbered_of_none absent, visible_append, visible_cons shownField,
    shown, List.append_cons] at left
  exact plain.not_isDecimal left decimal

end

theorem mem_all (rule : EffectRule) : rule ∈ all := by
  cases rule <;> decide

theorem words_inj {rule other : EffectRule} (same : rule.words = other.words) : rule = other := by
  have distinct : ∀ rule ∈ all, ∀ other ∈ all, rule.words = other.words → rule = other := by
    decide
  exact distinct rule rule.mem_all other other.mem_all same

theorem unnumbered_of_undigited {text : List Char}
    (undigited : ∀ mark ∈ text, isDecimal mark = false) (joined : Bool) :
    unnumbered joined text = text := by
  induction text generalizing joined with
  | nil => rw [unnumbered]
  | cons first rest ih =>
      have absent : afterNumberedField? joined (first :: rest) = none := by
        cases found : afterNumberedField? joined (first :: rest) with
        | none => rfl
        | some after =>
            obtain ⟨-, -, field, numbered, split⟩ := afterNumberedField?_eq_some.mp found
            obtain ⟨digit, others, rfl, decimal⟩ := numbered.eq_cons
            rw [undigited digit (by simp [split])] at decimal
            cases decimal
      rw [unnumbered_of_none absent, ih (List.forall_mem_cons.mp undigited).2]

/-- No rule has a digit, so nothing is taken away from it but white space. -/
theorem canonical_text (rule : EffectRule) : canonical rule.text = rule.words := by
  have undigited : ∀ mark ∈ rule.text.toList, isDecimal mark = false := by
    intro mark member
    cases shown : isBlank mark with
    | true => exact isDecimal_of_blank shown
    | false =>
        refine rule.plain_words.undigited mark ?_
        rw [← visible_text]
        exact List.mem_filter.mpr ⟨member, by simp [shown]⟩
  rw [← visible_text, canonical, unnumbered_of_undigited undigited]
  rfl

theorem ofText?_eq_some {text : String} {rule : EffectRule} :
    ofText? text = some rule ↔ visible (unnumbered false text.toList) = rule.words := by
  change _ ↔ canonical text = _
  unfold ofText?
  constructor
  · intro found
    have same := List.find?_some found
    rw [beq_iff_eq, canonical_text] at same
    exact same.symm
  · intro same
    cases found : all.find? fun other => canonical other.text == canonical text with
    | none =>
        have unlike := List.find?_eq_none.mp found rule rule.mem_all
        rw [canonical_text, same] at unlike
        exact absurd (beq_self_eq_true _) unlike
    | some other =>
        have alike := List.find?_some found
        rw [beq_iff_eq, canonical_text, same] at alike
        rw [words_inj alike]

theorem resolve_eq_error {text : String} :
    resolve (some text) = .error (.unsupportedEffect (.text text)) ↔
      ∀ rule, resolve (some text) ≠ .ok rule := by
  unfold resolve
  rw [Option.getD_some]
  cases ofText? text <;> simp

def Alike (text other : String) : Prop :=
  ∀ rule, resolve (some text) = .ok rule ↔ resolve (some other) = .ok rule

/-- An expression stands for a rule exactly if the rule is left once white space and then
numbers are taken away, and no numbered field is broken; any other expression is refused. So
expressions of which the same is left are alike, unless it is a rule and just one of them has a
broken field. -/
theorem resolve_iff_unbroken (text : String) :
    (∀ rule, resolve (some text) = .ok rule ↔
      reduced text.toList = visible rule.text.toList ∧ ¬ Broken text.toList) ∧
    (resolve (some text) = .error (.unsupportedEffect (.text text)) ↔
      (∀ rule : EffectRule, reduced text.toList ≠ visible rule.text.toList) ∨
        Broken text.toList) ∧
    ∀ other : String, reduced other.toList = reduced text.toList →
      (Alike text other ↔ ∀ rule : EffectRule, reduced text.toList = visible rule.text.toList →
        (Broken text.toList ↔ Broken other.toList)) := by
  have resolves : ∀ (text : String) (rule : EffectRule), resolve (some text) = .ok rule ↔
      reduced text.toList = visible rule.text.toList ∧ ¬ Broken text.toList := by
    intro text rule
    have plain := plain_words rule
    rw [resolve_eq_ok, ofText?_eq_some, visible_text]
    constructor
    · intro left
      exact ⟨@reduced_of_visible _ plain false _ [] left, not_broken_of_visible plain left⟩
    · rintro ⟨left, unbroken⟩
      exact @visible_of_reduced _ plain false _ [] unbroken (by simp) left
  refine ⟨resolves text, ?_, fun other same => ?_⟩
  · rw [resolve_eq_error]
    simp only [ne_eq, resolves, not_and_not_right]
    by_cases broken : Broken text.toList <;> simp [broken]
  · unfold Alike
    simp only [resolves, same]
    refine forall_congr' fun rule => ?_
    tauto

namespace Sample

def spaced : String := " some ( wh ere ( p2.eft == al low ) ) "

def torn : String := "some(where (p2 .eft == allow))"

end Sample

theorem resolve_iff_unbroken_torn :
    resolve (some Sample.spaced) = .ok .allowOverride ∧
    reduced Sample.torn.toList = reduced Sample.spaced.toList ∧
    resolve (some Sample.torn) = .error (.unsupportedEffect (.text Sample.torn)) ∧
    ¬ Alike Sample.spaced Sample.torn := by
  obtain ⟨stands, -, alike⟩ := resolve_iff_unbroken Sample.spaced
  obtain ⟨-, refused, -⟩ := resolve_iff_unbroken Sample.torn
  have read : resolve (some Sample.spaced) = .ok .allowOverride := by
    rw [resolve_eq_ok, ofText?_eq_some, Sample.spaced, String.toList_ofList]
    decide +kernel
  have same : reduced Sample.torn.toList = reduced Sample.spaced.toList := by
    rw [Sample.torn, Sample.spaced, String.toList_ofList, String.toList_ofList]
    decide +kernel
  have broken : Broken Sample.torn.toList := by
    rw [Sample.torn, String.toList_ofList]
    exact ⟨['s', 'o', 'm', 'e', '(', 'w', 'h', 'e', 'r', 'e', ' ', '('],
      ['p', '2', ' ', '.', 'e', 'f', 't'],
      [' ', '=', '=', ' ', 'a', 'l', 'l', 'o', 'w', ')', ')'], rfl,
      ⟨['2'], by decide, List.forall_mem_singleton.mpr (by decide), by decide⟩,
      rfl, rfl, ' ', by decide, by decide⟩
  obtain ⟨left, unbroken⟩ := (stands .allowOverride).mp read
  refine ⟨read, same, refused.mpr (.inr broken), fun both => unbroken ?_⟩
  exact ((alike Sample.torn same).mp both .allowOverride left).mpr broken

/-- Once white space and then numbers are taken away, a rule is left, and yet the expression is
refused. -/
theorem refuses_torn :
    reduced Sample.torn.toList = visible EffectRule.allowOverride.text.toList ∧
      resolve (some Sample.torn) = .error (.unsupportedEffect (.text Sample.torn)) := by
  rw [visible_text, resolve_eq_error]
  simp only [ne_eq, resolve_eq_ok, ofText?_eq_some]
  rw [Sample.torn, String.toList_ofList]
  refine ⟨by decide +kernel, fun rule => ?_⟩
  cases rule <;> decide +kernel

end AccessControl.EffectRule
