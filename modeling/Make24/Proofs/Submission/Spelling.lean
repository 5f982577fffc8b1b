import Mathlib
import Make24.Submission.Judgement
import Make24.Submission.Sentence

/-! How a text writes tokens, said without a scanner, and that scanning finds what is written. White
space may stand between any two tokens; it has to stand between two numbers. -/

namespace Make24

/-- The tokens with a character of their own. -/
def Token.isMark : Token → Bool
  | .sign _ => true
  | .scale _ => true
  | .opening => true
  | .closing => true
  | _ => false

/-- A text writes tokens. A number takes all digits that follow one another, so that the text behind
it does not start with a digit. -/
inductive Spells : List Char → List Token → Prop where
  | nil : Spells [] []
  | blank {c : Char} {text : List Char} {tokens : List Token} (hBlank : Text.isBlank c = true)
      (rest : Spells text tokens) : Spells (c :: text) tokens
  | mark {token : Token} {text : List Char} {tokens : List Token} (hMark : token.isMark = true)
      (rest : Spells text tokens) : Spells (token.text ++ text) (token :: tokens)
  | number {digits : Digits} {text : List Char} {tokens : List Token} (hSome : digits ≠ [])
      (hEnd : ∀ c ∈ text.head?, c.isDigit = false) (rest : Spells text tokens) :
      Spells (digits.map digitChar ++ text) (.number digits :: tokens)

/-- Texts are put together where no run of digits is joined. -/
theorem Spells.append {text text' : List Char} {tokens tokens' : List Token}
    (left : Spells text tokens) (right : Spells text' tokens')
    (hEnd : ∀ c ∈ text'.head?, c.isDigit = false) : Spells (text ++ text') (tokens ++ tokens') := by
  induction left with
  | nil => exact right
  | blank hBlank rest ih => exact .blank hBlank ih
  | mark hMark rest ih =>
      rw [List.append_assoc]
      exact .mark hMark ih
  | @number digits text tokens hSome hEnd' rest ih =>
      rw [List.append_assoc]
      refine .number hSome ?_ ih
      cases text with
      | nil => exact hEnd
      | cons c text => exact hEnd'

/-- The characters that an expression may hold. -/
def isPermitted (c : Char) : Bool :=
  c.isDigit || ['+', '-', '*', '/', '(', ')'].contains c || Text.isBlank c

theorem isPermitted_iff {c : Char} :
    isPermitted c = true ↔
      c.isDigit = true ∨ c ∈ ['+', '-', '*', '/', '(', ')'] ∨ Text.isBlank c = true := by
  simp only [isPermitted, Bool.or_eq_true, List.contains_iff_mem, or_assoc]

namespace Token

theorem isDigit_iff {c : Char} : c.isDigit = true ↔ 48 ≤ c.toNat ∧ c.toNat ≤ 57 := by
  simp only [Char.isDigit, ge_iff_le, Bool.and_eq_true, decide_eq_true_eq,
    UInt32.le_iff_toNat_le]
  rfl

theorem digit?_eq_none {c : Char} (h : c.isDigit = false) : digit? c = none := by
  rw [digit?, dif_neg]
  rw [← isDigit_iff, h]
  exact Bool.false_ne_true

theorem digit?_digitChar (d : Fin 10) : digit? (digitChar d) = some d := by
  revert d
  decide

theorem isDigit_digitChar (d : Fin 10) : (digitChar d).isDigit = true := by
  revert d
  decide

theorem exists_digitChar {c : Char} (h : c.isDigit = true) : ∃ d, digitChar d = c := by
  rw [isDigit_iff] at h
  exact ⟨_, digitChar_of_digit? (dif_pos h)⟩

theorem scan_cons (c : Char) (text : List Char) : scan (c :: text) = push c (scan text) := rfl

theorem push_of_not_isDigit {c : Char} (h : c.isDigit = false) (tokens : List Token) :
    push c tokens = ofChar c :: tokens := by
  unfold push
  rw [digit?_eq_none h]

theorem push_digitChar_number (d : Fin 10) (digits : Digits) (tokens : List Token) :
    push (digitChar d) (.number digits :: tokens) = .number (d :: digits) :: tokens := by
  unfold push
  rw [digit?_digitChar]

theorem push_digitChar (d : Fin 10) {tokens : List Token}
    (h : ∀ digits rest, tokens ≠ .number digits :: rest) :
    push (digitChar d) tokens = .number [d] :: tokens := by
  cases tokens with
  | nil => simp [push, digit?_digitChar]
  | cons token rest =>
      cases token with
      | number digits => exact absurd rfl (h digits rest)
      | _ => simp [push, digit?_digitChar]

theorem ofChar_ne_number (c : Char) (digits : Digits) : ofChar c ≠ .number digits := by
  unfold ofChar
  split <;> try simp
  split <;> simp

/-- Tokens do not start with a number if the text does not start with a digit. -/
theorem scan_ne_number {text : List Char} (h : ∀ c ∈ text.head?, c.isDigit = false)
    (digits : Digits) (rest : List Token) : scan text ≠ .number digits :: rest := by
  cases text with
  | nil => exact (List.cons_ne_nil _ _).symm
  | cons c text =>
      rw [scan_cons, push_of_not_isDigit (h c rfl)]
      exact fun hScan => ofChar_ne_number c digits (List.cons.inj hScan).1

/-- A run of digits is scanned as one number. -/
theorem scan_digits_append {digits : Digits} {text : List Char} (hSome : digits ≠ [])
    (hEnd : ∀ c ∈ text.head?, c.isDigit = false) :
    scan (digits.map digitChar ++ text) = .number digits :: scan text := by
  induction digits with
  | nil => exact absurd rfl hSome
  | cons d digits ih =>
      rw [List.map_cons, List.cons_append, scan_cons]
      cases digits with
      | nil => exact push_digitChar d (scan_ne_number hEnd)
      | cons d' digits => rw [ih (by simp), push_digitChar_number]

/-- A mark is written with one character and is the token of it. -/
theorem exists_char_of_isMark {token : Token} (hMark : token.isMark = true) :
    ∃ c, token.text = [c] ∧ c.isDigit = false ∧ ofChar c = token := by
  cases token with
  | sign s => cases s <;> exact ⟨_, rfl, by decide, by decide⟩
  | scale s => cases s <;> exact ⟨_, rfl, by decide, by decide⟩
  | opening => exact ⟨_, rfl, by decide, by decide⟩
  | closing => exact ⟨_, rfl, by decide, by decide⟩
  | number => cases hMark
  | blank => cases hMark
  | foreign => cases hMark

theorem mem_of_isMark {token : Token} {c : Char} (hMark : token.isMark = true)
    (hText : token.text = [c]) : c ∈ ['+', '-', '*', '/', '(', ')'] := by
  cases token with
  | sign s => cases s <;> cases hText <;> decide
  | scale s => cases s <;> cases hText <;> decide
  | opening => cases hText; decide
  | closing => cases hText; decide
  | number => cases hMark
  | blank => cases hMark
  | foreign => cases hMark

theorem meaningful_mark_cons {token : Token} (hMark : token.isMark = true) (tokens : List Token) :
    meaningful (token :: tokens) = token :: meaningful tokens := by
  cases token <;> first | rfl | exact Bool.noConfusion hMark

theorem firstForeign?_mark_cons {token : Token} (hMark : token.isMark = true)
    (tokens : List Token) :
    Submission.firstForeign? (token :: tokens) = Submission.firstForeign? tokens := by
  cases token <;> first | rfl | exact Bool.noConfusion hMark

theorem ofChar_of_isBlank {c : Char} (h : Text.isBlank c = true) : ofChar c = .blank c := by
  unfold ofChar
  split
  case h_7 => rw [if_pos h]
  all_goals exact absurd h (by decide)

theorem isDigit_of_isBlank {c : Char} (h : Text.isBlank c = true) : c.isDigit = false := by
  by_contra hDigit
  obtain ⟨d, rfl⟩ := exists_digitChar (by simpa using hDigit)
  revert d
  decide

/-- What scanning one more character in front of a text does. -/
inductive ScanStep (c : Char) (text : List Char) : Prop where
  | mark {token : Token} (hMark : token.isMark = true) (hText : token.text = [c])
      (hScan : scan (c :: text) = token :: scan text)
  | blank (hBlank : Text.isBlank c = true) (hScan : scan (c :: text) = .blank c :: scan text)
  | foreign (hForeign : isPermitted c = false) (hScan : scan (c :: text) = .foreign c :: scan text)
  | join (d : Fin 10) {digits : Digits} {rest : List Token} (hDigit : digitChar d = c)
      (hAhead : scan text = .number digits :: rest)
      (hScan : scan (c :: text) = .number (d :: digits) :: rest)
  | start (d : Fin 10) (hDigit : digitChar d = c)
      (hAhead : ∀ digits rest, scan text ≠ .number digits :: rest)
      (hScan : scan (c :: text) = .number [d] :: scan text)

theorem scanStep (c : Char) (text : List Char) : ScanStep c text := by
  cases hDigit : c.isDigit with
  | true =>
      obtain ⟨d, rfl⟩ := exists_digitChar hDigit
      by_cases hNumber : ∃ digits rest, scan text = .number digits :: rest
      · obtain ⟨digits, rest, hScan⟩ := hNumber
        exact .join d rfl hScan (by rw [scan_cons, hScan, push_digitChar_number])
      · push Not at hNumber
        exact .start d rfl hNumber (push_digitChar d hNumber)
  | false =>
      have hScan : scan (c :: text) = ofChar c :: scan text := push_of_not_isDigit hDigit _
      unfold ofChar at hScan
      split at hScan
      case h_7 =>
          cases hBlank : Text.isBlank c with
          | true =>
              rw [hBlank, if_pos rfl] at hScan
              exact .blank hBlank hScan
          | false =>
              rw [hBlank, if_neg Bool.false_ne_true] at hScan
              refine .foreign ?_ hScan
              simp_all [isPermitted]
      all_goals exact .mark rfl rfl hScan

/-- A text does not start with a digit if its tokens do not start with a number. -/
theorem isDigit_of_scan_ne_number {text : List Char}
    (h : ∀ digits rest, scan text ≠ .number digits :: rest) :
    ∀ c ∈ text.head?, c.isDigit = false := by
  intro c hHead
  obtain ⟨text, rfl⟩ := List.head?_eq_some_iff.mp hHead
  by_contra hDigit
  obtain ⟨d, rfl⟩ := exists_digitChar (by simpa using hDigit)
  by_cases hNumber : ∃ digits rest, scan text = .number digits :: rest
  · obtain ⟨digits, rest, hScan⟩ := hNumber
    exact h (d :: digits) rest (by rw [scan_cons, hScan, push_digitChar_number])
  · push Not at hNumber
    exact h [d] (scan text) (push_digitChar d hNumber)

end Token

open Token

/-- What is written is scanned, but for blanks, and nothing foreign is scanned. -/
theorem Spells.scan {text : List Char} {tokens : List Token} (h : Spells text tokens) :
    tokens = meaningful (scan text) ∧ Submission.firstForeign? (scan text) = none := by
  induction h with
  | nil => exact ⟨rfl, rfl⟩
  | blank hBlank rest ih =>
      rw [scan_cons, push_of_not_isDigit (isDigit_of_isBlank hBlank), ofChar_of_isBlank hBlank]
      exact ih
  | @mark token text tokens hMark rest ih =>
      obtain ⟨c, hText, hDigit, hToken⟩ := exists_char_of_isMark hMark
      rw [hText, List.cons_append, List.nil_append, scan_cons, push_of_not_isDigit hDigit, hToken]
      rw [meaningful_mark_cons hMark, firstForeign?_mark_cons hMark, ← ih.1]
      exact ⟨rfl, ih.2⟩
  | number hSome hEnd rest ih =>
      rw [scan_digits_append hSome hEnd]
      exact ⟨congrArg (_ :: ·) ih.1, ih.2⟩

/-- A text in which nothing foreign is scanned writes what is scanned. -/
theorem spells_scan {text : List Char} (h : Submission.firstForeign? (scan text) = none) :
    Spells text (meaningful (scan text)) := by
  induction text with
  | nil => exact .nil
  | cons c text ih =>
      cases scanStep c text with
      | mark hMark hText hScan =>
          rw [hScan, firstForeign?_mark_cons hMark] at h
          rw [hScan, meaningful_mark_cons hMark]
          have hSpells := Spells.mark hMark (ih h)
          rwa [hText] at hSpells
      | blank hBlank hScan =>
          rw [hScan] at h ⊢
          exact .blank hBlank (ih h)
      | foreign hForeign hScan =>
          rw [hScan] at h
          cases h
      | join d hDigit hAhead hScan =>
          subst hDigit
          rw [hScan] at h ⊢
          rw [hAhead] at ih
          -- the number in front of the text can only come from the digits there
          cases ih h with
          | number hSome hEnd hRest => exact .number (List.cons_ne_nil d _) hEnd hRest
          | mark hMark => cases hMark
          | blank hBlank hRest =>
              refine absurd hAhead (scan_ne_number ?_ _ _)
              rintro c ⟨⟩
              exact isDigit_of_isBlank hBlank
      | start d hDigit hAhead hScan =>
          subst hDigit
          rw [hScan] at h ⊢
          exact Spells.number (List.cons_ne_nil d []) (isDigit_of_scan_ne_number hAhead) (ih h)

/-- The tokens that a text writes are those scanned, and a text writes tokens unless something
foreign is scanned. -/
theorem spells_iff {text : List Char} {tokens : List Token} :
    Spells text tokens ↔
      tokens = meaningful (scan text) ∧ Submission.firstForeign? (scan text) = none := by
  constructor
  · exact Spells.scan
  · rintro ⟨rfl, hForeign⟩
    exact spells_scan hForeign

/-- What is foreign is the first character that is not permitted. -/
theorem firstForeign?_scan (text : List Char) :
    Submission.firstForeign? (scan text) = text.find? fun c => !isPermitted c := by
  induction text with
  | nil => rfl
  | cons c text ih =>
      have hSkip (hPermitted : isPermitted c = true) :
          (c :: text).find? (fun c => !isPermitted c) = Submission.firstForeign? (scan text) := by
        rw [List.find?_cons_of_neg (by simp [hPermitted]), ih]
      cases scanStep c text with
      | mark hMark hText hScan =>
          rw [hSkip (isPermitted_iff.mpr (.inr (.inl (mem_of_isMark hMark hText)))), hScan]
          exact firstForeign?_mark_cons hMark _
      | blank hBlank hScan =>
          rw [hSkip (isPermitted_iff.mpr (.inr (.inr hBlank))), hScan]
          rfl
      | foreign hForeign hScan =>
          rw [hScan, List.find?_cons_of_pos (by simp [hForeign])]
          rfl
      | join d hDigit hAhead hScan =>
          rw [hSkip (isPermitted_iff.mpr (.inl (hDigit ▸ isDigit_digitChar d))), hScan, hAhead]
          rfl
      | start d hDigit hAhead hScan =>
          rw [hSkip (isPermitted_iff.mpr (.inl (hDigit ▸ isDigit_digitChar d))), hScan]
          rfl

end Make24
