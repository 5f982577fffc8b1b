import Mathlib
import Make24.Proofs.Submission.Intake
import Make24.Proofs.Submission.Reliability

/-! Every submission is judged. Taking the numbers in machine words and reading the expression by
recursive descent gives what the gates and the reader of tokens give, whatever the text is: there is
no fault, and the calls come to an end. -/

namespace Make24

/-- What a submission comes to in machine words, with so much depth for calls. -/
def evaluateIn (fuel : Nat) (text : String) (round : Round) : Option (Except Stop Float) :=
  match Intake.extract text.toList with
  | .error stop => some (.error stop)
  | .ok numbers =>
      if numbers.toList.insertionSort (· ≤ ·) =
          (round.numbers.toList.map UInt8.toNat).insertionSort (· ≤ ·) then
        match text.toList.find? fun c => !isPermitted c with
        | some c => some (.error (.rejected (.forbiddenCharacter c)))
        | none => ((Descent.whole fuel).run.run (Cursor.start text.toList)).map Prod.fst
      else some (.error (.rejected .numberMismatch))

/-- Rows are equal in order if they hold the same numbers. -/
theorem insertionSort_eq_iff {numbers others : List Nat} :
    numbers.insertionSort (· ≤ ·) = others.insertionSort (· ≤ ·) ↔ numbers.Perm others := by
  constructor
  · intro hSorted
    refine (List.perm_insertionSort (· ≤ ·) numbers).symm.trans ?_
    rw [hSorted]
    exact List.perm_insertionSort (· ≤ ·) others
  · intro hPerm
    refine List.Perm.eq_of_sortedLE List.sortedLE_insertionSort List.sortedLE_insertionSort ?_
    exact ((List.perm_insertionSort (· ≤ ·) numbers).trans hPerm).trans
      (List.perm_insertionSort (· ≤ ·) others).symm

open Submission in
/-- With enough depth for calls the words give what the reader of tokens gives. -/
theorem evaluateIn_eq {fuel : Nat} {text : String} {round : Round}
    (hFuel : 3 * text.toList.length + 3 ≤ fuel) :
    evaluateIn fuel text round = some ((evaluate text round).mapError Stop.rejected) := by
  have hExtract := Intake.extract_eq text.toList
  unfold evaluateIn evaluate accept
  cases hNumbers : readNumbers 0 Round.size (digitRuns (Token.scan text.toList)) with
  | error rejection =>
      rw [hNumbers] at hExtract
      cases hRow : Intake.extract text.toList with
      | error stop =>
          rw [hRow] at hExtract
          cases hExtract
          rfl
      | ok row =>
          rw [hRow] at hExtract
          cases hExtract
  | ok numbers =>
      rw [hNumbers] at hExtract
      cases hRow : Intake.extract text.toList with
      | error stop =>
          rw [hRow] at hExtract
          cases hExtract
      | ok row =>
          rw [hRow] at hExtract
          cases hExtract
          obtain ⟨finish, hRun⟩ := Descent.whole_run hFuel
          simp only [insertionSort_eq_iff, ← usesCards_iff, firstForeign?_scan, hRun,
            Option.map_some]
          cases usesCards round row.toList with
          | false => rfl
          | true =>
              simp only [if_true]
              cases text.toList.find? fun c => !isPermitted c with
              | some c => rfl
              | none => cases Sum.read (Token.scan text.toList) <;> rfl

/-- A sum in so many parentheses. -/
def SumHole.enclosed : Nat → SumHole
  | 0 => .whole
  | depth + 1 => .group (.first (.first (enclosed depth)))

theorem SumHole.nesting_enclosed (depth : Nat) : (enclosed depth).nesting = depth := by
  induction depth with
  | zero => rfl
  | succ depth ih => exact congrArg (· + 1) ih

namespace Descent

theorem Refines.of_le {call : Nat → Descent Float}
    (hSucc : ∀ fuel, Refines (call fuel) (call (fuel + 1))) {fuel fuel' : Nat} (h : fuel ≤ fuel') :
    Refines (call fuel) (call fuel') := by
  induction h with
  | refl => exact .refl _
  | step _ ih => exact fun start outcome hRun => hSucc _ start outcome (ih start outcome hRun)

/-- A call has one outcome, whatever the depth beyond what suffices. -/
theorem Follows.settles {call : Nat → Descent Float} {reading : Reading} {start : Cursor}
    {bound depth : Nat} {post : Float → Reading → List Char → Prop}
    (hFollows : Follows (call bound) reading start depth post) (hDepth : depth = start.depth)
    (hSucc : ∀ fuel, Refines (call fuel) (call (fuel + 1)))
    (hPost : ∀ value next rest, post value next rest → Consumes start.rest rest) :
    ∃ (result : Except Stop Float) (finish : Cursor),
      (∀ fuel, bound ≤ fuel → (call fuel).run.run start = some (result, finish)) ∧
        result ≠ .error .fault ∧ finish.deepest ≤ 129 ∧ finish.entered ≤ 128 ∧
        ∀ value, result = .ok value →
          finish.depth = start.depth ∧ Consumes start.rest finish.rest := by
  obtain ⟨result, finish, hRun, hTracks⟩ := hFollows
  refine ⟨result, finish, fun fuel hFuel => Refines.of_le hSucc hFuel start _ hRun, ?_⟩
  cases hTracks with
  | value hReady hNext h =>
      refine ⟨nofun, hReady.deepest_le, hReady.entered_le, ?_⟩
      rintro value -
      exact ⟨hReady.depth_eq.trans hDepth, hPost _ _ _ h⟩
  | rejection hWithin hNext => exact ⟨by simp, hWithin.deepest_le, hWithin.entered_le, nofun⟩

end Descent

/-- No text makes the judging of a submission fault or go on without end.

* A call for a sum, a product or a factor anywhere in any text has one outcome however much depth
  there is beyond three calls for each character that is left. It is no fault; at no time more than
  129 parentheses and signs are counted, and no call is made inside more than 128. A call with a
  value has gone past a character that is no white space and has closed what it opened.
* The calls for a whole text, whether or not a gate would let it through, come to what the reader of
  its tokens comes to.
* Behind any characters that are taken without a rejection the run denotes at most 99 and at most
  four numbers are written; nothing leaves its word or the row.
* What comes out of the words is the value or the rejection of the submission. -/
theorem evaluate_never_faults :
    (∀ call ∈ [Descent.sum, Descent.product, Descent.factor], ∀ start : Cursor,
      start.depth ≤ 128 → start.deepest ≤ 129 → start.entered ≤ 128 →
      ∃ (result : Except Stop Float) (finish : Cursor),
        (∀ fuel, 3 * start.rest.length + 3 ≤ fuel →
          (call fuel).run.run start = some (result, finish)) ∧
        result ≠ .error .fault ∧ finish.deepest ≤ 129 ∧ finish.entered ≤ 128 ∧
        ∀ value, result = .ok value →
          finish.depth = start.depth ∧ Consumes start.rest finish.rest) ∧
    (∀ (text : List Char) (fuel : Nat), 3 * text.length + 3 ≤ fuel →
      ((Descent.whole fuel).run.run (Cursor.start text)).map Prod.fst =
        some (((Sum.read (Token.scan text)).map Sum.value).mapError
          fun error => .rejected (Submission.rejectionOf error))) ∧
    (∀ taken : List Char,
      (∃ rejection, taken.foldlM Intake.step Intake.start = .error (.rejected rejection)) ∨
        ∃ intake, taken.foldlM Intake.step Intake.start = .ok intake ∧
          intake.value ≤ 99 ∧ intake.count ≤ 4) ∧
    ∀ (text : String) (round : Round) (fuel : Nat), 3 * text.toList.length + 3 ≤ fuel →
      evaluateIn fuel text round = some ((evaluate text round).mapError Stop.rejected) := by
  refine ⟨fun call hCall start hDepth hDeepest hEntered => ?_, fun text fuel hFuel => ?_,
    fun taken => ?_, fun text round fuel hFuel => evaluateIn_eq hFuel⟩
  · have hHole := SumHole.nesting_enclosed start.depth
    have hReady : start.Ready (SumHole.enclosed start.depth).nesting :=
      ⟨⟨hDeepest, hEntered⟩, hHole.symm, hHole.le.trans hDepth⟩
    have hReliable := Descent.reliable (3 * start.rest.length + 3)
    simp only [List.mem_cons, List.not_mem_nil, or_false] at hCall
    rcases hCall with rfl | rfl | rfl
    · have hSum := hReliable.sum start (.enclosed start.depth) hReady (Nat.le_refl _)
      exact hSum.settles hHole (fun fuel => (Descent.refines_succ fuel).1) fun _ _ _ h => h.1
    · have hProduct := hReliable.product start (.first (.enclosed start.depth)) hReady (by omega)
      exact hProduct.settles hHole (fun fuel => (Descent.refines_succ fuel).2.2.1)
        fun _ _ _ h => h.1
    · have hFactor :=
        hReliable.factor start (.first (.first (.enclosed start.depth))) hReady (by omega)
      exact hFactor.settles hHole (fun fuel => (Descent.refines_succ fuel).2.2.2.2)
        fun _ _ _ h => h.1
  · obtain ⟨finish, hRun⟩ := Descent.whole_run hFuel
    rw [hRun, Option.map_some]
  · rcases Intake.Holds.start.foldlM taken with hRejected | ⟨intake, found, pending, hTaken, hHolds⟩
    · exact .inl hRejected
    · refine .inr ⟨intake, hTaken, ?_, ?_⟩
      · rw [hHolds.value_eq]
        exact Nat.le_of_lt_succ (Digits.toNat_lt hHolds.run_le)
      · rw [hHolds.count_eq]
        exact hHolds.count_le

/-- The bounds are met by 129 parentheses. A number behind a sign and in parentheses is read and
both are closed; without the second parenthesis the text is at fault at its end. -/
theorem evaluate_never_faults_parentheses :
    (∃ (result : Except Stop Float) (finish : Cursor),
      (∀ fuel, 390 ≤ fuel →
        (Descent.factor fuel).run.run (Cursor.start (List.replicate 129 '(')) =
          some (result, finish)) ∧
      result ≠ .error .fault ∧ finish.deepest = 129 ∧ finish.entered = 128) ∧
    (∃ (value : Float) (finish : Cursor),
      (Descent.sum 15).run.run (Cursor.start ['-', '(', '1', ')']) = some (.ok value, finish) ∧
      finish.depth = 0 ∧ Consumes ['-', '(', '1', ')'] finish.rest) ∧
    ((Descent.whole 9).run.run (Cursor.start ['(', '1'])).map Prod.fst =
      some (.error (.rejected (.malformed 2))) ∧
    (∃ intake, ['9', '9', ' ', '9'].foldlM Intake.step Intake.start = .ok intake ∧
      intake.value ≤ 99 ∧ intake.count ≤ 4) ∧
    evaluateIn 24 "1 2 3 4" ⟨#v[⟨.spades, 1⟩, ⟨.spades, 2⟩, ⟨.spades, 3⟩, ⟨.spades, 4⟩]⟩ =
      some ((evaluate "1 2 3 4"
        ⟨#v[⟨.spades, 1⟩, ⟨.spades, 2⟩, ⟨.spades, 3⟩, ⟨.spades, 4⟩]⟩).mapError Stop.rejected) := by
  obtain ⟨hCalls, hWhole, hIntake, hEvaluate⟩ := evaluate_never_faults
  refine ⟨?_, ?_, ?_, ?_, hEvaluate _ _ _ (by decide)⟩
  · obtain ⟨result, finish, hRun, hFault, -⟩ := hCalls Descent.factor (by simp)
      (Cursor.start (List.replicate 129 '(')) (by decide) (by decide) (by decide)
    have hDepth : 3 * (Cursor.start (List.replicate 129 '(')).rest.length + 3 = 390 := by
      rw [Cursor.start, List.length_replicate]
    rw [hDepth] at hRun
    have hBounds : ((Descent.factor 390).run.run (Cursor.start (List.replicate 129 '('))).map
        (fun outcome => (outcome.2.deepest, outcome.2.entered)) = some (129, 128) := by
      decide +kernel
    rw [hRun 390 (Nat.le_refl _), Option.map_some, Option.some.injEq, Prod.mk.injEq] at hBounds
    exact ⟨result, finish, hRun, hFault, hBounds⟩
  · obtain ⟨result, finish, hRun, -, -, -, hValue⟩ := hCalls Descent.sum (by simp)
      (Cursor.start ['-', '(', '1', ')']) (by decide) (by decide) (by decide)
    have hOk : ((Descent.sum 15).run.run (Cursor.start ['-', '(', '1', ')'])).map
        (fun outcome => outcome.1.toBool) = some true := by
      decide +kernel
    have hOutcome := hRun 15 (by decide)
    rw [hOutcome, Option.map_some, Option.some.injEq] at hOk
    cases result with
    | error stop => cases hOk
    | ok value => exact ⟨value, finish, hOutcome, hValue value rfl⟩
  · have hRead : Sum.read (Token.scan ['(', '1']) = .error (.malformed 2) := by decide
    rw [hWhole ['(', '1'] 9 (by decide), hRead]
    rfl
  · have hOk : (['9', '9', ' ', '9'].foldlM Intake.step Intake.start).toBool = true := by decide
    rcases hIntake ['9', '9', ' ', '9'] with ⟨rejection, hRejected⟩ | hTaken
    · rw [hRejected] at hOk
      cases hOk
    · exact hTaken

end Make24
