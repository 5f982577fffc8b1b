import Mathlib
import Make24.Proofs.Double.Tame
import Make24.Proofs.Search.Enumeration
import Make24.Proofs.Submission.Totality

/-! Solutions as submissions. The text of a tree writes a derivation of the same shape: an operand
that is an operation itself is a group, so precedence never decides anything, and without the
outermost parentheses there still is one operation at the top only. -/

namespace Make24

namespace Op

/-- The token that an operation is written with. -/
def token : Op → Token
  | additive sign => .sign sign
  | multiplicative scale => .scale scale

/-- An operation between two factors. -/
def between : Op → Factor → Factor → Sum
  | additive sign, left, right => .extend (.single (.single left)) sign (.single right)
  | multiplicative scale, left, right => .single (.extend (.single left) scale right)

variable (op : Op) (left right : Factor)

theorem isMark_token : op.token.isMark = true := by
  cases op <;> rfl

theorem text_token : op.token.text = [op.symbol] := by
  cases op <;> rfl

theorem tokens_between :
    (op.between left right).tokens = left.tokens ++ op.token :: right.tokens := by
  cases op <;> rfl

theorem value_between : (op.between left right).value = op.apply left.value right.value := by
  cases op <;> rfl

theorem nesting_between : (op.between left right).nesting = max left.nesting right.nesting := by
  cases op <;> rfl

theorem numerals_between : (op.between left right).numerals = left.numerals ++ right.numerals := by
  cases op <;> rfl

end Op

namespace Tree

/-- A tree as an operand. -/
def factor : Tree → Factor
  | leaf number => .number (.ofNat number.toNat)
  | node op left right => .group (op.between left.factor right.factor)

/-- A tree as a whole expression. -/
def sum : Tree → Sum
  | leaf number => .single (.single (.number (.ofNat number.toNat)))
  | node op left right => op.between left.factor right.factor

theorem numerals_factor (tree : Tree) :
    tree.factor.numerals = tree.leaves.map fun number => .ofNat number.toNat := by
  induction tree with
  | leaf number => rfl
  | node op left right ihLeft ihRight =>
      rw [factor, Factor.numerals, op.numerals_between, ihLeft, ihRight, leaves, List.map_append]

theorem numerals_sum (tree : Tree) :
    tree.sum.numerals = tree.leaves.map fun number => .ofNat number.toNat := by
  cases tree with
  | leaf number => rfl
  | node op left right =>
      rw [sum, op.numerals_between, left.numerals_factor, right.numerals_factor, leaves,
        List.map_append]

/-- As an operand an operation is put in parentheses. -/
theorem factor_eq_group {tree : Tree} (hLeaves : 1 < tree.leaves.length) :
    tree.factor = .group tree.sum := by
  cases tree with
  | leaf number => exact absurd hLeaves (by simp [leaves])
  | node op left right => rfl

/-- Every pair of parentheses holds two leaves at least. -/
theorem nesting_factor_lt (tree : Tree) : tree.factor.nesting < tree.leaves.length := by
  induction tree with
  | leaf number => exact Nat.one_pos
  | node op left right ihLeft ihRight =>
      rw [factor, Factor.nesting, op.nesting_between, leaves, List.length_append]
      omega

theorem nesting_sum_lt (tree : Tree) : tree.sum.nesting < tree.leaves.length := by
  cases tree with
  | leaf number => exact Nat.one_pos
  | node op left right =>
      have hLeft := left.nesting_factor_lt
      have hRight := right.nesting_factor_lt
      rw [sum, op.nesting_between, leaves, List.length_append]
      omega

theorem toNat_lt_of_le {number : UInt8} (h : number ≤ 99) : number.toNat < 100 :=
  Nat.lt_succ_of_le (UInt8.le_iff_toNat_le.mp h)

/-- Reading a tree does what building it did, operation for operation. -/
theorem value_factor {tree : Tree} (hShort : ∀ number ∈ tree.leaves, number ≤ 99) :
    tree.factor.value = tree.value := by
  induction tree with
  | leaf number =>
      have hNumber := toNat_lt_of_le (hShort number List.mem_cons_self)
      exact Digits.value_eq_toFloat (Digits.ofNat_ne_nil _)
        ((Digits.length_ofNat_le_iff _).mpr hNumber) (Digits.toNat_ofNat _)
  | node op left right ihLeft ihRight =>
      simp only [leaves, List.mem_append, or_imp, forall_and] at hShort
      rw [factor, Factor.value, op.value_between, ihLeft hShort.1, ihRight hShort.2, value]

theorem value_sum {tree : Tree} (hShort : ∀ number ∈ tree.leaves, number ≤ 99) :
    tree.sum.value = tree.value := by
  cases tree with
  | leaf number => exact value_factor hShort
  | node op left right =>
      simp only [leaves, List.mem_append, or_imp, forall_and] at hShort
      rw [sum, op.value_between, value_factor hShort.1, value_factor hShort.2, value]

end Tree

/-- Spaces around an operation do not matter. -/
theorem Spells.between {text text' : List Char} {left right : Factor} (op : Op)
    (hLeft : Spells text left.tokens) (hRight : Spells text' right.tokens) :
    Spells (text ++ ' ' :: op.symbol :: ' ' :: text') (op.between left right).tokens := by
  rw [op.tokens_between]
  refine hLeft.append (.blank (by decide) ?_) (by simp)
  have hMark := Spells.mark op.isMark_token (.blank (c := ' ') (by decide) hRight)
  rwa [op.text_token] at hMark

theorem Spells.group {text : List Char} {inner : Sum} (h : Spells text inner.tokens) :
    Spells ('(' :: (text ++ [')'])) (Factor.group inner).tokens := by
  have hClosing : Spells [')'] [.closing] := @Spells.mark .closing _ _ rfl .nil
  exact @Spells.mark .opening _ _ rfl (h.append hClosing (by simp))

namespace Tree

theorem spells_number (number : UInt8) :
    Spells (toString number.toNat).toList [.number (.ofNat number.toNat)] := by
  have hText : (toString number.toNat).toList = (Digits.ofNat number.toNat).map digitChar := by
    rw [Digits.map_digitChar_ofNat]
    exact Nat.toList_repr
  rw [hText, ← List.append_nil (List.map _ _)]
  exact .number (Digits.ofNat_ne_nil _) (by simp) .nil

theorem spells_wrappedText (tree : Tree) : Spells tree.wrappedText.toList tree.factor.tokens := by
  induction tree with
  | leaf number => exact spells_number number
  | node op left right ihLeft ihRight =>
      have hGroup := (Spells.between op ihLeft ihRight).group
      simpa [wrappedText, factor] using hGroup

/-- The text of a tree writes the derivation of the tree. -/
theorem spells_text (tree : Tree) : Spells tree.text.toList tree.sum.tokens := by
  cases tree with
  | leaf number => exact spells_number number
  | node op left right =>
      have hBetween := Spells.between op left.spells_wrappedText right.spells_wrappedText
      simpa [text, sum] using hBetween

theorem length_leaves_of_perm {tree : Tree} {numbers : Vector UInt8 Round.size}
    (hPerm : tree.leaves.Perm numbers.toList) : tree.leaves.length = Round.size := by
  rw [hPerm.length_eq, Vector.length_toList]

/-- A tree of short numbers may be played with the cards that carry them. -/
theorem plays {tree : Tree} {round : Round} (hPerm : tree.leaves.Perm round.numbers.toList)
    (hShort : ∀ number ∈ tree.leaves, number ≤ 99) : Plays tree.text.toList round tree.sum := by
  have hNumerals := tree.spells_text.map_numerals
  rw [numerals_sum, List.map_map] at hNumerals
  have hSize := length_leaves_of_perm hPerm
  refine ⟨?_, ?_, ?_, tree.spells_text, ?_⟩
  · rw [← hNumerals, List.length_map, hSize]
  · rw [← hNumerals, List.forall_mem_map]
    intro number hMem
    rw [Function.comp_apply, List.length_map]
    exact (Digits.length_ofNat_le_iff _).mpr (toNat_lt_of_le (hShort number hMem))
  · rw [← hNumerals, List.map_map]
    simp only [Function.comp_def, Submission.decimal_map_digitChar, Digits.toNat_ofNat]
    exact hPerm.map UInt8.toNat
  · have hNesting := tree.nesting_sum_lt
    rw [hSize] at hNesting
    exact hNesting.le.trans (by decide)

/-- The text of a tree has the value of the tree. -/
theorem evaluate_text {tree : Tree} {round : Round} (hPerm : tree.leaves.Perm round.numbers.toList)
    (hShort : ∀ number ∈ tree.leaves, number ≤ 99) : evaluate tree.text round = .ok tree.value :=
  evaluate_eq_ok.mpr ⟨tree.sum, plays hPerm hShort, value_sum hShort⟩

/-- A tree with a number that is too long may not be played. -/
theorem evaluate_text_of_long {tree : Tree} {round : Round}
    (hSize : tree.leaves.length = Round.size) (hLong : ∃ number ∈ tree.leaves, 99 < number) :
    evaluate tree.text round = .error .numberTooLong := by
  have hRuns : ∃ run ∈ tree.sum.numerals, Submission.digitLimit < run.length := by
    obtain ⟨number, hMem, hNumber⟩ := hLong
    rw [numerals_sum]
    refine ⟨_, List.mem_map_of_mem hMem, ?_⟩
    have hNotShort := (Digits.length_ofNat_le_iff number.toNat).not
    rw [UInt8.lt_iff_toNat_lt] at hNumber
    exact Nat.lt_of_not_le (hNotShort.mpr (Nat.not_lt.mpr hNumber))
  have hRoom : tree.sum.numerals.length ≤ Round.size := by
    rw [numerals_sum, List.length_map, hSize]
  unfold evaluate Submission.accept
  rw [tree.spells_text.digitRuns_scan, Submission.readNumbers_eq_numberTooLong hRoom hRuns]
  rfl

end Tree

/-- A text that a search ends in is read in one way, as the search grouped it, and without the
outermost parentheses it is read as what was in them. -/
theorem Tree.spells_term_iff (tree : Tree) (hLeaves : 1 < tree.leaves.length) (sum : Sum) :
    (Spells tree.term.text.toList sum.tokens ↔ sum = .single (.single (.group tree.sum))) ∧
      (Spells tree.term.bareText.toList sum.tokens ↔ sum = tree.sum) := by
  have hWrapped := tree.spells_wrappedText
  rw [factor_eq_group hLeaves, ← tree.text_term] at hWrapped
  rw [Search.bareText_term]
  exact ⟨@Spells.iff_eq _ (.single (.single (.group tree.sum))) hWrapped sum,
    tree.spells_text.iff_eq sum⟩

/-- Playing a solution on cards with its numbers, whatever their order, makes 24 again, except that
a number of three digits is never accepted.

* A solution is the text of a tree over the numbers, which makes 24. It writes one derivation, that
  of the tree, and what the search wrote before it took the outermost parentheses away writes that
  derivation in parentheses and nothing else.
* If the numbers have two digits at most, the derivation is what is accepted, and it denotes what
  the tree makes, operation for operation.
* That is the value of the submission, also when it is computed while the text is read. -/
theorem evaluate_of_mem_solve {numbers : Vector UInt8 Round.size} {round : Round} {text : String}
    (hCards : round.numbers.toList.Perm numbers.toList) (hText : text ∈ solve numbers) :
    (∃ tree : Tree, tree.leaves.Perm numbers.toList ∧ tree.Divides ∧ tree.value = 24.0 ∧
      text = tree.text ∧ text = tree.term.bareText ∧
      (∀ sum : Sum, Spells text.toList sum.tokens ↔ sum = tree.sum) ∧
      (∀ sum : Sum, Spells tree.term.text.toList sum.tokens ↔
        sum = .single (.single (.group tree.sum))) ∧
      ((∀ number ∈ numbers.toList, number ≤ 99) →
        Submission.accept (Token.scan text.toList) round = .ok tree.sum ∧
          tree.sum.value = tree.value ∧ ∀ v, tree.sum.Denotes v ↔ v = tree.value)) ∧
    (evaluate text round =
      if ∀ number ∈ numbers.toList, number ≤ 99 then .ok 24.0 else .error .numberTooLong) ∧
    ∀ fuel, 3 * text.toList.length + 3 ≤ fuel →
      evaluateIn fuel text round =
        some (if ∀ number ∈ numbers.toList, number ≤ 99 then .ok 24.0
          else .error (.rejected .numberTooLong)) := by
  obtain ⟨tree, hPerm, hDivides, hTarget, rfl⟩ := mem_solve.mp hText
  have hSize := Tree.length_leaves_of_perm hPerm
  have hMakes : tree.value = 24.0 := Double.isTarget_iff.mp hTarget
  have hPlayed := hPerm.trans hCards.symm
  have hLeaves (hShort : ∀ number ∈ numbers.toList, number ≤ 99) :
      ∀ number ∈ tree.leaves, number ≤ 99 := fun number hMem =>
    hShort number (hPerm.subset hMem)
  have hEvaluate : evaluate tree.text round =
      if ∀ number ∈ numbers.toList, number ≤ 99 then .ok 24.0 else .error .numberTooLong := by
    split_ifs with hShort
    · rw [Tree.evaluate_text hPlayed (hLeaves hShort), hMakes]
    · push Not at hShort
      obtain ⟨number, hMem, hNumber⟩ := hShort
      exact Tree.evaluate_text_of_long hSize
        ⟨number, hPerm.mem_iff.mpr hMem, UInt8.not_le.mp hNumber⟩
  have hReadings := tree.spells_term_iff (hSize ▸ by decide)
  rw [Search.bareText_term] at hReadings
  refine ⟨⟨tree, hPerm, hDivides, hMakes, rfl, (Search.bareText_term tree).symm,
    fun sum => (hReadings sum).2, fun sum => (hReadings sum).1, fun hShort => ?_⟩, hEvaluate, ?_⟩
  · have hPlays := Tree.plays hPlayed (hLeaves hShort)
    have hValue := Tree.value_sum (hLeaves hShort)
    refine ⟨Submission.accept_scan_eq_ok_iff.mpr hPlays, hValue, fun v => ?_⟩
    rw [hPlays.denotes_iff, hValue, eq_comm]
  · intro fuel hFuel
    rw [evaluateIn_eq hFuel, hEvaluate]
    split_ifs <;> rfl

/-- For instance 1 2 3 4 are played on cards in another order, and 120 5 1 1 never are. -/
theorem evaluate_of_mem_solve_two_rounds :
    ("((4 * 3) * 2) * 1" ∈ solve #v[1, 2, 3, 4] ∧
      (∃ tree : Tree, tree.text = "((4 * 3) * 2) * 1" ∧ tree.sum.value = 24.0 ∧
        Submission.accept (Token.scan "((4 * 3) * 2) * 1".toList)
          ⟨#v[⟨.hearts, 4⟩, ⟨.spades, 1⟩, ⟨.clubs, 3⟩, ⟨.spades, 2⟩]⟩ = .ok tree.sum) ∧
      evaluate "((4 * 3) * 2) * 1" ⟨#v[⟨.hearts, 4⟩, ⟨.spades, 1⟩, ⟨.clubs, 3⟩, ⟨.spades, 2⟩]⟩ =
        .ok 24.0) ∧
    "((120 / 5) * 1) * 1" ∈ solve #v[120, 5, 1, 1] ∧
      evaluate "((120 / 5) * 1) * 1" ⟨#v[⟨.hearts, 1⟩, ⟨.spades, 120⟩, ⟨.clubs, 5⟩, ⟨.spades, 1⟩]⟩ =
        .error .numberTooLong := by
  have hShort : "((4 * 3) * 2) * 1" ∈ solve #v[1, 2, 3, 4] :=
    mem_solve.mpr ⟨.node .mul (.node .mul (.node .mul (.leaf 4) (.leaf 3)) (.leaf 2)) (.leaf 1),
      by decide, by simp [Tree.Divides, Op.mul, Op.div], by decide +kernel, by decide +kernel⟩
  have hLong : "((120 / 5) * 1) * 1" ∈ solve #v[120, 5, 1, 1] :=
    mem_solve.mpr ⟨.node .mul (.node .mul (.node .div (.leaf 120) (.leaf 5)) (.leaf 1)) (.leaf 1),
      by decide, by simp only [Tree.Divides]; decide +kernel, by decide +kernel, by decide +kernel⟩
  have hTwoDigits : ∀ number ∈ (#v[1, 2, 3, 4] : Vector UInt8 Round.size).toList, number ≤ 99 := by
    decide +kernel
  obtain ⟨⟨tree, -, -, hMakes, hTree, -, -, -, hRead⟩, hValue, -⟩ :=
    @evaluate_of_mem_solve _ ⟨#v[⟨.hearts, 4⟩, ⟨.spades, 1⟩, ⟨.clubs, 3⟩, ⟨.spades, 2⟩]⟩ _
      (by decide +kernel) hShort
  obtain ⟨hAccept, hSame, -⟩ := hRead hTwoDigits
  refine ⟨⟨hShort, ⟨tree, hTree.symm, hSame.trans hMakes, hAccept⟩, ?_⟩, hLong, ?_⟩
  · exact hValue.trans (if_pos hTwoDigits)
  · exact (evaluate_of_mem_solve (by decide +kernel) hLong).2.1.trans (if_neg (by decide +kernel))

end Make24
