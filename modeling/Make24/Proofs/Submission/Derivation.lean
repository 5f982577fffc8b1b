import Mathlib
import Make24.Submission.Sentence

/-! The reader finds exactly the derivations of the grammar. Its steps are first described without
the limit on open parentheses and signs: then every derivation can be read, each in one way, and the
greatest depth on the way is the nesting of the derivation. The limit only cuts such runs short. -/

namespace Make24

/-- One token read without a limit on the depth. -/
def Reading.advance (reading : Reading) : Token → Option Reading
  | .number digits =>
      match reading with
      | .operand hole => some (hole.fill (.number digits))
      | .operation _ _ => none
  | .sign sign =>
      match reading with
      | .operand hole => some (.operand (.signed sign hole))
      | .operation hole read =>
          some (.operand (.first (.after (hole.fill read).2 sign (hole.fill read).1)))
  | .scale scale =>
      match reading with
      | .operand _ => none
      | .operation hole read => some (.operand (.after read scale hole))
  | .opening =>
      match reading with
      | .operand hole => some (.operand (.first (.first (.group hole))))
      | .operation _ _ => none
  | .closing =>
      match reading with
      | .operand _ => none
      | .operation hole read =>
          match hole.fill read with
          | (.group outer, sum) => some (outer.fill (.group sum))
          | (.whole, _) => none
  | .blank _ => some reading
  | .foreign _ => none

/-- Reading tokens one after the other leads from one reading to another, and `peak` is the greatest
depth on the way. -/
inductive Reads : Reading → List Token → Reading → Nat → Prop where
  | nil (reading : Reading) : Reads reading [] reading reading.depth
  | cons {reading next last : Reading} {token : Token} {tokens : List Token} {peak : Nat}
      (first : reading.advance token = some next) (rest : Reads next tokens last peak) :
      Reads reading (token :: tokens) last (max reading.depth peak)

namespace Reads

variable {reading middle last other : Reading} {tokens more : List Token} {peak peak' : Nat}

theorem depth_le (reads : Reads reading tokens last peak) : reading.depth ≤ peak := by
  cases reads with
  | nil => exact Nat.le_refl _
  | cons => exact Nat.le_max_left ..

theorem of_peak_eq (reads : Reads reading tokens last peak) (h : peak = peak') :
    Reads reading tokens last peak' :=
  h ▸ reads

theorem trans (left : Reads reading tokens middle peak) (right : Reads middle more last peak') :
    Reads reading (tokens ++ more) last (max peak peak') := by
  induction left with
  | nil reading =>
      rw [Nat.max_eq_right right.depth_le]
      exact right
  | cons first rest ih =>
      rw [Nat.max_assoc]
      exact .cons first (ih right)

/-- The next reading is a function of the token, so a run has one end and one peak. -/
theorem unique (reads : Reads reading tokens last peak)
    (reads' : Reads reading tokens other peak') : last = other ∧ peak = peak' := by
  induction reads generalizing peak' with
  | nil =>
      cases reads'
      exact ⟨rfl, rfl⟩
  | cons first rest ih =>
      cases reads' with
      | cons first' rest' =>
          obtain rfl := Option.some.inj (first.symm.trans first')
          obtain ⟨rfl, rfl⟩ := ih rest'
          exact ⟨rfl, rfl⟩

/-- Blanks change neither the reading nor the peak. -/
theorem meaningful_iff :
    Reads reading tokens last peak ↔ Reads reading (Token.meaningful tokens) last peak := by
  induction tokens generalizing reading peak with
  | nil => rfl
  | cons token tokens ih =>
      cases hBlank : token.isBlank with
      | false =>
          rw [Token.meaningful_cons, hBlank, if_neg Bool.false_ne_true]
          constructor
          · rintro (_ | ⟨first, rest⟩)
            exact .cons first (ih.mp rest)
          · rintro (_ | ⟨first, rest⟩)
            exact .cons first (ih.mpr rest)
      | true =>
          have hStay : reading.advance token = some reading := by
            cases token <;> simp [Token.isBlank] at hBlank
            cases reading <;> rfl
          rw [Token.meaningful_cons, hBlank, if_pos rfl, ← ih]
          constructor
          · rintro (_ | ⟨first, rest⟩)
            obtain rfl := Option.some.inj (hStay.symm.trans first)
            rwa [Nat.max_eq_right rest.depth_le]
          · intro rest
            have hReads := Reads.cons hStay rest
            rwa [Nat.max_eq_right rest.depth_le] at hReads

end Reads

/-! ### Every derivation is read -/

/-- Filling a hole closes the signs in front of it and opens nothing. -/
theorem FactorHole.depth_fill_le : (hole : FactorHole) → (factor : Factor) →
    (hole.fill factor).depth ≤ hole.nesting
  | .first _, _ => Nat.le_refl _
  | .after _ _ _, _ => Nat.le_refl _
  | .signed sign outer, factor =>
      (outer.depth_fill_le (.signed sign factor)).trans (Nat.le_succ _)

theorem ProductHole.nesting_fill (hole : ProductHole) (product : Product) :
    (hole.fill product).1.nesting = hole.nesting := by
  cases hole <;> rfl

mutual

/-- A sum is read in the place of a sum. Its last product stays open, as more factors could follow
it. -/
theorem Sum.reads : (sum : Sum) → (hole : SumHole) →
    ∃ outer product, outer.fill product = (hole, sum) ∧
      Reads (.operand (.first (.first hole))) sum.tokens (.operation outer product)
        (hole.nesting + sum.nesting)
  | .single product, hole => by
      refine ⟨.first hole, product, rfl, ?_⟩
      simpa only [Sum.tokens, Sum.nesting, ProductHole.nesting] using product.reads (.first hole)
  | .extend left sign right, hole => by
      obtain ⟨outer, product, hFill, hLeft⟩ := left.reads hole
      have hSign : Reading.advance (.operation outer product) (.sign sign) =
          some (.operand (.first (.after left sign hole))) := by
        simp only [Reading.advance, hFill]
      have hOuter : outer.nesting = hole.nesting := by
        rw [← outer.nesting_fill product, hFill]
      refine ⟨.after left sign hole, right, rfl, ?_⟩
      rw [Sum.tokens]
      refine (hLeft.trans (.cons hSign (right.reads (.after left sign hole)))).of_peak_eq ?_
      simp only [Reading.depth, Sum.nesting, ProductHole.nesting, hOuter]
      omega

/-- A product is read in the place of a product. -/
theorem Product.reads : (product : Product) → (hole : ProductHole) →
    Reads (.operand (.first hole)) product.tokens (.operation hole product)
      (hole.nesting + product.nesting)
  | .single factor, hole => by
      simpa only [Product.tokens, Product.nesting, FactorHole.nesting, FactorHole.fill] using
        factor.reads (.first hole)
  | .extend left scale right, hole => by
      have hScale : Reading.advance (.operation hole left) (.scale scale) =
          some (.operand (.after left scale hole)) := rfl
      rw [Product.tokens]
      refine ((left.reads hole).trans
        (.cons hScale (right.reads (.after left scale hole)))).of_peak_eq ?_
      simp only [Reading.depth, Product.nesting, FactorHole.nesting]
      omega

/-- A factor is read in the place of a factor. -/
theorem Factor.reads : (factor : Factor) → (hole : FactorHole) →
    Reads (.operand hole) factor.tokens (hole.fill factor) (hole.nesting + factor.nesting)
  | .number digits, hole => by
      have hNumber : Reading.advance (.operand hole) (.number digits) =
          some (hole.fill (.number digits)) := rfl
      rw [Factor.tokens]
      refine (Reads.cons hNumber (.nil _)).of_peak_eq ?_
      have hDepth := hole.depth_fill_le (.number digits)
      simp only [Reading.depth, Factor.nesting] at hDepth ⊢
      omega
  | .signed sign operand, hole => by
      have hSign : Reading.advance (.operand hole) (.sign sign) =
          some (.operand (.signed sign hole)) := rfl
      rw [Factor.tokens]
      refine (Reads.cons hSign (operand.reads (.signed sign hole))).of_peak_eq ?_
      simp only [Reading.depth, Factor.nesting, FactorHole.nesting]
      omega
  | .group inner, hole => by
      obtain ⟨outer, product, hFill, hInner⟩ := inner.reads (.group hole)
      have hOpening : Reading.advance (.operand hole) .opening =
          some (.operand (.first (.first (.group hole)))) := rfl
      have hClosing : Reading.advance (.operation outer product) .closing =
          some (hole.fill (.group inner)) := by
        simp only [Reading.advance, hFill]
      have hOuter : outer.nesting = hole.nesting + 1 := by
        rw [← outer.nesting_fill product, hFill, SumHole.nesting]
      rw [Factor.tokens]
      refine (Reads.cons hOpening (hInner.trans (.cons hClosing (.nil _)))).of_peak_eq ?_
      have hDepth := hole.depth_fill_le (.group inner)
      simp only [Reading.depth, Factor.nesting, SumHole.nesting, hOuter] at hDepth ⊢
      omega

end

/-- A whole derivation is read from the start and is complete at the end. -/
theorem Sum.reads_whole (sum : Sum) :
    ∃ last : Reading, Reads .start sum.tokens last sum.nesting ∧ last.finish? = some sum := by
  obtain ⟨outer, product, hFill, hReads⟩ := sum.reads .whole
  refine ⟨.operation outer product, ?_, ?_⟩
  · rwa [SumHole.nesting, Nat.zero_add] at hReads
  · simp only [Reading.finish?, hFill]

/-- The grammar is unambiguous: no two derivations write the same tokens. -/
theorem Sum.tokens_injective : Function.Injective Sum.tokens := by
  intro sum other hTokens
  obtain ⟨last, hReads, hFinish⟩ := sum.reads_whole
  obtain ⟨last', hReads', hFinish'⟩ := other.reads_whole
  rw [← hTokens] at hReads'
  obtain ⟨rfl, -⟩ := hReads.unique hReads'
  exact Option.some.inj (hFinish.symm.trans hFinish')

/-! ### What is read is a derivation -/

mutual

/-- The tokens before the place of a sum. -/
def SumHole.tokens : SumHole → List Token
  | .whole => []
  | .group outer => outer.tokens ++ [.opening]

/-- The tokens before the place of a product. -/
def ProductHole.tokens : ProductHole → List Token
  | .first outer => outer.tokens
  | .after left sign outer => outer.tokens ++ left.tokens ++ [.sign sign]

/-- The tokens before the place of a factor. -/
def FactorHole.tokens : FactorHole → List Token
  | .first outer => outer.tokens
  | .after left scale outer => outer.tokens ++ left.tokens ++ [.scale scale]
  | .signed sign outer => outer.tokens ++ [.sign sign]

end

/-- The tokens that have been read, without blanks. -/
def Reading.tokens : Reading → List Token
  | .operand hole => hole.tokens
  | .operation hole read => hole.tokens ++ read.tokens

theorem FactorHole.tokens_fill : (hole : FactorHole) → (factor : Factor) →
    (hole.fill factor).tokens = hole.tokens ++ factor.tokens
  | .first outer, factor => by
      simp only [fill, Reading.tokens, Product.tokens, tokens]
  | .after left scale outer, factor => by
      simp [fill, Reading.tokens, Product.tokens, tokens]
  | .signed sign outer, factor => by
      simp [fill, outer.tokens_fill, Factor.tokens, tokens]

theorem ProductHole.tokens_fill (hole : ProductHole) (product : Product) :
    (hole.fill product).1.tokens ++ (hole.fill product).2.tokens =
      hole.tokens ++ product.tokens := by
  cases hole with
  | first outer => simp only [fill, Sum.tokens, tokens]
  | after left sign outer => simp [fill, Sum.tokens, tokens]

/-- A token that is read is kept unless it is blank. -/
theorem Reading.tokens_advance {reading next : Reading} {token : Token}
    (h : reading.advance token = some next) :
    next.tokens = reading.tokens ++ Token.meaningful [token] := by
  cases reading with
  | operand hole =>
      cases token <;> simp only [advance, Option.some.injEq, reduceCtorEq] at h <;> subst h
      · exact hole.tokens_fill _
      · rfl
      · rfl
      · exact (List.append_nil _).symm
  | operation hole read =>
      have hFill := hole.tokens_fill read
      cases token with
      | closing =>
          rcases hSum : hole.fill read with ⟨_ | outer, sum⟩
          · simp [advance, hSum] at h
          · simp only [advance, hSum, Option.some.injEq] at h
            subst h
            rw [hSum, SumHole.tokens] at hFill
            rw [outer.tokens_fill, Factor.tokens, Reading.tokens, ← hFill]
            simp [Token.meaningful, Token.isBlank]
      | sign sign =>
          simp only [advance, Option.some.injEq] at h
          subst h
          rw [Reading.tokens, Reading.tokens, FactorHole.tokens, ProductHole.tokens, hFill]
          rfl
      | scale scale =>
          simp only [advance, Option.some.injEq] at h
          subst h
          rfl
      | blank c =>
          simp only [advance, Option.some.injEq] at h
          subst h
          exact (List.append_nil _).symm
      | number => simp [advance] at h
      | opening => simp [advance] at h
      | foreign => simp [advance] at h

theorem Reads.tokens_eq {reading last : Reading} {tokens : List Token} {peak : Nat}
    (reads : Reads reading tokens last peak) :
    last.tokens = reading.tokens ++ Token.meaningful tokens := by
  induction reads with
  | nil => simp [Token.meaningful]
  | @cons reading next last token tokens peak first rest ih =>
      rw [ih, Reading.tokens_advance first, List.append_assoc]
      congr 1
      rw [Token.meaningful, Token.meaningful, ← List.filter_append]
      rfl

theorem Reading.tokens_of_finish {reading : Reading} {sum : Sum}
    (h : reading.finish? = some sum) : sum.tokens = reading.tokens := by
  cases reading with
  | operand hole => simp [finish?] at h
  | operation hole read =>
      have hFill := hole.tokens_fill read
      rcases hSum : hole.fill read with ⟨_ | outer, other⟩
      · simp only [finish?, hSum, Option.some.injEq] at h
        subst h
        rw [Reading.tokens, ← hFill, hSum, SumHole.tokens, List.nil_append]
      · simp [finish?, hSum] at h

/-! ### The limit -/

theorem FactorHole.enter_eq (hole inner : FactorHole) (hInner : inner.nesting = hole.nesting + 1) :
    hole.enter inner =
      if Reading.depth (.operand inner) ≤ nestingLimit then .ok (.operand inner)
      else .error .tooDeep := by
  rw [enter, Reading.depth, hInner]
  rfl

/-- A step is a step of the grammar that does not go too deep. -/
theorem Reading.step_eq {reading : Reading} (token : Token)
    (hDepth : reading.depth ≤ nestingLimit) :
    reading.step token =
      match reading.advance token with
      | none => .error .unexpected
      | some next => if next.depth ≤ nestingLimit then .ok next else .error .tooDeep := by
  cases reading with
  | operand hole =>
      cases token with
      | number digits => exact (if_pos ((hole.depth_fill_le _).trans hDepth)).symm
      | sign sign => exact hole.enter_eq (.signed sign hole) rfl
      | opening => exact hole.enter_eq (.first (.first (.group hole))) rfl
      | blank c => exact (if_pos hDepth).symm
      | scale => rfl
      | closing => rfl
      | foreign => rfl
  | operation hole read =>
      have hNesting := hole.nesting_fill read
      cases token with
      | sign sign => exact (if_pos (hNesting.le.trans hDepth)).symm
      | scale scale => exact (if_pos hDepth).symm
      | blank c => exact (if_pos hDepth).symm
      | closing =>
          have hStep : step (.operation hole read) .closing =
              match hole.fill read with
              | (.group outer, sum) => .ok (outer.fill (.group sum))
              | (.whole, _) => .error .unexpected := rfl
          rw [hStep]
          rcases hSum : hole.fill read with ⟨_ | outer, sum⟩
          · simp only [advance, hSum]
          · have hOuter : outer.nesting + 1 = hole.nesting := by
              rw [← hNesting, hSum, SumHole.nesting]
            have hFill := outer.depth_fill_le (.group sum)
            rw [depth] at hDepth
            simp only [advance, hSum]
            exact (if_pos (by omega)).symm
      | number => rfl
      | opening => rfl
      | foreign => rfl

/-- Reading within the limit succeeds exactly on the runs of the grammar that stay within it. -/
theorem Reading.run_eq_ok_iff {reading : Reading} {tokens : List Token} {sum : Sum} (offset : Nat)
    (hDepth : reading.depth ≤ nestingLimit) :
    reading.run offset tokens = .ok sum ↔
      ∃ last peak, Reads reading tokens last peak ∧ peak ≤ nestingLimit ∧
        last.finish? = some sum := by
  induction tokens generalizing reading offset with
  | nil =>
      constructor
      · intro hRun
        refine ⟨reading, _, .nil reading, hDepth, ?_⟩
        cases hFinish : reading.finish? <;> simp_all [run]
      · rintro ⟨last, peak, ⟨⟩, -, hFinish⟩
        simp [run, hFinish]
  | cons token tokens ih =>
      rw [run, step_eq token hDepth]
      cases hNext : reading.advance token with
      | none =>
          constructor
          · intro hRun
            cases hRun
          · rintro ⟨last, peak, (_ | ⟨first, -⟩), -⟩
            cases hNext.symm.trans first
      | some next =>
          simp only
          split_ifs with hLimit
          · rw [ih (offset + token.width) hLimit]
            constructor
            · rintro ⟨last, peak, rest, hPeak, hFinish⟩
              exact ⟨last, _, .cons hNext rest, Nat.max_le.mpr ⟨hDepth, hPeak⟩, hFinish⟩
            · rintro ⟨last, peak, (_ | ⟨first, rest⟩), hPeak, hFinish⟩
              obtain rfl := Option.some.inj (hNext.symm.trans first)
              exact ⟨last, _, rest, (Nat.max_le.mp hPeak).2, hFinish⟩
          · constructor
            · intro hRun
              cases hRun
            · rintro ⟨last, peak, (_ | ⟨first, rest⟩), hPeak, -⟩
              obtain rfl := Option.some.inj (hNext.symm.trans first)
              exact absurd (rest.depth_le.trans (Nat.max_le.mp hPeak).2) hLimit

/-- The reader returns a derivation exactly if it writes the tokens and is not nested too deeply. -/
theorem Sum.read_eq_ok_iff (tokens : List Token) (sum : Sum) :
    Sum.read tokens = .ok sum ↔
      sum.tokens = Token.meaningful tokens ∧ sum.nesting ≤ nestingLimit := by
  obtain ⟨whole, hWhole, hFinish⟩ := sum.reads_whole
  rw [Sum.read, Reading.run_eq_ok_iff 0 (Nat.zero_le _)]
  constructor
  · rintro ⟨last, peak, hReads, hPeak, hLast⟩
    have hTokens : sum.tokens = Token.meaningful tokens :=
      (Reading.tokens_of_finish hLast).trans hReads.tokens_eq
    rw [Reads.meaningful_iff, ← hTokens] at hReads
    obtain ⟨-, rfl⟩ := hWhole.unique hReads
    exact ⟨hTokens, hPeak⟩
  · rintro ⟨hTokens, hNesting⟩
    rw [hTokens, ← Reads.meaningful_iff] at hWhole
    exact ⟨whole, sum.nesting, hWhole, hNesting, hFinish⟩

end Make24
