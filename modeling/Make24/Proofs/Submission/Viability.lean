import Mathlib
import Make24.Proofs.Submission.Derivation
import Make24.Proofs.Submission.Splitting

/-! Where the reader gives up. What it has read can always be completed to an expression, and a
token that it cannot read follows in no expression, so that the offset it reports is that of the
first character with which the text stops being the beginning of an expression. It gives up earlier
only where an operand is awaited inside as many parentheses and signs as may be open, and one more
opens. -/

namespace Make24

/-- After the text an operand is awaited, and as many parentheses and signs are open around it. -/
def Awaits (text : List Char) (count : Nat) : Prop :=
  ∃ hole : FactorHole, hole.tokens = Token.meaningful (Token.scan text) ∧ hole.nesting = count

/-! ### Unfinished derivations -/

mutual

/-- The tokens before the place of a sum lead to it. -/
theorem SumHole.reads : (hole : SumHole) →
    ∃ peak, Reads .start hole.tokens (.operand (.first (.first hole))) peak
  | .whole => ⟨_, .nil _⟩
  | .group outer => by
      obtain ⟨peak, hOuter⟩ := outer.reads
      exact ⟨_, hOuter.trans (.cons rfl (.nil _))⟩

/-- The tokens before the place of a product lead to it. -/
theorem ProductHole.reads : (hole : ProductHole) →
    ∃ peak, Reads .start hole.tokens (.operand (.first hole)) peak
  | .first outer => outer.reads
  | .after left sign outer => by
      obtain ⟨peak, hOuter⟩ := outer.reads
      obtain ⟨inner, product, hFill, hLeft⟩ := left.reads outer
      have hSign : Reading.advance (.operation inner product) (.sign sign) =
          some (.operand (.first (.after left sign outer))) := by
        simp only [Reading.advance, hFill]
      exact ⟨_, (hOuter.trans hLeft).trans (.cons hSign (.nil _))⟩

/-- The tokens before the place of a factor lead to it. -/
theorem FactorHole.reads : (hole : FactorHole) →
    ∃ peak, Reads .start hole.tokens (.operand hole) peak
  | .first outer => outer.reads
  | .after left scale outer => by
      obtain ⟨peak, hOuter⟩ := outer.reads
      exact ⟨_, (hOuter.trans (left.reads outer)).trans (.cons rfl (.nil _))⟩
  | .signed sign outer => by
      obtain ⟨peak, hOuter⟩ := outer.reads
      exact ⟨_, hOuter.trans (.cons rfl (.nil _))⟩

end

mutual

/-- A sum in its place needs nothing but closing parentheses behind it. -/
theorem SumHole.exists_closed : (hole : SumHole) → (inner : Sum) → ∃ (sum : Sum) (count : Nat),
    sum.tokens = hole.tokens ++ inner.tokens ++ List.replicate count .closing
  | .whole, inner => ⟨inner, 0, by simp [SumHole.tokens]⟩
  | .group outer, inner => by
      obtain ⟨sum, count, hSum⟩ := outer.exists_closed (.group inner)
      refine ⟨sum, count + 1, ?_⟩
      simp [hSum, Factor.tokens, SumHole.tokens, List.replicate_succ]

/-- A product in its place needs nothing but closing parentheses behind it. -/
theorem ProductHole.exists_closed : (hole : ProductHole) → (product : Product) →
    ∃ (sum : Sum) (count : Nat),
      sum.tokens = hole.tokens ++ product.tokens ++ List.replicate count .closing
  | .first outer, product => outer.exists_closed (.single product)
  | .after left sign outer, product => by
      obtain ⟨sum, count, hSum⟩ := outer.exists_closed (.extend left sign product)
      refine ⟨sum, count, ?_⟩
      simp [hSum, Sum.tokens, ProductHole.tokens]

/-- A factor in its place needs nothing but closing parentheses behind it. -/
theorem FactorHole.exists_closed : (hole : FactorHole) → (factor : Factor) →
    ∃ (sum : Sum) (count : Nat),
      sum.tokens = hole.tokens ++ factor.tokens ++ List.replicate count .closing
  | .first outer, factor => outer.exists_closed (.single factor)
  | .after left scale outer, factor => by
      obtain ⟨sum, count, hSum⟩ := outer.exists_closed (.extend left scale factor)
      refine ⟨sum, count, ?_⟩
      simp [hSum, Product.tokens, FactorHole.tokens]
  | .signed sign outer, factor => by
      obtain ⟨sum, count, hSum⟩ := outer.exists_closed (.signed sign factor)
      refine ⟨sum, count, ?_⟩
      simp [hSum, Factor.tokens, FactorHole.tokens]

end

/-! ### Beginnings of expressions -/

theorem Token.scan_replicate_closing (count : Nat) :
    scan (List.replicate count ')') = List.replicate count .closing := by
  induction count with
  | zero => rfl
  | succ count ih =>
      rw [List.replicate_succ, scan_cons, ih, List.replicate_succ]
      rfl

theorem Token.meaningful_replicate_closing (count : Nat) :
    meaningful (List.replicate count .closing) = List.replicate count .closing :=
  List.filter_eq_self.mpr fun token hMem => by rw [List.eq_of_mem_replicate hMem]; rfl

theorem Token.meaningful_append (tokens more : List Token) :
    meaningful (tokens ++ more) = meaningful tokens ++ meaningful more :=
  List.filter_append ..

/-- What has been read lacks a number at most, and closing parentheses. -/
theorem Reading.exists_ending (reading : Reading) : ∃ (sum : Sum) (ending : List Char),
    sum.tokens = reading.tokens ++ Token.meaningful (Token.scan (' ' :: ending)) := by
  cases reading with
  | operand hole =>
      obtain ⟨sum, count, hSum⟩ := hole.exists_closed (.number [1])
      refine ⟨sum, '1' :: List.replicate count ')', ?_⟩
      have hNumber : Token.scan ('1' :: List.replicate count ')') =
          [.number [1]] ++ List.replicate count .closing := by
        rw [Token.scan_cons, Token.push_scan, Token.scan_replicate_closing]
        · rfl
        · intro _ b hb
          rw [List.eq_of_mem_replicate (List.mem_of_mem_head? hb)]
          rfl
      rw [hSum, Token.scan_cons, hNumber, List.append_assoc]
      exact congrArg (fun closing => hole.tokens ++ ([.number [1]] ++ closing))
        (Token.meaningful_replicate_closing count).symm
  | operation hole read =>
      obtain ⟨sum, count, hSum⟩ := hole.exists_closed read
      refine ⟨sum, List.replicate count ')', ?_⟩
      rw [hSum, Token.scan_cons, Token.scan_replicate_closing]
      exact congrArg _ (Token.meaningful_replicate_closing count).symm

/-- A text that has been read is the beginning of an expression. -/
theorem Viable.of_reads {text : List Char} {last : Reading} {peak : Nat}
    (reads : Reads .start (Token.scan text) last peak) : Viable text := by
  obtain ⟨sum, ending, hSum⟩ := last.exists_ending
  refine ⟨' ' :: ending, sum, ?_⟩
  have hSplit : Token.scan (text ++ ' ' :: ending) =
      Token.scan text ++ Token.scan (' ' :: ending) :=
    Token.scan_append (.of_head (by simp))
  rw [Sum.Writes, hSplit, Token.meaningful_append, hSum, reads.tokens_eq]
  rfl

/-- Tokens are read in two parts. -/
theorem Reads.exists_middle {reading last : Reading} {tokens more : List Token} {peak : Nat}
    (reads : Reads reading (tokens ++ more) last peak) : ∃ middle before after,
      Reads reading tokens middle before ∧ Reads middle more last after := by
  induction tokens generalizing reading peak with
  | nil => exact ⟨reading, _, peak, .nil reading, reads⟩
  | cons token tokens ih =>
      cases reads with
      | cons first rest =>
          obtain ⟨middle, before, after, hBefore, hAfter⟩ := ih rest
          exact ⟨middle, _, after, .cons first hBefore, hAfter⟩

/-- All tokens are read, or a first one is not. -/
theorem Reading.reads_or_stuck (reading : Reading) (tokens : List Token) :
    (∃ last peak, Reads reading tokens last peak) ∨
      ∃ front token later last peak, tokens = front ++ token :: later ∧
        Reads reading front last peak ∧ last.advance token = none := by
  induction tokens generalizing reading with
  | nil => exact .inl ⟨reading, _, .nil reading⟩
  | cons token tokens ih =>
      cases hNext : reading.advance token with
      | none => exact .inr ⟨[], token, tokens, reading, _, rfl, .nil reading, hNext⟩
      | some next =>
          rcases ih next with ⟨last, peak, hReads⟩ |
            ⟨front, stuck, later, last, peak, rfl, hReads, hStuck⟩
          · exact .inl ⟨last, _, .cons hNext hReads⟩
          · exact .inr ⟨token :: front, stuck, later, last, _, rfl, .cons hNext hReads, hStuck⟩

/-- Whether a token can be read does not depend on the digits of a number. -/
theorem Reading.advance_number_eq_none {reading : Reading} {digits : Digits} (other : Digits)
    (h : reading.advance (.number digits) = none) : reading.advance (.number other) = none := by
  cases reading with
  | operand hole => cases h
  | operation hole read => rfl

/-- Where the first token of a text cannot be read, no text with the same first character can. -/
theorem Reading.advance_head_eq_none {reading : Reading} {c : Char} {text : List Char}
    {token : Token} {later : List Token} (hScan : Token.scan (c :: text) = token :: later)
    (hStuck : reading.advance token = none) (other : List Char) :
    ∃ token later, Token.scan (c :: other) = token :: later ∧ reading.advance token = none := by
  cases hDigit : c.isDigit with
  | false =>
      rw [Token.scan_cons, Token.push_of_not_isDigit hDigit] at hScan ⊢
      obtain ⟨rfl, -⟩ := List.cons.inj hScan
      exact ⟨_, _, rfl, hStuck⟩
  | true =>
      obtain ⟨d, rfl⟩ := Token.exists_digitChar hDigit
      obtain ⟨digits, _, hNumber⟩ := Token.exists_scan_digitChar d text
      obtain ⟨digits', later', hOther⟩ := Token.exists_scan_digitChar d other
      rw [hNumber] at hScan
      obtain ⟨rfl, -⟩ := List.cons.inj hScan
      exact ⟨_, later', hOther, Reading.advance_number_eq_none digits' hStuck⟩

/-- A token that cannot be read follows in no expression. -/
theorem not_viable_of_stuck {before after : List Char} {c : Char} {last : Reading} {peak : Nat}
    {token : Token} {later : List Token} (hApart : Apart before (c :: after))
    (reads : Reads .start (Token.scan before) last peak)
    (hScan : Token.scan (c :: after) = token :: later) (hStuck : last.advance token = none) :
    ¬ Viable (before ++ [c]) := by
  rintro ⟨rest, sum, hWrites⟩
  obtain ⟨whole, hWhole, -⟩ := sum.reads_whole
  have hSplit : Token.scan (before ++ [c] ++ rest) =
      Token.scan before ++ Token.scan (c :: rest) := by
    rw [List.append_assoc]
    exact Token.scan_append hApart
  rw [Sum.Writes, hSplit] at hWrites
  rw [hWrites, ← Reads.meaningful_iff] at hWhole
  obtain ⟨middle, _, _, hBefore, hAfter⟩ := hWhole.exists_middle
  obtain ⟨rfl, -⟩ := reads.unique hBefore
  obtain ⟨first, others, hFirst, hNone⟩ := Reading.advance_head_eq_none hScan hStuck rest
  rw [hFirst] at hAfter
  cases hAfter with
  | cons hNext _ => cases hNone.symm.trans hNext

/-! ### Reading within the limit -/

/-- The reader follows the grammar and gives up where it gets too deep. -/
theorem Reads.run_append {reading last : Reading} {tokens : List Token} {peak : Nat}
    (reads : Reads reading tokens last peak) (hDepth : reading.depth ≤ nestingLimit)
    (offset : Nat) (more : List Token) :
    reading.run offset (tokens ++ more) =
      if peak ≤ nestingLimit then last.run (offset + (tokens.map Token.width).sum) more
      else .error .nestingTooDeep := by
  induction reads generalizing offset with
  | nil reading => simp [hDepth]
  | @cons reading next last token tokens peak first rest ih =>
      rw [List.cons_append, Reading.run, Reading.step_eq token hDepth, first]
      by_cases hNext : next.depth ≤ nestingLimit
      · have hPeak : max reading.depth peak ≤ nestingLimit ↔ peak ≤ nestingLimit := by omega
        simp only [hNext, if_true, ih hNext, hPeak, List.map_cons, List.sum_cons, Nat.add_assoc]
      · have hPeak : ¬ max reading.depth peak ≤ nestingLimit := by
          have hRest := rest.depth_le
          omega
        rw [if_neg hPeak]
        simp only [hNext, if_false]
        rfl

/-- A token opens a parenthesis or a sign in the place of a factor. -/
inductive FactorHole.Opens (outer : FactorHole) : Token → FactorHole → Prop where
  | sign (sign : Sign) : Opens outer (.sign sign) (.signed sign outer)
  | parenthesis : Opens outer .opening (.first (.first (.group outer)))

theorem FactorHole.Opens.advance {outer inner : FactorHole} {token : Token}
    (h : outer.Opens token inner) :
    Reading.advance (.operand outer) token = some (.operand inner) := by
  cases h <;> rfl

theorem FactorHole.Opens.nesting {outer inner : FactorHole} {token : Token}
    (h : outer.Opens token inner) : inner.nesting = outer.nesting + 1 := by
  cases h <;> rfl

/-- Behind an operand nothing opens. -/
theorem Reading.depth_advance_operation_le {hole : ProductHole} {read : Product} {token : Token}
    {next : Reading} (h : Reading.advance (.operation hole read) token = some next) :
    next.depth ≤ hole.nesting := by
  have hNesting := hole.nesting_fill read
  cases token with
  | sign sign =>
      obtain rfl := Option.some.inj h
      exact hNesting.le
  | scale scale =>
      obtain rfl := Option.some.inj h
      exact Nat.le_refl _
  | blank c =>
      obtain rfl := Option.some.inj h
      exact Nat.le_refl _
  | closing =>
      rcases hSum : hole.fill read with ⟨_ | outer, sum⟩
      · simp [advance, hSum] at h
      · simp only [advance, hSum, Option.some.injEq] at h
        subst h
        rw [hSum, SumHole.nesting] at hNesting
        have hFill := outer.depth_fill_le (.group sum)
        omega
  | number => cases h
  | opening => cases h
  | foreign => cases h

/-- Only an opening makes a reading deeper. -/
theorem Reading.exists_opens {reading next : Reading} {token : Token}
    (h : reading.advance token = some next) (hDeeper : reading.depth < next.depth) :
    ∃ outer inner : FactorHole,
      reading = .operand outer ∧ next = .operand inner ∧ outer.Opens token inner := by
  cases reading with
  | operation hole read =>
      exact absurd hDeeper (Nat.not_lt.mpr (Reading.depth_advance_operation_le h))
  | operand hole =>
      cases token with
      | sign sign => exact ⟨hole, _, rfl, (Option.some.inj h).symm, .sign sign⟩
      | opening => exact ⟨hole, _, rfl, (Option.some.inj h).symm, .parenthesis⟩
      | number digits =>
          obtain rfl := Option.some.inj h
          exact absurd hDeeper (Nat.not_lt.mpr (hole.depth_fill_le _))
      | blank c =>
          obtain rfl := Option.some.inj h
          exact absurd hDeeper (Nat.lt_irrefl _)
      | scale => cases h
      | closing => cases h
      | foreign => cases h

/-- A run that gets too deep has an opening that is the first to be too deep. -/
theorem Reads.exists_opens {reading last : Reading} {tokens : List Token} {peak : Nat}
    (reads : Reads reading tokens last peak) (hDepth : reading.depth ≤ nestingLimit)
    (hPeak : nestingLimit < peak) :
    ∃ front token later outer inner before, tokens = front ++ token :: later ∧
      Reads reading front (.operand outer) before ∧ outer.nesting = nestingLimit ∧
      outer.Opens token inner := by
  induction reads with
  | nil => omega
  | @cons reading next last token tokens peak first rest ih =>
      by_cases hNext : next.depth ≤ nestingLimit
      · obtain ⟨front, deep, later, outer, inner, before, rfl, hFront, hOuter, hOpens⟩ :=
          ih hNext (by omega)
        exact ⟨token :: front, deep, later, outer, inner, _, rfl, .cons first hFront, hOuter,
          hOpens⟩
      · obtain ⟨outer, inner, rfl, rfl, hOpens⟩ := Reading.exists_opens first (by omega)
        have hInner := hOpens.nesting
        refine ⟨[], token, tokens, outer, inner, _, rfl, .nil _, ?_, hOpens⟩
        simp only [Reading.depth] at hDepth hNext
        omega

theorem Reads.last_depth_le {reading last : Reading} {tokens : List Token} {peak : Nat}
    (reads : Reads reading tokens last peak) : last.depth ≤ peak := by
  induction reads with
  | nil => exact Nat.le_refl _
  | cons first rest ih => exact ih.trans (Nat.le_max_right ..)

/-! ### What the reader reports -/

/-- A character that opens is a sign or a parenthesis. -/
theorem FactorHole.Opens.mem {outer inner : FactorHole} {c : Char}
    (h : outer.Opens (Token.ofChar c) inner) : c ∈ ['+', '-', '('] := by
  have hText := Token.text_ofChar c
  generalize Token.ofChar c = token at h hText
  cases h with
  | sign sign => cases sign <;> cases hText <;> decide
  | parenthesis => cases hText; decide

/-- In the place of a factor these characters open. -/
theorem FactorHole.exists_opens (outer : FactorHole) {c : Char} (h : c ∈ ['+', '-', '(']) :
    c.isDigit = false ∧ ∃ inner, outer.Opens (Token.ofChar c) inner := by
  simp only [List.mem_cons, List.not_mem_nil, or_false] at h
  rcases h with rfl | rfl | rfl
  · exact ⟨rfl, _, .sign .plus⟩
  · exact ⟨rfl, _, .sign .minus⟩
  · exact ⟨rfl, _, .parenthesis⟩

/-- A text is read as far as the grammar and the limit go. -/
theorem Reads.read_append {tokens : List Token} {last : Reading} {peak : Nat}
    (reads : Reads .start tokens last peak) (more : List Token) :
    Sum.read (tokens ++ more) =
      if peak ≤ nestingLimit then last.run (tokens.map Token.width).sum more
      else .error .nestingTooDeep := by
  rw [Sum.read, reads.run_append (Nat.zero_le _), Nat.zero_add]

/-- An expression is read unless it is nested too deeply. -/
theorem Sum.read_of_writes {sum : Sum} {text : List Char} (hWrites : sum.Writes text) :
    Sum.read (Token.scan text) =
      if sum.nesting ≤ nestingLimit then .ok sum else .error .nestingTooDeep := by
  obtain ⟨whole, hReads, hFinish⟩ := sum.reads_whole
  rw [hWrites, ← Reads.meaningful_iff] at hReads
  have hRead := hReads.read_append []
  rw [List.append_nil, Reading.run, hFinish] at hRead
  exact hRead

/-- A token that cannot be read is reported where it starts. -/
theorem Reading.run_of_stuck {reading : Reading} {token : Token}
    (hDepth : reading.depth ≤ nestingLimit) (hStuck : reading.advance token = none)
    (offset : Nat) (later : List Token) :
    reading.run offset (token :: later) = .error (.malformed offset) := by
  rw [Reading.run, Reading.step_eq token hDepth, hStuck]
  rfl

/-- The offset at which the reader stops is the end of what begins an expression. -/
theorem Sum.of_read_eq_malformed {text : List Char} {position : Nat}
    (h : Sum.read (Token.scan text) = .error (.malformed position)) :
    (∃ before c after, text = before ++ c :: after ∧
        position = (String.ofList before).utf8ByteSize ∧ Text.isBlank c = false ∧
        Viable before ∧ ¬ Viable (before ++ [c])) ∨
      position = (String.ofList text).utf8ByteSize ∧ Viable text ∧ ¬ IsSentence text := by
  rcases Reading.start.reads_or_stuck (Token.scan text) with ⟨last, peak, hReads⟩ |
    ⟨front, token, later, last, peak, hTokens, hReads, hStuck⟩
  · right
    have hRead := hReads.read_append []
    rw [List.append_nil, h] at hRead
    split_ifs at hRead
    case neg => cases hRead
    have hPosition : position = ((Token.scan text).map Token.width).sum := by
      rw [Reading.run] at hRead
      cases hFinish : last.finish? <;> simp_all
    refine ⟨hPosition.trans (Token.sum_width_scan text), .of_reads hReads, ?_⟩
    rintro ⟨sum, hWrites⟩
    rw [Sum.read_of_writes hWrites] at h
    split_ifs at h
    cases h
  · left
    rw [hTokens, hReads.read_append] at h
    split_ifs at h with hPeak
    case neg => cases h
    rw [Reading.run_of_stuck (hReads.last_depth_le.trans hPeak) hStuck] at h
    obtain rfl : (front.map Token.width).sum = position := by simpa using h
    obtain ⟨before, after, rfl, hApart, rfl, hAfter⟩ := Token.exists_apart hTokens
    cases after with
    | nil => cases hAfter
    | cons c after =>
        refine ⟨before, c, after, rfl, Token.sum_width_scan before, ?_, .of_reads hReads,
          not_viable_of_stuck hApart hReads hAfter hStuck⟩
        by_contra hBlank
        rw [Bool.not_eq_false] at hBlank
        rw [Token.scan_cons, Token.push_of_not_isDigit (Token.isDigit_of_isBlank hBlank),
          Token.ofChar_of_isBlank hBlank] at hAfter
        obtain ⟨rfl, -⟩ := List.cons.inj hAfter
        cases last <;> cases hStuck

/-- What was read of a text got too deep if the reader says so. -/
theorem Sum.exists_deep_of_read {tokens : List Token}
    (h : Sum.read tokens = .error .nestingTooDeep) : ∃ front more last peak,
      tokens = front ++ more ∧ Reads .start front last peak ∧ nestingLimit < peak := by
  rcases Reading.start.reads_or_stuck tokens with ⟨last, peak, hReads⟩ |
    ⟨front, token, later, last, peak, rfl, hReads, hStuck⟩
  · refine ⟨tokens, [], last, peak, (List.append_nil _).symm, hReads, ?_⟩
    by_contra hPeak
    have hRead := hReads.read_append []
    rw [List.append_nil, h, if_pos (Nat.not_lt.mp hPeak), Reading.run] at hRead
    cases hFinish : last.finish? <;> simp [hFinish] at hRead
  · refine ⟨front, token :: later, last, peak, rfl, hReads, ?_⟩
    by_contra hPeak
    have hDepth := Nat.not_lt.mp hPeak
    rw [hReads.read_append, if_pos hDepth,
      Reading.run_of_stuck (hReads.last_depth_le.trans hDepth) hStuck] at h
    cases h

/-- The reader gives up as too deep exactly at the first opening beyond the limit. -/
theorem Sum.read_eq_nestingTooDeep_iff {text : List Char} :
    Sum.read (Token.scan text) = .error .nestingTooDeep ↔
      ∃ before c after, text = before ++ c :: after ∧ c ∈ ['+', '-', '('] ∧
        Awaits before nestingLimit ∧ Awaits (before ++ [c]) (nestingLimit + 1) ∧
        Viable (before ++ [c]) := by
  constructor
  · intro h
    obtain ⟨front, more, last, peak, hTokens, hReads, hPeak⟩ := Sum.exists_deep_of_read h
    obtain ⟨front, token, later, outer, inner, _, rfl, hFront, hOuter, hOpens⟩ :=
      hReads.exists_opens (Nat.zero_le _) hPeak
    rw [List.append_assoc] at hTokens
    obtain ⟨before, after, rfl, -, rfl, hAfter⟩ := Token.exists_apart hTokens
    cases after with
    | nil => cases hAfter
    | cons c after =>
        have hDigit : c.isDigit = false := by
          by_contra hDigit
          obtain ⟨d, rfl⟩ := Token.exists_digitChar (by simpa using hDigit)
          obtain ⟨digits, _, hNumber⟩ := Token.exists_scan_digitChar d after
          rw [hNumber] at hAfter
          obtain ⟨rfl, -⟩ := List.cons.inj hAfter
          cases hOpens
        rw [Token.scan_cons, Token.push_of_not_isDigit hDigit] at hAfter
        obtain ⟨rfl, -⟩ := List.cons.inj hAfter
        have hScan : Token.scan (before ++ [c]) = Token.scan before ++ [Token.ofChar c] := by
          rw [Token.scan_append (.of_head (by simpa using hDigit))]
          exact congrArg _ (Token.push_of_not_isDigit hDigit [])
        have hInner := hFront.trans (.cons hOpens.advance (.nil _))
        rw [← hScan] at hInner
        refine ⟨before, c, after, rfl, hOpens.mem, ⟨outer, hFront.tokens_eq, hOuter⟩,
          ⟨inner, hInner.tokens_eq, hOpens.nesting.trans (congrArg (· + 1) hOuter)⟩,
          .of_reads hInner⟩
  · rintro ⟨before, c, after, rfl, hOpener, ⟨outer, hTokens, hNesting⟩, -, -⟩
    obtain ⟨hDigit, inner, hOpens⟩ := outer.exists_opens hOpener
    obtain ⟨peak, hOuter⟩ := outer.reads
    rw [hTokens, ← Reads.meaningful_iff] at hOuter
    have hInner := hOuter.trans (.cons hOpens.advance (.nil _))
    have hSplit : Token.scan (before ++ c :: after) =
        (Token.scan before ++ [Token.ofChar c]) ++ Token.scan after := by
      rw [Token.scan_append (.of_head (by simpa using hDigit)), Token.scan_cons,
        Token.push_of_not_isDigit hDigit, List.append_assoc, List.singleton_append]
    have hDeep := hOpens.nesting
    rw [hSplit, hInner.read_append, if_neg]
    simp only [Reading.depth]
    omega

/-- What the reader reports of any text:

* an offset inside the text is that of a character, no white space, before which the text begins an
  expression and with which it does not; the offset of the end means that the text begins an
  expression and is none;
* too deep is reported exactly if the text begins, up to some character, with the beginning of an
  expression, and that character is a parenthesis or sign in front of an operand and opens inside
  128 others, whatever comes after it;
* an expression is read if it is nested within the limit, and else it is too deep. -/
theorem Sum.read_stops_at_first_fault (text : String) :
    (∀ position, Sum.read (Token.scan text.toList) = .error (.malformed position) →
        (position < text.utf8ByteSize ∧ ∃ before c after, text.toList = before ++ c :: after ∧
            position = (String.ofList before).utf8ByteSize ∧ Text.isBlank c = false ∧
            Viable before ∧ ¬ Viable (before ++ [c])) ∨
          (position = text.utf8ByteSize ∧ Viable text.toList ∧ ¬ IsSentence text.toList)) ∧
      (Sum.read (Token.scan text.toList) = .error .nestingTooDeep ↔
        ∃ before c after, text.toList = before ++ c :: after ∧ c ∈ ['+', '-', '('] ∧
          Awaits before 128 ∧ Awaits (before ++ [c]) 129 ∧ Viable (before ++ [c])) ∧
      ∀ sum : Sum, sum.Writes text.toList → Sum.read (Token.scan text.toList) =
        if sum.nesting ≤ 128 then .ok sum else .error .nestingTooDeep := by
  refine ⟨fun position h => ?_, Sum.read_eq_nestingTooDeep_iff,
    fun sum hWrites => Sum.read_of_writes hWrites⟩
  rcases Sum.of_read_eq_malformed h with ⟨before, c, after, hText, rfl, hRest⟩ | hEnd
  · refine .inl ⟨?_, before, c, after, hText, rfl, hRest⟩
    have hSize : text.utf8ByteSize = (String.ofList (before ++ c :: after)).utf8ByteSize := by
      rw [← hText, String.ofList_toList]
    have hPos := c.utf8Size_pos
    rw [hSize, String.utf8ByteSize_ofList, String.utf8ByteSize_ofList, String.utf8Len_append,
      String.utf8Len_cons]
    omega
  · rw [String.ofList_toList] at hEnd
    exact .inr hEnd

/-- The white space in front of the parenthesis takes three bytes, and behind an expression it is no
fault. -/
theorem Sum.read_stops_at_first_fault_blank :
    (Sum.read (Token.scan "3\u3000) (".toList) = .error (.malformed 4) ∧
      ∃ before c after, "3\u3000) (".toList = before ++ c :: after ∧
        4 = (String.ofList before).utf8ByteSize ∧ Text.isBlank c = false ∧
        Viable before ∧ ¬ Viable (before ++ [c])) ∧
    (Sum.single (.single (.number [3]))).Writes "3\u3000".toList ∧
      Sum.read (Token.scan "3\u3000".toList) = .ok (.single (.single (.number [3]))) := by
  have hFault : Sum.read (Token.scan "3\u3000) (".toList) = .error (.malformed 4) := by decide
  have hWrites : (Sum.single (.single (.number [3]))).Writes "3\u3000".toList := by
    unfold Sum.Writes
    decide
  obtain ⟨-, hFirst⟩ | ⟨hEnd, -⟩ := (Sum.read_stops_at_first_fault "3\u3000) (").1 4 hFault
  · exact ⟨⟨hFault, hFirst⟩, hWrites, (Sum.read_stops_at_first_fault "3\u3000").2.2 _ hWrites⟩
  · exact absurd hEnd (by decide)

end Make24
