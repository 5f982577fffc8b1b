import Mathlib
import Make24.Proofs.Submission.Tracking

/-! The descent keeps to the reader. A call begins where the reader awaits what the call reads, with
as many parentheses and signs open as the depth says. It ends where the reader has read that, at the
depth of its beginning, or else the reader stops at the same place for the same cause. -/

namespace Make24

/-- No more was open than may be. -/
structure Cursor.Within (cursor : Cursor) : Prop where
  deepest_le : cursor.deepest ≤ nestingLimit + 1
  entered_le : cursor.entered ≤ nestingLimit

/-- So much is open now, and no more was open than may be. -/
structure Cursor.Ready (cursor : Cursor) (depth : Nat) : Prop extends Cursor.Within cursor where
  depth_eq : cursor.depth = depth
  depth_le : depth ≤ nestingLimit

namespace Cursor.Ready

variable {cursor : Cursor} {depth : Nat}

theorem past (h : cursor.Ready depth) (p : Char → Bool) : (cursor.past p).Ready depth :=
  ⟨⟨h.deepest_le, h.entered_le⟩, h.depth_eq, h.depth_le⟩

theorem next (h : cursor.Ready depth) : cursor.next.Ready depth :=
  ⟨⟨h.deepest_le, h.entered_le⟩, h.depth_eq, h.depth_le⟩

end Cursor.Ready

namespace Descent

/-- How a call ends that began at a cursor with a reading and so much open. With its value it has
gone on to another reading and has closed what it opened; with a rejection the reader stops for the
same cause. A fault is no end. -/
inductive Tracks {α : Type} (reading : Reading) (start : Cursor) (depth : Nat)
    (post : α → Reading → List Char → Prop) : Except Stop α → Cursor → Prop where
  | value {value : α} {next : Reading} {finish : Cursor} (hReady : finish.Ready depth)
      (hRun : reading.runAt start = next.runAt finish) (hPost : post value next finish.rest) :
      Tracks reading start depth post (.ok value) finish
  | rejection {error : ReadError} {finish : Cursor} (hWithin : finish.Within)
      (hRun : reading.runAt start = .error error) :
      Tracks reading start depth post (.error (.rejected (Submission.rejectionOf error))) finish

/-- A call comes to an end and keeps to the reader. -/
abbrev Follows {α : Type} (call : Descent α) (reading : Reading) (start : Cursor) (depth : Nat)
    (post : α → Reading → List Char → Prop) : Prop :=
  Meets call start (Tracks reading start depth post)

section Rules

variable {α β : Type} {call : Descent α} {cont : α → Descent β} {reading next : Reading}
  {start : Cursor} {depth : Nat} {post : α → Reading → List Char → Prop}
  {post' : β → Reading → List Char → Prop}

/-- A call may begin where the reader has gone on already. -/
theorem Tracks.of_eq {middle finish : Cursor} {result : Except Stop α}
    (h : Tracks next middle depth post result finish)
    (hRun : reading.runAt start = next.runAt middle) :
    Tracks reading start depth post result finish := by
  cases h with
  | value hReady hNext hPost => exact .value hReady (hRun.trans hNext) hPost
  | rejection hWithin hNext => exact .rejection hWithin (hRun.trans hNext)

theorem Follows.bind (hCall : Follows call reading start depth post)
    (hNext : ∀ value next middle, middle.Ready depth → post value next middle.rest →
      Follows (cont value) next middle depth post') :
    Follows (call >>= cont) reading start depth post' := by
  obtain ⟨result, middle, hResult, hTracks⟩ := hCall
  refine Meets.bind (.of_run hResult ?_)
  cases hTracks with
  | value hReady hRun hPost =>
      obtain ⟨result, finish, hResult, hTracks⟩ := hNext _ _ _ hReady hPost
      exact ⟨result, finish, hResult, hTracks.of_eq hRun⟩
  | rejection hWithin hRun => exact .rejection hWithin hRun

theorem Follows.mono {post' : α → Reading → List Char → Prop}
    (hCall : Follows call reading start depth post)
    (hPost : ∀ value next rest, post value next rest → post' value next rest) :
    Follows call reading start depth post' := by
  obtain ⟨result, finish, hResult, hTracks⟩ := hCall
  refine ⟨result, finish, hResult, ?_⟩
  cases hTracks with
  | value hReady hRun h => exact .value hReady hRun (hPost _ _ _ h)
  | rejection hWithin hRun => exact .rejection hWithin hRun

theorem Follows.pure {value : α} (hReady : start.Ready depth)
    (hPost : post value reading start.rest) :
    Follows (pure value) reading start depth post :=
  ⟨_, _, rfl, .value hReady rfl hPost⟩

theorem Follows.malformed (hWithin : start.Within)
    (hRun : reading.runAt start = .error (.malformed start.offset)) :
    Follows malformed reading start depth post :=
  ⟨_, _, rfl, .rejection hWithin hRun⟩

/-- Looking for the next character does not move the reader. -/
theorem Follows.peek {cont : Option Char → Descent β} (hReady : start.Ready depth)
    (hNext : ∀ middle : Cursor, middle.Ready depth →
      middle.rest = start.rest.dropWhile Text.isBlank →
      Follows (cont middle.rest.head?) reading middle depth post') :
    Follows (Descent.peek >>= cont) reading start depth post' := by
  obtain ⟨result, finish, hResult, hTracks⟩ :=
    hNext (start.past Text.isBlank) (hReady.past Text.isBlank) rfl
  refine Meets.bind (.of_run rfl ⟨result, finish, hResult, ?_⟩)
  exact hTracks.of_eq (reading.runAt_past_blanks start).symm

/-- Going past the next character the reader reads it. -/
theorem Follows.advance {c : Char} {rest : List Char} (hReady : start.Ready depth)
    (hRest : start.rest = c :: rest) (hDigit : c.isDigit = false)
    (hStep : reading.step (Token.ofChar c) = .ok next) :
    Follows Descent.advance reading start depth fun _ after left => after = next ∧ left = rest :=
  ⟨.ok (), start.next, rfl, .value hReady.next (Reading.runAt_of_step hRest hDigit hStep)
    ⟨rfl, by simp [Cursor.next, hRest]⟩⟩

theorem run_bind_of_ok {value : α} {middle : Cursor}
    (h : call.run.run start = some (.ok value, middle)) :
    (call >>= cont).run.run start = (cont value).run.run middle := by
  simp [h]

theorem enter_run (h : start.depth ≤ nestingLimit) :
    enter.run.run start =
      if start.depth < nestingLimit then
        some (.ok (), { start with
          depth := start.depth + 1
          deepest := max start.deepest (start.depth + 1)
          entered := max start.entered (start.depth + 1) })
      else
        some (.error (.rejected .nestingTooDeep), { start with
          depth := start.depth + 1
          deepest := max start.deepest (start.depth + 1) }) := by
  have hFit : Stop.fit Stop.counterRange (start.depth + 1) = .ok (start.depth + 1) :=
    if_pos (by unfold nestingLimit at h; unfold Stop.counterRange; omega)
  refine (run_bind_of_ok rfl).trans ?_
  rw [hFit]
  refine (run_bind_of_ok rfl).trans ((run_bind_of_ok rfl).trans ?_)
  split_ifs with hLimit hDeep
  · omega
  · rfl
  · rfl
  · omega

theorem leave_run (h : 0 < start.depth) :
    leave.run.run start = some (.ok (), { start with depth := start.depth - 1 }) := by
  have hLower : Stop.lower start.depth = .ok (start.depth - 1) := if_pos h
  refine (run_bind_of_ok rfl).trans ?_
  rw [hLower]
  rfl

/-- What stands behind a sign or in a parenthesis is read at the next depth, if there is one. -/
theorem Follows.nested {body : Descent Float} {hole inner : FactorHole} {c : Char}
    {rest : List Char} {post : Float → Reading → List Char → Prop}
    (hReady : start.Ready hole.nesting) (hRest : start.rest = c :: rest)
    (hDigit : c.isDigit = false)
    (hStep : (Reading.operand hole).step (Token.ofChar c) = hole.enter inner)
    (hBody : ∀ opened : Cursor, opened.Ready (hole.nesting + 1) → opened.rest = rest →
      Follows body (.operand inner) opened (hole.nesting + 1) post) :
    Follows (nested body) (.operand hole) start hole.nesting post := by
  have hDepth : start.next.depth = hole.nesting := hReady.depth_eq
  have hEnter := enter_run (hDepth ▸ hReady.depth_le)
  rw [hDepth] at hEnter
  by_cases hLimit : hole.nesting < nestingLimit
  · rw [if_pos hLimit] at hEnter
    have hNext : (Reading.operand hole).step (Token.ofChar c) = .ok (.operand inner) :=
      hStep.trans (if_pos hLimit)
    have hOpened : Cursor.Ready { start.next with
        depth := hole.nesting + 1
        deepest := max start.next.deepest (hole.nesting + 1)
        entered := max start.next.entered (hole.nesting + 1) } (hole.nesting + 1) :=
      ⟨⟨max_le hReady.deepest_le (by omega), max_le hReady.entered_le hLimit⟩, rfl, hLimit⟩
    obtain ⟨result, finish, hResult, hTracks⟩ := hBody _ hOpened (by simp [Cursor.next, hRest])
    refine Meets.bind (.of_run rfl (Meets.bind (.of_run hEnter (Meets.bind (.of_run hResult ?_)))))
    have hRun := Reading.runAt_of_step hRest hDigit hNext
    cases hTracks with
    | value hReady hInner hPost =>
        have hOpen : 0 < finish.depth := by
          rw [hReady.depth_eq]
          exact Nat.succ_pos _
        have hLeave := leave_run hOpen
        refine Meets.bind (.of_run hLeave (.of_run rfl (.value ?_ (hRun.trans hInner) hPost)))
        exact ⟨⟨hReady.deepest_le, hReady.entered_le⟩, by rw [hReady.depth_eq]; rfl, hLimit.le⟩
    | rejection hWithin hInner => exact .rejection hWithin (hRun.trans hInner)
  · rw [if_neg hLimit] at hEnter
    have hFault : (Reading.operand hole).step (Token.ofChar c) = .error .tooDeep :=
      hStep.trans (if_neg hLimit)
    have hWithin : Cursor.Within { start.next with
        depth := hole.nesting + 1
        deepest := max start.next.deepest (hole.nesting + 1) } :=
      ⟨max_le hReady.deepest_le (Nat.succ_le_succ hReady.depth_le), hReady.entered_le⟩
    refine Meets.bind (.of_run rfl (Meets.bind (.of_run hEnter ?_)))
    exact .rejection hWithin (Reading.runAt_of_fault hRest hDigit hFault)

end Rules

/-- A factor was read in its place. -/
def FactorRead (hole : FactorHole) (value : Float) (next : Reading) : Prop :=
  ∃ factor : Factor, factor.value = value ∧ next = hole.fill factor

/-- White space is passed, and what is next does not go on with a product. -/
def ProductEnds (rest : List Char) : Prop :=
  ∀ c ∈ rest.head?, Text.isBlank c = false ∧ scale? c = none

/-- A product was read in its place and nothing belongs to it any more. -/
def ProductRead (hole : ProductHole) (value : Float) (next : Reading) (rest : List Char) : Prop :=
  ProductEnds rest ∧ ∃ product : Product, product.value = value ∧ next = .operation hole product

/-- White space is passed, and what is next does not go on with a sum. -/
def SumEnds (rest : List Char) : Prop :=
  ∀ c ∈ rest.head?, Text.isBlank c = false ∧ scale? c = none ∧ sign? c = none

/-- A sum was read in its place and nothing belongs to it any more. -/
def SumRead (hole : SumHole) (value : Float) (next : Reading) (rest : List Char) : Prop :=
  SumEnds rest ∧ ∃ (outer : ProductHole) (product : Product) (sum : Sum),
    outer.fill product = (hole, sum) ∧ sum.value = value ∧ next = .operation outer product

theorem SumEnds.productEnds {rest : List Char} (h : SumEnds rest) : ProductEnds rest :=
  fun c hHead => ⟨(h c hHead).1, (h c hHead).2.1⟩

theorem ProductEnds.dropWhile {rest : List Char} (h : ProductEnds rest) :
    rest.dropWhile Text.isBlank = rest := by
  cases rest with
  | nil => rfl
  | cons c rest => exact List.dropWhile_cons_of_neg (by simp [(h c rfl).1])

theorem number_follows {start : Cursor} {hole : FactorHole} {c : Char} {rest : List Char}
    (hReady : start.Ready hole.nesting) (hRest : start.rest = c :: rest)
    (hDigit : c.isDigit = true) :
    Follows number (.operand hole) start hole.nesting fun value next left =>
      Consumes (c :: rest) left ∧ FactorRead hole value next := by
  refine ⟨_, start.past Char.isDigit, rfl, .value (hReady.past Char.isDigit)
    (Reading.runAt_of_digit hRest hDigit) ⟨?_, _, rfl, rfl⟩⟩
  have hBlank : Text.isBlank c = false := by
    by_contra hBlank
    rw [Token.isDigit_of_isBlank (by simpa using hBlank)] at hDigit
    cases hDigit
  refine .cons hBlank ?_
  rw [Cursor.past, hRest, List.dropWhile_cons_of_pos hDigit]
  exact List.dropWhile_suffix _

theorem close_follows {start : Cursor} {outer : ProductHole} {product : Product} {hole : FactorHole}
    {sum : Sum} {depth : Nat} (hReady : start.Ready depth)
    (hFill : outer.fill product = (.group hole, sum)) (hEnds : SumEnds start.rest) :
    Follows close (.operation outer product) start depth fun _ next rest =>
      rest <:+ start.rest ∧ next = hole.fill (.group sum) := by
  refine Follows.peek hReady fun middle hMiddle hRest => ?_
  rw [hEnds.productEnds.dropWhile] at hRest
  rw [← hRest] at hEnds ⊢
  cases hNext : middle.rest with
  | nil =>
      refine .malformed hMiddle.toWithin ?_
      rw [Reading.runAt_nil hNext, Reading.finish?, hFill]
  | cons c rest =>
      obtain ⟨hBlank, hScale, hSign⟩ := hEnds c (by rw [hNext]; rfl)
      rw [List.head?_cons]
      split
      · rename_i hHead
        cases hHead
        refine (Follows.advance hMiddle hNext rfl (Reading.step_closing_group hFill)).mono ?_
        rintro - next left ⟨rfl, rfl⟩
        exact ⟨List.suffix_cons .., rfl⟩
      · rename_i hHead
        refine .malformed hMiddle.toWithin
          (Reading.runAt_operation_malformed hNext hBlank hScale hSign ?_)
        rintro rfl
        exact absurd rfl hHead

/-- Calls with so much depth come to an end and keep to the reader, if the depth suffices for what
is left of the text. A sum, its first product and that product's first factor are called before any
character is passed, so that there are three calls for a character. -/
structure Reliable (fuel : Nat) : Prop where
  sum : ∀ (start : Cursor) (hole : SumHole), start.Ready hole.nesting →
    3 * start.rest.length + 3 ≤ fuel →
    Follows (sum fuel) (.operand (.first (.first hole))) start hole.nesting fun value next rest =>
      Consumes start.rest rest ∧ SumRead hole value next rest
  sumFrom : ∀ (start : Cursor) (outer : ProductHole) (product : Product) (hole : SumHole)
    (total : Sum), start.Ready hole.nesting → outer.fill product = (hole, total) →
    ProductEnds start.rest → 3 * start.rest.length + 1 ≤ fuel →
    Follows (sumFrom fuel total.value) (.operation outer product) start hole.nesting
      fun value next rest => rest <:+ start.rest ∧ SumRead hole value next rest
  product : ∀ (start : Cursor) (hole : ProductHole), start.Ready hole.nesting →
    3 * start.rest.length + 2 ≤ fuel →
    Follows (product fuel) (.operand (.first hole)) start hole.nesting fun value next rest =>
      Consumes start.rest rest ∧ ProductRead hole value next rest
  productFrom : ∀ (start : Cursor) (hole : ProductHole) (product : Product),
    start.Ready hole.nesting → 3 * start.rest.length + 1 ≤ fuel →
    Follows (productFrom fuel product.value) (.operation hole product) start hole.nesting
      fun value next rest => rest <:+ start.rest ∧ ProductRead hole value next rest
  factor : ∀ (start : Cursor) (hole : FactorHole), start.Ready hole.nesting →
    3 * start.rest.length + 1 ≤ fuel →
    Follows (factor fuel) (.operand hole) start hole.nesting fun value next rest =>
      Consumes start.rest rest ∧ FactorRead hole value next

namespace Reliable

variable {fuel : Nat}

theorem sum_succ (ih : Reliable fuel) (start : Cursor) (hole : SumHole)
    (hReady : start.Ready hole.nesting) (hFuel : 3 * start.rest.length + 3 ≤ fuel + 1) :
    Follows (Descent.sum (fuel + 1)) (.operand (.first (.first hole))) start hole.nesting
      fun value next rest => Consumes start.rest rest ∧ SumRead hole value next rest := by
  rw [Descent.sum]
  refine (ih.product start (.first hole) hReady (by omega)).bind
    fun value next middle hMiddle h => ?_
  obtain ⟨hConsumes, hEnds, product, rfl, rfl⟩ := h
  have hLength := hConsumes.length_lt
  refine (ih.sumFrom middle (.first hole) product hole (.single product) hMiddle rfl hEnds
    (by omega)).mono ?_
  rintro value next rest ⟨hSuffix, hRead⟩
  exact ⟨hConsumes.trans_suffix hSuffix, hRead⟩

theorem sumFrom_succ (ih : Reliable fuel) (start : Cursor) (outer : ProductHole)
    (product : Product) (hole : SumHole) (total : Sum) (hReady : start.Ready hole.nesting)
    (hFill : outer.fill product = (hole, total)) (hEnds : ProductEnds start.rest)
    (hFuel : 3 * start.rest.length + 1 ≤ fuel + 1) :
    Follows (Descent.sumFrom (fuel + 1) total.value) (.operation outer product) start hole.nesting
      fun value next rest => rest <:+ start.rest ∧ SumRead hole value next rest := by
  rw [Descent.sumFrom]
  refine Follows.peek hReady fun middle hMiddle hRest => ?_
  rw [hEnds.dropWhile] at hRest
  rw [← hRest] at hEnds hFuel ⊢
  cases hSign : middle.rest.head?.bind sign? with
  | none =>
      refine .pure hMiddle ⟨List.suffix_rfl, ?_, outer, product, total, hFill, rfl, rfl⟩
      intro c hHead
      rw [Option.mem_def.mp hHead] at hSign
      exact ⟨(hEnds c hHead).1, (hEnds c hHead).2, hSign⟩
  | some sign =>
      obtain ⟨c, hHead, hSign⟩ := Option.bind_eq_some_iff.mp hSign
      obtain ⟨rest, hNext⟩ := List.head?_eq_some_iff.mp hHead
      obtain ⟨hDigit, hToken⟩ := Token.of_sign? hSign
      have hStep : (Reading.operation outer product).step (Token.ofChar c) =
          .ok (.operand (.first (.after total sign hole))) := by
        rw [hToken]
        exact Reading.step_sign hFill sign
      rw [hNext, List.length_cons] at hFuel
      rw [hNext]
      refine (Follows.advance hMiddle hNext hDigit hStep).bind
        fun _ next middle hMiddle h => ?_
      obtain ⟨rfl, rfl⟩ := h
      refine (ih.product middle (.after total sign hole) hMiddle (by omega)).bind
        fun value next last hLast h => ?_
      obtain ⟨hConsumes, hEnds, right, rfl, rfl⟩ := h
      have hLength := hConsumes.length_lt
      refine (ih.sumFrom last (.after total sign hole) right hole (.extend total sign right) hLast
        rfl hEnds (by omega)).mono ?_
      rintro value next rest ⟨hSuffix, hRead⟩
      exact ⟨(hSuffix.trans hConsumes.suffix).trans (List.suffix_cons ..), hRead⟩

theorem product_succ (ih : Reliable fuel) (start : Cursor) (hole : ProductHole)
    (hReady : start.Ready hole.nesting) (hFuel : 3 * start.rest.length + 2 ≤ fuel + 1) :
    Follows (Descent.product (fuel + 1)) (.operand (.first hole)) start hole.nesting
      fun value next rest => Consumes start.rest rest ∧ ProductRead hole value next rest := by
  rw [Descent.product]
  refine (ih.factor start (.first hole) hReady (by omega)).bind
    fun value next middle hMiddle h => ?_
  obtain ⟨hConsumes, factor, rfl, rfl⟩ := h
  have hLength := hConsumes.length_lt
  refine (ih.productFrom middle hole (.single factor) hMiddle (by omega)).mono ?_
  rintro value next rest ⟨hSuffix, hRead⟩
  exact ⟨hConsumes.trans_suffix hSuffix, hRead⟩

theorem productFrom_succ (ih : Reliable fuel) (start : Cursor) (hole : ProductHole)
    (product : Product) (hReady : start.Ready hole.nesting)
    (hFuel : 3 * start.rest.length + 1 ≤ fuel + 1) :
    Follows (Descent.productFrom (fuel + 1) product.value) (.operation hole product) start
      hole.nesting fun value next rest =>
        rest <:+ start.rest ∧ ProductRead hole value next rest := by
  rw [Descent.productFrom]
  refine Follows.peek hReady fun middle hMiddle hRest => ?_
  obtain ⟨hPassed, hLength, hBlank⟩ := of_eq_dropWhile_blank hRest
  cases hScale : middle.rest.head?.bind scale? with
  | none =>
      refine .pure hMiddle ⟨hPassed, ?_, product, rfl, rfl⟩
      intro c hHead
      rw [Option.mem_def.mp hHead] at hScale
      exact ⟨hBlank c hHead, hScale⟩
  | some scale =>
      obtain ⟨c, hHead, hScale⟩ := Option.bind_eq_some_iff.mp hScale
      obtain ⟨rest, hNext⟩ := List.head?_eq_some_iff.mp hHead
      obtain ⟨hDigit, hToken⟩ := Token.of_scale? hScale
      have hStep : (Reading.operation hole product).step (Token.ofChar c) =
          .ok (.operand (.after product scale hole)) := by
        rw [hToken]
        rfl
      rw [hNext] at hPassed hLength
      rw [List.length_cons] at hLength
      refine (Follows.advance hMiddle hNext hDigit hStep).bind
        fun _ next middle hMiddle h => ?_
      obtain ⟨rfl, rfl⟩ := h
      refine (ih.factor middle (.after product scale hole) hMiddle (by omega)).bind
        fun value next last hLast h => ?_
      obtain ⟨hConsumes, factor, rfl, rfl⟩ := h
      have hLastLength := hConsumes.length_lt
      refine (ih.productFrom last hole (.extend product scale factor) hLast (by omega)).mono ?_
      rintro value next rest ⟨hSuffix, hRead⟩
      exact ⟨((hSuffix.trans hConsumes.suffix).trans (List.suffix_cons ..)).trans hPassed, hRead⟩

/-- A sign is read with the factor behind it. -/
theorem signed_follows (ih : Reliable fuel) {start : Cursor} {hole : FactorHole} {sign : Sign}
    {c : Char} {rest : List Char} (hReady : start.Ready hole.nesting)
    (hRest : start.rest = c :: rest) (hBlank : Text.isBlank c = false) (hSign : sign? c = some sign)
    (hFuel : 3 * rest.length + 1 ≤ fuel) :
    Follows (nested do
        let operand ← Descent.factor fuel
        return sign.apply operand) (.operand hole) start hole.nesting fun value next left =>
      Consumes (c :: rest) left ∧ FactorRead hole value next := by
  obtain ⟨hDigit, hToken⟩ := Token.of_sign? hSign
  have hStep : (Reading.operand hole).step (Token.ofChar c) = hole.enter (.signed sign hole) := by
    rw [hToken]
    rfl
  refine Follows.nested hReady hRest hDigit hStep fun opened hOpened hRest => ?_
  subst hRest
  refine (ih.factor opened (.signed sign hole) hOpened hFuel).bind fun value next last hLast h => ?_
  obtain ⟨hConsumes, operand, rfl, rfl⟩ := h
  exact .pure hLast ⟨.cons hBlank hConsumes.suffix, .signed sign operand, rfl, rfl⟩

/-- A parenthesis is read with the sum in it and the parenthesis that closes it. -/
theorem group_follows (ih : Reliable fuel) {start : Cursor} {hole : FactorHole} {rest : List Char}
    (hReady : start.Ready hole.nesting) (hRest : start.rest = '(' :: rest)
    (hFuel : 3 * rest.length + 3 ≤ fuel) :
    Follows (nested do
        let inner ← Descent.sum fuel
        close
        return inner) (.operand hole) start hole.nesting fun value next left =>
      Consumes ('(' :: rest) left ∧ FactorRead hole value next := by
  refine Follows.nested hReady hRest rfl rfl fun opened hOpened hRest => ?_
  subst hRest
  refine (ih.sum opened (.group hole) hOpened hFuel).bind fun value next last hLast h => ?_
  obtain ⟨hConsumes, hEnds, outer, product, sum, hFill, rfl, rfl⟩ := h
  refine (close_follows hLast hFill hEnds).bind fun _ next finish hFinish h => ?_
  obtain ⟨hSuffix, rfl⟩ := h
  exact .pure hFinish ⟨.cons rfl (hSuffix.trans hConsumes.suffix), .group sum, rfl, rfl⟩

theorem factor_succ (ih : Reliable fuel) (start : Cursor) (hole : FactorHole)
    (hReady : start.Ready hole.nesting) (hFuel : 3 * start.rest.length + 1 ≤ fuel + 1) :
    Follows (Descent.factor (fuel + 1)) (.operand hole) start hole.nesting fun value next rest =>
      Consumes start.rest rest ∧ FactorRead hole value next := by
  rw [Descent.factor]
  refine Follows.peek hReady fun middle hMiddle hRest => ?_
  obtain ⟨hPassed, hLength, hBlank⟩ := of_eq_dropWhile_blank hRest
  cases hNext : middle.rest with
  | nil =>
      refine .malformed hMiddle.toWithin ?_
      rw [Reading.runAt_nil hNext]
      rfl
  | cons c rest =>
      replace hBlank := hBlank c (by rw [hNext]; rfl)
      rw [hNext] at hPassed hLength
      rw [List.length_cons] at hLength
      have hMono (value : Float) (next : Reading) (left : List Char)
          (h : Consumes (c :: rest) left ∧ FactorRead hole value next) :
          Consumes start.rest left ∧ FactorRead hole value next := ⟨h.1.of_suffix hPassed, h.2⟩
      rw [List.head?_cons]
      dsimp only
      cases hSign : sign? c with
      | some sign =>
          exact (ih.signed_follows hMiddle hNext hBlank hSign (by omega)).mono hMono
      | none =>
          dsimp only
          split_ifs with hOpening hDigit
          · subst hOpening
            exact (ih.group_follows hMiddle hNext (by omega)).mono hMono
          · exact (number_follows hMiddle hNext hDigit).mono hMono
          · exact .malformed hMiddle.toWithin (Reading.runAt_operand_malformed hNext hBlank hSign
              hOpening (by simpa using hDigit))

end Reliable

theorem reliable (fuel : Nat) : Reliable fuel := by
  induction fuel with
  | zero =>
      exact ⟨fun _ _ _ h => absurd h (by omega), fun _ _ _ _ _ _ _ _ h => absurd h (by omega),
        fun _ _ _ h => absurd h (by omega), fun _ _ _ _ h => absurd h (by omega),
        fun _ _ _ h => absurd h (by omega)⟩
  | succ fuel ih =>
      exact ⟨ih.sum_succ, ih.sumFrom_succ, ih.product_succ, ih.productFrom_succ, ih.factor_succ⟩

/-- A whole text is read to its end, or the reader stops. -/
theorem whole_follows {text : List Char} {fuel : Nat} (hFuel : 3 * text.length + 3 ≤ fuel) :
    Follows (whole fuel) Reading.start (Cursor.start text) 0 fun value next rest =>
      rest = [] ∧ ∃ total : Sum, next.finish? = some total ∧ total.value = value := by
  have hReady : (Cursor.start text).Ready 0 := ⟨⟨Nat.zero_le _, Nat.zero_le _⟩, rfl, Nat.zero_le _⟩
  refine ((reliable fuel).sum (Cursor.start text) .whole hReady hFuel).bind
    fun value next middle hMiddle h => ?_
  obtain ⟨-, hEnds, outer, product, total, hFill, rfl, rfl⟩ := h
  refine Follows.peek hMiddle fun last hLast hRest => ?_
  rw [hEnds.productEnds.dropWhile] at hRest
  rw [← hRest] at hEnds
  cases hNext : last.rest with
  | nil =>
      refine .pure hLast ⟨hNext, total, ?_, rfl⟩
      rw [Reading.finish?, hFill]
  | cons c rest =>
      obtain ⟨hBlank, hScale, hSign⟩ := hEnds c (by rw [hNext]; rfl)
      exact .malformed hLast.toWithin
        (Reading.runAt_operation_malformed hNext hBlank hScale hSign fun _ => by rw [hFill])

/-- The descent comes to what the reader comes to. -/
theorem whole_run {text : List Char} {fuel : Nat} (hFuel : 3 * text.length + 3 ≤ fuel) :
    ∃ finish : Cursor, (whole fuel).run.run (Cursor.start text) =
      some ((((Sum.read (Token.scan text)).map Sum.value).mapError
        fun error => .rejected (Submission.rejectionOf error)), finish) := by
  have hRead : Sum.read (Token.scan text) = Reading.start.runAt (Cursor.start text) := rfl
  obtain ⟨result, finish, hResult, hTracks⟩ := whole_follows hFuel
  refine ⟨finish, ?_⟩
  rw [hResult, hRead]
  cases hTracks with
  | value hReady hRun hPost =>
      obtain ⟨hRest, total, hFinish, rfl⟩ := hPost
      rw [hRun, Reading.runAt_nil hRest, hFinish]
      rfl
  | rejection hWithin hRun =>
      rw [hRun]
      rfl

end Descent

end Make24
