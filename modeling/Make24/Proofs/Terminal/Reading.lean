import Mathlib
import Make24.Proofs.Game.Move
import Make24.Terminal.Session

/-! A session line by line. What a session shows is defined on the lines of the whole input. Here it
comes out of a loop that asks, reads on to the end of the next line, answers, and sees nothing of
what it has not read. The loop has no counter: it ends because the input does, and what counts as
typed from then on leaves the terminal. -/

namespace Make24

namespace Text

/-- The next line of an input, with its newline, and what is left unread. -/
def nextLine : List UInt8 → List UInt8 × List UInt8
  | [] => ([], [])
  | byte :: rest =>
      if byte = newline then ([byte], rest)
      else (byte :: (nextLine rest).1, (nextLine rest).2)

theorem lines_cons (byte : UInt8) (rest : List UInt8) :
    lines (byte :: rest) = pushByte byte (lines rest) :=
  rfl

theorem lines_eq_nil_iff {input : List UInt8} : lines input = [] ↔ input = [] := by
  constructor
  · intro hNone
    rw [← flatten_lines input, hNone]
    rfl
  · rintro rfl
    rfl

/-- The lines of an input are read off it one by one. -/
theorem lines_eq_cons {input : List UInt8} (hMore : input ≠ []) :
    lines input = (nextLine input).1 :: lines (nextLine input).2 := by
  induction input with
  | nil => exact absurd rfl hMore
  | cons byte rest ih =>
      rw [lines_cons, nextLine]
      cases rest with
      | nil => by_cases hEnd : byte = newline <;> simp [hEnd, nextLine, lines, pushByte]
      | cons next others =>
          rw [ih (List.cons_ne_nil next others)]
          by_cases hEnd : byte = newline
          · simp [pushByte, hEnd, ih]
          · simp [pushByte, hEnd]

/-- A line has its newline at least, and the last one a byte. -/
theorem ne_nil_of_mem_lines {input line : List UInt8} (hMem : line ∈ lines input) : line ≠ [] := by
  induction input with
  | nil => cases hMem
  | cons byte rest ih =>
      rw [lines_cons] at hMem
      unfold pushByte at hMem
      split at hMem
      case h_1 =>
        rw [List.mem_singleton.mp hMem]
        exact List.cons_ne_nil byte []
      case h_2 first others hLines =>
        rw [hLines] at ih
        split at hMem
        case isTrue => exact (List.mem_cons.mp hMem).elim (· ▸ List.cons_ne_nil byte []) ih
        case isFalse =>
          rcases List.mem_cons.mp hMem with rfl | hOther
          · exact List.cons_ne_nil byte first
          · exact ih (List.mem_cons_of_mem _ hOther)

theorem pushByte_append (byte : UInt8) {first : List (List UInt8)} (hFirst : first ≠ [])
    (more : List (List UInt8)) : pushByte byte (first ++ more) = pushByte byte first ++ more := by
  cases first with
  | nil => exact absurd rfl hFirst
  | cons line rest => by_cases hEnd : byte = newline <;> simp [pushByte, hEnd]

/-- What follows a newline does not change the lines before it. -/
theorem lines_append {first : List UInt8} (hComplete : first.getLast? = some newline)
    (more : List UInt8) : lines (first ++ more) = lines first ++ lines more := by
  induction first with
  | nil => cases hComplete
  | cons byte rest ih =>
      rw [List.cons_append, lines_cons, lines_cons]
      cases rest with
      | nil =>
          obtain rfl : byte = newline := by simpa using hComplete
          have hNone : lines [] = [] := rfl
          rw [List.nil_append, hNone]
          cases lines more <;> simp [pushByte]
      | cons next others =>
          rw [List.getLast?_cons_cons] at hComplete
          rw [ih hComplete, pushByte_append byte]
          rw [Ne, lines_eq_nil_iff]
          exact List.cons_ne_nil next others

end Text

namespace Terminal

/-- A question after the first one and its answer: the game at the prompt, and what counted as
typed. -/
structure Exchange where
  game : Game
  text : String

namespace Exchange

/-- What came of the answer. -/
def turn (exchange : Exchange) : Turn := answer exchange.game exchange.text

/-- All that was shown, with the question and in reply. -/
def lines (exchange : Exchange) : List Line := prompt exchange.game ++ exchange.turn.lines

/-- Whether the answer leaves the terminal. The question whether to play again is left by anything
but a yes. -/
def leaves (exchange : Exchange) : Bool :=
  match exchange.game.phase with
  | .finished => !isYes exchange.text
  | _ => exchange.text = "q" ∨ exchange.text = "quit"

end Exchange

/-- The loop from a game on, with some input unread. What it reads at the end of the input is an
empty line. -/
inductive Sits : Game → List UInt8 → List Exchange → Prop where
  | left {game : Game} {unread : List UInt8}
      (hNext : (answer game (typed (Text.nextLine unread).1)).next = none) :
      Sits game unread [⟨game, typed (Text.nextLine unread).1⟩]
  | stayed {game next : Game} {unread : List UInt8} {rest : List Exchange}
      (hNext : (answer game (typed (Text.nextLine unread).1)).next = some next)
      (hRest : Sits next (Text.nextLine unread).2 rest) :
      Sits game unread (⟨game, typed (Text.nextLine unread).1⟩ :: rest)

/-- What an input says on a line, counted from zero: the text of the line in plain form, or nothing
if there is no such line or its bytes are no text. -/
def said? (input : List UInt8) (number : Nat) : Option String :=
  ((Text.lines input)[number]?.bind Text.decode?).map Text.plain

/-- The exchanges from a game on, given the texts that will be typed. -/
def exchanges (game : Game) : List String → List Exchange
  | [] => [⟨game, quitText⟩]
  | text :: rest =>
      ⟨game, text⟩ ::
        match (answer game text).next with
        | none => []
        | some next => exchanges next rest

/-- The text that answers the first question. -/
def firstText (input : List UInt8) : String := typed (Text.nextLine input).1

/-- The exchanges of a session after the first question. -/
def course (clock : Int) (input : List UInt8) : List Exchange :=
  match (begin clock (firstText input)).next with
  | none => []
  | some game => exchanges game ((Text.lines (Text.nextLine input).2).map typed)

/-- A run of the program. When the game could not be started it is over after the first question,
and otherwise when the loop is; then there is an exit code. -/
inductive Runs (clock : Int) (input : List UInt8) : List Exchange → UInt32 → Prop where
  | refused (hNext : (begin clock (firstText input)).next = none) : Runs clock input [] exitCode
  | played {game : Game} {session : List Exchange}
      (hNext : (begin clock (firstText input)).next = some game)
      (hSits : Sits game (Text.nextLine input).2 session) : Runs clock input session exitCode

section Answers

variable {game : Game} {text : String}

theorem typed_of_ne_nil {line : List UInt8} (hLine : line ≠ []) :
    typed line = ((Text.decode? line).map Text.plain).getD quitText := by
  unfold typed
  rw [if_neg (by simpa using hLine)]
  cases Text.decode? line <;> rfl

theorem isYes_getD_iff {said : Option String} :
    isYes (said.getD quitText) = true ↔ said ∈ [some "y", some "yes"] := by
  cases said <;> simp [isYes, quitText]

theorem getLast?_prompt (game : Game) : (prompt game).getLast? =
    some (if game.phase = .finished then .askAgain else .askCommand) := by
  unfold prompt
  cases game.phase with
  | finished => simp only [List.getLast?_concat, if_true]
  | notStarted | active => rfl

theorem Request.ofText_eq_quit_iff : Request.ofText text = .quit ↔ text = "q" ∨ text = "quit" := by
  unfold ofText
  split
  case isTrue hQuit => simp [hQuit]
  case isFalse hStay =>
    simp only [hStay, iff_false]
    repeat' split
    all_goals simp

theorem respond_next_eq_none_iff {request : Request} :
    (respond game request).next = none ↔ request = .quit := by
  cases request <;> simp [respond, Turn.leave, Turn.goOn]

theorem Exchange.next_eq_none_iff {exchange : Exchange} :
    exchange.turn.next = none ↔ exchange.leaves = true := by
  unfold turn answer leaves
  cases exchange.game.phase with
  | finished => cases hYes : isYes exchange.text <;> simp [Turn.leave, Turn.goOn]
  | notStarted | active =>
      simp [respond_next_eq_none_iff, Request.ofText_eq_quit_iff]

/-- Nothing is said in reply to an answer that leaves the terminal. -/
theorem Exchange.lines_turn_of_leaves {exchange : Exchange} (hLeaves : exchange.leaves = true) :
    exchange.turn.lines = [] := by
  revert hLeaves
  unfold turn answer leaves
  cases exchange.game.phase with
  | finished => cases isYes exchange.text <;> simp [Turn.leave, Turn.goOn]
  | notStarted | active =>
      intro hLeaves
      have hQuit : Request.ofText exchange.text = .quit := by
        simpa [Request.ofText_eq_quit_iff] using hLeaves
      simp [hQuit, respond, Turn.leave]

/-- What leaves the terminal, told by what the input says where the answer was read. -/
theorem Exchange.leaves_iff {exchange : Exchange} {said : Option String}
    (hText : exchange.text = said.getD quitText) :
    exchange.leaves = true ↔
      if exchange.game.phase = .finished then said ∉ [some "y", some "yes"]
      else said ∈ [none, some "q", some "quit"] := by
  unfold leaves
  rw [hText]
  cases exchange.game.phase with
  | finished =>
      rw [if_pos rfl, ← isYes_getD_iff]
      simp
  | notStarted | active => cases said <;> simp [quitText]

/-- What counts as typed at the end of the input leaves the terminal whatever was asked. -/
theorem Exchange.leaves_quitText (game : Game) : Exchange.leaves ⟨game, quitText⟩ = true := by
  have hQuit : isYes "q" = false := by decide
  unfold leaves
  cases game.phase <;> simp [hQuit, quitText]

end Answers

section Loop

variable {game : Game} {unread : List UInt8} {course course' : List Exchange}

/-- The loop goes one way only. -/
theorem Sits.unique (h : Sits game unread course) (h' : Sits game unread course') :
    course = course' := by
  induction h generalizing course' with
  | left hNext =>
      cases h' with
      | left => rfl
      | stayed hNext' => simp [hNext] at hNext'
  | stayed hNext hRest ih =>
      cases h' with
      | left hNext' => simp [hNext] at hNext'
      | stayed hNext' hRest' =>
          obtain rfl : _ = _ := Option.some.inj (hNext.symm.trans hNext')
          rw [ih hRest']

/-- The loop comes to an end, with the exchanges that the texts on the lines make. -/
theorem sits_exchanges (game : Game) (unread : List UInt8) :
    Sits game unread (exchanges game ((Text.lines unread).map typed)) := by
  generalize hLines : Text.lines unread = lines
  induction lines generalizing game unread with
  | nil =>
      obtain rfl := Text.lines_eq_nil_iff.mp hLines
      exact .left (Exchange.next_eq_none_iff.mpr (Exchange.leaves_quitText game))
  | cons line rest ih =>
      have hMore : unread ≠ [] := by
        rintro rfl
        cases hLines
      rw [Text.lines_eq_cons hMore] at hLines
      obtain ⟨rfl, rfl⟩ := List.cons.inj hLines
      rw [List.map_cons, exchanges]
      cases hNext : (answer game (typed (Text.nextLine unread).1)).next with
      | none => exact .left hNext
      | some next => exact .stayed hNext (ih next _ rfl)

/-- From each of its exchanges on, the loop goes on as from the start. -/
theorem Sits.suffix {earlier later : List Exchange} {exchange : Exchange}
    (sits : Sits game unread (earlier ++ exchange :: later)) :
    ∃ unread', Sits exchange.game unread' (exchange :: later) := by
  induction earlier generalizing game unread with
  | nil =>
      cases sits with
      | left hLeft => exact ⟨unread, .left hLeft⟩
      | stayed hStayed hRest => exact ⟨unread, .stayed hStayed hRest⟩
  | cons first rest ih =>
      generalize hCourse : first :: rest ++ exchange :: later = course at sits
      cases sits with
      | left => simp at hCourse
      | stayed hStayed hRest =>
          obtain ⟨rfl, rfl⟩ := List.cons.inj hCourse
          exact ih hRest

/-- What an exchange hands on to the next one holds at every exchange, for the account that was kept
of those before. -/
theorem Sits.along {σ : Type} {note : σ → Exchange → σ} {P : Game → σ → Prop}
    (hNext : ∀ {exchange : Exchange} {account : σ} {next : Game}, P exchange.game account →
      exchange.turn.next = some next → P next (note account exchange))
    {earlier later : List Exchange} {exchange : Exchange} {account : σ}
    (sits : Sits game unread (earlier ++ exchange :: later)) (h : P game account) :
    P exchange.game (earlier.foldl note account) := by
  induction earlier generalizing game unread account with
  | nil =>
      cases sits with
      | left => exact h
      | stayed => exact h
  | cons first rest ih =>
      generalize hCourse : first :: rest ++ exchange :: later = course at sits
      cases sits with
      | left => simp at hCourse
      | stayed hStayed hRest =>
          obtain ⟨rfl, rfl⟩ := List.cons.inj hCourse
          exact ih hRest (hNext h hStayed)

/-- An exchange is the last one exactly if it leaves the terminal, and otherwise the next one goes
on with the game that it left. -/
theorem Sits.later {exchange : Exchange} {later : List Exchange}
    (sits : Sits game unread (exchange :: later)) :
    (exchange.turn.next = none ∧ later = []) ∨
      ∃ next unread', exchange.turn.next = some next ∧ Sits next unread' later := by
  cases sits with
  | left hNext => exact .inl ⟨hNext, rfl⟩
  | stayed hNext hRest => exact .inr ⟨_, _, hNext, hRest⟩

theorem Sits.exists_cons (sits : Sits game unread course) :
    ∃ text later, course = ⟨game, text⟩ :: later := by
  cases sits with
  | left => exact ⟨_, _, rfl⟩
  | stayed => exact ⟨_, _, rfl⟩

/-- The game that an answer leaves is the one of the next exchange. -/
theorem Sits.exists_next {earlier later : List Exchange} {exchange : Exchange} {next : Game}
    (sits : Sits game unread (earlier ++ exchange :: later))
    (hNext : exchange.turn.next = some next) : ∃ text rest, later = ⟨next, text⟩ :: rest := by
  obtain ⟨unread', hSuffix⟩ := sits.suffix
  rcases hSuffix.later with ⟨hNone, -⟩ | ⟨next', unread'', hSome, hRest⟩
  · simp [hNone] at hNext
  · obtain rfl := Option.some.inj (hSome.symm.trans hNext)
    exact hRest.exists_cons

theorem Sits.later_eq_nil_iff {exchange : Exchange} {later : List Exchange}
    (sits : Sits game unread (exchange :: later)) : later = [] ↔ exchange.leaves = true := by
  rw [← Exchange.next_eq_none_iff]
  rcases sits.later with ⟨hNext, rfl⟩ | ⟨next, unread', hNext, hRest⟩
  · simp [hNext]
  · obtain ⟨text, rest, rfl⟩ := hRest.exists_cons
    simp [hNext]

theorem play_eq_flatMap (game : Game) (texts : List String) :
    play game texts = (exchanges game texts).flatMap Exchange.lines := by
  induction texts generalizing game with
  | nil =>
      have hQuit := Exchange.lines_turn_of_leaves (Exchange.leaves_quitText game)
      simp [play, exchanges, Exchange.lines, hQuit]
  | cons text rest ih =>
      rw [play, exchanges, List.flatMap_cons, Exchange.lines, Exchange.turn]
      dsimp only
      cases (answer game text).next with
      | none => rfl
      | some next => exact congrArg _ (ih next)

theorem prefix_map_text_exchanges (game : Game) (texts : List String) :
    (exchanges game texts).map Exchange.text <+: texts ++ [quitText] := by
  induction texts generalizing game with
  | nil => exact List.prefix_refl _
  | cons text rest ih =>
      rw [exchanges, List.map_cons, List.cons_append, List.prefix_cons_inj]
      cases (answer game text).next with
      | none => exact List.nil_prefix
      | some next => exact ih next

/-- Up to the point where texts are missing, the terminal shows the same as with more of them. -/
theorem prefix_play (game : Game) (texts more : List String) :
    play game texts <+: play game (texts ++ more) := by
  induction texts generalizing game with
  | nil =>
      cases more with
      | nil => exact List.prefix_refl _
      | cons text rest =>
          rw [List.nil_append, play, play, List.append_assoc]
          exact List.prefix_append _ _
  | cons text rest ih =>
      rw [List.cons_append, play, play, List.prefix_append_right_inj]
      cases (answer game text).next with
      | none => exact List.prefix_refl _
      | some next => exact ih next

end Loop

section Sessions

theorem setUp_eq_after (clock : Int) (text : String) :
    setUp clock text =
      (Game.new { faceCards := isYes text } (seedAt clock)).after (shownKinds.map .on) := by
  unfold setUp Game.after
  rw [List.foldl_map]
  rfl

/-- The game that the first question sets up can be started. -/
theorem begin_eq (clock : Int) (text : String) :
    begin clock text = .goOn (shown (setUp clock text).start) (setUp clock text).start.game := by
  have hPhase : (setUp clock text).phase = .notStarted := by
    rw [setUp_eq_after, Game.after_phase_eq_notStarted_iff]
    exact ⟨rfl, by simp, by simp⟩
  unfold begin Game.start
  rw [hPhase]

theorem next_begin (clock : Int) (text : String) :
    (begin clock text).next = some (setUp clock text).start.game := by
  rw [begin_eq]
  rfl

theorem map_typed_lines (input : List UInt8) :
    ((Text.lines input).map typed).head?.getD quitText = firstText input ∧
      ((Text.lines input).map typed).tail = (Text.lines (Text.nextLine input).2).map typed := by
  by_cases hNone : input = []
  · subst hNone
    exact ⟨rfl, rfl⟩
  · rw [Text.lines_eq_cons hNone]
    exact ⟨rfl, rfl⟩

theorem course_eq (clock : Int) (input : List UInt8) :
    course clock input = exchanges (setUp clock (firstText input)).start.game
      ((Text.lines (Text.nextLine input).2).map typed) := by
  rw [course, next_begin]

theorem sits_course (clock : Int) (input : List UInt8) :
    Sits (setUp clock (firstText input)).start.game (Text.nextLine input).2
      (course clock input) := by
  rw [course_eq]
  exact sits_exchanges _ _

theorem transcript_eq (clock : Int) (input : List UInt8) :
    transcript clock input = opening ++ (begin clock (firstText input)).lines
      ++ (course clock input).flatMap Exchange.lines := by
  obtain ⟨hHead, hTail⟩ := map_typed_lines input
  rw [transcript, afterOpening, hHead, hTail, course_eq, ← play_eq_flatMap, begin_eq,
    List.append_assoc]
  rfl

/-- A text is typed for each question, line by line, and at the end of the input the one that quits:
for the first question as well, if there is no line at all, and then for one more. -/
theorem prefix_texts (clock : Int) (input : List UInt8) :
    firstText input :: (course clock input).map Exchange.text <+:
      (Text.lines input).map typed ++ [quitText, quitText] := by
  by_cases hNone : input = []
  · subst hNone
    rw [course_eq]
    exact (List.prefix_cons_inj _).mpr (prefix_map_text_exchanges _ _)
  · rw [Text.lines_eq_cons hNone, List.map_cons, List.cons_append, firstText,
      List.prefix_cons_inj, course_eq]
    refine (prefix_map_text_exchanges _ _).trans ?_
    exact (List.prefix_append_right_inj _).mpr (List.prefix_append _ _)

/-- What counts as typed is what the input says, line by line, and else the text that quits. -/
theorem eq_getD_said? {input : List UInt8} {number : Nat} {text : String}
    (hText : ((Text.lines input).map typed ++ [quitText, quitText])[number]? = some text) :
    text = (said? input number).getD quitText := by
  unfold said?
  cases hLine : (Text.lines input)[number]? with
  | none =>
      have hEnd : ((Text.lines input).map typed).length ≤ number := by
        simpa using List.getElem?_eq_none_iff.mp hLine
      rw [List.getElem?_append_right hEnd] at hText
      have hMem := List.mem_of_getElem? hText
      simpa using hMem
  | some line =>
      have hTyped : ((Text.lines input).map typed)[number]? = some (typed line) := by
        rw [List.getElem?_map, hLine, Option.map_some]
      rw [List.getElem?_append_left (List.getElem?_eq_some_iff.mp hTyped).1, hTyped] at hText
      have hSome := Text.ne_nil_of_mem_lines (List.mem_of_getElem? hLine)
      rw [← Option.some.inj hText, typed_of_ne_nil hSome, Option.bind_some]

theorem firstText_eq (input : List UInt8) : firstText input = (said? input 0).getD quitText := by
  obtain ⟨unused, hTexts⟩ := prefix_texts 0 input
  exact eq_getD_said? (by rw [← hTexts]; rfl)

/-- The first line answers the first question, and each exchange takes the next one. -/
theorem text_eq {clock : Int} {input : List UInt8} {earlier later : List Exchange}
    {exchange : Exchange} (hSplit : course clock input = earlier ++ exchange :: later) :
    exchange.text = (said? input (earlier.length + 1)).getD quitText := by
  obtain ⟨unused, hTexts⟩ := prefix_texts clock input
  refine eq_getD_said? ?_
  rw [← hTexts]
  simp [hSplit]

/-- A run is over after the exchanges of the session, with the exit code 0. -/
theorem runs_iff {clock : Int} {input : List UInt8} {session : List Exchange} {code : UInt32} :
    Runs clock input session code ↔ session = course clock input ∧ code = 0 := by
  have hBegin := next_begin clock (firstText input)
  constructor
  · rintro (hNone | ⟨hNext, hSits⟩)
    · rw [hBegin] at hNone
      cases hNone
    · obtain rfl := Option.some.inj (hBegin.symm.trans hNext)
      exact ⟨hSits.unique (sits_course clock input), rfl⟩
  · rintro ⟨rfl, rfl⟩
    exact .played hBegin (sits_course clock input)

theorem prefix_transcript {first : List UInt8} (hComplete : first.getLast? = some Text.newline)
    (clock : Int) (more : List UInt8) :
    transcript clock first <+: transcript clock (first ++ more) := by
  have hMore : first ≠ [] := by
    rintro rfl
    cases hComplete
  unfold transcript afterOpening
  rw [Text.lines_append hComplete, Text.lines_eq_cons hMore, List.prefix_append_right_inj]
  simp only [List.map_append, List.map_cons, List.cons_append, List.head?_cons, List.tail_cons,
    begin_eq, Turn.goOn, List.prefix_append_right_inj]
  exact prefix_play _ _ _

theorem output_append {first : List UInt8} (hComplete : first.getLast? = some Text.newline)
    (clock : Int) (more : List UInt8) :
    ∃ rest, output clock (first ++ more) = output clock first ++ rest := by
  obtain ⟨shown, hShown⟩ := prefix_transcript hComplete clock more
  refine ⟨String.join (shown.map Line.text), ?_⟩
  unfold output
  rw [← hShown, List.map_append, String.join_append]

/-- For every clock and every input:

* the program runs to its end in one way, and has the exit code 0 then: the loop that reads line by
  line comes to an end, and what the session shows is what its exchanges show;
* what counts as typed is the text of a line in plain form, and at the end of the input, as for a
  line that is no text, the text that quits. The first question is answered by the first line, and
  each exchange in turn by the next one;
* an exchange is the last one exactly if there is no such line, if it is no text or if it quits, and
  at the question whether to play again exactly if there is no line that says yes. Nothing is shown
  in reply to it;
* the output for an input of complete lines is the first part of the output for every input that
  goes on from it. -/
theorem session_reads_line_by_line (clock : Int) (input : List UInt8) :
    ((∀ session code, Runs clock input session code ↔ session = course clock input ∧ code = 0) ∧
      (∃ game, (begin clock (firstText input)).next = some game ∧
        ∀ session, Sits game (Text.nextLine input).2 session ↔ session = course clock input) ∧
      transcript clock input = opening ++ (begin clock (firstText input)).lines
        ++ (course clock input).flatMap Exchange.lines) ∧
    (typed [] = "q" ∧
      ∀ line, line ≠ [] → typed line = ((Text.decode? line).map Text.plain).getD "q") ∧
    firstText input = (said? input 0).getD "q" ∧
    (∀ earlier exchange later, course clock input = earlier ++ exchange :: later →
      exchange.text = (said? input (earlier.length + 1)).getD "q" ∧
      ((prompt exchange.game).getLast? = some .askCommand ∧
          (later = [] ↔ said? input (earlier.length + 1) ∈ [none, some "q", some "quit"]) ∨
        (prompt exchange.game).getLast? = some .askAgain ∧
          (later = [] ↔ said? input (earlier.length + 1) ∉ [some "y", some "yes"])) ∧
      (later = [] → exchange.turn.lines = [])) ∧
    (input.getLast? = some Text.newline →
      ∀ more, ∃ rest, output clock (input ++ more) = output clock input ++ rest) := by
  have hSits := sits_course clock input
  refine ⟨⟨fun session code => runs_iff, ⟨_, next_begin clock _, fun session => ?_⟩,
    transcript_eq clock input⟩, ⟨rfl, fun line hLine => typed_of_ne_nil hLine⟩, firstText_eq input,
    ?_, fun hComplete => output_append hComplete clock⟩
  · exact ⟨fun h => h.unique hSits, fun hSame => hSame ▸ hSits⟩
  · intro earlier exchange later hSplit
    have hText := text_eq hSplit
    rw [hSplit] at hSits
    obtain ⟨unread, hLater⟩ := hSits.suffix
    have hLast := hLater.later_eq_nil_iff.trans (Exchange.leaves_iff hText)
    refine ⟨hText, ?_, fun hNone =>
      Exchange.lines_turn_of_leaves (hLater.later_eq_nil_iff.mp hNone)⟩
    rw [getLast?_prompt]
    by_cases hPhase : exchange.game.phase = .finished
    · rw [if_pos hPhase] at hLast ⊢
      exact .inr ⟨rfl, hLast⟩
    · rw [if_neg hPhase] at hLast ⊢
      exact .inl ⟨rfl, hLast⟩

/-- A scoreboard is asked for, an attempt is made and the session is left; the line after that is
not read. A line that is no text ends a session as well. -/
theorem session_reads_line_by_line_quit :
    (let input := "n\nscore\n10 * 2 + 2 + 2\nquit\nskip\n".toUTF8.data.toList
      ∃ first second third, Runs 7 input [first, second, third] 0 ∧
        first.text = "score" ∧ second.text = "10 * 2 + 2 + 2" ∧ third.text = "quit" ∧
        third.turn.lines = [] ∧ said? input 4 = some "skip" ∧
        ∀ more, ∃ rest, output 7 (input ++ more) = output 7 input ++ rest) ∧
    let input := "n\n".toUTF8.data.toList ++ 0xFF :: "\nskip\n".toUTF8.data.toList
    ∃ only, Runs 7 input [only] 0 ∧ said? input 1 = none ∧ only.text = "q" := by
  constructor
  · intro input
    obtain ⟨⟨hRuns, -⟩, -, -, hExchanges, hOutput⟩ := session_reads_line_by_line 7 input
    have hTexts : (course 7 input).map Exchange.text = ["score", "10 * 2 + 2 + 2", "quit"] := by
      decide +kernel
    obtain ⟨first, second, third, hCourse⟩ :=
      List.length_eq_three.mp ((List.length_map _).symm.trans (congrArg List.length hTexts))
    have hSaid : said? input 1 = some "score" ∧ said? input 2 = some "10 * 2 + 2 + 2" ∧
        said? input 3 = some "quit" ∧ said? input 4 = some "skip" := by
      decide +kernel
    obtain ⟨hFirst, hSecond, hThird, hFourth⟩ := hSaid
    obtain ⟨hText, -, hLast⟩ := hExchanges [first, second] third [] hCourse
    refine ⟨first, second, third, (hRuns _ _).mpr ⟨hCourse.symm, rfl⟩, ?_, ?_, ?_, hLast rfl,
      hFourth, hOutput (by decide +kernel)⟩
    · exact (hExchanges [] first _ hCourse).1.trans (congrArg (Option.getD · "q") hFirst)
    · exact (hExchanges [first] second _ hCourse).1.trans (congrArg (Option.getD · "q") hSecond)
    · exact hText.trans (congrArg (Option.getD · "q") hThird)
  · intro input
    obtain ⟨⟨hRuns, -⟩, -, -, hExchanges, -⟩ := session_reads_line_by_line 7 input
    have hTexts : (course 7 input).map Exchange.text = ["q"] := by decide +kernel
    obtain ⟨only, hCourse⟩ :=
      List.length_eq_one_iff.mp ((List.length_map _).symm.trans (congrArg List.length hTexts))
    have hSaid : said? input 1 = none := by decide +kernel
    refine ⟨only, (hRuns _ _).mpr ⟨hCourse.symm, rfl⟩, hSaid, ?_⟩
    exact (hExchanges [] only [] hCourse).1.trans (congrArg (Option.getD · "q") hSaid)

end Sessions

end Terminal

end Make24
