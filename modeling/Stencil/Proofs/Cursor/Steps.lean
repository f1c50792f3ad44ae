import Stencil.Proofs.Grammar.Steps
import Stencil.Proofs.Cursor.Reader

/-!
# What a cursor does at single steps

A reader with a cursor mirrors a parser: it stands at a cursor where the parser has what is behind
the cursor.  It stops where the parser stops and yields what the parser yields, it does not pass
the mark for the end, and the record of each of its steps is sound.
-/

namespace Stencil.Cursor

open Stencil.Parser
open Token (Kind)

/-- What is special to the steps of one kind. -/
def Record.Keeps (record : Record) (tokens : List Token) : Prop :=
  match record.step with
  | .look | .seeElse => record.after.cursor = record.before.cursor
  | .lookBack =>
    0 < record.before.cursor ∧
      ∃ token, tokens[record.before.cursor - 1]? = some token ∧ token.kind ≠ .endMark
  | .eat kind =>
    if record.succeeded then
      record.after.cursor = record.before.cursor + 1 ∧
        ∃ token, tokens[record.before.cursor]? = some token ∧ token.kind = kind ∧ kind ≠ .endMark
    else
      record.after.cursor = record.before.cursor
  | .advance =>
    record.after.cursor = record.before.cursor + 1 ∧
      ∃ token, tokens[record.before.cursor]? = some token ∧ token.kind ≠ .endMark
  | .attempt | .eatSequence _ | .eatElse | .consume _ =>
    record.succeeded = false → record.after.cursor = record.before.cursor
  | .statement _ => record.succeeded = true → record.before.cursor < record.after.cursor

/-- A step begins and ends in bounds, in as many statements, and does what it is for. -/
structure Record.Sound (tokens : List Token) (record : Record) : Prop where
  before_le : record.before.cursor ≤ Token.endPlace tokens
  after_le : record.after.cursor ≤ Token.endPlace tokens
  depth_eq : record.after.depth = record.before.depth
  keeps : record.Keeps tokens

/-- Tokens up to the first mark for the end, the mark, and what stands behind it. -/
structure Source where
  body : List Token
  mark : Token
  behind : List Token
  options : CompileOptions
  noMark : ∀ token ∈ body, token.kind ≠ .endMark
  isMark : mark.kind = .endMark

namespace Source

variable {source : Source} {depth : Nat} {state after : State} {α β : Type}
variable {rest others : List Token} {first : Token}

def tokens (source : Source) : List Token :=
  source.body ++ source.mark :: source.behind

def input (source : Source) : Input :=
  ⟨source.tokens, source.options⟩

theorem endPlace_tokens (source : Source) : Token.endPlace source.tokens = source.body.length := by
  have notInBody : (source.body.findIdx fun token => token.kind == .endMark) =
      source.body.length := by
    rw [List.findIdx_eq_length]
    intro token member
    simp [source.noMark token member]
  rw [Token.endPlace, tokens, List.findIdx_append, notInBody]
  simp [List.findIdx_cons, source.isMark]

theorem getElem?_tokens {place : Nat} (within : place < source.body.length) :
    source.tokens[place]? = source.body[place]? := by
  rw [tokens, List.getElem?_append_left within]

/-- The token at a cursor is the first one left, or the mark if none is. -/
theorem tokens_getElem? {place : Nat} (within : place ≤ source.body.length) :
    source.tokens[place]? = some ((source.body.drop place).headD source.mark) := by
  rcases Nat.lt_or_eq_of_le within with inBody | rfl
  · rw [getElem?_tokens inBody, List.drop_eq_getElem_cons inBody]
    simp [inBody]
  · simp [tokens]

theorem lt_of_drop_eq_cons {place : Nat} (dropped : source.body.drop place = first :: others) :
    place < source.body.length := by
  by_contra beyond
  rw [List.drop_eq_nil_of_le (Nat.le_of_not_lt beyond)] at dropped
  cases dropped

theorem body_getElem?_of_drop {place : Nat} (dropped : source.body.drop place = first :: others) :
    source.body[place]? = some first := by
  have isFirst : (source.body.drop place)[0]? = some first := by rw [dropped]; rfl
  rwa [List.getElem?_drop] at isFirst

theorem kind_ne_endMark {place : Nat} (dropped : source.body.drop place = first :: others) :
    first.kind ≠ .endMark :=
  source.noMark first (List.mem_of_getElem? (body_getElem?_of_drop dropped))

/-- The token at a cursor behind which some are left. -/
theorem tokens_getElem?_of_drop {place : Nat}
    (dropped : source.body.drop place = first :: others) :
    source.tokens[place]? = some first ∧ first.kind ≠ .endMark := by
  rw [getElem?_tokens (lt_of_drop_eq_cons dropped)]
  exact ⟨body_getElem?_of_drop dropped, kind_ne_endMark dropped⟩

/-- A cursor is where as many tokens are left. -/
theorem cursor_eq_of_drop_eq {place place' : Nat} (within : place ≤ source.body.length)
    (within' : place' ≤ source.body.length)
    (same : source.body.drop place' = source.body.drop place) : place' = place := by
  have sameLength := congrArg List.length same
  rw [List.length_drop, List.length_drop] at sameLength
  omega

theorem cursor_eq_succ {place place' : Nat} (within : place' ≤ source.body.length)
    (dropped : source.body.drop place = first :: others)
    (dropped' : source.body.drop place' = others) : place' = place + 1 := by
  have inBody := lt_of_drop_eq_cons dropped
  apply cursor_eq_of_drop_eq inBody within
  rw [dropped', ← List.tail_drop, dropped]
  rfl

theorem cursor_lt_of_length_le {place place' : Nat}
    (dropped : source.body.drop place = first :: others)
    (shorter : (source.body.drop place').length ≤ others.length) : place < place' := by
  have isLeft := congrArg List.length dropped
  rw [List.length_drop, List.length_cons] at isLeft
  rw [List.length_drop] at shorter
  omega

/-! ## Mirrors -/

/-- From one state a reader came to another one by sound steps, without going back. -/
structure Moves (source : Source) (state after : State) : Prop where
  forward : state.cursor ≤ after.cursor
  within : after.cursor ≤ source.body.length
  depth_eq : after.depth = state.depth
  records : ∃ more, after.records = state.records ++ more ∧
    ∀ record ∈ more, record.Sound source.tokens

theorem Moves.refl (within : state.cursor ≤ source.body.length) : source.Moves state state where
  forward := Nat.le_refl _
  within := within
  depth_eq := rfl
  records := ⟨[], by simp, by simp⟩

theorem Moves.trans {middle : State} (first : source.Moves state middle)
    (second : source.Moves middle after) : source.Moves state after where
  forward := Nat.le_trans first.forward second.forward
  within := second.within
  depth_eq := second.depth_eq.trans first.depth_eq
  records := by
    rcases first.records with ⟨some, isSome, soundSome⟩
    rcases second.records with ⟨more, isMore, soundMore⟩
    refine ⟨some ++ more, by rw [isMore, isSome, List.append_assoc], ?_⟩
    intro record member
    rcases List.mem_append.mp member with isIn | isIn
    · exact soundSome record isIn
    · exact soundMore record isIn

/-- A cursor that is put back where it was has not moved. -/
theorem Moves.putBack (moves : source.Moves state after) :
    source.Moves state { after with cursor := state.cursor } where
  forward := Nat.le_refl _
  within := Nat.le_trans moves.forward moves.within
  depth_eq := moves.depth_eq
  records := moves.records

theorem Moves.recorded {step : Step} {succeeded : Bool} (moves : source.Moves state after)
    (keeps : Record.Keeps ⟨step, state.toPlace, after.toPlace, succeeded⟩ source.tokens) :
    source.Moves state
      { after with
        records := after.records ++ [⟨step, state.toPlace, after.toPlace, succeeded⟩] } where
  forward := moves.forward
  within := moves.within
  depth_eq := moves.depth_eq
  records := by
    have sound : Record.Sound source.tokens ⟨step, state.toPlace, after.toPlace, succeeded⟩ :=
      { before_le := by
          rw [endPlace_tokens]
          exact Nat.le_trans moves.forward moves.within
        after_le := by
          rw [endPlace_tokens]
          exact moves.within
        depth_eq := moves.depth_eq
        keeps }
    rcases moves.records with ⟨more, isMore, soundMore⟩
    refine ⟨more ++ [_], by rw [isMore, List.append_assoc], ?_⟩
    intro record member
    rcases List.mem_append.mp member with isIn | isIn
    · exact soundMore record isIn
    · exact List.mem_singleton.mp isIn ▸ sound

/-- What a reader came to from a state mirrors the outcome of a parser. -/
inductive Mirrors (source : Source) (state : State) :
    Option (Except ParseError α × State) → Except Fault (α × List Token) → Prop where
  | ok {value : α} {after : State} : source.Moves state after →
      Mirrors source state (some (.ok value, after))
        (.ok (value, source.body.drop after.cursor))
  | error {fault : Fault} {after : State} : source.Moves state after →
      Mirrors source state (some (.error (fault.toError source.mark.line), after)) (.error fault)

/-- A reader mirrors an outcome wherever so many statements are open and the given tokens are
left. -/
def Reads (source : Source) (depth : Nat) (reader : Reader α) (rest : List Token)
    (outcome : Except Fault (α × List Token)) : Prop :=
  ∀ state : State, state.cursor ≤ source.body.length → state.depth = depth →
    source.body.drop state.cursor = rest →
    source.Mirrors state (reader source.input state) outcome

/-- A reader mirrors a parser wherever so many statements are open. -/
def Follows (source : Source) (depth : Nat) (reader : Reader α) (parser : Parser α) : Prop :=
  ∀ rest, source.Reads depth reader rest (parser rest)

variable {reader : Reader α} {next : α → Reader β} {outcome : Except Fault (α × List Token)}
variable {value : α}

theorem Mirrors.ok_of_drop (moves : source.Moves state after)
    (dropped : source.body.drop after.cursor = rest) :
    source.Mirrors state (some (.ok value, after)) (.ok (value, rest)) := by
  rw [← dropped]
  exact .ok moves

theorem Mirrors.exists_ok {result : Option (Except ParseError α × State)}
    (mirrors : source.Mirrors state result (.ok (value, rest))) :
    ∃ after, result = some (.ok value, after) ∧ source.Moves state after ∧
      source.body.drop after.cursor = rest := by
  cases mirrors with
  | ok moves => exact ⟨_, rfl, moves, rfl⟩

theorem Mirrors.trans {middle : State} {result : Option (Except ParseError α × State)}
    (moves : source.Moves state middle) (mirrors : source.Mirrors middle result outcome) :
    source.Mirrors state result outcome := by
  cases mirrors with
  | ok more => exact .ok (moves.trans more)
  | error more => exact .error (moves.trans more)

theorem bind_apply {input : Input} (ok : reader input state = some (.ok value, after)) :
    (reader >>= next) input state = next value input after := by
  simp only [bind, ok]

theorem bind_apply_of_error {input : Input} {error : ParseError}
    (stopped : reader input state = some (.error error, after)) :
    (reader >>= next) input state = some (.error error, after) := by
  simp only [bind, stopped]

theorem Mirrors.bind
    (first : source.Mirrors state (reader source.input state) outcome)
    (further : α → List Token → Except Fault (β × List Token))
    (second : ∀ value after, source.Moves state after →
      outcome = .ok (value, source.body.drop after.cursor) →
      source.Mirrors after (next value source.input after)
        (further value (source.body.drop after.cursor))) :
    source.Mirrors state ((reader >>= next) source.input state)
      (outcome >>= fun taken => further taken.1 taken.2) := by
  generalize isRead : reader source.input state = result at first
  cases first with
  | @ok value after moves =>
      rw [bind_apply isRead]
      exact .trans moves (second value after moves rfl)
  | error moves =>
      rw [bind_apply_of_error isRead]
      exact .error moves

theorem Reads.bind (first : source.Reads depth reader rest outcome)
    (further : α → List Token → Except Fault (β × List Token))
    (second : ∀ value others, outcome = .ok (value, others) →
      source.Reads depth (next value) others (further value others)) :
    source.Reads depth (reader >>= next) rest
      (outcome >>= fun taken => further taken.1 taken.2) := by
  intro state within isDepth dropped
  apply (first state within isDepth dropped).bind further
  intro value after moves read
  exact second value _ read after moves.within (moves.depth_eq.trans isDepth) rfl

/-- A step that does not stop, in front of others. -/
theorem Reads.before {outcome : Except Fault (β × List Token)}
    (first : source.Reads depth reader rest (.ok (value, others)))
    (second : source.Reads depth (next value) others outcome) :
    source.Reads depth (reader >>= next) rest outcome := by
  apply first.bind fun _ _ => outcome
  intro _ _ read
  cases read
  exact second

theorem Reads.pure : source.Reads depth (Pure.pure value) rest (.ok (value, rest)) := by
  intro state within _ dropped
  exact .ok_of_drop (.refl within) dropped

theorem Follows.bind {parser : Parser α} {further : α → Parser β}
    (first : source.Follows depth reader parser)
    (second : ∀ value, source.Follows depth (next value) (further value)) :
    source.Follows depth (reader >>= next) (parser >>= further) := by
  intro rest
  apply (first rest).bind further
  intro value others _
  exact second value others

/-- The same for a step whose result is not used. -/
theorem Follows.andThen {parser : Parser α} {next : Reader β} {further : Parser β}
    (first : source.Follows depth reader parser) (second : source.Follows depth next further) :
    source.Follows depth (reader >>= fun _ => next) (parser >>= fun _ => further) :=
  first.bind fun _ => second

theorem Follows.pure : source.Follows depth (Pure.pure value) (Pure.pure value) := by
  intro rest
  exact Reads.pure

/-- A step that does not stop may be recorded if it keeps to what is special to it. -/
theorem Reads.recorded {step : Step} {found : α → Bool}
    (reads : source.Reads depth reader rest (.ok (value, others)))
    (keeps : ∀ before after : Place, before.cursor ≤ after.cursor →
      after.cursor ≤ source.body.length → source.body.drop before.cursor = rest →
      source.body.drop after.cursor = others →
      Record.Keeps ⟨step, before, after, found value⟩ source.tokens) :
    source.Reads depth (Cursor.recorded step found reader) rest (.ok (value, others)) := by
  intro state within isDepth dropped
  rcases (reads state within isDepth dropped).exists_ok with ⟨after, read, moves, left⟩
  have kept := keeps state.toPlace after.toPlace moves.forward moves.within dropped left
  have isRecorded : Cursor.recorded step found reader source.input state =
      some (.ok value, { after with
        records := after.records ++ [⟨step, state.toPlace, after.toPlace, found value⟩] }) := by
    simp only [Cursor.recorded, read]
    rfl
  rw [isRecorded]
  exact .ok_of_drop (moves.recorded kept) left

/-- The same where it matters only that a step that misses what it is for takes no tokens. -/
theorem Reads.recorded_of_stays {step : Step} {found : α → Bool}
    (reads : source.Reads depth reader rest (.ok (value, others)))
    (stays : found value = false → others = rest)
    (keeps : ∀ before after : Place,
      (found value = false → after.cursor = before.cursor) →
      Record.Keeps ⟨step, before, after, found value⟩ source.tokens) :
    source.Reads depth (Cursor.recorded step found reader) rest (.ok (value, others)) := by
  apply reads.recorded
  intro before after forward within dropped left
  apply keeps
  intro notFound
  apply cursor_eq_of_drop_eq (Nat.le_trans forward within) within
  rw [left, dropped, stays notFound]

/-! ## Single steps -/

theorem tokenAt_apply {place : Nat} {token : Token} (isThere : source.tokens[place]? = some token) :
    tokenAt place source.input state = some (.ok token, state) := by
  simp only [tokenAt, input, isThere]
  rfl

theorem peek_reads : source.Reads depth peek rest (.ok (rest.headD source.mark, rest)) := by
  refine Reads.recorded ?looks ?keeps
  case looks =>
    intro state within _ dropped
    change source.Mirrors state
      (tokenAt (min state.cursor (source.tokens.length - 1)) source.input state) _
    have inBounds : min state.cursor (source.tokens.length - 1) = state.cursor := by
      rw [tokens, List.length_append, List.length_cons]
      omega
    rw [inBounds, tokenAt_apply (tokens_getElem? within), dropped]
    exact .ok_of_drop (.refl within) dropped
  case keeps =>
    intro before after forward within dropped left
    exact cursor_eq_of_drop_eq (Nat.le_trans forward within) within (left.trans dropped.symm)

theorem check_reads (kind : Kind) :
    source.Reads depth (check kind) rest
      (.ok (decide ((rest.headD source.mark).kind = kind), rest)) :=
  peek_reads.before .pure

/-- A look at the token at the cursor, which is not for the mark for the end. -/
theorem check_sees {kind : Kind} (other : kind ≠ .endMark) :
    source.Reads depth (check kind) rest (.ok (startsWith kind rest, rest)) := by
  have same : decide ((rest.headD source.mark).kind = kind) = startsWith kind rest := by
    cases rest with
    | nil => simpa [source.isMark] using other.symm
    | cons first others => simp
  rw [← same]
  exact check_reads kind

theorem isAtEnd_sees : source.Reads depth isAtEnd rest (.ok (rest.isEmpty, rest)) := by
  intro state within isDepth dropped
  have same : decide ((rest.headD source.mark).kind = .endMark) = rest.isEmpty := by
    cases rest with
    | nil => simp [source.isMark]
    | cons first others => simpa using kind_ne_endMark dropped
  rw [← same]
  exact check_reads .endMark state within isDepth dropped

theorem moveOn_reads : source.Reads depth moveOn (first :: others) (.ok ((), others)) := by
  intro state within _ dropped
  have inBody := lt_of_drop_eq_cons dropped
  have moves : source.Moves state { state with cursor := state.cursor + 1 } :=
    { forward := Nat.le_succ _
      within := inBody
      depth_eq := rfl
      records := ⟨[], by simp, by simp⟩ }
  refine .ok_of_drop moves ?_
  change source.body.drop (state.cursor + 1) = others
  rw [← List.tail_drop, dropped]
  rfl

theorem eat_missing {kind : Kind} (missing : startsWith kind rest = false) :
    source.Reads depth (eat kind) rest (.ok (false, rest)) := by
  refine Reads.recorded_of_stays ?eats (fun _ => rfl) (fun _ _ stays => stays rfl)
  by_cases isMark : kind = .endMark
  · rw [if_pos isMark]
    exact .pure
  · rw [if_neg isMark]
    apply (check_sees isMark).before
    rw [missing]
    exact .pure

theorem eat_there : source.Reads depth (eat first.kind) (first :: others) (.ok (true, others)) := by
  intro state within isDepth dropped
  have other := kind_ne_endMark dropped
  refine Reads.recorded ?eats ?keeps state within isDepth dropped
  case eats =>
    rw [if_neg other]
    apply (check_sees other).before
    rw [startsWith_cons, decide_eq_true rfl]
    exact moveOn_reads.before .pure
  case keeps =>
    intro before after _ within dropped left
    have isThere := (tokens_getElem?_of_drop dropped).1
    exact ⟨cursor_eq_succ within dropped left, first, isThere, rfl, other⟩

theorem eat_follows (kind : Kind) : source.Follows depth (eat kind) (accept kind) := by
  intro rest
  cases rest with
  | nil => exact eat_missing rfl
  | cons first others =>
      by_cases isKind : first.kind = kind
      · subst isKind
        simpa [accept, take?] using eat_there
      · have missing : startsWith kind (first :: others) = false := by simpa using isKind
        simpa [accept, take?, isKind] using eat_missing missing

/-- Behind at least one token, the token before the cursor is the last one taken. -/
theorem previous_mirrors {place : Nat} {token : Token} (isPlace : state.cursor = place + 1)
    (within : state.cursor ≤ source.body.length) (isThere : source.body[place]? = some token) :
    source.Mirrors state (previous source.input state)
      (.ok (token, source.body.drop state.cursor)) := by
  have inTokens : source.tokens[state.cursor - 1]? = some token := by
    rw [isPlace, Nat.add_sub_cancel, getElem?_tokens (by omega), isThere]
  have other : token.kind ≠ .endMark := source.noMark token (List.mem_of_getElem? isThere)
  have looks : previous source.input state = some (.ok token, { state with
      records := state.records ++ [⟨.lookBack, state.toPlace, state.toPlace, true⟩] }) := by
    change (tokenAt (state.cursor - 1) source.input state).bind _ = _
    rw [tokenAt_apply inTokens]
    rfl
  have keeps : Record.Keeps ⟨.lookBack, state.toPlace, state.toPlace, true⟩ source.tokens :=
    ⟨by change 0 < state.cursor; omega, token, inTokens, other⟩
  rw [looks]
  exact .ok ((Moves.refl within).recorded keeps)

/-- A step that takes one token, and a look back at it. -/
theorem Reads.beforePrevious {step : Reader α}
    (reads : source.Reads depth step (first :: others) (.ok (value, others))) :
    source.Reads depth (step >>= fun _ => previous) (first :: others) (.ok (first, others)) := by
  intro state within isDepth dropped
  apply (reads state within isDepth dropped).bind fun _ others => .ok (first, others)
  intro _ after moves read
  have left : source.body.drop after.cursor = others := by
    cases read
    rfl
  have isNext := cursor_eq_succ moves.within dropped left
  exact previous_mirrors isNext moves.within (body_getElem?_of_drop dropped)

theorem advance_reads : source.Reads depth advance (first :: others) (.ok (first, others)) := by
  refine Reads.recorded (isAtEnd_sees.before moveOn_reads.beforePrevious) ?keeps
  intro before after _ within dropped left
  exact ⟨cursor_eq_succ within dropped left, first, tokens_getElem?_of_drop dropped⟩

theorem errorAt_mark {cause : ParseError.Cause} :
    errorAt source.mark cause = (Fault.mk none cause).toError source.mark.line := by
  simp [errorAt, source.isMark, Fault.toError]

theorem errorAt_token {cause : ParseError.Cause} (other : first.kind ≠ .endMark) (line : Nat) :
    errorAt first cause = (Fault.mk (some first) cause).toError line := by
  simp [errorAt, other, Fault.toError]

theorem errorAt_headD {place : Nat} (cause : ParseError.Cause)
    (dropped : source.body.drop place = rest) :
    errorAt (rest.headD source.mark) cause =
      (Fault.mk rest.head? cause).toError source.mark.line := by
  cases rest with
  | nil => exact errorAt_mark
  | cons first others => exact errorAt_token (kind_ne_endMark dropped) _

/-- Stopping at the cursor is stopping at the first token left, or at the end.  The cursor stays. -/
theorem exists_stopHere (cause : ParseError.Cause) (within : state.cursor ≤ source.body.length)
    (dropped : source.body.drop state.cursor = rest) :
    ∃ after, stopHere (α := α) cause source.input state =
        some (.error ((Fault.mk rest.head? cause).toError source.mark.line), after) ∧
      source.Moves state after ∧ after.cursor = state.cursor := by
  rcases (peek_reads state within rfl dropped).exists_ok with ⟨after, looks, moves, left⟩
  refine ⟨after, ?_, moves, ?_⟩
  · rw [stopHere, bind_apply looks, errorAt_headD cause dropped]
    rfl
  · exact cursor_eq_of_drop_eq within moves.within (left.trans dropped.symm)

theorem stopHere_reads (cause : ParseError.Cause) :
    source.Reads depth (stopHere (α := α) cause) rest (.error ⟨rest.head?, cause⟩) := by
  intro state within _ dropped
  rcases exists_stopHere cause within dropped with ⟨after, stopped, moves, _⟩
  rw [stopped]
  exact .error moves

/-- Stopping behind at least one token is stopping at the last one taken. -/
theorem stopBehind_mirrors {place : Nat} {token : Token} (cause : ParseError.Cause)
    (isPlace : state.cursor = place + 1) (within : state.cursor ≤ source.body.length)
    (isThere : source.body[place]? = some token) :
    source.Mirrors state (stopBehind (α := α) cause source.input state)
      (.error ⟨some token, cause⟩) := by
  apply (previous_mirrors isPlace within isThere).bind fun _ _ => .error ⟨some token, cause⟩
  intro behind after moves read
  have isBehind : token = behind := (Prod.mk.inj (Except.ok.inj read)).1
  have other : token.kind ≠ .endMark := source.noMark token (List.mem_of_getElem? isThere)
  change source.Mirrors after (some (.error (errorAt behind cause), after)) _
  rw [← isBehind, errorAt_token other source.mark.line]
  exact .error (.refl moves.within)

theorem consume_there {what : Expectation} :
    source.Reads depth (consume first.kind what) (first :: others) (.ok (first, others)) := by
  refine Reads.recorded_of_stays ?eats ?notFound (fun _ _ stays => stays)
  case eats =>
    intro state within isDepth dropped
    rcases (eat_there state within isDepth dropped).exists_ok with ⟨after, eaten, moves, left⟩
    have isNext := cursor_eq_succ moves.within dropped left
    rw [bind_apply eaten, ← left]
    exact .trans moves
      (previous_mirrors isNext moves.within (body_getElem?_of_drop dropped))
  case notFound =>
    intro impossible
    cases impossible

theorem consume_missing {kind : Kind} {what : Expectation}
    (missing : startsWith kind rest = false) :
    source.Reads depth (consume kind what) rest (.error ⟨rest.head?, .expected what⟩) := by
  intro state within isDepth dropped
  rcases (eat_missing missing state within isDepth dropped).exists_ok with
    ⟨middle, eats, toMiddle, left⟩
  rcases exists_stopHere (α := Token) (.expected what) toMiddle.within left with
    ⟨after, stopped, toAfter, stays⟩
  -- `Mirrors` does not say where a reader stands that stopped, so its last state is found here.
  have stands : middle.cursor = state.cursor :=
    cursor_eq_of_drop_eq within toMiddle.within (left.trans dropped.symm)
  have keeps : Record.Keeps ⟨.consume kind, state.toPlace, after.toPlace, false⟩ source.tokens :=
    fun _ => stays.trans stands
  have stops : (eat kind >>= fun isThere =>
      if isThere then previous else stopHere (.expected what)) source.input state =
      some (.error ((Fault.mk rest.head? (.expected what)).toError source.mark.line), after) := by
    rw [bind_apply eats]
    exact stopped
  simp only [consume, Cursor.recorded, stops]
  exact .error ((toMiddle.trans toAfter).recorded keeps)

theorem consume_follows (kind : Kind) (what : Expectation) :
    source.Follows depth (consume kind what) (expect kind what) := by
  intro rest
  cases rest with
  | nil => exact consume_missing rfl
  | cons first others =>
      by_cases isKind : first.kind = kind
      · subst isKind
        simpa [expect, take?] using consume_there
      · have missing : startsWith kind (first :: others) = false := by simpa using isKind
        simpa [expect, take?, isKind] using consume_missing missing

theorem expect_eq_ok {kind : Kind} {what : Expectation} :
    expect kind what rest = .ok (first, others) ↔ rest = first :: others ∧ first.kind = kind := by
  rw [← take?_eq_some, expect]
  cases take? kind rest <;> simp

/-- A token is taken and looked at again where a condition on it fails. -/
theorem consume_demand_follows {kind : Kind} {what : Expectation} {fits : Token → Bool}
    {cause : Token → ParseError.Cause} {next : Token → Reader β} {further : Token → Parser β}
    (follows : ∀ token, source.Follows depth (next token) (further token)) :
    source.Follows depth
      (consume kind what >>= fun token => demand (fits token) (cause token) >>= fun _ =>
        next token)
      (expect kind what >>= fun token => require (fits token) token (cause token) >>= fun _ =>
        further token) := by
  intro rest state within isDepth dropped
  apply (consume_follows kind what rest state within isDepth dropped).bind
    fun token => require (fits token) token (cause token) >>= fun _ => further token
  intro token after moves read
  have isFirst : rest = token :: source.body.drop after.cursor :=
    (expect_eq_ok.mp read).1
  subst isFirst
  by_cases isFit : fits token = true
  · simp only [demand, require, isFit, if_true]
    exact follows token _ after moves.within (moves.depth_eq.trans isDepth) rfl
  · have isNext := cursor_eq_succ moves.within dropped rfl
    have isThere := body_getElem?_of_drop dropped
    simp only [demand, require, isFit]
    exact (stopBehind_mirrors (cause token) isNext moves.within isThere).bind
      (fun _ => further token) (by simp)

end Source

end Stencil.Cursor
