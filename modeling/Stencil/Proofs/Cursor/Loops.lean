import Stencil.Proofs.Reading.Constructs
import Stencil.Proofs.Cursor.Steps

/-!
# What a cursor does in loops and looks ahead

A loop goes round as often as a step in it takes a token, so it ends before it has gone round as
often as there are tokens.  A look ahead comes back to where it began unless it is to move on.
-/

namespace Stencil.Cursor.Source

open Stencil.Parser
open Token (Kind)

variable {source : Source} {depth : Nat} {state after : State} {α β : Type}
variable {rest others : List Token} {first : Token}
variable {reader : Reader α} {outcome : Except Fault (α × List Token)} {value : α}

theorem dropSpace_cons : dropSpace (first :: others) =
    if first.kind.isSpace then dropSpace others else first :: others := by
  rw [dropSpace, List.dropWhile_cons]
  rfl

/-- Space is moved over if the loop may go round often enough. -/
theorem skipSpaceWithin_reads {bound : Nat} (enough : rest.length < bound) :
    source.Reads depth (skipSpaceWithin bound) rest (.ok ((), dropSpace rest)) := by
  induction bound generalizing rest with
  | zero => omega
  | succ bound ih =>
      have more : ∀ first others, rest = first :: others → source.Reads depth
          (skipSpaceWithin bound) others (.ok ((), dropSpace others)) := by
        intro first others isRest
        apply ih
        rw [isRest, List.length_cons] at enough
        omega
      cases rest with
      | nil => exact (eat_missing rfl).before ((eat_missing rfl).before .pure)
      | cons first others =>
          rw [dropSpace_cons]
          by_cases isBlank : first.kind = .blank
          · have isSpace : first.kind.isSpace = true := by simp [Kind.isSpace, isBlank]
            rw [if_pos isSpace]
            exact (isBlank ▸ eat_there).before (more first others rfl)
          · have noBlank : startsWith .blank (first :: others) = false := by simpa using isBlank
            apply (eat_missing noBlank).before
            by_cases isNewline : first.kind = .newline
            · have isSpace : first.kind.isSpace = true := by simp [Kind.isSpace, isNewline]
              rw [if_pos isSpace]
              have eats : source.Reads depth (eat .newline) (first :: others)
                  (.ok (true, others)) := isNewline ▸ eat_there
              exact eats.before (more first others rfl)
            · have noNewline : startsWith .newline (first :: others) = false := by
                simpa using isNewline
              have noSpace : ¬ first.kind.isSpace = true := by
                simp [Kind.isSpace, isBlank, isNewline]
              rw [if_neg noSpace]
              exact (eat_missing noNewline).before .pure

theorem length_drop_lt_length_tokens (source : Source) (place : Nat) :
    (source.body.drop place).length < source.tokens.length := by
  rw [tokens, List.length_append, List.length_cons, List.length_drop]
  omega

/-- A loop may go round more often than there are tokens left. -/
theorem Reads.within_rounds {loop : Nat → Reader α}
    (reads : ∀ bound, rest.length < bound → source.Reads depth (loop bound) rest outcome) :
    source.Reads depth (rounds >>= loop) rest outcome := by
  intro state within isDepth dropped
  have enough := source.length_drop_lt_length_tokens state.cursor
  rw [dropped] at enough
  exact reads source.tokens.length enough state within isDepth dropped

theorem skipSpace_reads : source.Reads depth skipSpace rest (.ok ((), dropSpace rest)) :=
  .within_rounds fun _ enough => skipSpaceWithin_reads enough

theorem skipSpace_follows : source.Follows depth skipSpace Parser.skipSpace :=
  fun _ => skipSpace_reads

/-- What fails has no effect if it is an attempt. -/
theorem attempt_reads {reader : Reader (Option α)} {found : Option α}
    (reads : source.Reads depth reader rest (.ok (found, others))) :
    source.Reads depth (attempt reader) rest
      (.ok (found, if found.isSome then others else rest)) := by
  refine Reads.recorded_of_stays ?tries ?notFound (fun _ _ stays => stays)
  case tries =>
    intro state within isDepth dropped
    rcases (reads state within isDepth dropped).exists_ok with ⟨after, isRead, moves, left⟩
    have begins : (getState >>= fun checkpoint => reader >>= fun found =>
        orBack checkpoint.cursor found) source.input state =
        orBack state.cursor found source.input after :=
      bind_apply isRead
    rw [begins]
    cases found with
    | some value => exact .ok_of_drop moves left
    | none => exact .ok_of_drop moves.putBack dropped
  case notFound =>
    intro notFound
    rw [notFound, if_neg Bool.false_ne_true]

/-- Steps find something exactly if a look ahead does, and then take what it skips. -/
def Tries (source : Source) (depth : Nat) (reader : Reader (Option Unit)) (rest : List Token)
    (found : Option (List Token)) : Prop :=
  ∃ others, source.Reads depth reader rest (.ok (found.map fun _ => (), others)) ∧
    ∀ left, found = some left → others = left

theorem Tries.succeed : source.Tries depth (Pure.pure (some ())) rest (some rest) :=
  ⟨rest, .pure, fun _ isLeft => Option.some.inj isLeft⟩

theorem Tries.eat {kind : Kind} {next : Reader (Option Unit)}
    {further : List Token → Option (List Token)}
    (tries : ∀ others, source.Tries depth next others (further others)) :
    source.Tries depth
      (Cursor.eat kind >>= fun isThere => if isThere then next else Pure.pure none) rest
      (take? kind rest >>= fun taken => further taken.2) := by
  have eats : source.Reads depth (Cursor.eat kind) rest (accept kind rest) := eat_follows kind rest
  cases taken : take? kind rest with
  | none =>
      simp only [accept, taken] at eats
      exact ⟨rest, eats.before .pure, by simp⟩
  | some first =>
      simp only [accept, taken] at eats
      rcases tries first.2 with ⟨others, reads, isLeft⟩
      exact ⟨others, eats.before reads, isLeft⟩

theorem Tries.skipSpace {next : Reader (Option Unit)} {found : Option (List Token)}
    (tries : source.Tries depth next (dropSpace rest) found) :
    source.Tries depth (Cursor.skipSpace >>= fun _ => next) rest found := by
  rcases tries with ⟨others, reads, isLeft⟩
  exact ⟨others, skipSpace_reads.before reads, isLeft⟩

theorem Tries.attempt {reader : Reader (Option Unit)} {found : Option (List Token)}
    (tries : source.Tries depth reader rest found) :
    source.Reads depth (Cursor.attempt reader >>= fun found => Pure.pure found.isSome) rest
      (.ok (found.isSome, found.getD rest)) := by
  rcases tries with ⟨others, reads, isLeft⟩
  have tried : source.Reads depth
      (Cursor.attempt reader >>= fun found => Pure.pure found.isSome) rest _ :=
    (attempt_reads reads).before .pure
  cases found with
  | none => exact tried
  | some left => exact isLeft left rfl ▸ tried

/-- What follows tokens of the given kinds, if they are at the front. -/
def afterEach? : List Kind → List Token → Option (List Token)
  | [], rest => some rest
  | kind :: kinds, rest => take? kind rest >>= fun taken => afterEach? kinds taken.2

theorem eatEach_tries (kinds : List Kind) :
    source.Tries depth (eatEach kinds) rest (afterEach? kinds rest) := by
  induction kinds generalizing rest with
  | nil => exact .succeed
  | cons kind kinds ih => exact .eat fun _ => ih

/-- A try that is recorded. -/
theorem Tries.recorded {step : Step} {reader : Reader (Option Unit)} {found : Option (List Token)}
    (tries : source.Tries depth reader rest found)
    (keeps : ∀ before after : Place, (found.isSome = false → after.cursor = before.cursor) →
      Record.Keeps ⟨step, before, after, found.isSome⟩ source.tokens) :
    source.Reads depth (Cursor.recorded step id
      (Cursor.attempt reader >>= fun found => Pure.pure found.isSome)) rest
      (.ok (found.isSome, found.getD rest)) := by
  refine tries.attempt.recorded_of_stays ?notFound keeps
  intro notFound
  rw [Option.not_isSome_iff_eq_none.mp (Bool.eq_false_iff.mp notFound), Option.getD_none]

theorem eatSequence_reads (kinds : List Kind) :
    source.Reads depth (eatSequence kinds) rest
      (.ok ((afterEach? kinds rest).isSome, (afterEach? kinds rest).getD rest)) :=
  (eatEach_tries kinds).recorded fun _ _ stays => stays

theorem eatElse_reads :
    source.Reads depth eatElse rest
      (.ok ((afterElse? rest).isSome, (afterElse? rest).getD rest)) := by
  refine Tries.recorded ?_ (fun _ _ stays => stays)
  exact .eat fun _ => .skipSpace (.eat fun _ => .skipSpace (.eat fun _ => .succeed))

theorem eatElse_follows : source.Follows depth eatElse acceptElse := by
  intro rest
  have reads : source.Reads depth eatElse rest _ := eatElse_reads
  unfold acceptElse
  cases found : afterElse? rest <;> simpa [found] using reads

theorem seeElse_reads :
    source.Reads depth seeElse rest (.ok ((afterElse? rest).isSome, rest)) := by
  refine Reads.recorded ?sees ?keeps
  case sees =>
    intro state within isDepth dropped
    rcases (eatElse_reads state within isDepth dropped).exists_ok with ⟨after, isRead, moves, _⟩
    have begins : (getState >>= fun checkpoint => eatElse >>= fun found =>
        moveTo checkpoint.cursor >>= fun _ => pure found) source.input state =
        some (.ok (afterElse? rest).isSome, { after with cursor := state.cursor }) :=
      bind_apply isRead
    rw [begins]
    exact .ok_of_drop moves.putBack dropped
  case keeps =>
    intro before after forward within dropped left
    exact cursor_eq_of_drop_eq (Nat.le_trans forward within) within (left.trans dropped.symm)

/-! ## Lists -/

/-- Steps in front of others, and what is made of their result. -/
theorem bind_bind_apply {γ : Type} {parser : Parser α} {next : α → Parser β}
    {further : β × List Token → Except Fault (γ × List Token)} :
    (parser >>= next) rest >>= further =
      parser rest >>= fun taken => next taken.1 taken.2 >>= further := by
  change (parser rest >>= fun taken => next taken.1 taken.2) >>= further = _
  cases parser rest <;> rfl

/-- The looks see whether tokens are left that do not meet the stop. -/
def SeeEnd (source : Source) (depth : Nat) (looks : List (Reader Bool))
    (stop : List Token → Bool) : Prop :=
  ∀ rest, source.Reads depth (noneOf looks) rest (.ok (!(rest.isEmpty || stop rest), rest))

theorem noneOf_cons {look : Reader Bool} {looks : List (Reader Bool)} {found none : Bool}
    (sees : source.Reads depth look rest (.ok (found, rest)))
    (seeMore : source.Reads depth (noneOf looks) rest (.ok (none, rest))) :
    source.Reads depth (noneOf (look :: looks)) rest (.ok (!found && none, rest)) := by
  apply sees.before
  cases found with
  | true => exact .pure
  | false => exact seeMore

/-- A way to read a statement mirrors one that is given the first token apart and puts none
back. -/
structure Serves (source : Source) (depth : Nat) (reader : Reader Statement)
    (statement : Token → Parser Statement) : Prop where
  reads : ∀ first others, source.Reads depth reader (first :: others) (statement first others)
  shrinks : ∀ {first others one rest}, statement first others = .ok (one, rest) →
    rest.length ≤ others.length

variable {reader : Reader Statement} {statement : Token → Parser Statement}
variable {looks : List (Reader Bool)} {stop : List Token → Bool}

theorem statementsWithin_reads (serves : source.Serves depth reader statement)
    (seeEnd : source.SeeEnd depth looks stop) {bound limit : Nat} {read : List Statement}
    (enough : rest.length < bound) (fits : rest.length ≤ limit) :
    source.Reads depth (statementsWithin looks reader bound read) rest
      (statementsUpTo stop statement limit rest >>= fun taken =>
        .ok (taken.1.foldl Template.push read, taken.2)) := by
  induction bound generalizing rest limit read with
  | zero => omega
  | succ bound ih =>
      cases rest with
      | nil =>
          rw [statementsUpTo_nil]
          exact (seeEnd []).before .pure
      | cons first others =>
          rw [List.length_cons] at enough fits
          rcases Nat.exists_eq_add_of_le' (Nat.le_trans (Nat.le_add_left 1 _) fits) with
            ⟨fewer, rfl⟩
          rw [statementsUpTo_cons]
          apply (seeEnd (first :: others)).before
          by_cases stops : stop (first :: others) = true
          · rw [if_pos stops, stops]
            exact .pure
          · rw [if_neg stops, Bool.eq_false_iff.mpr stops]
            -- The first statement is put behind those before it, then the others are.
            simp only [bind_bind_apply]
            apply (serves.reads first others).bind fun one left =>
              statementsUpTo stop statement fewer left >>= fun more =>
                .ok (more.1.foldl Template.push (Template.push read one), more.2)
            intro one left isRead
            have shorter := serves.shrinks isRead
            exact ih (by omega) (by omega)

theorem statements_follows (serves : source.Serves depth reader statement)
    (seeEnd : source.SeeEnd depth looks stop) :
    source.Follows depth (statements looks reader) (sequence stop statement) := by
  intro rest
  have joined : sequence stop statement rest =
      statementsUpTo stop statement rest.length rest >>= fun taken =>
        .ok (taken.1.foldl Template.push [], taken.2) := by
    have together : ∀ taken : List Statement × List Token,
        (Except.ok (joinLiterals taken.1, taken.2) : Except Fault _) =
          .ok (taken.1.foldl Template.push [], taken.2) := by
      intro taken
      rw [← pushAll_eq_joinLiterals]
      rfl
    change (statementsUpTo stop statement rest.length rest >>= fun taken =>
      Except.ok (joinLiterals taken.1, taken.2)) = _
    simp only [together]
  rw [joined]
  exact .within_rounds fun _ enough =>
    statementsWithin_reads serves seeEnd enough (Nat.le_refl _)

/-- The last token taken between two places is the one before the later place. -/
theorem getLast?_taken {place place' : Nat} {before : List Token}
    (dropped : source.body.drop place = before) (forward : place < place')
    (within : place' ≤ source.body.length) :
    (before.take (before.length - (source.body.drop place').length)).getLast? =
      source.body[place' - 1]? := by
  subst dropped
  have count : (source.body.drop place).length - (source.body.drop place').length =
      place' - place := by
    simp only [List.length_drop]
    omega
  have short : place' - place ≤ (source.body.drop place).length := by
    rw [List.length_drop]
    omega
  rw [count, List.getLast?_eq_getElem?, List.length_take, Nat.min_eq_left short,
    List.getElem?_take_of_lt (by omega), List.getElem?_drop]
  congr 1
  omega

theorem stopBehind_lastTaken {place : Nat} {before : List Token} {cause : ParseError.Cause}
    (dropped : source.body.drop place = before) (forward : place < state.cursor)
    (within : state.cursor ≤ source.body.length) :
    source.Mirrors state (stopBehind (α := α) cause source.input state)
      (stopAtLastTaken before cause (source.body.drop state.cursor)) := by
  rcases Nat.exists_eq_add_of_lt forward with ⟨taken, isCursor⟩
  have isPlace : state.cursor = place + taken + 1 := isCursor
  have inBody : place + taken < source.body.length := by omega
  have isThere : source.body[place + taken]? = some source.body[place + taken] :=
    List.getElem?_eq_getElem inBody
  have isLast := getLast?_taken dropped forward within
  rw [isPlace, Nat.add_sub_cancel, isThere, ← isPlace] at isLast
  simp only [stopAtLastTaken, isLast]
  exact stopBehind_mirrors cause isPlace within isThere

/-- The attributes that are given end where no token is left or two braces close the call. -/
theorem attributes_goOn :
    source.Reads depth (noneOf [check .mustacheClose, isAtEnd]) rest
      (.ok (!startsWith .mustacheClose rest && (!rest.isEmpty && true), rest)) :=
  noneOf_cons (check_sees (by decide)) (noneOf_cons isAtEnd_sees .pure)

/-- The attribute that a statement is, or a fault at the last token taken. -/
def assigned (before : List Token) : Statement → Parser Attribute
  | .assignment one => Pure.pure one
  | _ => stopAtLastTaken before (.expected .argument)

theorem assignment_reads (serves : source.Serves depth reader statement) :
    source.Reads depth (assignment reader) (first :: others)
      ((statement first >>= assigned (first :: others)) others) := by
  intro state within isDepth dropped
  apply (serves.reads first others state within isDepth dropped).bind
    (assigned (first :: others))
  intro read after moves isRead
  have forward := cursor_lt_of_length_le dropped (serves.shrinks isRead)
  cases read with
  | assignment one => exact .ok (.refl moves.within)
  | _ => exact stopBehind_lastTaken dropped forward moves.within

theorem assigned_eq_ok {before : List Token} {read : Statement} {one : Attribute} :
    assigned before read others = .ok (one, rest) ↔ read = .assignment one ∧ others = rest := by
  cases read <;> simp [assigned, stopAtLastTaken, pure_eq_ok]

theorem attributesUpTo_cons {limit : Nat} (dropped : dropSpace rest = first :: others)
    (goesOn : first.kind ≠ .mustacheClose) :
    attributesUpTo statement (limit + 1) rest =
      ((statement first >>= assigned (first :: others)) >>= fun one =>
        attributesUpTo statement limit >>= fun more => Pure.pure (one :: more)) others := by
  rw [Likeness.attributesUpTo_succ, dropped, bind_assoc]
  simp only [if_neg goesOn]
  refine congrFun (congrArg (fun next => statement first >>= next) (funext fun read => ?_)) others
  cases read <;> rfl

theorem attributesWithin_reads (serves : source.Serves depth reader statement)
    {bound limit : Nat} {given : List Attribute}
    (enough : rest.length < bound) (fits : rest.length ≤ limit) :
    source.Reads depth (attributesWithin reader bound given) rest
      (attributesUpTo statement limit rest >>= fun taken => .ok (given ++ taken.1, taken.2)) := by
  induction bound generalizing rest limit given with
  | zero => omega
  | succ bound ih =>
      apply skipSpace_reads.before
      apply attributes_goOn.before
      have ends : ∀ left, source.Reads depth (pure given) left (.ok (given ++ [], left)) := by
        intro left
        rw [List.append_nil]
        exact .pure
      cases limit with
      | zero =>
          rw [List.length_eq_zero_iff.mp (Nat.le_zero.mp fits)]
          exact ends []
      | succ limit =>
          have shorter : (dropSpace rest).length ≤ rest.length :=
            (List.dropWhile_suffix _).length_le
          cases dropped : dropSpace rest with
          | nil =>
              rw [Likeness.attributesUpTo_succ, dropped]
              exact ends []
          | cons first others =>
              rw [dropped, List.length_cons] at shorter
              rw [startsWith_cons]
              by_cases closes : first.kind = .mustacheClose
              · rw [Likeness.attributesUpTo_succ, dropped]
                simp only [closes, if_true]
                exact ends (first :: others)
              · rw [attributesUpTo_cons dropped closes, decide_eq_false closes]
                rw [bind_bind_apply]
                apply (assignment_reads serves).bind fun one left =>
                  (attributesUpTo statement limit >>= fun more => pure (one :: more)) left >>=
                    fun taken => .ok (given ++ taken.1, taken.2)
                intro one left isRead
                rcases bind_eq_ok.mp isRead with ⟨read, middle, isFirst, isAssigned⟩
                rcases assigned_eq_ok.mp isAssigned with ⟨_, rfl⟩
                have isShorter := serves.shrinks isFirst
                have together : ∀ more : List Attribute × List Token,
                    ((pure (one :: more.1) : Parser (List Attribute)) more.2 >>= fun taken =>
                      Except.ok (given ++ taken.1, taken.2)) =
                      .ok (given ++ [one] ++ more.1, more.2) := by
                  intro more
                  rw [List.append_assoc]
                  rfl
                simp only [bind_bind_apply, together]
                exact ih (by omega) (by omega)

theorem attributes_follows (serves : source.Serves depth reader statement) :
    source.Follows depth (attributes reader) (Parser.attributes statement) := by
  intro rest
  have whole : Parser.attributes statement rest =
      attributesUpTo statement rest.length rest >>= fun taken => .ok ([] ++ taken.1, taken.2) := by
    change attributesUpTo statement rest.length rest = _
    cases attributesUpTo statement rest.length rest <;> rfl
  rw [whole]
  exact .within_rounds fun _ enough => attributesWithin_reads serves enough (Nat.le_refl _)

end Stencil.Cursor.Source
