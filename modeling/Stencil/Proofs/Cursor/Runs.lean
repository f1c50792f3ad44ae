import Stencil.Proofs.Reading.Append
import Stencil.Proofs.Cursor.Forms

/-!
# A cursor reads templates in bounds

The reader with a cursor ends on every list of tokens, with the outcome of the parser, and every
step it made on the way is sound.  The parser does not look behind the first mark for the end of the
source, and a list without one at its end is read as if it had one.
-/

namespace Stencil

namespace Cursor.Source

open Stencil.Parser
open Parse (Position StatementParser)

variable {source : Source} {depth : Nat} {rest others : List Token} {first : Token}

/-- Reading a statement does not put tokens back. -/
theorem length_le_of_statement_eq_ok {matchNames : Bool} {levels : Nat} {position : Position}
    {one : Statement}
    (read : Parse.statement matchNames levels position first others = .ok (one, rest)) :
    rest.length ≤ others.length := by
  have within : (Likeness.self (fun _ => True) (fun _ => True) (fun _ _ => trivial)
      fun _ => trivial).Within (others.length + 1) (Parse.statement matchNames levels)
      (Parse.statement matchNames levels) := by
    apply Likeness.statement_within_self (Likeness.namesFollow_self _)
    rintro first _ ⟨rfl, _⟩
    exact ⟨rfl, trivial⟩
  have same : List.Forall₂ (fun first second : Token => first = second ∧ True) others others :=
    List.forall₂_same.mpr fun _ _ => ⟨rfl, trivial⟩
  have outcome := within position first first others.length ⟨rfl, trivial⟩ (Nat.lt_succ_self _)
    others others same (Nat.le_refl _)
  rw [read] at outcome
  cases outcome with
  | ok taken _ _ isRest _ =>
      rw [isRest, List.length_drop]
      exact Nat.sub_le ..

/-- A reader that entered a statement has a statement to leave. -/
theorem Moves.inside {state after : State}
    (moves : source.Moves { state with depth := state.depth + 1 } after) :
    after.depth ≠ 0 ∧ source.Moves state { after with depth := after.depth - 1 } := by
  have isDepth : after.depth = state.depth + 1 := moves.depth_eq
  refine ⟨by omega, moves.forward, moves.within, ?_, moves.records⟩
  change after.depth - 1 = state.depth
  omega

theorem Reads.inside {reader : Reader Statement} {outcome : Except Fault (Statement × List Token)}
    (reads : source.Reads (depth + 1) reader rest outcome) :
    source.Reads depth (Cursor.inside reader) rest outcome := by
  intro state within isDepth dropped
  have mirrors := reads { state with depth := state.depth + 1 } within
    (congrArg Nat.succ isDepth) dropped
  unfold Cursor.inside
  generalize reader source.input { state with depth := state.depth + 1 } = result at mirrors ⊢
  cases mirrors with
  | @ok one after moves =>
      rcases moves.inside with ⟨notZero, moved⟩
      change source.Mirrors state
        (if after.depth = 0 then none else
          some (.ok one, { after with depth := after.depth - 1 })) _
      rw [if_neg notZero]
      exact .ok moved
  | @error fault after moves =>
      rcases moves.inside with ⟨notZero, moved⟩
      change source.Mirrors state
        (if after.depth = 0 then none else
          some (.error (fault.toError source.mark.line),
            { after with depth := after.depth - 1 })) _
      rw [if_neg notZero]
      exact .error moved

/-- A statement that is read takes at least its first token. -/
theorem Reads.recorded_statement {reader : Reader Statement} {position : Position}
    {outcome : Except Fault (Statement × List Token)}
    (reads : source.Reads depth reader (first :: others) outcome)
    (shrinks : ∀ one left, outcome = .ok (one, left) → left.length ≤ others.length) :
    source.Reads depth (Cursor.recorded (.statement position) (fun _ => true) reader)
      (first :: others) outcome := by
  intro state within isDepth dropped
  have mirrors := reads state within isDepth dropped
  unfold Cursor.recorded
  generalize reader source.input state = result at mirrors ⊢
  cases mirrors with
  | @ok one after moves =>
      have forward := cursor_lt_of_length_le dropped (shrinks one _ rfl)
      exact .ok (moves.recorded fun _ => forward)
  | error moves =>
      refine .error (moves.recorded fun impossible => ?_)
      cases impossible

/-- With levels to spare, a statement is read as the parser reads it with the levels that are
left. -/
theorem statement_serves {levels : Nat} (allowed : depth ≤ source.options.maxNesting)
    (enough : source.options.maxNesting < depth + levels) :
    source.ServesAll depth (statement levels)
      (Parse.statement source.options.matchTagNames (source.options.maxNesting - depth)) := by
  induction levels generalizing depth with
  | zero => omega
  | succ levels ih =>
      intro position
      refine ⟨fun first others => ?_, length_le_of_statement_eq_ok⟩
      apply Reads.recorded_statement
      · intro state within isDepth dropped
        change source.Mirrors state ((if state.depth ≥ source.options.maxNesting then
          stopHere .nestedTooDeeply else inside (form (statement levels) position)) source.input
            state) _
        rw [isDepth]
        by_cases tooDeep : depth ≥ source.options.maxNesting
        · rw [if_pos tooDeep, Nat.sub_eq_zero_of_le tooDeep]
          exact stopHere_reads .nestedTooDeeply state within isDepth dropped
        -- One level deeper, reader and parser have one level less to go.
        · have oneLess : source.options.maxNesting - depth =
              source.options.maxNesting - (depth + 1) + 1 := by omega
          have deeper : source.ServesAll (depth + 1) (statement levels)
              (Parse.statement source.options.matchTagNames
                (source.options.maxNesting - (depth + 1))) :=
            ih (by omega) (by omega)
          rw [if_neg tooDeep, oneLess]
          exact (form_reads deeper position).inside state within isDepth dropped
      · intro one left read
        exact length_le_of_statement_eq_ok read

theorem template_reads :
    source.Follows 0 (template (source.options.maxNesting + 1)) (Parse.template source.options) :=
  statements_follows (statement_serves (Nat.zero_le _) (by omega) .content) seeEnd_template

/-- A list with a mark for the end is what stands up to the first one, the mark, and the rest. -/
theorem exists_of_hasEnd {tokens : List Token} (ends : Token.HasEnd tokens)
    (options : CompileOptions) :
    ∃ source : Source, source.tokens = tokens ∧ source.options = options := by
  rcases ends.exists_find? with ⟨mark, found⟩
  rcases List.find?_eq_some_iff_append.mp found with ⟨isMark, body, behind, split, noMark⟩
  refine ⟨⟨body, mark, behind, options, ?_, by simpa using isMark⟩, split.symm, rfl⟩
  intro token member
  simpa using noMark token member

/-- What stands behind the first mark for the end is not read. -/
theorem parse_tokens (source : Source) :
    Template.parse source.tokens source.options =
      match Parse.template source.options source.body with
      | .ok (template, _) => .ok template
      | .error fault => .error (fault.toError source.mark.line) := by
  have ends : Token.HasEnd (source.mark :: source.behind) :=
    ⟨source.mark, List.mem_cons_self, source.isMark⟩
  have endLine : Token.endLine source.tokens = source.mark.line := by
    rw [tokens, endLine_append source.noMark ends]
    simp [Token.endLine, source.isMark]
  have isBody : Token.beforeEnd source.tokens = source.body :=
    Grammar.beforeEnd_append source.noMark source.isMark
  change (match Parse.template source.options (Token.beforeEnd source.tokens) with
    | .ok (template, _) => Except.ok template
    | .error fault => Except.error (fault.toError (Token.endLine source.tokens))) = _
  rw [endLine, isBody]

theorem run_tokens (source : Source) :
    ∃ final, template (source.options.maxNesting + 1) source.input start =
        some (Template.parse source.tokens source.options, final) ∧
      source.Moves start final := by
  have mirrors := template_reads source.body start (Nat.zero_le _) rfl rfl
  rw [parse_tokens]
  generalize template (source.options.maxNesting + 1) source.input start = result at mirrors ⊢
  generalize Parse.template source.options source.body = outcome at mirrors ⊢
  cases mirrors with
  | ok moves => exact ⟨_, rfl, moves⟩
  | error moves => exact ⟨_, rfl, moves⟩

end Cursor.Source

namespace Token

theorem hasEnd_completed (tokens : List Token) : HasEnd (completed tokens) := by
  unfold completed
  cases isLast : tokens.getLast? with
  | none => exact ⟨atEnd 1, List.mem_singleton_self _, rfl⟩
  | some last =>
      by_cases isMark : last.kind = .endMark
      · simp only [isMark, if_true]
        exact ⟨last, List.mem_of_getLast? isLast, isMark⟩
      · simp only [isMark, if_false]
        exact ⟨atEnd last.line, List.mem_append_right _ (List.mem_singleton_self _), rfl⟩

end Token

/-- Tokens behind a mark for the end do not matter. -/
theorem Template.parse_append_of_hasEnd {front : List Token} (ends : Token.HasEnd front)
    (rest : List Token) (options : CompileOptions) :
    parse (front ++ rest) options = parse front options := by
  rcases Cursor.Source.exists_of_hasEnd ends options with ⟨source, isFront, rfl⟩
  let longer : Cursor.Source := { source with behind := source.behind ++ rest }
  have isLonger : longer.tokens = front ++ rest := by
    rw [← isFront]
    simp [longer, Cursor.Source.tokens]
  rw [← isLonger, ← isFront]
  exact (Cursor.Source.parse_tokens longer).trans (Cursor.Source.parse_tokens source).symm

/-- Without a mark, the source ends on the line of the last token. -/
theorem Template.parse_append_atEnd {tokens : List Token} {last : Token}
    (isLast : tokens.getLast? = some last) (noMark : ∀ token ∈ tokens, token.kind ≠ .endMark)
    (options : CompileOptions) :
    parse (tokens ++ [Token.atEnd last.line]) options = parse tokens options := by
  have notFound : (tokens.find? fun token => token.kind == .endMark) = none := by
    rw [List.find?_eq_none]
    intro token member
    simpa using noMark token member
  have whole : Token.beforeEnd tokens = tokens := by
    rw [Token.beforeEnd, List.takeWhile_eq_self_iff]
    intro token member
    simpa using noMark token member
  have ends : Token.HasEnd [Token.atEnd last.line] := ⟨_, List.mem_singleton_self _, rfl⟩
  have sameLine : Token.endLine (tokens ++ [Token.atEnd last.line]) = Token.endLine tokens := by
    rw [endLine_append noMark ends]
    simp only [Token.endLine, notFound, isLast]
    rfl
  unfold parse
  rw [sameLine, whole, Grammar.beforeEnd_append noMark rfl]

/-- A list is read as if it ended with a mark. -/
theorem Template.parse_completed (tokens : List Token) (options : CompileOptions) :
    parse (Token.completed tokens) options = parse tokens options := by
  unfold Token.completed
  cases isLast : tokens.getLast? with
  | none =>
      rw [List.getLast?_eq_none_iff.mp isLast]
      rfl
  | some last =>
      by_cases isMark : last.kind = .endMark
      · simp only [isMark, if_true]
      · simp only [isMark, if_false]
        by_cases ends : Token.HasEnd tokens
        · exact parse_append_of_hasEnd ends _ options
        · have noMark : ∀ token ∈ tokens, token.kind ≠ .endMark :=
            fun token member isMark => ends ⟨token, member, isMark⟩
          exact parse_append_atEnd isLast noMark options

/-! ## Whole runs -/

/-- On every list of tokens, completed with a mark for the end, reading with a cursor ends.  Its
outcome is that of the parser; it leaves the cursor at or before the first mark and no statement
open; and all its steps are sound.  So tokens behind a mark for the end do not matter, and a list
without a mark at its end is read as if it had one. -/
theorem Cursor.run_sound (tokens : List Token) (options : CompileOptions) :
    (∃ final, run tokens options = some (Template.parse tokens options, final) ∧
        final.cursor ≤ Token.endPlace (Token.completed tokens) ∧ final.depth = 0 ∧
        ∀ record ∈ final.records, record.Sound (Token.completed tokens)) ∧
      Token.endPlace (Token.completed tokens) < (Token.completed tokens).length ∧
      Template.parse (Token.completed tokens) options = Template.parse tokens options ∧
      ∀ (front rest : List Token) (mark : Token), mark.kind = .endMark →
        Template.parse (front ++ mark :: rest) options =
          Template.parse (front ++ [mark]) options := by
  rcases Source.exists_of_hasEnd (Token.hasEnd_completed tokens) options with
    ⟨source, isSource, rfl⟩
  refine ⟨?_, ?_, Template.parse_completed tokens _, ?_⟩
  · rcases source.run_tokens with ⟨final, isRun, moves⟩
    rcases moves.records with ⟨records, isRecorded, sound⟩
    have isAll : final.records = records := isRecorded
    refine ⟨final, ?_, ?_, moves.depth_eq, ?_⟩
    · rw [isSource, Template.parse_completed] at isRun
      rw [← isRun, run, ← isSource]
      rfl
    · rw [← isSource, source.endPlace_tokens]
      exact moves.within
    · rw [isAll, ← isSource]
      exact sound
  · rw [← isSource, source.endPlace_tokens, Source.tokens, List.length_append, List.length_cons]
    omega
  · intro front rest mark isMark
    have ends : Token.HasEnd (front ++ [mark]) :=
      ⟨mark, List.mem_append_right _ (List.mem_singleton_self _), isMark⟩
    have behind := Template.parse_append_of_hasEnd ends rest source.options
    rwa [List.append_assoc, List.singleton_append] at behind

def openTag : List Token :=
  [{ kind := .less, lexeme := "<", line := 1 }, { kind := .identifier, lexeme := "b", line := 1 },
    { kind := .greater, lexeme := ">", line := 1 },
    { kind := .identifier, lexeme := "x", line := 2 }]

def closingTag : List Token :=
  [{ kind := .tagClose, lexeme := "</", line := 4 },
    { kind := .identifier, lexeme := "b", line := 4 },
    { kind := .greater, lexeme := ">", line := 4 }]

/-- The closing tag stands behind a mark for the end, so the cursor stops at the mark.  The tag was
tried as a statement and failed, having moved over its four tokens. -/
theorem Cursor.run_sound_closingTag :
    let tokens := openTag ++ Token.atEnd 3 :: closingTag
    let unclosed : ParseError := ⟨3, .sourceEnd, .expected .closingTag⟩
    Token.completed tokens = tokens ++ [Token.atEnd 4] ∧
      (∃ final, run tokens {} = some (.error unclosed, final) ∧
        ⟨.statement .content, ⟨0, 0⟩, ⟨4, 0⟩, false⟩ ∈ final.records ∧
        ∀ record ∈ final.records, record.Sound (Token.completed tokens)) ∧
      (Token.atEnd 3).kind = .endMark ∧
      Template.parse (openTag ++ [Token.atEnd 3]) = .error unclosed := by
  intro tokens unclosed
  have fails : Template.parse tokens {} = .error unclosed := rfl
  rcases run_sound tokens {} with ⟨⟨final, isRun, _, _, sound⟩, _, _, behind⟩
  have lastRecord : (run tokens {}).bind (fun result => result.2.records.getLast?) =
      some ⟨.statement .content, ⟨0, 0⟩, ⟨4, 0⟩, false⟩ := by decide +kernel
  rw [isRun] at lastRecord
  refine ⟨rfl, ⟨final, ?_, List.mem_of_getLast? lastRecord, sound⟩, rfl, ?_⟩
  · rw [isRun, fails]
  · rw [← behind openTag closingTag (Token.atEnd 3) rfl]
    exact fails

end Stencil
