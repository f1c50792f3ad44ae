import Stencil.Proofs.Grammar.Reading
import Stencil.Proofs.Reading.Constructs
import Stencil.Proofs.Scan.LineEnds
import Stencil.Proofs.Scan.Partition
import Stencil.Proofs.Template.Joining

/-!
# Reading tokens one list after the other

Where a whole template may end, reading goes on as it would begin: no statement was read in view of
the end.  And reading takes lines from the tokens without looking at them.
-/

namespace Stencil

open Grammar
open Stencil.Parser

namespace Parser

variable {α β : Type} {tokens rest : List Token} {step : Parser α}

theorem bind_eq_of_ok {value : α} (taken : step tokens = .ok (value, rest)) (next : α → Parser β) :
    (step >>= next) tokens = next value rest := by
  change (step tokens >>= fun taken => next taken.1 taken.2) = _
  rw [taken]
  rfl

/-- What follows a step only matters where the step leads to. -/
theorem bind_congr_of_ok {next next' : α → Parser β}
    (same : ∀ value rest, step tokens = .ok (value, rest) → next value rest = next' value rest) :
    (step >>= next) tokens = (step >>= next') tokens := by
  cases outcome : step tokens with
  | ok taken =>
      rcases taken with ⟨value, rest⟩
      rw [bind_eq_of_ok outcome, bind_eq_of_ok outcome, same value rest outcome]
  | error fault =>
      change (step tokens >>= fun taken => next taken.1 taken.2) =
        (step tokens >>= fun taken => next' taken.1 taken.2)
      rw [outcome]
      rfl

theorem bind_pure_eq (convert : α → β) :
    (step >>= fun value => pure (convert value)) tokens =
      (step tokens).map fun taken => (convert taken.1, taken.2) := by
  change (step tokens >>= fun taken => (pure (convert taken.1) : Parser β) taken.2) = _
  cases step tokens <;> rfl

end Parser

variable {matchNames : Bool} {levels : Nat} {inner : Parse.StatementParser}

/-- Every statement takes a token, so all bounds of at least one statement for each token are the
same. -/
theorem statementsUpTo_eq_of_le (reads : Reads matchNames levels inner)
    (stop : List Token → Bool) (position : Parse.Position) {bound enough : Nat}
    {tokens : List Token} (fits : tokens.length ≤ bound) (alsoFits : tokens.length ≤ enough) :
    statementsUpTo stop (inner position) bound tokens =
      statementsUpTo stop (inner position) enough tokens := by
  induction bound generalizing enough tokens with
  | zero =>
      obtain rfl := List.length_eq_zero_iff.mp (Nat.le_zero.mp fits)
      rw [statementsUpTo_nil, statementsUpTo_nil]
  | succ bound ih =>
      cases tokens with
      | nil => rw [statementsUpTo_nil, statementsUpTo_nil]
      | cons first rest =>
          rcases exists_fewer_of_succ_le alsoFits with ⟨fewer, rfl, shorter⟩
          rw [statementsUpTo_cons, statementsUpTo_cons]
          by_cases stops : stop (first :: rest) = true
          · rw [if_pos stops, if_pos stops]
          · rw [if_neg stops, if_neg stops]
            apply bind_congr_of_ok
            intro one left taken
            rcases (reads ..).mp taken with ⟨front, rfl, _⟩
            simp only [List.length_cons, List.length_append] at fits shorter
            have same : statementsUpTo stop (inner position) bound left =
                statementsUpTo stop (inner position) fewer left :=
              ih (by omega) (by omega)
            rw [bind_pure_eq, bind_pure_eq, same]

/-- Statements that a list derives are read in front of everything that may follow in a template. -/
theorem statementsUpTo_append (reads : Reads matchNames levels inner) {read : List Statement}
    {front : List Token} (derived : Derives matchNames levels (.list .text read) front)
    (back : List Token) {bound : Nat} (fits : (front ++ back).length ≤ bound) :
    statementsUpTo (fun _ => false) (inner .content) bound (front ++ back) =
      (statementsUpTo (fun _ => false) (inner .content) back.length back).map
        fun taken => (read ++ taken.1, taken.2) := by
  induction read generalizing front bound with
  | nil =>
      cases derived with
      | nil =>
          rw [List.nil_append] at fits ⊢
          rw [statementsUpTo_eq_of_le reads _ _ fits (Nat.le_refl _)]
          simp only [List.nil_append]
          cases statementsUpTo (fun _ => false) (inner .content) back.length back <;> rfl
  | cons one more ih =>
      cases derived with
      | @cons _ _ _ _ first taken others _ derivedOne _ derivedMore =>
          have takes : inner .content first (taken ++ (others ++ back)) =
              .ok (one, others ++ back) := by
            refine (reads ..).mpr ⟨taken, rfl, derivedOne, ?_⟩
            -- Only in a tag or a call does it matter what follows a word.
            intro inTag
            cases inTag
          rw [List.cons_append, List.cons_append, List.append_assoc] at fits ⊢
          rcases exists_fewer_of_succ_le fits with ⟨fewer, rfl, shorter⟩
          have fitsMore : (others ++ back).length ≤ fewer := by
            simp only [List.length_append] at shorter ⊢
            omega
          rw [statementsUpTo_cons, if_neg Bool.false_ne_true, bind_eq_of_ok takes, bind_pure_eq,
            ih derivedMore fitsMore]
          cases statementsUpTo (fun _ => false) (inner .content) back.length back <;> rfl

/-- Behind tokens that are read as a template, tokens are read as if they stood alone. -/
theorem template_append {options : CompileOptions} {read : List Statement} {front : List Token}
    (derived : Derives options.matchTagNames options.maxNesting (.list .text read) front)
    (back : List Token) :
    Parse.template options (front ++ back) =
      (Parse.template options back).map fun taken =>
        (Template.followedBy (joinLiterals read) taken.1, taken.2) := by
  have reads := statement_reads options.matchTagNames options.maxNesting
  have joined : ∀ tokens, Parse.template options tokens =
      (statementsUpTo (fun _ => false)
        (Parse.statement options.matchTagNames options.maxNesting .content) tokens.length
        tokens).map fun taken => (joinLiterals taken.1, taken.2) := by
    intro tokens
    exact bind_pure_eq joinLiterals
  rw [joined, joined, statementsUpTo_append reads derived back (Nat.le_refl _)]
  cases statementsUpTo (fun _ => false)
    (Parse.statement options.matchTagNames options.maxNesting .content) back.length back with
  | error fault => rfl
  | ok taken =>
      change Except.ok (joinLiterals (read ++ taken.1), taken.2) = _
      rw [Template.joinLiterals_append]
      rfl

def Fault.later (lines : Nat) (fault : Fault) : Fault :=
  { fault with token? := fault.token?.map (Token.later lines) }

def ParseError.later (lines : Nat) (error : ParseError) : ParseError :=
  { error with line := error.line + lines }

theorem Fault.toError_later (lines : Nat) (fault : Fault) (endLine : Nat) :
    (fault.later lines).toError (endLine + lines) = (fault.toError endLine).later lines := by
  rcases fault with ⟨token?, cause⟩
  cases token? <;> rfl

theorem Fault.eq_later_of_none (lines : Nat) (what : Expectation) :
    (⟨none, .expected what⟩ : Fault) = Fault.later lines ⟨none, .expected what⟩ :=
  rfl

/-- Tokens and faults on one line and so many lines later. -/
def Likeness.later (lines : Nat) : Likeness where
  token first second := second = first.later lines
  fault first second := second = first.later lines
  excused _ := False
  kind_eq same := by rw [same]; rfl
  lexeme_eq same := by rw [same]; rfl
  atToken same _ := by rw [same]; rfl
  atEnd := Fault.eq_later_of_none lines

theorem beforeEnd_later (lines : Nat) (tokens : List Token) :
    Token.beforeEnd (tokens.map (Token.later lines)) =
      (Token.beforeEnd tokens).map (Token.later lines) := by
  rw [Token.beforeEnd, List.takeWhile_map]
  rfl

/-- A mark for the end of the source stands among the tokens. -/
def Token.HasEnd (tokens : List Token) : Prop :=
  ∃ mark ∈ tokens, mark.kind = .endMark

theorem Token.HasEnd.later {tokens : List Token} (ends : Token.HasEnd tokens) (lines : Nat) :
    Token.HasEnd (tokens.map (Token.later lines)) := by
  rcases ends with ⟨mark, member, isMark⟩
  exact ⟨mark.later lines, List.mem_map_of_mem member, isMark⟩

theorem Token.hasEnd_scan (source : String) : Token.HasEnd (Token.scan source).tokens := by
  rcases exists_cuts_findings .plain 1 source.toList with ⟨pieces, last, _, found, _⟩
  rw [(scan_of_findings found).1]
  exact ⟨atEnd _, List.mem_append_right _ (List.mem_singleton_self _), rfl⟩

theorem Token.HasEnd.exists_find? {tokens : List Token} (ends : Token.HasEnd tokens) :
    ∃ mark, (tokens.find? fun token => token.kind == .endMark) = some mark := by
  rcases ends with ⟨mark, member, isMark⟩
  rw [← Option.isSome_iff_exists, List.find?_isSome]
  exact ⟨mark, member, by simp [isMark]⟩

theorem endLine_later {tokens : List Token} (ends : Token.HasEnd tokens) (lines : Nat) :
    Token.endLine (tokens.map (Token.later lines)) = Token.endLine tokens + lines := by
  rcases ends.exists_find? with ⟨mark, found⟩
  have foundLater : ((tokens.map (Token.later lines)).find? fun token =>
      token.kind == .endMark) = some (mark.later lines) := by
    rw [List.find?_map]
    exact congrArg (Option.map (Token.later lines)) found
  simp only [Token.endLine, found, foundLater]
  rfl

theorem endLine_append {front back : List Token} (noMark : ∀ token ∈ front, token.kind ≠ .endMark)
    (ends : Token.HasEnd back) : Token.endLine (front ++ back) = Token.endLine back := by
  rcases ends.exists_find? with ⟨mark, found⟩
  have notInFront : (front.find? fun token => token.kind == .endMark) = none := by
    rw [List.find?_eq_none]
    intro token member
    simp [noMark token member]
  simp only [Token.endLine, List.find?_append, notInFront, Option.none_or, found]

/-- Reading tokens on later lines has the same outcome, on later lines. -/
theorem Template.parse_later {tokens : List Token} (ends : Token.HasEnd tokens) (lines : Nat)
    (options : CompileOptions) :
    parse (tokens.map (Token.later lines)) options =
      (parse tokens options).mapError (ParseError.later lines) := by
  have within : (Likeness.later lines).Within (Token.beforeEnd tokens).length
      (Parse.statement options.matchTagNames options.maxNesting)
      (Parse.statement options.matchTagNames options.maxNesting) := by
    apply Likeness.statement_within_self (Likeness.namesFollow_self _)
    intro first first' same
    rw [same]
    rfl
  have alike : List.Forall₂ (Likeness.later lines).token (Token.beforeEnd tokens)
      (Token.beforeEnd (tokens.map (Token.later lines))) := by
    rw [beforeEnd_later, List.forall₂_map_right_iff, List.forall₂_same]
    intro token _
    rfl
  rcases Likeness.parse_follows options options within alike (Nat.le_refl _) with
    ⟨template, read, readLater⟩ | ⟨fault, fault', same, failed, failedLater⟩ | ⟨_, impossible, _⟩
  · rw [read, readLater]
    rfl
  · rw [failed, failedLater, endLine_later ends, same, Fault.toError_later]
    rfl
  · exact absurd impossible not_false

/-- Behind tokens that are read as a template, tokens are read as if they stood alone. -/
theorem Template.parse_append {front back : List Token} {mark : Token} {options : CompileOptions}
    {template : Template} (noMark : ∀ token ∈ front, token.kind ≠ .endMark)
    (isMark : mark.kind = .endMark) (ends : Token.HasEnd back)
    (read : parse (front ++ [mark]) options = .ok template) :
    parse (front ++ back) options = (parse back options).map template.followedBy := by
  rw [parse_eq_ok, beforeEnd_append noMark isMark] at read
  rcases read with ⟨body, derived, rfl⟩
  have before : Token.beforeEnd (front ++ back) = front ++ Token.beforeEnd back := by
    rw [Token.beforeEnd, List.takeWhile_append_of_pos]
    · rfl
    · intro token member
      simp [noMark token member]
  unfold parse
  rw [before, template_append derived, endLine_append noMark ends]
  cases Parse.template options (Token.beforeEnd back) <;> rfl

end Stencil
