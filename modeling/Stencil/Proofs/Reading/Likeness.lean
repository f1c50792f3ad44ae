import Mathlib.Data.List.Forall2
import Stencil.Proofs.Grammar.Steps

/-!
# Readings that follow each other

A parser decides by the kinds of tokens and passes their texts on.  So if two lists of tokens are
alike, token by token, then a reading of one follows a reading of the other step by step: both
succeed with the same result and take equally many tokens, or both stop, with faults that are alike.

What counts as alike is a `Likeness`.  It may also excuse some faults: after an excused fault the
other reading is not compared any more.
-/

namespace Stencil

/-- The causes that the readers of constructs report themselves.  The names in a mismatch are texts
of words among the tokens. -/
inductive ParseError.Cause.Structural (alike : Token → Token → Prop) : ParseError.Cause → Prop where
  | expected (what : Expectation) : Structural alike (.expected what)
  | slotMismatch {opened opened' closed closed' : Token} :
      alike opened opened' → opened.kind = .identifier →
      alike closed closed' → closed.kind = .identifier →
      Structural alike (.slotMismatch opened.lexeme closed.lexeme)
  | tagMismatch {opened opened' closed closed' : Token} :
      alike opened opened' → opened.kind = .identifier →
      alike closed closed' → closed.kind = .identifier →
      Structural alike (.tagMismatch opened.lexeme closed.lexeme)
  | unknownBlock : Structural alike .unknownBlock
  | strayClosing : Structural alike .strayClosing

/-- Which tokens and which faults may stand for each other in two readings, and which faults end the
comparison. -/
structure Likeness where
  token : Token → Token → Prop
  fault : Fault → Fault → Prop
  excused : Fault → Prop
  kind_eq : ∀ {first second : Token}, token first second → second.kind = first.kind
  lexeme_eq : ∀ {first second : Token}, token first second → second.lexeme = first.lexeme
  /-- Readings that stop for the same reason at tokens that are alike have faults that are alike. -/
  atToken : ∀ {first second : Token} {cause : ParseError.Cause}, token first second →
    cause.Structural token → fault ⟨some first, cause⟩ ⟨some second, cause⟩
  atEnd : ∀ what : Expectation, fault ⟨none, .expected what⟩ ⟨none, .expected what⟩

namespace Likeness

variable {α β γ δ : Type}

/-- The second outcome follows the first one, of readings that began with the given tokens. -/
inductive Outcome (like : Likeness) (values : α → β → Prop) (tokens tokens' : List Token) :
    Except Fault (α × List Token) → Except Fault (β × List Token) → Prop where
  | ok {value : α} {value' : β} {rest rest' : List Token} (taken : Nat) :
      taken ≤ tokens.length → values value value' →
      rest = tokens.drop taken → rest' = tokens'.drop taken →
      Outcome like values tokens tokens' (.ok (value, rest)) (.ok (value', rest'))
  | fault {first second : Fault} : like.fault first second →
      Outcome like values tokens tokens' (.error first) (.error second)
  | excused {first : Fault} {outcome : Except Fault (β × List Token)} : like.excused first →
      Outcome like values tokens tokens' (.error first) outcome

/-- The second parser follows the first one on lists of at most so many tokens. -/
def Follows (like : Likeness) (bound : Nat) (values : α → β → Prop) (step : Parser α)
    (step' : Parser β) : Prop :=
  ∀ tokens tokens', List.Forall₂ like.token tokens tokens' → tokens.length ≤ bound →
    like.Outcome values tokens tokens' (step tokens) (step' tokens')

variable {like : Likeness} {bound : Nat} {tokens tokens' : List Token}
variable {values : α → β → Prop} {results : γ → δ → Prop}

/-- What follows from a place among the tokens on follows from the first token on. -/
theorem Outcome.of_drop {taken : Nat} {outcome : Except Fault (α × List Token)}
    {outcome' : Except Fault (β × List Token)} (within : taken ≤ tokens.length)
    (follows : like.Outcome values (tokens.drop taken) (tokens'.drop taken) outcome outcome') :
    like.Outcome values tokens tokens' outcome outcome' := by
  cases follows with
  | fault related => exact .fault related
  | excused isExcused => exact .excused isExcused
  | ok more withinRest related isRest isRest' =>
      rw [List.length_drop] at withinRest
      rw [List.drop_drop] at isRest isRest'
      exact .ok (taken + more) (by omega) related isRest isRest'

theorem Outcome.bind {step : Parser α} {step' : Parser β} {next : α → Parser γ}
    {next' : β → Parser δ}
    (first : like.Outcome values tokens tokens' (step tokens) (step' tokens'))
    (second : ∀ taken value value', taken ≤ tokens.length → values value value' →
      like.Outcome results (tokens.drop taken) (tokens'.drop taken)
        (next value (tokens.drop taken)) (next' value' (tokens'.drop taken))) :
    like.Outcome results tokens tokens' ((step >>= next) tokens) ((step' >>= next') tokens') := by
  change like.Outcome results tokens tokens' (step tokens >>= fun taken => next taken.1 taken.2)
    (step' tokens' >>= fun taken => next' taken.1 taken.2)
  revert first
  generalize step tokens = outcome, step' tokens' = outcome'
  intro first
  cases first with
  | fault related => exact .fault related
  | excused isExcused => exact .excused isExcused
  | @ok value value' _ _ taken within related isRest isRest' =>
      subst isRest isRest'
      change like.Outcome results tokens tokens' (next value (tokens.drop taken))
        (next' value' (tokens'.drop taken))
      exact (second taken value value' within related).of_drop within

namespace Follows

/-- A parser follows another one after equally many tokens. -/
theorem after {step : Parser α} {step' : Parser β}
    (follows : like.Follows bound values step step')
    (alike : List.Forall₂ like.token tokens tokens') (short : tokens.length ≤ bound)
    (taken : Nat) :
    like.Outcome values (tokens.drop taken) (tokens'.drop taken) (step (tokens.drop taken))
      (step' (tokens'.drop taken)) := by
  apply follows
  · exact List.forall₂_drop taken alike
  · rw [List.length_drop]
    omega

theorem bind {step : Parser α} {step' : Parser β} {next : α → Parser γ} {next' : β → Parser δ}
    (first : like.Follows bound values step step')
    (second : ∀ value value', values value value' →
      like.Follows bound results (next value) (next' value')) :
    like.Follows bound results (step >>= next) (step' >>= next') := by
  intro tokens tokens' alike short
  apply (first tokens tokens' alike short).bind
  intro taken value value' _ related
  exact (second value value' related).after alike short taken

/-- The same for a step whose result is not used. -/
theorem andThen {step : Parser α} {step' : Parser β} {next : Parser γ} {next' : Parser δ}
    (first : like.Follows bound values step step')
    (second : like.Follows bound results next next') :
    like.Follows bound results (step >>= fun _ => next) (step' >>= fun _ => next') := by
  apply first.bind
  intro _ _ _
  exact second

theorem pure {value : α} {value' : β} (related : values value value') :
    like.Follows bound values (Pure.pure value) (Pure.pure value') := by
  intro tokens tokens' _ _
  exact .ok 0 (Nat.zero_le _) related rfl rfl

/-- A reading of fewer tokens is compared as well. -/
theorem mono {fewer : Nat} {step : Parser α} {step' : Parser β}
    (follows : like.Follows bound values step step') (fits : fewer ≤ bound) :
    like.Follows fewer values step step' := by
  intro tokens tokens' alike short
  exact follows tokens tokens' alike (Nat.le_trans short fits)

end Follows

open Stencil.Parser
open Token (Kind)

/-- A look at the tokens ahead that sees the same in lists that are alike. -/
def SeesAlike (like : Likeness) (look : List Token → Bool) : Prop :=
  ∀ tokens tokens', List.Forall₂ like.token tokens tokens' → look tokens' = look tokens

/-- Two looks ahead find nothing, or both find what is left after equally many tokens. -/
def Ahead (tokens tokens' : List Token) (found found' : Option (List Token)) : Prop :=
  (found = none ∧ found' = none) ∨
    ∃ taken, taken ≤ tokens.length ∧ found = some (tokens.drop taken) ∧
      found' = some (tokens'.drop taken)

theorem Ahead.of_drop {taken : Nat} {found found' : Option (List Token)}
    (within : taken ≤ tokens.length)
    (ahead : Ahead (tokens.drop taken) (tokens'.drop taken) found found') :
    Ahead tokens tokens' found found' := by
  rcases ahead with nothing | ⟨more, withinRest, isFound, isFound'⟩
  · exact .inl nothing
  · rw [List.length_drop] at withinRest
    rw [List.drop_drop] at isFound isFound'
    exact .inr ⟨taken + more, by omega, isFound, isFound'⟩

theorem Ahead.take? {kind : Kind} (next : List Token → Option (List Token))
    (alike : List.Forall₂ like.token tokens tokens')
    (further : ∀ rest rest', List.Forall₂ like.token rest rest' →
      Ahead rest rest' (next rest) (next rest')) :
    Ahead tokens tokens' (Parser.take? kind tokens >>= fun taken => next taken.2)
      (Parser.take? kind tokens' >>= fun taken => next taken.2) := by
  cases alike with
  | nil => exact .inl ⟨rfl, rfl⟩
  | @cons first first' rest rest' one others =>
      have sameKind := like.kind_eq one
      by_cases isKind : first.kind = kind
      · have within : 1 ≤ (first :: rest).length := by simp
        apply Ahead.of_drop within
        simpa [Parser.take?, isKind, sameKind] using further rest rest' others
      · left
        simp [Parser.take?, isKind, sameKind]

theorem exists_dropSpace_eq_drop (alike : List.Forall₂ like.token tokens tokens') :
    ∃ taken, taken ≤ tokens.length ∧ dropSpace tokens = tokens.drop taken ∧
      dropSpace tokens' = tokens'.drop taken := by
  induction alike with
  | nil => exact ⟨0, Nat.le_refl 0, rfl, rfl⟩
  | @cons first first' rest rest' one _ ih =>
      have sameKind := like.kind_eq one
      by_cases isSpace : first.kind.isSpace = true
      · rcases ih with ⟨taken, within, dropped, dropped'⟩
        refine ⟨taken + 1, by simpa using within, ?_, ?_⟩
        · rw [List.drop_succ_cons, ← dropped]
          simp [dropSpace, isSpace]
        · rw [List.drop_succ_cons, ← dropped']
          simp [dropSpace, sameKind, isSpace]
      · refine ⟨0, Nat.zero_le _, ?_, ?_⟩
        · simp [dropSpace, isSpace]
        · simp [dropSpace, sameKind, isSpace]

theorem Ahead.dropSpace (next : List Token → Option (List Token))
    (alike : List.Forall₂ like.token tokens tokens')
    (further : ∀ rest rest', List.Forall₂ like.token rest rest' →
      Ahead rest rest' (next rest) (next rest')) :
    Ahead tokens tokens' (next (Parser.dropSpace tokens)) (next (Parser.dropSpace tokens')) := by
  rcases exists_dropSpace_eq_drop alike with ⟨taken, within, dropped, dropped'⟩
  rw [dropped, dropped']
  apply Ahead.of_drop within
  exact further _ _ (List.forall₂_drop taken alike)

/-- What follows two closing braces, if they are at the front. -/
def afterClose? (tokens : List Token) : Option (List Token) :=
  Parser.take? .mustacheClose tokens >>= fun taken => some taken.2

/-- What follows the second half of the mark between branches, if it is at the front. -/
def afterElseWord? (tokens : List Token) : Option (List Token) :=
  Parser.take? .elseWord tokens >>= fun taken => afterClose? (Parser.dropSpace taken.2)

theorem afterElse?_eq : afterElse? tokens =
    Parser.take? .mustacheOpen tokens >>= fun taken =>
      afterElseWord? (Parser.dropSpace taken.2) :=
  rfl

theorem afterClose?_ahead (alike : List.Forall₂ like.token tokens tokens') :
    Ahead tokens tokens' (afterClose? tokens) (afterClose? tokens') := by
  apply Ahead.take? some alike
  intro rest rest' _
  exact .inr ⟨0, Nat.zero_le _, rfl, rfl⟩

theorem afterElseWord?_ahead (alike : List.Forall₂ like.token tokens tokens') :
    Ahead tokens tokens' (afterElseWord? tokens) (afterElseWord? tokens') := by
  apply Ahead.take? (fun tokens => afterClose? (Parser.dropSpace tokens)) alike
  intro rest rest' alike
  apply Ahead.dropSpace afterClose? alike
  intro rest rest' alike
  exact afterClose?_ahead alike

theorem afterElse?_ahead (alike : List.Forall₂ like.token tokens tokens') :
    Ahead tokens tokens' (afterElse? tokens) (afterElse? tokens') := by
  rw [afterElse?_eq, afterElse?_eq]
  apply Ahead.take? (fun tokens => afterElseWord? (Parser.dropSpace tokens)) alike
  intro rest rest' alike
  apply Ahead.dropSpace afterElseWord? alike
  intro rest rest' alike
  exact afterElseWord?_ahead alike

theorem startsWith_seesAlike (kind : Kind) : like.SeesAlike (startsWith kind) := by
  intro tokens tokens' alike
  cases alike with
  | nil => rfl
  | cons one _ =>
      rw [startsWith_cons, startsWith_cons, like.kind_eq one]

theorem SeesAlike.or {look more : List Token → Bool} (sees : like.SeesAlike look)
    (seesMore : like.SeesAlike more) :
    like.SeesAlike fun tokens => look tokens || more tokens := by
  intro tokens tokens' alike
  change (look tokens' || more tokens') = _
  rw [sees tokens tokens' alike, seesMore tokens tokens' alike]

theorem afterElse?_seesAlike : like.SeesAlike fun tokens => (afterElse? tokens).isSome := by
  intro tokens tokens' alike
  rcases afterElse?_ahead alike with ⟨none, none'⟩ | ⟨taken, _, found, found'⟩
  · simp only [none, none']
  · simp only [found, found', Option.isSome_some]

/-- Tokens that are alike and of the given kind. -/
def Both (like : Likeness) (kind : Kind) (first second : Token) : Prop :=
  like.token first second ∧ first.kind = kind

theorem expect_follows (kind : Kind) (what : Expectation) :
    like.Follows bound (like.Both kind) (expect kind what) (expect kind what) := by
  intro tokens tokens' alike _
  cases alike with
  | nil => exact .fault (like.atEnd what)
  | @cons first first' rest rest' one _ =>
      have sameKind := like.kind_eq one
      by_cases isKind : first.kind = kind
      · simp only [expect, Parser.take?, isKind, sameKind, if_true]
        exact .ok 1 (by simp) ⟨one, isKind⟩ rfl rfl
      · simp only [expect, Parser.take?, isKind, sameKind, if_false, List.head?_cons]
        exact .fault (like.atToken one (.expected what))

theorem accept_follows (kind : Kind) :
    like.Follows bound Eq (accept kind) (accept kind) := by
  intro tokens tokens' alike _
  cases alike with
  | nil => exact .ok 0 (Nat.zero_le _) rfl rfl rfl
  | @cons first first' rest rest' one _ =>
      have sameKind := like.kind_eq one
      by_cases isKind : first.kind = kind
      · simp only [accept, Parser.take?, isKind, sameKind, if_true]
        exact .ok 1 (by simp) rfl rfl rfl
      · simp only [accept, Parser.take?, isKind, sameKind, if_false]
        exact .ok 0 (Nat.zero_le _) rfl rfl rfl

theorem acceptElse_follows : like.Follows bound Eq acceptElse acceptElse := by
  intro tokens tokens' alike _
  rcases afterElse?_ahead alike with ⟨none, none'⟩ | ⟨taken, within, found, found'⟩
  · simp only [acceptElse, none, none']
    exact .ok 0 (Nat.zero_le _) rfl rfl rfl
  · simp only [acceptElse, found, found']
    exact .ok taken within rfl rfl rfl

theorem skipSpace_follows : like.Follows bound Eq skipSpace skipSpace := by
  intro tokens tokens' alike _
  rcases exists_dropSpace_eq_drop alike with ⟨taken, within, dropped, dropped'⟩
  exact .ok taken within rfl dropped dropped'

theorem stopAt_follows {first first' : Token} {cause : ParseError.Cause}
    (one : like.token first first') (structural : cause.Structural like.token) :
    like.Follows bound values (stopAt first cause) (stopAt first' cause) := by
  intro tokens tokens' _ _
  exact .fault (like.atToken one structural)

theorem require_follows {first first' : Token} {condition : Bool} {cause : ParseError.Cause}
    (one : like.token first first') (structural : cause.Structural like.token) :
    like.Follows bound Eq (require condition first cause) (require condition first' cause) := by
  cases condition with
  | true => exact .pure rfl
  | false => exact stopAt_follows one structural

/-- A way to read the statement after a token follows another one where fewer tokens than the bound
are left. -/
def Inside (like : Likeness) (bound : Nat) (statement statement' : Token → Parser Statement) :
    Prop :=
  ∀ first first' fewer, like.token first first' → fewer < bound →
    like.Follows fewer Eq (statement first) (statement' first')

variable {statement statement' : Token → Parser Statement} {stop : List Token → Bool}

theorem statementsUpTo_follows (inside : like.Inside bound statement statement')
    (sees : like.SeesAlike stop) (limit : Nat) :
    like.Follows bound Eq (statementsUpTo stop statement limit)
      (statementsUpTo stop statement' limit) := by
  induction limit with
  | zero => exact .pure rfl
  | succ limit ih =>
      intro tokens tokens' alike short
      cases alike with
      | nil => exact .ok 0 (Nat.zero_le _) rfl rfl rfl
      | @cons first first' rest rest' one others =>
          rw [statementsUpTo_cons, statementsUpTo_cons, sees _ _ (.cons one others)]
          by_cases stops : stop (first :: rest) = true
          · rw [if_pos stops, if_pos stops]
            exact .ok 0 (Nat.zero_le _) rfl rfl rfl
          · rw [if_neg stops, if_neg stops]
            have within : 1 ≤ (first :: rest).length := by simp
            apply Outcome.of_drop within
            have follows := inside first first' rest.length one short
            have continues : like.Follows rest.length Eq
                (statement first >>= fun one => statementsUpTo stop statement limit >>=
                  fun more => Pure.pure (one :: more))
                (statement' first' >>= fun one => statementsUpTo stop statement' limit >>=
                  fun more => Pure.pure (one :: more)) := by
              apply follows.bind
              rintro read _ rfl
              apply (ih.mono (Nat.le_of_lt short)).bind
              rintro more _ rfl
              exact .pure rfl
            exact continues rest rest' others (Nat.le_refl _)

theorem sequence_follows (inside : like.Inside bound statement statement')
    (sees : like.SeesAlike stop) :
    like.Follows bound Eq (sequence stop statement) (sequence stop statement') := by
  intro tokens tokens' alike short
  have sameLength := alike.length_eq
  have continues : like.Follows bound Eq
      (statementsUpTo stop statement tokens.length >>= fun read => Pure.pure (joinLiterals read))
      (statementsUpTo stop statement' tokens.length >>= fun read =>
        Pure.pure (joinLiterals read)) := by
    apply (statementsUpTo_follows inside sees tokens.length).bind
    rintro read _ rfl
    exact .pure rfl
  have follows := continues tokens tokens' alike short
  change like.Outcome Eq tokens tokens' _
    ((statementsUpTo stop statement' tokens'.length >>= fun read =>
      Pure.pure (joinLiterals read)) tokens')
  rw [← sameLength]
  exact follows

end Likeness

end Stencil
