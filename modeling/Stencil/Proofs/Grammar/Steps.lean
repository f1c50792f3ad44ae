import Mathlib.Data.List.TakeWhile
import Stencil.Proofs.Grammar.Basic

/-!
# What the steps of a parser take

Each step of reading a template is described by the tokens it takes when it does not stop: a step
in front of others succeeds exactly if the tokens begin with what it takes and the others succeed
on what follows.  The readers of whole constructs are opened by these equivalences alone.
-/

namespace Stencil.Parser

open Token (Kind)
open Grammar (IsSpace Closes Encloses)

variable {α β : Type} {tokens rest : List Token} {outcome : β × List Token}

theorem bind_eq_ok {step : Parser α} {next : α → Parser β} :
    (step >>= next) tokens = .ok outcome ↔
      ∃ value middle, step tokens = .ok (value, middle) ∧ next value middle = .ok outcome := by
  change (step tokens >>= fun taken => next taken.1 taken.2) = .ok outcome ↔ _
  cases step tokens with
  | error fault => simp [bind, Except.bind]
  | ok taken =>
      rcases taken with ⟨value, middle⟩
      simp [bind, Except.bind, and_assoc]

theorem pure_eq_ok {value result : β} :
    (pure value : Parser β) tokens = .ok (result, rest) ↔ value = result ∧ tokens = rest := by
  change Except.ok (value, tokens) = .ok (result, rest) ↔ _
  simp

theorem take?_eq_some {kind : Kind} {token : Token} :
    take? kind tokens = some (token, rest) ↔ tokens = token :: rest ∧ token.kind = kind := by
  cases tokens with
  | nil => simp [take?]
  | cons first others =>
      by_cases same : first.kind = kind
      · simp [take?, same]
        grind
      · simp [take?, same]
        grind

@[simp] theorem startsWith_nil (kind : Kind) : startsWith kind [] = false := rfl

@[simp] theorem startsWith_cons (kind : Kind) (token : Token) (rest : List Token) :
    startsWith kind (token :: rest) = decide (token.kind = kind) := by
  by_cases same : token.kind = kind <;> simp [startsWith, take?, same]

theorem startsWith_eq_true {kind : Kind} :
    startsWith kind tokens = true ↔ ∃ token rest, tokens = token :: rest ∧ token.kind = kind := by
  cases tokens <;> simp

/-- A token that is no space is where dropping space ends. -/
theorem dropSpace_append {space : List Token} {token : Token} (isSpace : IsSpace space)
    (other : token.kind.isSpace = false) :
    dropSpace (space ++ token :: rest) = token :: rest := by
  rw [dropSpace, List.dropWhile_append_of_pos isSpace]
  simp [other]

/-- What is dropped is space. -/
theorem exists_dropSpace (tokens : List Token) :
    ∃ space, tokens = space ++ dropSpace tokens ∧ IsSpace space := by
  refine ⟨tokens.takeWhile fun token => token.kind.isSpace, ?_, ?_⟩
  · exact List.takeWhile_append_dropWhile.symm
  · intro token member
    have kept := List.mem_takeWhile_imp member
    exact kept

theorem expect_bind_eq_ok {kind : Kind} {what : Expectation} {next : Token → Parser β} :
    (expect kind what >>= next) tokens = .ok outcome ↔
      ∃ token rest, tokens = token :: rest ∧ token.kind = kind ∧ next token rest = .ok outcome := by
  rw [bind_eq_ok]
  cases tokens with
  | nil => simp [expect, take?]
  | cons first others =>
      by_cases same : first.kind = kind
      · simp [expect, take?, same, and_assoc]
      · simp [expect, take?, same]

theorem accept_bind_eq_ok {kind : Kind} {next : Bool → Parser β} :
    (accept kind >>= next) tokens = .ok outcome ↔
      (∃ token rest, tokens = token :: rest ∧ token.kind = kind ∧ next true rest = .ok outcome) ∨
        startsWith kind tokens = false ∧ next false tokens = .ok outcome := by
  rw [bind_eq_ok]
  cases tokens with
  | nil => simp [accept, take?]
  | cons first others =>
      by_cases same : first.kind = kind
      · simp [accept, take?, same, and_assoc]
      · simp [accept, take?, same]

theorem accept_cons_bind {kind : Kind} {token : Token} {next : Bool → Parser β} :
    (accept kind >>= next) (token :: rest) =
      if token.kind = kind then next true rest else next false (token :: rest) := by
  change (accept kind (token :: rest) >>= fun taken => next taken.1 taken.2) = _
  by_cases same : token.kind = kind
  · simp [accept, take?, same, bind, Except.bind]
  · simp [accept, take?, same, bind, Except.bind]

/-- Space and a token after it. -/
theorem skipSpace_expect_bind_eq_ok {kind : Kind} {what : Expectation} {next : Token → Parser β}
    (other : kind.isSpace = false) :
    (skipSpace >>= fun _ => expect kind what >>= next) tokens = .ok outcome ↔
      ∃ space token rest, tokens = space ++ token :: rest ∧ IsSpace space ∧ token.kind = kind ∧
        next token rest = .ok outcome := by
  have skipped : (skipSpace >>= fun _ => expect kind what >>= next) tokens =
      (expect kind what >>= next) (dropSpace tokens) := rfl
  rw [skipped, expect_bind_eq_ok]
  constructor
  · intro ⟨token, rest, dropped, named, read⟩
    rcases exists_dropSpace tokens with ⟨space, split, isSpace⟩
    rw [dropped] at split
    exact ⟨space, token, rest, split, isSpace, named, read⟩
  · intro assumed
    rcases assumed with ⟨space, token, rest, rfl, isSpace, named, read⟩
    exact ⟨token, rest, dropSpace_append isSpace (named ▸ other), named, read⟩

theorem skipSpace_get_bind {next : List Token → Parser β} :
    (skipSpace >>= fun _ => get >>= next) tokens = next (dropSpace tokens) (dropSpace tokens) :=
  rfl

/-- Two closing braces with space before them. -/
theorem skipSpace_close_bind_eq_ok {what : Expectation} {next : Parser β} :
    (skipSpace >>= fun _ => expect .mustacheClose what >>= fun _ => next) tokens = .ok outcome ↔
      ∃ closing rest, tokens = closing ++ rest ∧ Closes closing ∧ next rest = .ok outcome := by
  rw [skipSpace_expect_bind_eq_ok rfl]
  constructor
  · intro assumed
    rcases assumed with ⟨space, brace, rest, rfl, isSpace, closed, read⟩
    exact ⟨space ++ [brace], rest, by simp, .intro isSpace closed, read⟩
  · intro assumed
    rcases assumed with ⟨_, rest, rfl, @⟨space, brace, isSpace, closed⟩, read⟩
    exact ⟨space, brace, rest, by simp, isSpace, closed, read⟩

/-- A word between an opening token and two closing braces. -/
theorem enclosed_bind_eq_ok {opening word : Kind} {whatOpens whatNames whatCloses : Expectation}
    {next : Token → Parser β} (other : word.isSpace = false) :
    (expect opening whatOpens >>= fun _ => skipSpace >>= fun _ => expect word whatNames >>=
        fun name => skipSpace >>= fun _ => expect .mustacheClose whatCloses >>= fun _ =>
        next name) tokens = .ok outcome ↔
      ∃ name enclosed rest, tokens = enclosed ++ rest ∧ Encloses opening word name enclosed ∧
        next name rest = .ok outcome := by
  rw [expect_bind_eq_ok]
  simp only [skipSpace_expect_bind_eq_ok other, skipSpace_close_bind_eq_ok]
  constructor
  · intro assumed
    rcases assumed with ⟨first, _, rfl, opened, space, name, _, rfl, isSpace, named, closing, rest,
      rfl, closes, read⟩
    exact ⟨name, _, rest, by simp, .intro opened isSpace named closes, read⟩
  · intro assumed
    rcases assumed with ⟨name, _, rest, rfl, @⟨first, space, closing, opened, isSpace, named,
      closes⟩, read⟩
    exact ⟨first, _, rfl, opened, space, name, closing ++ rest, by simp, isSpace, named, closing,
      rest, rfl, closes, read⟩

theorem require_bind_eq_ok {condition : Bool} {token : Token} {cause : ParseError.Cause}
    {next : Unit → Parser β} :
    (require condition token cause >>= next) tokens = .ok outcome ↔
      condition = true ∧ next () tokens = .ok outcome := by
  cases condition with
  | false =>
      rw [bind_eq_ok]
      simp [require, stopAt]
  | true => exact ⟨fun read => ⟨rfl, read⟩, fun read => read.2⟩

theorem nextUnless_bind_eq_ok {stop : List Token → Bool} {next : Option Token → Parser β} :
    (nextUnless stop >>= next) tokens = .ok outcome ↔
      (tokens = [] ∨ stop tokens = true) ∧ next none tokens = .ok outcome ∨
        ∃ first rest, tokens = first :: rest ∧ stop tokens = false ∧
          next (some first) rest = .ok outcome := by
  rw [bind_eq_ok]
  cases tokens with
  | nil => simp [nextUnless, and_assoc]
  | cons first others =>
      cases stops : stop (first :: others) with
      | true => simp [nextUnless, stops, and_assoc]
      | false => simp [nextUnless, stops, and_assoc]

theorem afterElse?_eq_some :
    afterElse? tokens = some rest ↔
      ∃ word between, tokens = between ++ rest ∧
        Encloses .mustacheOpen .elseWord word between := by
  simp only [afterElse?, bind, Option.bind_eq_some_iff, Prod.exists, take?_eq_some, pure,
    Option.some.injEq]
  constructor
  · intro assumed
    rcases assumed with ⟨first, others, ⟨rfl, opened⟩, word, more, ⟨dropped, named⟩, brace, _,
      ⟨droppedMore, closed⟩, rfl⟩
    rcases exists_dropSpace others with ⟨space, split, isSpace⟩
    rcases exists_dropSpace more with ⟨after, splitMore, isSpaceAfter⟩
    rw [dropped] at split
    rw [droppedMore] at splitMore
    refine ⟨word, first :: (space ++ word :: (after ++ [brace])), ?_, ?_⟩
    · simp [split, splitMore]
    · exact .intro opened isSpace named (.intro isSpaceAfter closed)
  · intro assumed
    rcases assumed with ⟨word, _, rfl, @⟨first, space, _, opened, isSpace, named, @⟨after, brace,
      isSpaceAfter, closed⟩⟩⟩
    refine ⟨first, space ++ word :: (after ++ brace :: rest), ⟨by simp, opened⟩, word,
      after ++ brace :: rest, ⟨?_, named⟩, brace, rest, ⟨?_, closed⟩, rfl⟩
    · exact dropSpace_append isSpace (by rw [named]; rfl)
    · exact dropSpace_append isSpaceAfter (by rw [closed]; rfl)

theorem acceptElse_bind_eq_ok {next : Bool → Parser β} :
    (acceptElse >>= next) tokens = .ok outcome ↔
      (∃ word between rest, tokens = between ++ rest ∧
        Encloses .mustacheOpen .elseWord word between ∧ next true rest = .ok outcome) ∨
        afterElse? tokens = none ∧ next false tokens = .ok outcome := by
  rw [bind_eq_ok]
  cases found : afterElse? tokens with
  | none =>
      simp only [acceptElse, found, Except.ok.injEq, Prod.mk.injEq, true_and]
      constructor
      · intro assumed
        rcases assumed with ⟨_, _, ⟨rfl, rfl⟩, read⟩
        exact .inr read
      · intro assumed
        rcases assumed with ⟨word, between, rest, split, enclosed, _⟩ | read
        · rw [afterElse?_eq_some.mpr ⟨word, between, split, enclosed⟩] at found
          contradiction
        · exact ⟨false, tokens, ⟨rfl, rfl⟩, read⟩
  | some after =>
      simp only [acceptElse, found, Except.ok.injEq, Prod.mk.injEq, reduceCtorEq, false_and,
        or_false]
      constructor
      · intro assumed
        rcases assumed with ⟨_, _, ⟨rfl, rfl⟩, read⟩
        rcases afterElse?_eq_some.mp found with ⟨word, between, split, enclosed⟩
        exact ⟨word, between, after, split, enclosed, read⟩
      · intro ⟨word, between, rest, split, enclosed, read⟩
        rw [afterElse?_eq_some.mpr ⟨word, between, split, enclosed⟩] at found
        exact ⟨true, rest, ⟨rfl, (Option.some.inj found).symm⟩, read⟩

theorem statementsUpTo_nil {stop : List Token → Bool} {statement : Token → Parser Statement}
    {bound : Nat} : statementsUpTo stop statement bound [] = .ok ([], []) := by
  cases bound <;> rfl

theorem statementsUpTo_cons {stop : List Token → Bool} {statement : Token → Parser Statement}
    {bound : Nat} {first : Token} :
    statementsUpTo stop statement (bound + 1) (first :: tokens) =
      if stop (first :: tokens) then .ok ([], first :: tokens)
      else (statement first >>= fun one => statementsUpTo stop statement bound >>= fun more =>
        pure (one :: more)) tokens := by
  rw [statementsUpTo]
  change (nextUnless stop (first :: tokens) >>= _) = _
  by_cases stops : stop (first :: tokens) = true
  · simp only [nextUnless, stops]
    rfl
  · simp only [nextUnless, stops]
    rfl

theorem statementsUpTo_cons_eq_ok {stop : List Token → Bool} {statement : Token → Parser Statement}
    {bound : Nat} {first : Token} {read : List Statement} :
    statementsUpTo stop statement (bound + 1) (first :: tokens) = .ok (read, rest) ↔
      stop (first :: tokens) = true ∧ read = [] ∧ rest = first :: tokens ∨
        stop (first :: tokens) = false ∧ ∃ one others middle,
          statement first tokens = .ok (one, middle) ∧
            statementsUpTo stop statement bound middle = .ok (others, rest) ∧
            read = one :: others := by
  rw [statementsUpTo, nextUnless_bind_eq_ok]
  simp only [bind_eq_ok, pure_eq_ok]
  grind

theorem attributesUpTo_succ_eq_ok {statement : Token → Parser Statement} {bound : Nat}
    {given : List Attribute} :
    attributesUpTo statement (bound + 1) tokens = .ok (given, rest) ↔
      (dropSpace tokens = [] ∨ startsWith .mustacheClose (dropSpace tokens) = true) ∧
          given = [] ∧ rest = dropSpace tokens ∨
        ∃ first others one more middle, dropSpace tokens = first :: others ∧
          first.kind ≠ .mustacheClose ∧ statement first others = .ok (.assignment one, middle) ∧
          attributesUpTo statement bound middle = .ok (more, rest) ∧ given = one :: more := by
  rw [attributesUpTo, skipSpace_get_bind, nextUnless_bind_eq_ok]
  constructor
  · intro assumed
    rcases assumed with ⟨ended, read⟩ | ⟨first, others, split, goesOn, read⟩
    · rcases pure_eq_ok.mp read with ⟨rfl, rfl⟩
      exact .inl ⟨ended, rfl, rfl⟩
    · rcases bind_eq_ok.mp read with ⟨value, middle, taken, read⟩
      have notClose : first.kind ≠ .mustacheClose := by
        rw [split, startsWith_cons] at goesOn
        simpa using goesOn
      cases value with
      | assignment one =>
          rcases bind_eq_ok.mp read with ⟨more, after, readMore, read⟩
          rcases pure_eq_ok.mp read with ⟨rfl, rfl⟩
          exact .inr ⟨first, others, one, more, middle, split, notClose, taken, readMore, rfl⟩
      | _ => simp [stopAtLastTaken] at read
  · intro assumed
    rcases assumed with ⟨ended, rfl, rfl⟩ | ⟨first, others, one, more, middle, split, notClose,
      taken, readMore, rfl⟩
    · exact .inl ⟨ended, pure_eq_ok.mpr ⟨rfl, rfl⟩⟩
    · refine .inr ⟨first, others, split, ?_, ?_⟩
      · rw [split, startsWith_cons]
        simpa using notClose
      · refine bind_eq_ok.mpr ⟨.assignment one, middle, taken, ?_⟩
        exact bind_eq_ok.mpr ⟨more, rest, readMore, pure_eq_ok.mpr ⟨rfl, rfl⟩⟩

end Stencil.Parser
