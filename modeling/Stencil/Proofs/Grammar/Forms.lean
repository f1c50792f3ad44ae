import Stencil.Proofs.Grammar.Lists

/-!
# Every construct is read as it is derived

The readers of the constructs, each against its production.  One direction takes a reader that
succeeds apart, step by step, and finds the parts of the production in what the steps took.  The
other direction feeds the parts of a production to the reader.
-/

namespace Stencil.Grammar

open Token (Kind)
open Parse (Position StatementParser)
open Stencil.Parser

variable {matchNames : Bool} {levels : Nat} {inner : StatementParser}
variable {position : Position} {first second : Token} {tokens rest : List Token} {read : Statement}

theorem conditionalEnd_bind_eq_ok {β : Type} {next : Parser β} {outcome : β × List Token} :
    (Parse.conditionalEnd >>= fun _ => next) tokens = .ok outcome ↔
      ∃ word finish rest, tokens = finish ++ rest ∧ Encloses .blockClose .ifWord word finish ∧
        next rest = .ok outcome := by
  simp only [Parse.conditionalEnd, bind_assoc, pure_bind]
  exact enclosed_bind_eq_ok rfl

theorem conditional_sound (reads : Reads matchNames levels inner)
    (opened : first.kind = .blockOpen) (named : second.kind = .ifWord)
    (succeeds : Parse.conditional inner tokens = .ok (read, rest)) :
    ∃ front, tokens = front ++ rest ∧
      Derives matchNames (levels + 1) (.statement position read) (first :: second :: front) := by
  simp only [Parse.conditional, expect_bind_eq_ok, skipSpace_close_bind_eq_ok,
    sequence_bind_eq_ok reads stops_branch, acceptElse_bind_eq_ok] at succeeds
  rcases succeeds with ⟨blank, _, rfl, spaced, condition, _, rfl, isName, closing, _, rfl, closes,
    body, inside, _, rfl, derivedBody, _, branches⟩
  have opens : HasKinds [.blockOpen, .ifWord, .blank] [first, second, blank] := by
    simp [HasKinds, opened, named, spaced]
  rcases branches with ⟨middle, between, _, rfl, isElse, succeeds⟩ | ⟨_, succeeds⟩
  · simp only [↓reduceIte, sequence_bind_eq_ok reads stops_block, conditionalEnd_bind_eq_ok,
      pure_eq_ok] at succeeds
    rcases succeeds with ⟨alternative, otherwise, _, rfl, derivedOther, _, word, finish, _, rfl,
      ends, rfl, rfl⟩
    exact ⟨_, by simp, .ifThenElse opens isName closes derivedBody isElse derivedOther ends⟩
  · simp only [Bool.false_eq_true, ↓reduceIte, conditionalEnd_bind_eq_ok, pure_eq_ok] at succeeds
    rcases succeeds with ⟨word, finish, _, rfl, ends, rfl, rfl⟩
    exact ⟨_, by simp, .ifThen opens isName closes derivedBody ends⟩

theorem each_sound (reads : Reads matchNames levels inner)
    (opened : first.kind = .blockOpen) (named : second.kind = .eachWord)
    (succeeds : Parse.each inner tokens = .ok (read, rest)) :
    ∃ front, tokens = front ++ rest ∧
      Derives matchNames (levels + 1) (.statement position read) (first :: second :: front) := by
  simp only [Parse.each, expect_bind_eq_ok, skipSpace_close_bind_eq_ok,
    skipSpace_expect_bind_eq_ok (rfl : Kind.isSpace .eachWord = false),
    sequence_bind_eq_ok reads stops_block, pure_eq_ok] at succeeds
  rcases succeeds with ⟨blank, _, rfl, spaced, collection, _, rfl, isName, gap, _, rfl, isGap, item,
    _, rfl, isItem, closing, _, rfl, closes, body, inside, _, rfl, derivedBody, _, closed, _, rfl,
    isClosed, space, word, _, rfl, isSpace, isWord, finish, _, rfl, finishes, rfl, rfl⟩
  have opens : HasKinds [.blockOpen, .eachWord, .blank] [first, second, blank] := by
    simp [HasKinds, opened, named, spaced]
  exact ⟨_, by simp, .each opens isName isGap isItem closes derivedBody
    (.intro isClosed isSpace isWord finishes)⟩

theorem slot_sound (reads : Reads matchNames levels inner)
    (opened : first.kind = .blockOpen) (named : second.kind = .greater)
    (succeeds : Parse.slot inner tokens = .ok (read, rest)) :
    ∃ front, tokens = front ++ rest ∧
      Derives matchNames (levels + 1) (.statement position read) (first :: second :: front) := by
  simp only [Parse.slot, expect_bind_eq_ok, skipSpace_close_bind_eq_ok,
    skipSpace_expect_bind_eq_ok (rfl : Kind.isSpace .identifier = false),
    attributes_bind_eq_ok reads, sequence_bind_eq_ok reads stops_block, require_bind_eq_ok,
    decide_eq_true_eq, pure_eq_ok] at succeeds
  rcases succeeds with ⟨blank, _, rfl, spaced, name, _, rfl, isName, given, arguments, _, rfl,
    derivedGiven, body, inside, _, rfl, derivedBody, _, closed, _, rfl, isClosed, space, closing, _,
    rfl, isSpace, isClosing, same, finish, _, rfl, finishes, rfl, rfl⟩
  have opens : HasKinds [.blockOpen, .greater, .blank] [first, second, blank] := by
    simp [HasKinds, opened, named, spaced]
  exact ⟨_, by simp, .slot opens isName derivedGiven derivedBody
    (.intro isClosed isSpace isClosing finishes) same⟩

theorem call_sound (reads : Reads matchNames levels inner)
    (opened : first.kind = .mustacheOpen) (named : second.kind = .greater)
    (succeeds : Parse.call inner tokens = .ok (read, rest)) :
    ∃ front, tokens = front ++ rest ∧
      Derives matchNames (levels + 1) (.statement position read) (first :: second :: front) := by
  simp only [Parse.call, expect_bind_eq_ok, attributes_bind_eq_ok reads, pure_eq_ok] at succeeds
  rcases succeeds with ⟨blank, _, rfl, spaced, name, _, rfl, isName, given, arguments, _, rfl,
    derived, rfl, rfl⟩
  have opens : HasKinds [.mustacheOpen, .greater, .blank] [first, second, blank] := by
    simp [HasKinds, opened, named, spaced]
  exact ⟨_, by simp, .call opens isName derived⟩

theorem interpolation_sound (opened : first.kind = .mustacheOpen)
    (succeeds : Parse.interpolation tokens = .ok (read, rest)) :
    ∃ front, tokens = front ++ rest ∧
      Derives matchNames (levels + 1) (.statement position read) (first :: front) := by
  simp only [Parse.interpolation, skipSpace_close_bind_eq_ok,
    skipSpace_expect_bind_eq_ok (rfl : Kind.isSpace .identifier = false), pure_eq_ok] at succeeds
  rcases succeeds with ⟨space, path, _, rfl, isSpace, isPath, closing, _, rfl, closes, rfl, rfl⟩
  exact ⟨_, by simp, .interpolation (.intro opened isSpace isPath closes)⟩

theorem stringBody_bind_eq_ok {β : Type} (reads : Reads matchNames levels inner)
    {next : List Statement → Parser β} {outcome : β × List Token} :
    (Parse.stringBody inner >>= next) tokens = .ok outcome ↔
      ∃ body inside closed rest, tokens = inside ++ closed :: rest ∧
        Derives matchNames levels (.list .quotes body) inside ∧ closed.kind = .quote ∧
        next (joinLiterals body) rest = .ok outcome := by
  simp only [Parse.stringBody, bind_assoc, pure_bind, sequence_bind_eq_ok reads stops_quotes,
    expect_bind_eq_ok]
  constructor
  · intro assumed
    rcases assumed with ⟨body, inside, _, rfl, derived, _, closed, rest, rfl, isQuote, goesOn⟩
    exact ⟨body, inside, closed, rest, rfl, derived, isQuote, goesOn⟩
  · intro assumed
    rcases assumed with ⟨body, inside, closed, rest, rfl, derived, isQuote, goesOn⟩
    exact ⟨body, inside, _, rfl, derived, .inr (by simp [isQuote]), closed, rest, rfl, isQuote,
      goesOn⟩

theorem quotedText_sound (reads : Reads matchNames levels inner) (opened : first.kind = .quote)
    (succeeds : Parse.quotedText inner tokens = .ok (read, rest)) :
    ∃ front, tokens = front ++ rest ∧
      Derives matchNames (levels + 1) (.statement position read) (first :: front) := by
  simp only [Parse.quotedText, stringBody_bind_eq_ok reads, pure_eq_ok] at succeeds
  rcases succeeds with ⟨body, inside, closed, _, rfl, derived, isQuote, rfl, rfl⟩
  exact ⟨_, by simp, .quoted opened derived isQuote⟩

theorem attributeValue_sound (reads : Reads matchNames levels inner) {given : Attribute}
    (named : first.kind = .identifier) (sign : second.kind = .equal)
    (succeeds : Parse.attributeValue inner first.lexeme tokens = .ok (given, rest)) :
    ∃ front, tokens = front ++ rest ∧
      Derives matchNames (levels + 1) (.attribute given) (first :: second :: front) := by
  rw [Parse.attributeValue, accept_bind_eq_ok] at succeeds
  rcases succeeds with ⟨opened, _, rfl, isQuote, succeeds⟩ | ⟨_, succeeds⟩
  · simp only [↓reduceIte, stringBody_bind_eq_ok reads, pure_eq_ok] at succeeds
    rcases succeeds with ⟨body, inside, closed, _, rfl, derived, isClosed, rfl, rfl⟩
    exact ⟨_, by simp, .quotedValue named sign isQuote derived isClosed⟩
  · simp only [Bool.false_eq_true, ↓reduceIte, expect_bind_eq_ok, pure_eq_ok] at succeeds
    rcases succeeds with ⟨value, _, rfl, isWord, rfl, rfl⟩
    exact ⟨[value], rfl, .bare named sign isWord⟩

theorem tag_sound (reads : Reads matchNames levels inner) (opened : first.kind = .less)
    (succeeds : Parse.tag inner matchNames tokens = .ok (read, rest)) :
    ∃ front, tokens = front ++ rest ∧
      Derives matchNames (levels + 1) (.statement position read) (first :: front) := by
  simp only [Parse.tag, expect_bind_eq_ok, sequence_bind_eq_ok reads stops_opening,
    accept_bind_eq_ok] at succeeds
  rcases succeeds with ⟨name, _, rfl, isName, given, attributes, _, rfl, derivedGiven, _, branches⟩
  rcases branches with ⟨ended, _, rfl, isEnd, succeeds⟩ | ⟨_, succeeds⟩
  · simp only [↓reduceIte, pure_eq_ok] at succeeds
    rcases succeeds with ⟨rfl, rfl⟩
    exact ⟨_, by simp, .emptyTag opened isName derivedGiven isEnd⟩
  · simp only [Bool.false_eq_true, ↓reduceIte, expect_bind_eq_ok,
      sequence_bind_eq_ok reads stops_content, require_bind_eq_ok, pure_eq_ok] at succeeds
    rcases succeeds with ⟨ended, _, rfl, isEnd, body, inside, _, rfl, derivedBody, _, closed, _,
      rfl, isClosed, closing, _, rfl, isClosing, same, finish, _, rfl, isFinish, rfl, rfl⟩
    refine ⟨_, by simp, .tag opened isName derivedGiven isEnd derivedBody isClosed isClosing ?_
      isFinish⟩
    intro strict
    simpa [strict] using same

/-! ## Every derived construct is read -/

theorem conditional_ifThen (reads : Reads matchNames levels inner) {blank condition word : Token}
    {body : List Statement} {closed inside finish : List Token}
    (spaced : blank.kind = .blank) (isName : condition.kind = .identifier) (closes : Closes closed)
    (derivedBody : Derives matchNames levels (.list .text body) inside)
    (ends : Encloses .blockClose .ifWord word finish) :
    Parse.conditional inner (blank :: condition :: (closed ++ (inside ++ (finish ++ rest)))) =
      .ok (.ifThen condition.lexeme (joinLiterals body), rest) := by
  simp only [Parse.conditional, expect_bind_eq_ok, skipSpace_close_bind_eq_ok,
    sequence_bind_eq_ok reads stops_branch, acceptElse_bind_eq_ok]
  refine ⟨blank, _, rfl, spaced, condition, _, rfl, isName, closed, _, rfl, closes, body, inside, _,
    rfl, derivedBody, ?_, .inr ⟨?_, ?_⟩⟩
  · cases ends with
    | intro opened => simp [opened]
  · cases ends with
    | @intro first space closing opened =>
        have notElse : first.kind = .mustacheOpen → NotElse (space ++ word :: closing) := by
          simp [opened]
        exact afterElse?_eq_none notElse
  · simp only [Bool.false_eq_true, ↓reduceIte, conditionalEnd_bind_eq_ok, pure_eq_ok]
    exact ⟨word, finish, rest, rfl, ends, trivial, rfl⟩

theorem conditional_ifThenElse (reads : Reads matchNames levels inner)
    {blank condition middle word : Token} {body alternative : List Statement}
    {closed inside between otherwise finish : List Token}
    (spaced : blank.kind = .blank) (isName : condition.kind = .identifier) (closes : Closes closed)
    (derivedBody : Derives matchNames levels (.list .text body) inside)
    (isElse : Encloses .mustacheOpen .elseWord middle between)
    (derivedOther : Derives matchNames levels (.list .text alternative) otherwise)
    (ends : Encloses .blockClose .ifWord word finish) :
    Parse.conditional inner
        (blank :: condition ::
          (closed ++ (inside ++ (between ++ (otherwise ++ (finish ++ rest)))))) =
      .ok (.ifThenElse condition.lexeme (joinLiterals body) (joinLiterals alternative), rest) := by
  simp only [Parse.conditional, expect_bind_eq_ok, skipSpace_close_bind_eq_ok,
    sequence_bind_eq_ok reads stops_branch, acceptElse_bind_eq_ok]
  refine ⟨blank, _, rfl, spaced, condition, _, rfl, isName, closed, _, rfl, closes, body, inside, _,
    rfl, derivedBody, ?_, .inl ⟨middle, between, _, rfl, isElse, ?_⟩⟩
  · rw [afterElse?_eq_some.mpr ⟨middle, between, rfl, isElse⟩]
    simp
  · simp only [↓reduceIte, sequence_bind_eq_ok reads stops_block, conditionalEnd_bind_eq_ok,
      pure_eq_ok]
    refine ⟨alternative, otherwise, _, rfl, derivedOther, ?_, word, finish, rest, rfl, ends, rfl,
      rfl⟩
    cases ends with
    | intro opened => simp [opened]

theorem each_complete (reads : Reads matchNames levels inner)
    {blank collection gap item word : Token} {body : List Statement}
    {closed inside finish : List Token} (spaced : blank.kind = .blank)
    (isName : collection.kind = .identifier) (isGap : gap.kind = .blank)
    (isItem : item.kind = .identifier) (closes : Closes closed)
    (derivedBody : Derives matchNames levels (.list .text body) inside)
    (ends : Encloses .blockClose .eachWord word finish) :
    Parse.each inner
        (blank :: collection :: gap :: item :: (closed ++ (inside ++ (finish ++ rest)))) =
      .ok (.each collection.lexeme item.lexeme (joinLiterals body), rest) := by
  simp only [Parse.each, expect_bind_eq_ok, skipSpace_close_bind_eq_ok,
    skipSpace_expect_bind_eq_ok (rfl : Kind.isSpace .eachWord = false),
    sequence_bind_eq_ok reads stops_block, pure_eq_ok]
  cases ends with
  | @intro first space closing opened isSpace named closesEnd =>
      refine ⟨blank, _, rfl, spaced, collection, _, rfl, isName, gap, _, rfl, isGap, item, _, rfl,
        isItem, closed, _, rfl, closes, body, inside, _, rfl, derivedBody, ?_, first, _, rfl,
        opened, space, word, closing ++ rest, by simp, isSpace, named, closing, rest, rfl,
        closesEnd, rfl, rfl⟩
      simp [opened]

theorem slot_complete (reads : Reads matchNames levels inner) {blank name closing : Token}
    {given : List Attribute} {body : List Statement} {arguments inside finish : List Token}
    (spaced : blank.kind = .blank) (isName : name.kind = .identifier)
    (derivedGiven : Derives matchNames levels (.arguments given) arguments)
    (derivedBody : Derives matchNames levels (.list .text body) inside)
    (ends : Encloses .blockClose .identifier closing finish)
    (same : closing.lexeme = name.lexeme) :
    Parse.slot inner (blank :: name :: (arguments ++ (inside ++ (finish ++ rest)))) =
      .ok (.call name.lexeme (given ++ [.captured Attribute.capturedName (joinLiterals body)]),
        rest) := by
  simp only [Parse.slot, expect_bind_eq_ok, skipSpace_close_bind_eq_ok,
    skipSpace_expect_bind_eq_ok (rfl : Kind.isSpace .identifier = false),
    attributes_bind_eq_ok reads,
    sequence_bind_eq_ok reads stops_block, require_bind_eq_ok, decide_eq_true_eq, pure_eq_ok]
  cases ends with
  | @intro first space closingEnd opened isSpace named closesEnd =>
      refine ⟨blank, _, rfl, spaced, name, _, rfl, isName, given, arguments, _, rfl, derivedGiven,
        body, inside, _, rfl, derivedBody, ?_, first, _, rfl, opened, space, closing,
        closingEnd ++ rest, by simp, isSpace, named, same, closingEnd, rest, rfl, closesEnd, rfl,
        rfl⟩
      simp [opened]

theorem call_complete (reads : Reads matchNames levels inner) {blank name : Token}
    {given : List Attribute} {arguments : List Token} (spaced : blank.kind = .blank)
    (isName : name.kind = .identifier)
    (derived : Derives matchNames levels (.arguments given) arguments) :
    Parse.call inner (blank :: name :: (arguments ++ rest)) =
      .ok (.call name.lexeme given, rest) := by
  simp only [Parse.call, expect_bind_eq_ok, attributes_bind_eq_ok reads, pure_eq_ok]
  exact ⟨blank, _, rfl, spaced, name, _, rfl, isName, given, arguments, rest, rfl, derived, rfl,
    rfl⟩

theorem interpolation_complete {path : Token} {space closing : List Token} (isSpace : IsSpace space)
    (isPath : path.kind = .identifier) (closes : Closes closing) :
    Parse.interpolation (space ++ path :: (closing ++ rest)) =
      .ok (.interpolation path.lexeme, rest) := by
  simp only [Parse.interpolation, skipSpace_close_bind_eq_ok,
    skipSpace_expect_bind_eq_ok (rfl : Kind.isSpace .identifier = false), pure_eq_ok]
  exact ⟨space, path, _, rfl, isSpace, isPath, closing, rest, rfl, closes, rfl, rfl⟩

theorem quotedText_complete (reads : Reads matchNames levels inner) {body : List Statement}
    {inside : List Token} {closed : Token}
    (derived : Derives matchNames levels (.list .quotes body) inside)
    (isQuote : closed.kind = .quote) :
    Parse.quotedText inner (inside ++ closed :: rest) =
      .ok (.quoted (joinLiterals (.literal "\"" :: joinLiterals body ++ [.literal "\""])),
        rest) := by
  simp only [Parse.quotedText, stringBody_bind_eq_ok reads, pure_eq_ok]
  exact ⟨body, inside, closed, rest, rfl, derived, isQuote, rfl, rfl⟩

theorem tag_emptyTag (reads : Reads matchNames levels inner) {given : List Statement}
    {name closed : Token} {attributes : List Token} (isName : name.kind = .identifier)
    (derivedGiven : Derives matchNames levels (.list .opening given) attributes)
    (isClosed : closed.kind = .selfClose) :
    Parse.tag inner matchNames (name :: (attributes ++ closed :: rest)) =
      .ok (.emptyTag name.lexeme (joinLiterals given), rest) := by
  simp only [Parse.tag, expect_bind_eq_ok, sequence_bind_eq_ok reads stops_opening,
    accept_bind_eq_ok]
  refine ⟨name, _, rfl, isName, given, attributes, _, rfl, derivedGiven, .inr (by simp [isClosed]),
    .inl ⟨closed, rest, rfl, isClosed, ?_⟩⟩
  simp [pure_eq_ok]

theorem tag_tag (reads : Reads matchNames levels inner) {given body : List Statement}
    {name ended closed closing finish : Token} {attributes inside : List Token}
    (isName : name.kind = .identifier)
    (derivedGiven : Derives matchNames levels (.list .opening given) attributes)
    (isEnd : ended.kind = .greater)
    (derivedBody : Derives matchNames levels (.list .content body) inside)
    (isClosed : closed.kind = .tagClose) (isClosing : closing.kind = .identifier)
    (same : matchNames = true → closing.lexeme = name.lexeme) (isFinish : finish.kind = .greater) :
    Parse.tag inner matchNames
        (name :: (attributes ++ ended :: (inside ++ closed :: closing :: finish :: rest))) =
      .ok (.tag name.lexeme (joinLiterals given) (joinLiterals body), rest) := by
  simp only [Parse.tag, expect_bind_eq_ok, sequence_bind_eq_ok reads stops_opening,
    accept_bind_eq_ok]
  refine ⟨name, _, rfl, isName, given, attributes, _, rfl, derivedGiven, .inr (by simp [isEnd]),
    .inr ⟨by simp [isEnd], ?_⟩⟩
  simp only [Bool.false_eq_true, ↓reduceIte, expect_bind_eq_ok,
    sequence_bind_eq_ok reads stops_content, require_bind_eq_ok, pure_eq_ok]
  refine ⟨ended, _, rfl, isEnd, body, inside, _, rfl, derivedBody, .inr (by simp [isClosed]),
    closed, _, rfl, isClosed, closing, _, rfl, isClosing, ?_, finish, rest, rfl, isFinish, rfl, rfl⟩
  cases matchNames with
  | false => rfl
  | true => simp [same]

theorem attributeValue_complete (reads : Reads matchNames levels inner) {given : Attribute}
    (derived : Derives matchNames (levels + 1) (.attribute given) tokens) :
    ∃ name sign front, tokens = name :: sign :: front ∧ name.kind = .identifier ∧
      sign.kind = .equal ∧
      Parse.attributeValue inner name.lexeme (front ++ rest) = .ok (given, rest) := by
  cases derived with
  | @bare _ name sign value named isSign isWord =>
      refine ⟨name, sign, [value], rfl, named, isSign, ?_⟩
      rw [Parse.attributeValue, accept_bind_eq_ok]
      refine .inr ⟨by simp [isWord], ?_⟩
      simp only [Bool.false_eq_true, ↓reduceIte, expect_bind_eq_ok, pure_eq_ok]
      exact ⟨value, rest, rfl, isWord, rfl, rfl⟩
  | @quotedValue _ body name sign opened closed inside named isSign isOpened derived isClosed =>
      refine ⟨name, sign, opened :: (inside ++ [closed]), rfl, named, isSign, ?_⟩
      rw [Parse.attributeValue, accept_bind_eq_ok]
      refine .inl ⟨opened, _, rfl, isOpened, ?_⟩
      simp only [↓reduceIte, stringBody_bind_eq_ok reads, pure_eq_ok]
      exact ⟨body, inside, closed, rest, by simp, derived, isClosed, rfl, rfl⟩

theorem form_sound (reads : Reads matchNames levels inner)
    (succeeds : Parse.form matchNames inner position first tokens = .ok (read, rest)) :
    ∃ front, tokens = front ++ rest ∧
      Derives matchNames (levels + 1) (.statement position read) (first :: front) ∧
      Apart position (first :: front) rest := by
  have construct : first.kind ≠ .identifier →
      (∃ front, tokens = front ++ rest ∧
        Derives matchNames (levels + 1) (.statement position read) (first :: front)) →
      ∃ front, tokens = front ++ rest ∧
        Derives matchNames (levels + 1) (.statement position read) (first :: front) ∧
        Apart position (first :: front) rest := by
    intro notWord ⟨front, split, derived⟩
    exact ⟨front, split, derived, apart_of_kind_ne notWord⟩
  cases kind : first.kind with
  | blockOpen =>
      apply construct (by simp [kind])
      simp only [Parse.form, kind, accept_bind_eq_ok, ↓reduceIte, Bool.false_eq_true] at succeeds
      rcases succeeds with ⟨second, _, rfl, named, succeeds⟩ | ⟨_, ⟨second, _, rfl, named, succeeds⟩
        |
        ⟨_, ⟨second, _, rfl, named, succeeds⟩ | ⟨_, succeeds⟩⟩⟩
      · rcases slot_sound reads kind named succeeds with ⟨front, rfl, derived⟩
        exact ⟨second :: front, rfl, derived⟩
      · rcases each_sound reads kind named succeeds with ⟨front, rfl, derived⟩
        exact ⟨second :: front, rfl, derived⟩
      · rcases conditional_sound reads kind named succeeds with ⟨front, rfl, derived⟩
        exact ⟨second :: front, rfl, derived⟩
      · simp [stopAt] at succeeds
  | mustacheOpen =>
      apply construct (by simp [kind])
      simp only [Parse.form, kind, accept_bind_eq_ok, ↓reduceIte, Bool.false_eq_true] at succeeds
      rcases succeeds with ⟨second, _, rfl, named, succeeds⟩ | ⟨_, succeeds⟩
      · rcases call_sound reads kind named succeeds with ⟨front, rfl, derived⟩
        exact ⟨second :: front, rfl, derived⟩
      · exact interpolation_sound kind succeeds
  | less =>
      apply construct (by simp [kind])
      simp only [Parse.form, kind] at succeeds
      exact tag_sound reads kind succeeds
  | quote =>
      apply construct (by simp [kind])
      simp only [Parse.form, kind] at succeeds
      exact quotedText_sound reads kind succeeds
  | blockClose =>
      simp [Parse.form, kind, stopAt] at succeeds
  | identifier =>
      have itself : Derives matchNames (levels + 1) (.statement position (.literal first.lexeme))
          [first] := .literal (by simp [kind, reserved])
      cases position with
      | content =>
          simp only [Parse.form, kind, reduceCtorEq, ↓reduceIte, pure_eq_ok] at succeeds
          rcases succeeds with ⟨rfl, rfl⟩
          exact ⟨[], rfl, itself, fun inTag => by cases inTag⟩
      | attributes =>
          simp only [Parse.form, kind, ↓reduceIte] at succeeds
          rw [accept_bind_eq_ok] at succeeds
          rcases succeeds with ⟨second, _, rfl, sign, succeeds⟩ | ⟨noSign, succeeds⟩
          · rcases bind_eq_ok.mp succeeds with ⟨given, _, taken, ended⟩
            rcases pure_eq_ok.mp ended with ⟨rfl, rfl⟩
            rcases attributeValue_sound reads kind sign taken with ⟨front, rfl, derived⟩
            exact ⟨second :: front, rfl, .assignment derived, fun _ word alone => by cases alone⟩
          · rcases pure_eq_ok.mp succeeds with ⟨rfl, rfl⟩
            refine ⟨[], rfl, itself, ?_⟩
            intro _ word alone named next member
            cases tokens with
            | nil => cases member
            | cons other others =>
                cases member
                simpa using noSign
  | _ =>
      apply construct (by simp [kind])
      simp only [Parse.form, kind, pure_eq_ok] at succeeds
      rcases succeeds with ⟨rfl, rfl⟩
      exact ⟨[], rfl, .literal (by simp [kind, reserved])⟩

theorem form_literal (other : first.kind ∉ reserved) (apart : Apart position [first] tokens) :
    Parse.form matchNames inner position first tokens = .ok (.literal first.lexeme, tokens) := by
  cases kind : first.kind with
  | blockOpen | blockClose | mustacheOpen | less | quote => simp [kind, reserved] at other
  | identifier =>
      cases position with
      | content =>
          simp only [Parse.form, kind]
          rfl
      | attributes =>
          simp only [Parse.form, kind, ↓reduceIte]
          cases tokens with
          | nil => rfl
          | cons next others =>
              rw [accept_cons_bind, if_neg (apart rfl first rfl kind next rfl)]
              rfl
  | _ =>
      simp only [Parse.form, kind]
      rfl

theorem form_complete (reads : Reads matchNames levels inner)
    (derived : Derives matchNames (levels + 1) (.statement position read) tokens)
    (apart : Apart position tokens rest) :
    ∃ first front, tokens = first :: front ∧
      Parse.form matchNames inner position first (front ++ rest) = .ok (read, rest) := by
  cases derived with
  | literal other => exact ⟨_, [], rfl, form_literal other apart⟩
  | interpolation enclosed =>
      rcases enclosed with @⟨first, space, closing, opened, isSpace, named, closes⟩
      refine ⟨first, _, rfl, ?_⟩
      simp only [Parse.form, opened, List.append_assoc, List.cons_append]
      rw [accept_bind_eq_ok]
      refine .inr ⟨?_, interpolation_complete isSpace named closes⟩
      cases space with
      | nil => simp [named]
      | cons blank more =>
          have isBlank := isSpace blank List.mem_cons_self
          rw [List.cons_append, startsWith_cons, decide_eq_false]
          intro greater
          simp [greater, Kind.isSpace] at isBlank
  | assignment derived =>
      rcases attributeValue_complete reads derived with ⟨name, sign, front, rfl, named, isSign,
        succeeds⟩
      refine ⟨name, sign :: front, rfl, ?_⟩
      simp only [Parse.form, named, ↓reduceIte, List.cons_append, accept_cons_bind, isSign]
      exact bind_eq_ok.mpr ⟨_, _, succeeds, rfl⟩
  | quoted isOpened derived isClosed =>
      refine ⟨_, _, rfl, ?_⟩
      simp only [Parse.form, isOpened, List.append_assoc, List.cons_append, List.nil_append]
      exact quotedText_complete reads derived isClosed
  | emptyTag isOpened isName derived isClosed =>
      refine ⟨_, _, rfl, ?_⟩
      simp only [Parse.form, isOpened, List.append_assoc, List.cons_append, List.nil_append]
      exact tag_emptyTag reads isName derived isClosed
  | tag isOpened isName derivedGiven isEnd derivedBody isClosed isClosing same isFinish =>
      refine ⟨_, _, rfl, ?_⟩
      simp only [Parse.form, isOpened, List.append_assoc, List.cons_append, List.nil_append]
      exact tag_tag reads isName derivedGiven isEnd derivedBody isClosed isClosing same isFinish
  | ifThen opened isName closes derivedBody ends =>
      rcases opened.three with ⟨first, second, blank, rfl, opens, named, spaced⟩
      refine ⟨first, _, rfl, ?_⟩
      simp [Parse.form, opens, accept_cons_bind, named]
      exact conditional_ifThen reads spaced isName closes derivedBody ends
  | ifThenElse opened isName closes derivedBody isElse derivedOther ends =>
      rcases opened.three with ⟨first, second, blank, rfl, opens, named, spaced⟩
      refine ⟨first, _, rfl, ?_⟩
      simp [Parse.form, opens, accept_cons_bind, named]
      exact conditional_ifThenElse reads spaced isName closes derivedBody isElse derivedOther ends
  | each opened isName isGap isItem closes derivedBody ends =>
      rcases opened.three with ⟨first, second, blank, rfl, opens, named, spaced⟩
      refine ⟨first, _, rfl, ?_⟩
      simp [Parse.form, opens, accept_cons_bind, named]
      exact each_complete reads spaced isName isGap isItem closes derivedBody ends
  | call opened isName derived =>
      rcases opened.three with ⟨first, second, blank, rfl, opens, named, spaced⟩
      refine ⟨first, _, rfl, ?_⟩
      simp [Parse.form, opens, accept_cons_bind, named]
      exact call_complete reads spaced isName derived
  | slot opened isName derivedGiven derivedBody ends same =>
      rcases opened.three with ⟨first, second, blank, rfl, opens, named, spaced⟩
      refine ⟨first, _, rfl, ?_⟩
      simp [Parse.form, opens, accept_cons_bind, named]
      exact slot_complete reads spaced isName derivedGiven derivedBody ends same

end Stencil.Grammar
