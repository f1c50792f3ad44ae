import Stencil.Proofs.Grammar.Forms

/-!
# Reading a template is deriving it

A template is read from tokens exactly if the grammar derives it from them, under the same limit on
nesting; and no list of tokens is nested deeper than it is long.  So with a limit of at least the
number of tokens, reading a template decides the language of the grammar.
-/

namespace Stencil.Grammar

open Token (Kind)
open Stencil.Parser

variable {matchNames : Bool} {levels : Nat} {tokens rest : List Token}

/-- Statements are read as the grammar derives them, at every number of levels. -/
theorem statement_reads (matchNames : Bool) (levels : Nat) :
    Reads matchNames levels (Parse.statement matchNames levels) := by
  induction levels with
  | zero =>
      intro position first tokens read rest
      constructor
      · intro succeeds
        simp [Parse.statement, stopAt] at succeeds
      · intro assumed
        rcases assumed with ⟨front, _, derived, _⟩
        -- An attribute is as deep as the statement that it stands for.
        cases derived with
        | assignment derived => cases derived
  | succ levels ih =>
      intro position first tokens read rest
      constructor
      · intro succeeds
        exact form_sound ih succeeds
      · intro assumed
        rcases assumed with ⟨front, split, derived, apart⟩
        rcases form_complete ih derived apart with ⟨_, _, same, succeeds⟩
        cases same
        rw [split]
        exact succeeds

theorem template_eq_ok {options : CompileOptions} {template : Template} :
    Parse.template options tokens = .ok (template, rest) ↔
      rest = [] ∧ ∃ body,
        Derives options.matchTagNames options.maxNesting (.list .text body) tokens ∧
          template = joinLiterals body := by
  have reads := statement_reads options.matchTagNames options.maxNesting
  have unfolded : Parse.template options tokens =
      (Parse.template options >>= fun template => pure template) tokens := by
    rw [bind_pure]
  rw [unfolded, Parse.template, sequence_bind_eq_ok reads stops_template]
  simp only [pure_eq_ok, Bool.false_eq_true, or_false]
  constructor
  · intro ⟨body, front, _, split, derived, ended, joined, same⟩
    subst ended same
    rw [List.append_nil] at split
    subst split
    exact ⟨rfl, body, derived, joined.symm⟩
  · intro ⟨ended, body, derived, joined⟩
    exact ⟨body, tokens, [], by simp, derived, rfl, joined.symm, ended.symm⟩

theorem exists_fewer_of_succ_le {size enough : Nat} (fits : size + 1 ≤ enough) :
    ∃ fewer, enough = fewer + 1 ∧ size ≤ fewer :=
  ⟨enough - 1, by omega, by omega⟩

/-- Each statement that holds another has a token of its own, so no list of tokens is nested deeper
than it is long. -/
theorem Derives.of_length_le {phrase : Phrase} (derived : Derives matchNames levels phrase tokens)
    {enough : Nat} (fits : tokens.length ≤ enough) : Derives matchNames enough phrase tokens := by
  induction derived generalizing enough with
  | nil => exact .nil
  | cons notEnd _ apart _ one more =>
      simp only [List.length_cons, List.length_append] at fits one more
      exact .cons notEnd (one (by omega)) apart (more (by omega))
  | assignment _ given => exact .assignment (given fits)
  | argumentsEnd closes => exact .argumentsEnd closes
  | argumentsCons isSpace _ _ one more =>
      simp only [List.length_append] at fits
      exact .argumentsCons isSpace (one (by omega)) (more (by omega))
  | literal other =>
      rcases exists_fewer_of_succ_le fits with ⟨fewer, rfl, _⟩
      exact .literal other
  | interpolation encloses =>
      rcases encloses with ⟨opened, isSpace, named, closes⟩
      rcases exists_fewer_of_succ_le fits with ⟨fewer, rfl, _⟩
      exact .interpolation (.intro opened isSpace named closes)
  | bare named isSign isWord =>
      rcases exists_fewer_of_succ_le fits with ⟨fewer, rfl, _⟩
      exact .bare named isSign isWord
  | quoted isOpened _ isClosed body =>
      rcases exists_fewer_of_succ_le fits with ⟨fewer, rfl, shorter⟩
      simp only [List.length_append] at shorter
      exact .quoted isOpened (body (by omega)) isClosed
  | quotedValue named isSign isOpened _ isClosed body =>
      rcases exists_fewer_of_succ_le fits with ⟨fewer, rfl, shorter⟩
      simp only [List.length_cons, List.length_append] at shorter
      exact .quotedValue named isSign isOpened (body (by omega)) isClosed
  | emptyTag isOpened isName _ isClosed given =>
      rcases exists_fewer_of_succ_le fits with ⟨fewer, rfl, shorter⟩
      simp only [List.length_cons, List.length_append] at shorter
      exact .emptyTag isOpened isName (given (by omega)) isClosed
  | tag isOpened isName _ isEnd _ isClosed isClosing same isFinish given body =>
      rcases exists_fewer_of_succ_le fits with ⟨fewer, rfl, shorter⟩
      simp only [List.length_cons, List.length_append] at shorter
      exact .tag isOpened isName (given (by omega)) isEnd (body (by omega)) isClosed isClosing same
        isFinish
  | ifThen opened isName closes _ ends body =>
      simp only [List.length_cons, List.length_append] at fits
      rcases exists_fewer_of_succ_le fits with ⟨fewer, rfl, shorter⟩
      exact .ifThen opened isName closes (body (by omega)) ends
  | ifThenElse opened isName closes _ isElse _ ends body other =>
      simp only [List.length_cons, List.length_append] at fits
      rcases exists_fewer_of_succ_le fits with ⟨fewer, rfl, shorter⟩
      exact .ifThenElse opened isName closes (body (by omega)) isElse (other (by omega)) ends
  | each opened isName isGap isItem closes _ ends body =>
      simp only [List.length_cons, List.length_append] at fits
      rcases exists_fewer_of_succ_le fits with ⟨fewer, rfl, shorter⟩
      exact .each opened isName isGap isItem closes (body (by omega)) ends
  | call opened isName _ given =>
      simp only [List.length_cons, List.length_append] at fits
      rcases exists_fewer_of_succ_le fits with ⟨fewer, rfl, shorter⟩
      exact .call opened isName (given (by omega))
  | slot opened isName _ _ ends same given body =>
      simp only [List.length_cons, List.length_append] at fits
      rcases exists_fewer_of_succ_le fits with ⟨fewer, rfl, shorter⟩
      exact .slot opened isName (given (by omega)) (body (by omega)) ends same

theorem beforeEnd_append {mark : Token} (noMark : ∀ token ∈ tokens, token.kind ≠ .endMark)
    (isMark : mark.kind = .endMark) : Token.beforeEnd (tokens ++ mark :: rest) = tokens := by
  rw [Token.beforeEnd, List.takeWhile_append_of_pos]
  · simp [isMark]
  · intro token member
    simp [noMark token member]

/-- Only the tokens before the first mark for the end are read. -/
theorem parse_eq_ok {options : CompileOptions} {template : Template} :
    Template.parse tokens options = .ok template ↔
      ∃ body, Derives options.matchTagNames options.maxNesting (.list .text body)
        (Token.beforeEnd tokens) ∧ template = joinLiterals body := by
  unfold Template.parse
  cases succeeds : Parse.template options (Token.beforeEnd tokens) with
  | error fault =>
      constructor
      · intro impossible
        cases impossible
      · intro derived
        rw [template_eq_ok.mpr ⟨rfl, derived⟩] at succeeds
        cases succeeds
  | ok taken =>
      rcases taken with ⟨read, left⟩
      rcases template_eq_ok.mp succeeds with ⟨rfl, derived⟩
      constructor
      · intro same
        cases same
        exact derived
      · intro other
        have unique := template_eq_ok.mpr ⟨rfl, other⟩
        rw [succeeds] at unique
        cases unique
        rfl

/-- Parsing tokens and a mark for their end succeeds with a template exactly if the tokens derive
it, provided that the limit on nesting is not below the number of tokens. -/
theorem parse_eq_ok_iff_isTemplate {mark : Token} {options : CompileOptions} {template : Template}
    (noMark : ∀ token ∈ tokens, token.kind ≠ .endMark) (isMark : mark.kind = .endMark)
    (deepEnough : tokens.length ≤ options.maxNesting) :
    Template.parse (tokens ++ [mark]) options = .ok template ↔
      IsTemplate options.matchTagNames tokens template := by
  rw [parse_eq_ok, beforeEnd_append noMark isMark]
  constructor
  · intro derivation
    rcases derivation with ⟨body, derived, joined⟩
    exact ⟨options.maxNesting, body, derived, joined⟩
  · intro derivation
    rcases derivation with ⟨levels, body, derived, joined⟩
    exact ⟨body, derived.of_length_le deepEnough, joined⟩

/-- A tag with an attribute, around a conditional with both branches. -/
def taggedConditional : List Token :=
  [(.less, "<"), (.identifier, "b"), (.blank, " "), (.identifier, "a"), (.equal, "="),
    (.identifier, "c"), (.greater, ">"), (.blockOpen, r"{{#"), (.ifWord, "if"), (.blank, " "),
    (.identifier, "d"), (.mustacheClose, r"}}"), (.identifier, "e"),
    (.mustacheOpen, r"{{"), (.elseWord, "else"), (.mustacheClose, r"}}"),
    (.identifier, "f"), (.blockClose, r"{{/"), (.ifWord, "if"), (.mustacheClose, r"}}"),
    (.tagClose, "</"), (.identifier, "b"), (.greater, ">")].map fun entry =>
      { kind := entry.1, lexeme := entry.2, line := 1 }

theorem parse_eq_ok_iff_isTemplate_taggedConditional :
    (∀ token ∈ taggedConditional, token.kind ≠ .endMark) ∧ (Token.atEnd 1).kind = .endMark ∧
      taggedConditional.length ≤ 23 ∧
      IsTemplate true taggedConditional
        [.tag "b" [.literal " ", .assignment (.bare "a" "c")]
          [.ifThenElse "d" [.literal "e"] [.literal "f"]]] := by
  have noMark : ∀ token ∈ taggedConditional, token.kind ≠ .endMark := by decide
  have isMark : (Token.atEnd 1).kind = .endMark := rfl
  have deepEnough : taggedConditional.length ≤ 23 := by decide
  have reads : ∀ template, Template.parse (taggedConditional ++ [Token.atEnd 1])
      { matchTagNames := true, maxNesting := 23 } = .ok template ↔
        IsTemplate true taggedConditional template := by
    intro template
    exact parse_eq_ok_iff_isTemplate noMark isMark deepEnough
  exact ⟨noMark, isMark, deepEnough, (reads _).mp rfl⟩

end Stencil.Grammar
