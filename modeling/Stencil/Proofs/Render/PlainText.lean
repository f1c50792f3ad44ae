import Stencil.Proofs.Render.FixedPoint
import Stencil.Proofs.Scan.PlainText

/-!
# Plain text is rendered to itself

Text in which nothing leads out of text is a template exactly if a scan finds no problems in it.
The template consists of texts and of texts in quotes, and it renders to the source.
-/

namespace Stencil

open Grammar
open Token (IsLexeme Mode Scans HasBraces Kind unquoted unexpected unterminated isPlain)

variable {mode : Mode} {line : Nat} {token : Token} {tokens rest inside : List Token}

namespace Token

/-- The tokens that a scan finds in plain text from a place on. -/
structure ArePlain (mode : Mode) (line : Nat) (tokens : List Token) : Prop where
  scans : Scans mode.region tokens .plain
  notInterpolated : ∀ opened, mode ≠ .interpolated opened
  noBraces : ¬ HasBraces (source tokens)
  noLess : ∀ entry ∈ mode.unquoted line (source tokens), entry.2 ≠ '<'

theorem ArePlain.tail (plain : ArePlain mode line (token :: rest)) :
    ArePlain (mode.after line token.kind) (line + token.lexeme.toList.count '\n') rest := by
  have noBraces := plain.noBraces
  have noLess := plain.noLess
  rw [source_cons] at noBraces noLess
  have passes := plain.scans.1.passes plain.notInterpolated
    (fun braces => noBraces (braces.append_right _)) noLess
  refine ⟨?_, passes.notInterpolated, fun braces => noBraces (braces.append_left _),
    fun entry isOutside => noLess entry (passes.unquoted entry isOutside)⟩
  rw [Mode.region_after]
  exact plain.scans.2.2

/-- What begins or ends code has two opening braces. -/
theorem IsLexeme.not_mem_codeKinds (isLexeme : IsLexeme token)
    (noBraces : ¬ HasBraces token.lexeme.toList) : token.kind ∉ codeKinds := by
  intro isCode
  simp only [codeKinds, List.mem_cons, List.not_mem_nil, or_false] at isCode
  rcases isCode with isMark | isMark | isMark
  · exact noBraces (isLexeme.spelled isMark rfl ▸ by decide)
  · exact noBraces (isLexeme.spelled isMark rfl ▸ by decide)
  · exact noBraces (isLexeme.spelled isMark rfl ▸ by decide)

theorem Scans.not_mem_codeKinds {region final : Region} (scans : Scans region tokens final)
    (noBraces : ¬ HasBraces (source tokens)) : ∀ token ∈ tokens, token.kind ∉ codeKinds := by
  intro token isToken
  apply IsLexeme.not_mem_codeKinds (scans.forall_fitsIn token isToken)
  intro braces
  rcases List.append_of_mem isToken with ⟨front, back, rfl⟩
  rw [source_append, source_cons] at noBraces
  exact noBraces ((braces.append_right (source back)).append_left (source front))

/-- Outside quotes only a quote begins a construct. -/
theorem ArePlain.not_mem_reserved (plain : ArePlain .plain line (token :: rest))
    (notQuote : token.kind ≠ .quote) : token.kind ∉ reserved := by
  have isLexeme : IsLexeme token := ⟨.plain, plain.scans.1⟩
  have noCode := plain.scans.not_mem_codeKinds plain.noBraces token List.mem_cons_self
  have notLess : token.kind ≠ .less := by
    intro isLess
    have noLess := plain.noLess
    rw [source_cons, isLexeme.spelled isLess rfl] at noLess
    exact noLess (line, '<') List.mem_cons_self rfl
  revert noCode notLess notQuote
  cases token.kind <;> decide

/-- In quotes there is text, up to a quote. -/
theorem ArePlain.exists_closing {opened : Nat} (plain : ArePlain (.quoted opened) line tokens) :
    ∃ inside closed rest lineBehind, tokens = inside ++ closed :: rest ∧
      (∀ token ∈ inside, token.kind = .string) ∧ closed.kind = .quote ∧
      ArePlain .plain lineBehind rest := by
  induction tokens generalizing line with
  | nil => cases plain.scans
  | cons token tokens ih =>
      have noBraces : ¬ HasBraces token.lexeme.toList :=
        fun braces => plain.noBraces (braces.append_right _)
      have tail := plain.tail
      rcases Fits.quote_or_string plain.scans.1 noBraces with ⟨isQuote, _⟩ | ⟨isString, _⟩
      · rw [isQuote] at tail
        exact ⟨[], token, tokens, _, rfl, by simp, isQuote, tail⟩
      · rw [isString] at tail
        rcases ih tail with ⟨inside, closed, rest, _, rfl, areStrings, others⟩
        refine ⟨token :: inside, closed, rest, _, rfl, ?_, others⟩
        rw [List.forall_mem_cons]
        exact ⟨isString, areStrings⟩

end Token

theorem derives_strings (matchNames : Bool) (levels : Nat)
    (areStrings : ∀ token ∈ inside, token.kind = .string) :
    Derives matchNames (levels + 1)
      (.list .quotes (inside.map fun token => .literal token.lexeme)) inside := by
  induction inside with
  | nil => exact .nil
  | cons token inside ih =>
      rw [List.forall_mem_cons] at areStrings
      apply Derives.cons _ (.literal _) _ (ih areStrings.2)
      · simp [areStrings.1, Place.ends]
      · simp [areStrings.1, reserved]
      · intro inAttributes
        cases inAttributes

theorem hasBareAll_strings (inside : List Token) :
    hasBareAll (inside.map fun token => .literal token.lexeme) = false := by
  induction inside with
  | nil => rfl
  | cons token inside ih =>
      rw [List.map_cons, hasBareAll, ih]
      rfl

def quotedStrings (inside : List Token) : Statement :=
  let body := inside.map fun token => Statement.literal token.lexeme
  .quoted (joinLiterals (.literal "\"" :: joinLiterals body ++ [.literal "\""]))

theorem hasBare_quotedStrings (inside : List Token) : (quotedStrings inside).hasBare = false := by
  simp [quotedStrings, Statement.hasBare, hasBareAll_joinLiterals, hasBareAll_append, hasBareAll,
    hasBareAll_strings]

theorem derives_quotedStrings (matchNames : Bool) (levels : Nat) {opened closed : Token}
    (isOpened : opened.kind = .quote) (areStrings : ∀ token ∈ inside, token.kind = .string)
    (isClosed : closed.kind = .quote) :
    Derives matchNames (levels + 2) (.statement .content (quotedStrings inside))
      (opened :: (inside ++ [closed])) :=
  .quoted isOpened (derives_strings matchNames levels areStrings) isClosed

/-- In text every statement may be followed by any other. -/
theorem derives_text_cons {matchNames : Bool} {levels : Nat} {statement : Statement}
    {more : List Statement} {first : Token} {front back : List Token}
    (one : Derives matchNames levels (.statement .content statement) (first :: front))
    (others : Derives matchNames levels (.list .text more) back) :
    Derives matchNames levels (.list .text (statement :: more)) (first :: front ++ back) := by
  apply Derives.cons _ one _ others
  · simp [Place.ends]
  · intro inAttributes
    cases inAttributes

/-- Plain text is derived as texts and texts in quotes, which no attribute is among. -/
theorem Token.ArePlain.exists_derives (plain : ArePlain .plain line tokens) :
    ∃ body, hasBareAll body = false ∧
      ∀ matchNames levels, Derives matchNames (levels + 2) (.list .text body) tokens := by
  induction size : tokens.length using Nat.strong_induction_on generalizing tokens line with
  | _ _ ih =>
      cases tokens with
      | nil => exact ⟨[], rfl, fun _ _ => .nil⟩
      | cons token tokens =>
          have tail := plain.tail
          by_cases isQuote : token.kind = .quote
          · rw [isQuote] at tail
            rcases tail.exists_closing with
              ⟨inside, closed, rest, _, rfl, areStrings, isClosed, others⟩
            have shorter : rest.length < (token :: (inside ++ closed :: rest)).length := by
              simp only [List.length_cons, List.length_append]
              omega
            rcases ih _ (size ▸ shorter) others rfl with ⟨body, noBare, derived⟩
            refine ⟨quotedStrings inside :: body, ?_, ?_⟩
            · rw [hasBareAll, hasBare_quotedStrings, noBare]
              rfl
            · intro matchNames levels
              have quoted := derives_quotedStrings matchNames levels isQuote areStrings isClosed
              have whole := derives_text_cons quoted (derived matchNames levels)
              rwa [List.cons_append, List.append_assoc, List.singleton_append] at whole
          · rw [Mode.after_plain isQuote] at tail
            have shorter : tokens.length < (token :: tokens).length := by simp
            rcases ih _ (size ▸ shorter) tail rfl with ⟨body, noBare, derived⟩
            refine ⟨.literal token.lexeme :: body, noBare, ?_⟩
            intro matchNames levels
            exact derives_text_cons (.literal (plain.not_mem_reserved isQuote))
              (derived matchNames levels)

/-- Plain text whose quotes are closed and whose other characters are plain is compiled, and it
renders to itself. -/
theorem Template.exists_compile_plainText {source : String}
    (clean : (Token.scan source).errors = []) (noBraces : ¬ HasBraces source.toList)
    (noLess : ∀ entry ∈ unquoted false 1 source.toList, entry.2 ≠ '<') :
    ∃ template, Template.compile source = .ok template ∧
      ∀ context registry, Template.render template context registry = .ok source := by
  rcases Token.exists_scans_of_scan clean with ⟨tokens, _, scans, whole⟩
  rw [← whole] at noBraces noLess
  have plain : Token.ArePlain .plain 1 tokens := ⟨scans, by simp, noBraces, noLess⟩
  rcases plain.exists_derives with ⟨body, noBare, derived⟩
  refine ⟨joinLiterals body, ?_, ?_⟩
  · exact compile_eq_ok_iff.mpr ⟨tokens, body, scans, whole, derived false 254, rfl⟩
  · intro context registry
    apply render_eq_ok_of_renderAll
    intro callee?
    have static : ∀ token ∈ tokens, IsLexeme token ∧ token.kind ∉ codeKinds :=
      fun token isToken => ⟨scans.forall_fitsIn token isToken,
        scans.not_mem_codeKinds noBraces token isToken⟩
    exact (derived true 0).renderAll_eq static noBare whole registry callee? [context.bindings]
      (by decide)

/-- Text without two opening braces, and without a less-than sign outside quotes, is a template
exactly if its quotes are closed and its characters outside quotes are plain.  Then it renders to
itself, whatever is bound and registered.  Otherwise the problems that are reported are the
characters outside quotes that are not plain, in order, and then the last quote if it is left
open. -/
theorem compile_plainText {source : String} (noBraces : ¬ HasBraces source.toList)
    (noLess : ∀ entry ∈ unquoted false 1 source.toList, entry.2 ≠ '<') :
    ((∃ template, Template.compile source = .ok template) ↔
        Even (source.toList.count '"') ∧
          ∀ entry ∈ unquoted false 1 source.toList, isPlain entry.2 = true) ∧
      ((∃ template, Template.compile source = .ok template) →
        ∀ context registry, renderSource source context registry = .ok source) ∧
      ((¬ ∃ template, Template.compile source = .ok template) →
        Template.compile source = .error (.scan
          (unexpected (unquoted false 1 source.toList) ++ unterminated source.toList))) := by
  have errors := Token.scan_errors_eq noBraces noLess
  have accepted : (∃ template, Template.compile source = .ok template) ↔
      (Token.scan source).errors = [] := by
    constructor
    · intro ⟨template, compiled⟩
      exact (Template.compile_eq_ok.mp compiled).1
    · intro clean
      rcases Template.exists_compile_plainText clean noBraces noLess with ⟨template, compiled, _⟩
      exact ⟨template, compiled⟩
  refine ⟨?_, ?_, ?_⟩
  · rw [accepted, errors, List.append_eq_nil_iff, Token.unexpected_eq_nil_iff, and_comm,
      Token.unterminated_eq_nil_iff]
  · intro compiles context registry
    rcases Template.exists_compile_plainText (accepted.mp compiles) noBraces noLess with
      ⟨template, compiled, rendered⟩
    exact renderSource_eq_ok compiled (rendered context registry)
  · intro fails
    rw [accepted, ← List.isEmpty_iff] at fails
    rw [Template.compile, if_neg fails, errors]

/-- Plain text with a tag and a character of no token in its quotes. -/
def closedSource : String :=
  "1 > .5\t\"<b>;\n\"#"

/-- A text with two characters of no token outside quotes, and with a quote that is left open. -/
def openSource : String :=
  "a;\n\"<\"&\n\"c;"

theorem compile_plainText_openSource :
    renderSource closedSource Context.empty Registry.empty = .ok closedSource ∧
      Template.compile openSource = .error (.scan
        [⟨1, .unexpectedCharacter ';'⟩, ⟨2, .unexpectedCharacter '&'⟩,
          ⟨3, .unterminatedString⟩]) := by
  have noBraces : ¬ HasBraces closedSource.toList ∧ ¬ HasBraces openSource.toList := by
    decide +kernel
  have noLess : (∀ entry ∈ unquoted false 1 closedSource.toList, entry.2 ≠ '<') ∧
      ∀ entry ∈ unquoted false 1 openSource.toList, entry.2 ≠ '<' := by decide +kernel
  rcases compile_plainText noBraces.1 noLess.1 with ⟨accepted, renders, _⟩
  rcases compile_plainText noBraces.2 noLess.2 with ⟨refused, _, reports⟩
  have isPlain : Even (closedSource.toList.count '"') ∧
      ∀ entry ∈ unquoted false 1 closedSource.toList, Token.isPlain entry.2 = true := by
    decide +kernel
  have isOpen : ¬ Even (openSource.toList.count '"') := by decide +kernel
  have problems : unexpected (unquoted false 1 openSource.toList) ++
      unterminated openSource.toList =
        [⟨1, .unexpectedCharacter ';'⟩, ⟨2, .unexpectedCharacter '&'⟩,
          ⟨3, .unterminatedString⟩] := by decide +kernel
  rw [← problems]
  exact ⟨renders (accepted.mpr isPlain) _ _, reports fun compiles => isOpen (refused.mp compiles).1⟩

end Stencil
