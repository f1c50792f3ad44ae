import Stencil.Proofs.Scan.PlainText
import Stencil.Proofs.Scan.Problems

/-!
# Tokens are as long as possible

The kind of a token says what its text may be and which value it carries, and it says which
characters would make the token longer.  In every source, and in all three regions of it, a token of
a scan has a text and a value of its kind, and the source does not go on behind it with a character
that would make it longer.
-/

namespace Stencil.Token

variable {region : Region} {kind : Kind} {token : Token} {text following : List Char}
variable {pieces : List Piece} {mode : Mode}

/-- The text of a kind of which all tokens have the same text. -/
def Kind.fixedText? : Kind → Option (List Char)
  | .braceOpen => some ['{']
  | .braceClose => some ['}']
  | .mustacheOpen => some ['{', '{']
  | .mustacheClose => some ['}', '}']
  | .blockOpen => some ['{', '{', '#']
  | .blockClose => some ['{', '{', '/']
  | .less => some ['<']
  | .greater => some ['>']
  | .tagClose => some ['<', '/']
  | .slash => some ['/']
  | .selfClose => some ['/', '>']
  | .equal => some ['=']
  | .hash => some ['#']
  | .quote => some ['"']
  | .newline => some ['\n']
  | .ifWord => some ['i', 'f']
  | .elseWord => some ['e', 'l', 's', 'e']
  | .eachWord => some ['e', 'a', 'c', 'h']
  | .string | .identifier | .number | .blank | .endMark => none

/-- A token has one of the texts of its kind. -/
def HasOwnText (token : Token) : Prop :=
  match token.kind with
  | .blank => token.lexeme ≠ "" ∧ ∀ char ∈ token.lexeme.toList, char ∈ [' ', '\t', '\r']
  | .number => IsNumeral token.lexeme.toList
  | .identifier => IsIdentifier token.lexeme
  | .string => token.lexeme ≠ "" ∧ '"' ∉ token.lexeme.toList ∧ ¬ HasBraces token.lexeme.toList
  | kind => kind.fixedText? = some token.lexeme.toList

/-- A token carries a value if it is a number or text inside quotes, which is its own value. -/
def HasOwnValue (token : Token) : Prop :=
  match token.kind with
  | .number => token.literal? = some (.number (numeralValue token.lexeme.toList))
  | .string => token.literal? = some (.text token.lexeme)
  | _ => token.literal? = none

theorem Fits.fixedText?_eq (fits : Fits region kind text)
    (isFixed : kind ∉ [.blank, .number, .identifier, .string]) :
    kind.fixedText? = some text := by
  cases kind with
  | blank | number | identifier | string => exact absurd (by decide) isFixed
  | endMark => exact absurd rfl fits.kind_ne_endMark
  | _ => exact congrArg some (fits.spelled rfl).symm

theorem not_hasBraces_of_cutString (cut : cutString (text ++ following) = (text, following)) :
    ¬ HasBraces text := by
  induction text with
  | nil => simp [HasBraces]
  | cons first text ih =>
      rw [List.cons_append, cutString_cons_eq] at cut
      intro braces
      rcases List.infix_cons_iff.mp braces with ⟨rest, front⟩ | later
      · rw [← List.cons_append, ← front] at cut
        cases cut.1
      · exact ih cut.2 later

theorem FitsIn.hasOwnText (fits : FitsIn region token) : token.HasOwnText := by
  have isLexeme : IsLexeme token := ⟨region, fits⟩
  unfold FitsIn at fits
  unfold HasOwnText
  split
  next isBlank =>
    rw [isBlank] at fits
    refine ⟨isLexeme.lexeme_ne_empty, ?_⟩
    intro char isIn
    simpa [Token.isBlank, or_assoc] using fits.areBlank char isIn
  next isNumber =>
    rw [isNumber] at fits
    exact fits.isNumeral
  next isName => exact isLexeme.isIdentifier isName
  next isString =>
    rw [isString] at fits
    have cut : cutString (token.lexeme.toList ++ []) = (token.lexeme.toList, []) := fits.ends_nil
    exact ⟨isLexeme.lexeme_ne_empty, not_mem_of_cutString cut, not_hasBraces_of_cutString cut⟩
  next notBlank notNumber notName notString =>
    apply fits.fixedText?_eq
    simpa using ⟨notBlank, notNumber, notName, notString⟩

theorem hasOwnValue_of_literal?_eq
    (value : token.literal? = Literal.ofLexeme? token.kind token.lexeme.toList) :
    token.HasOwnValue := by
  unfold HasOwnValue
  rw [value]
  split
  next isNumber => rw [isNumber, Literal.ofLexeme?]
  next isString => rw [isString, Literal.ofLexeme?, String.ofList_toList]
  next notNumber notString =>
    unfold Literal.ofLexeme?
    split
    next isNumber => exact absurd isNumber notNumber
    next isString => exact absurd isString notString
    next => rfl

/-- A token with the given kind and text does not become longer by what follows it. -/
def Kind.IsLongest (kind : Kind) (text following : List Char) : Prop :=
  match kind with
  | .blank => ∀ char ∈ following.head?, char ∉ [' ', '\t', '\r']
  | .identifier | .ifWord | .elseWord | .eachWord =>
    ∀ char ∈ following.head?, isNamePart char = false
  | .number =>
    (∀ char ∈ following.head?, char.isDigit = false) ∧ ('.' ∉ text → ¬ StartsFraction following)
  | .string => following = [] ∨ ['"'] <+: following ∨ ['{', '{'] <+: following
  | .braceOpen => following.head? ≠ some '{'
  | .mustacheOpen => following.head? ≠ some '#' ∧ following.head? ≠ some '/'
  | .braceClose => following.head? ≠ some '}'
  | .less => following.head? ≠ some '/'
  | .slash => following.head? ≠ some '>'
  | _ => True

theorem head?_ne_of_goesOn {char : Char} (ends : ∀ char ∈ following.head?, kind.goesOn char = false)
    (goesOn : kind.goesOn char = true) : following.head? ≠ some char := by
  intro isNext
  rw [ends char isNext] at goesOn
  cases goesOn

theorem prefix_of_endsString (ends : endsString text = true) :
    ['"'] <+: text ∨ ['{', '{'] <+: text := by
  unfold endsString at ends
  split at ends
  next rest => exact .inl (List.prefix_append ['"'] rest)
  next rest => exact .inr (List.prefix_append ['{', '{'] rest)
  next => cases ends

theorem Ends.isLongest (ends : Ends kind text following) : kind.IsLongest text following := by
  cases kind with
  | blank =>
      intro char isNext
      simpa [Kind.goesOn, isBlank, and_assoc] using ends char isNext
  | identifier | ifWord | elseWord | eachWord => exact ends
  | number =>
      rcases cutNumeral_eq_iff.mp ends with ⟨_, stops, ⟨_, noFraction⟩ | ⟨whole, digits, isText, _⟩⟩
      · exact ⟨stops, fun _ => noFraction⟩
      · refine ⟨stops, fun noPoint => absurd ?_ noPoint⟩
        simp [isText]
  | string => exact (endsString_of_cutString ends).imp_right prefix_of_endsString
  | mustacheOpen => exact ⟨head?_ne_of_goesOn ends rfl, head?_ne_of_goesOn ends rfl⟩
  | braceOpen | braceClose | less | slash => exact head?_ne_of_goesOn ends rfl
  | _ => trivial

/-- Every token of a scan has a text and a value of its kind and is as long as the source allows.
The tokens are taken where they stand in the source, which is cut into them and the characters that
are reported as stray. -/
theorem exists_cuts_isLongest (source : String) :
    ∃ (pieces : List Piece) (last : List ScanError), Cuts 1 source.toList pieces ∧
      (scan source).tokens =
        pieces.filterMap Piece.token? ++ [atEnd (1 + source.toList.count '\n')] ∧
      (scan source).errors = pieces.filterMap Piece.problem? ++ last ∧
      (∀ error ∈ last, error.cause = .unterminatedString) ∧
      ∀ before token after, pieces = before ++ .token token :: after →
        token.HasOwnText ∧ token.HasOwnValue ∧
          token.kind.IsLongest token.lexeme.toList (after.flatMap Piece.text) := by
  rcases exists_areEnded_findings .plain 1 source.toList with
    ⟨pieces, cuts, areCut, areEnded, found⟩
  rcases scan_of_findings found with ⟨tokens, errors⟩
  refine ⟨pieces, _, cuts, tokens, errors, fun _ => Mode.cause_of_mem_unclosed, ?_⟩
  intro before token after split
  rcases areCut before _ after split with ⟨fits, value⟩
  have hasText : token.HasOwnText := FitsIn.hasOwnText fits
  exact ⟨hasText, hasOwnValue_of_literal?_eq value, (areEnded before token after split).isLongest⟩

/-- A second point belongs to no number, but it begins a word. -/
example : (scan "1.5.2e").tokens.map Token.lexeme = ["1.5", ".2e", ""] := by
  decide +kernel

end Stencil.Token
