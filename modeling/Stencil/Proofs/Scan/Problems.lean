import Mathlib.Algebra.Group.Nat.Even
import Mathlib.Data.List.Induction
import Stencil.Proofs.Scan.Partition
import Stencil.Proofs.Scan.Replacement

/-!
# The problems that a scan reports

A scan reports each character that no token begins with, unless it is part of the text inside
quotes, and nothing else, up to the end of the source.  There it reports the last quote if the
number of quotes is odd.  The problems come in the order of the source, except that the quote that
is left open comes last.
-/

namespace Stencil.Token

variable {line : Nat} {source : List Char} {pieces : List Piece}

theorem Cuts.line_getElem (cuts : Cuts line source pieces) (place : Nat)
    (isIn : place < pieces.length) :
    pieces[place].line = line + ((pieces.take place).flatMap Piece.text).count '\n' := by
  apply cuts.numbered (pieces.take place) pieces[place] (pieces.drop (place + 1))
  rw [← List.drop_eq_getElem_cons isIn, List.take_append_drop]

theorem Cuts.pairwise_line (cuts : Cuts line source pieces) :
    pieces.Pairwise fun piece next => piece.line ≤ next.line := by
  rw [List.pairwise_iff_getElem]
  intro first second firstIn secondIn before
  rw [cuts.line_getElem first firstIn, cuts.line_getElem second secondIn]
  rcases List.take_prefix_take_left (Nat.le_of_lt before) (l := pieces) with ⟨between, whole⟩
  rw [← whole, List.flatMap_append, List.count_append]
  omega

theorem Piece.line_of_problem? {piece : Piece} {error : ScanError}
    (found : piece.problem? = some error) : error.line = piece.line := by
  cases piece with
  | token => cases found
  | stray =>
      cases found
      rfl

theorem Cuts.pairwise_line_problems (cuts : Cuts line source pieces) :
    (pieces.filterMap Piece.problem?).Pairwise fun error next => error.line ≤ next.line := by
  apply cuts.pairwise_line.filterMap
  intro piece next inOrder error found other foundNext
  rw [Piece.line_of_problem? found, Piece.line_of_problem? foundNext]
  exact inOrder

def quotes (tokens : List Token) : List Token :=
  tokens.filter fun token => token.kind = .quote

theorem quotes_concat (tokens : List Token) (token : Token) :
    quotes (tokens ++ [token]) =
      if token.kind = .quote then quotes tokens ++ [token] else quotes tokens := by
  rw [quotes, List.filter_append]
  by_cases isQuote : token.kind = .quote <;> simp [quotes, isQuote]

/-- Only a quote opens or closes a quote. -/
theorem Mode.openQuote?_after (mode : Mode) (line : Nat) (kind : Kind) :
    (mode.after line kind).openQuote? =
      if kind = .quote then if mode.openQuote?.isSome then none else some line
      else mode.openQuote? := by
  cases mode <;> cases kind <;> rfl

theorem Mode.behind_concat (mode : Mode) (tokens : List Token) (token : Token) :
    mode.behind (tokens ++ [token]) = (mode.behind tokens).after token.line token.kind := by
  rw [behind, List.foldl_append]
  rfl

/-- Behind tokens with an odd number of quotes the last one is open. -/
theorem openQuote?_behind (tokens : List Token) :
    (Mode.plain.behind tokens).openQuote? =
      if Even (quotes tokens).length then none else (quotes tokens).getLast?.map Token.line := by
  induction tokens using List.reverseRecOn with
  | nil => rfl
  | append_singleton tokens token ih =>
      rw [Mode.behind_concat, Mode.openQuote?_after, quotes_concat, ih]
      by_cases isQuote : token.kind = .quote
      · rw [if_pos isQuote, if_pos isQuote, List.getLast?_concat]
        by_cases even : Even (quotes tokens).length
        · simp [even, Nat.even_add_one]
        · have nonempty : quotes tokens ≠ [] := by
            intro none
            rw [none] at even
            exact even Even.zero
          simp [even, nonempty, Nat.even_add_one]
      · rw [if_neg isQuote, if_neg isQuote]

theorem unclosed_behind_of_even {tokens : List Token} (even : Even (quotes tokens).length) :
    (Mode.plain.behind tokens).unclosed = [] := by
  rw [Mode.unclosed, openQuote?_behind, if_pos even]
  rfl

theorem exists_unclosed_behind_eq {tokens : List Token} (odd : ¬ Even (quotes tokens).length) :
    ∃ quote, (quotes tokens).getLast? = some quote ∧
      (Mode.plain.behind tokens).unclosed = [⟨quote.line, .unterminatedString⟩] := by
  cases isLast : (quotes tokens).getLast? with
  | none =>
      rw [List.getLast?_eq_none_iff.mp isLast] at odd
      exact absurd Even.zero odd
  | some quote =>
      refine ⟨quote, rfl, ?_⟩
      rw [Mode.unclosed, openQuote?_behind, if_neg odd, isLast]
      rfl

/-- Where text inside quotes goes on, the number of quotes is odd. -/
theorem odd_quotes_of_region {tokens : List Token}
    (quoted : (Mode.plain.behind tokens).region = .quoted) : ¬ Even (quotes tokens).length := by
  intro even
  have closed := openQuote?_behind tokens
  rw [if_pos even] at closed
  cases isMode : Mode.plain.behind tokens with
  | quoted opened =>
      rw [isMode] at closed
      cases closed
  | plain | interpolated opened =>
      rw [isMode] at quoted
      cases quoted

theorem not_beginsNoToken_of_isNamePart {char : Char} (part : isNamePart char = true) :
    ¬ BeginsNoToken char := by
  intro ⟨_, _, notDigit, notStart⟩
  simp [isNamePart, notDigit, notStart] at part

/-- A character of a token outside quotes begins a token by itself. -/
theorem Fits.not_beginsNoToken {region : Region} {kind : Kind} {text : List Char}
    (fits : Fits region kind text) (notString : kind ≠ .string) :
    ∀ char ∈ text, ¬ BeginsNoToken char := by
  cases fits with
  | mark listed =>
      have starts : ∀ entry ∈ marks, entry.1.all markStarts.contains = true := by decide
      intro char isIn none
      exact none.1 (List.contains_iff_mem.mp (List.all_eq_true.mp (starts _ listed) char isIn))
  | string => exact absurd rfl notString
  | blank _ _ blanks =>
      intro char isIn none
      have blank := blanks char isIn
      rw [none.2.1] at blank
      cases blank
  | number _ _ whole =>
      intro char isIn
      exact not_beginsNoToken_of_isNamePart (isNamePart_of_cutNumeral whole char isIn)
  | word _ begins parts =>
      rw [List.forall_mem_cons]
      exact ⟨not_beginsNoToken_of_isNamePart (isNamePart_of_isNameStart begins),
        fun char isIn => not_beginsNoToken_of_isNamePart (parts char isIn)⟩

/-! ## The problems of a whole source -/

/-- What the problems of a scan are: those of the pieces of the source, in order, and then what is
left open. -/
structure Diagnosed (source : String) (pieces : List Piece) (last : List ScanError) : Prop where
  cuts : Cuts 1 source.toList pieces
  tokens : (scan source).tokens =
    pieces.filterMap Piece.token? ++ [atEnd (lastLine source.toList)]
  errors : (scan source).errors = pieces.filterMap Piece.problem? ++ last
  /-- No token begins with a character that is reported, and it is not in quotes, unless it is in an
  interpolation there. -/
  stray : ∀ before char line after, pieces = before ++ .stray char line :: after →
    BeginsNoToken char ∧ (Mode.plain.behind (before.filterMap Piece.token?)).region ≠ .quoted
  /-- Text inside quotes has an odd number of quotes in front of it and is in no interpolation. -/
  inside : ∀ before token after, pieces = before ++ .token token :: after → token.kind = .string →
    (Mode.plain.behind (before.filterMap Piece.token?)).region = .quoted ∧
      ¬ Even (quotes (before.filterMap Piece.token?)).length
  /-- Only the text inside quotes has other characters that no token begins with. -/
  taken : ∀ token, .token token ∈ pieces → token.kind ≠ .string →
    ∀ char ∈ token.lexeme.toList, ¬ BeginsNoToken char
  unexpected : ∀ error ∈ pieces.filterMap Piece.problem?, ∃ char, BeginsNoToken char ∧
    error.message = "Unexpected character: '" ++ Text.escapeChar char ++ "'"
  inOrder : (pieces.filterMap Piece.problem?).Pairwise fun error next => error.line ≤ next.line
  closed : Even (quotes (scan source).tokens).length → last = []
  unclosed : ¬ Even (quotes (scan source).tokens).length →
    ∃ quote, (quotes (scan source).tokens).getLast? = some quote ∧
      last = [⟨quote.line, .unterminatedString⟩]
  /-- Every number is a numeral, and its value has been read. -/
  numerals : ∀ token ∈ (scan source).tokens, token.kind = .number →
    IsNumeral token.lexeme.toList ∧
      token.literal? = some (.number (numeralValue token.lexeme.toList))
  /-- No numeral is reported as one that cannot be read. -/
  noInvalidNumber : ∀ error ∈ (scan source).errors,
    ¬ "Invalid number".toList <+: error.message.toList

theorem AreCut.exists_isCutIn {mode : Mode} {piece : Piece} (areCut : AreCut mode pieces)
    (isIn : piece ∈ pieces) : ∃ mode, piece.IsCutIn mode := by
  rcases List.append_of_mem isIn with ⟨before, after, split⟩
  exact ⟨_, areCut before piece after split⟩

theorem Piece.eq_token_of_token? {piece : Piece} {token : Token}
    (found : piece.token? = some token) : piece = .token token := by
  cases piece with
  | token =>
      cases found
      rfl
  | stray => cases found

theorem mem_pieces_of_mem {token : Token} (isIn : token ∈ pieces.filterMap Piece.token?) :
    .token token ∈ pieces := by
  rcases List.mem_filterMap.mp isIn with ⟨piece, isPiece, found⟩
  rwa [Piece.eq_token_of_token? found] at isPiece

theorem AreCut.unexpected {mode : Mode} (areCut : AreCut mode pieces) :
    ∀ error ∈ pieces.filterMap Piece.problem?, ∃ char, BeginsNoToken char ∧
      error.message = "Unexpected character: '" ++ Text.escapeChar char ++ "'" := by
  intro error isIn
  rcases List.mem_filterMap.mp isIn with ⟨piece, isPiece, found⟩
  rcases areCut.exists_isCutIn isPiece with ⟨_, isCut⟩
  cases piece with
  | token => cases found
  | stray char line =>
      cases found
      exact ⟨char, isCut.2, rfl⟩

theorem AreCut.numerals {mode : Mode} (areCut : AreCut mode pieces) :
    ∀ token, .token token ∈ pieces → token.kind = .number →
      IsNumeral token.lexeme.toList ∧
        token.literal? = some (.number (numeralValue token.lexeme.toList)) := by
  intro token isIn isNumber
  rcases areCut.exists_isCutIn isIn with ⟨_, fits, value⟩
  rw [isNumber] at fits value
  exact ⟨fits.isNumeral, value⟩

theorem AreCut.not_invalidNumber {mode : Mode} (areCut : AreCut mode pieces) :
    ∀ error ∈ pieces.filterMap Piece.problem?,
      ¬ "Invalid number".toList <+: error.message.toList := by
  intro error isIn
  rcases areCut.unexpected error isIn with ⟨char, _, isMessage⟩
  simp [isMessage, String.toList_append]

theorem Mode.not_invalidNumber_of_mem_unclosed {mode : Mode} {error : ScanError}
    (isIn : error ∈ mode.unclosed) : ¬ "Invalid number".toList <+: error.message.toList := by
  have isMessage : error.message = "Unterminated string." :=
    congrArg ScanError.Cause.message (cause_of_mem_unclosed isIn)
  simp [isMessage]

/-- Every scan is diagnosed: its problems are exactly the real ones, in a known order. -/
theorem exists_diagnosed (source : String) : ∃ pieces last, Diagnosed source pieces last := by
  rcases exists_areCut_findings .plain 1 source.toList with ⟨pieces, cuts, areCut, found⟩
  rcases scan_of_findings found with ⟨tokens, errors⟩
  have sameQuotes : quotes (scan source).tokens = quotes (pieces.filterMap Piece.token?) := by
    rw [tokens, quotes_concat, if_neg (by simp [atEnd])]
  refine ⟨pieces, (Mode.plain.behind (pieces.filterMap Piece.token?)).unclosed, ?_⟩
  exact {
    cuts, tokens, errors
    stray := by
      intro before char line after split
      exact (areCut before _ after split).symm
    inside := by
      intro before token after split isString
      have fits : Fits _ token.kind token.lexeme.toList := (areCut before _ after split).1
      rw [isString] at fits
      exact ⟨fits.quoted_of_string, odd_quotes_of_region fits.quoted_of_string⟩
    taken := by
      intro token isIn notString
      rcases areCut.exists_isCutIn isIn with ⟨_, fits, _⟩
      exact fits.not_beginsNoToken notString
    unexpected := areCut.unexpected
    inOrder := cuts.pairwise_line_problems
    closed := by
      rw [sameQuotes]
      exact unclosed_behind_of_even
    unclosed := by
      rw [sameQuotes]
      exact exists_unclosed_behind_eq
    numerals := by
      intro token isIn isNumber
      rw [tokens, List.mem_append] at isIn
      rcases isIn with isToken | isEnd
      · exact areCut.numerals token (mem_pieces_of_mem isToken) isNumber
      · rw [List.mem_singleton.mp isEnd] at isNumber
        cases isNumber
    noInvalidNumber := by
      intro error isIn
      rw [errors, List.mem_append] at isIn
      exact isIn.elim (areCut.not_invalidNumber error) Mode.not_invalidNumber_of_mem_unclosed }

/-- The quote that is left open is reported last, although the other problem is on a later line. -/
example : (scan (r#""{{"# ++ "\n(")).errors =
    [⟨2, .unexpectedCharacter '('⟩, ⟨1, .unterminatedString⟩] := by
  cbv

/-- Outside quotes, text without a quote has no problem if each of its characters begins a token. -/
theorem problems_findings_eq_nil_iff {mode : Mode} {text : List Char} (outside : mode = .plain)
    (noQuote : '"' ∉ text) :
    (findings mode line text).filterMap Finding.problem? = [] ↔
      ∀ char ∈ text, ¬ BeginsNoToken char := by
  induction mode, line, text using findings_induction with
  | closed mode line isClosed =>
      rw [findings_nil, isClosed]
      simp [Finding.problem?]
  | unclosed mode line opened isOpen =>
      rw [outside] at isOpen
      cases isOpen
  | proper mode line first rest kind text following cut ih =>
      subst outside
      rcases Mode.next_eq_proper.mp cut with ⟨split, fits, _⟩
      rw [split, List.mem_append, not_or] at noQuote
      have notQuote : kind ≠ .quote := by
        rintro rfl
        have isText : text = ['"'] := fits.spelled rfl
        exact noQuote.1 (isText ▸ List.mem_singleton_self _)
      have notString : kind ≠ .string := by
        rintro rfl
        cases fits.quoted_of_string
      have begins := fits.not_beginsNoToken notString
      rw [findings_cons_proper cut, split, List.forall_mem_append,
        ← ih (Mode.after_plain notQuote) noQuote.2]
      exact (and_iff_right begins).symm
  | stray mode line first rest char following cut =>
      rcases Mode.next_eq_stray.mp cut with ⟨rfl, _, _, none⟩
      rw [findings_cons_stray cut]
      simp [Finding.problem?, none]

theorem scan_errors_eq_nil_iff {source : String} (noQuote : '"' ∉ source.toList) :
    (scan source).errors = [] ↔ ∀ char ∈ source.toList, ¬ BeginsNoToken char :=
  problems_findings_eq_nil_iff rfl noQuote

end Stencil.Token
