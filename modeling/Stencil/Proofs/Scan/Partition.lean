import Stencil.Proofs.Scan.Step

/-!
# A scan cuts its source into pieces

The tokens of a scan and the characters it reports as stray are the pieces of its source, in order:
put together again they are the source.  The line reported for each piece, which the scan has kept
count of on its way, is one more than the number of line feeds in front of it.  Nothing else is
found, except that a quote may be left open at the end.
-/

namespace Stencil.Token

/-- A piece of a source: the text of a token, or a character that no token begins with. -/
inductive Piece where
  | token (found : Token)
  | stray (char : Char) (line : Nat)
  deriving DecidableEq, Repr

namespace Piece

def text : Piece → List Char
  | .token found => found.lexeme.toList
  | .stray char _ => [char]

def line : Piece → Nat
  | .token found => found.line
  | .stray _ line => line

def finding : Piece → Finding
  | .token found => .token found
  | .stray char line => .problem ⟨line, .unexpectedCharacter char⟩

def token? (piece : Piece) : Option Token :=
  piece.finding.token?

/-- The problem with a piece, if it is not a token. -/
def problem? (piece : Piece) : Option ScanError :=
  piece.finding.problem?

end Piece

/-- A source that begins on the given line is cut into the given pieces.  No piece is empty or the
end of the source, and each has the line it begins on. -/
structure Cuts (line : Nat) (source : List Char) (pieces : List Piece) : Prop where
  whole : pieces.flatMap Piece.text = source
  nonempty : ∀ piece ∈ pieces, piece.text ≠ []
  inner : ∀ token, .token token ∈ pieces → token.kind ≠ .endMark
  numbered : ∀ before piece after, pieces = before ++ piece :: after →
    piece.line = line + (before.flatMap Piece.text).count '\n'

variable {line : Nat} {rest : List Char} {piece : Piece} {pieces : List Piece}

theorem Cuts.nil : Cuts line [] [] where
  whole := rfl
  nonempty := by simp
  inner := by simp
  numbered := by simp

theorem Cuts.cons {text : List Char} (isText : piece.text = text) (nonempty : text ≠ [])
    (inner : ∀ token, piece = .token token → token.kind ≠ .endMark) (begins : piece.line = line)
    (cuts : Cuts (line + text.count '\n') rest pieces) :
    Cuts line (text ++ rest) (piece :: pieces) where
  whole := by rw [List.flatMap_cons, cuts.whole, isText]
  nonempty := by
    intro other member
    cases member with
    | head =>
        rw [isText]
        exact nonempty
    | tail _ member => exact cuts.nonempty other member
  inner := by
    intro token member
    cases member with
    | head => exact inner token rfl
    | tail _ member => exact cuts.inner token member
  numbered := by
    intro before other after split
    cases before with
    | nil =>
        cases split
        simpa using begins
    | cons first before =>
        cases split
        have counted := cuts.numbered before other after rfl
        rw [List.flatMap_cons, List.count_append, ← Nat.add_assoc, isText]
        exact counted

def Mode.behind (mode : Mode) (tokens : List Token) : Mode :=
  tokens.foldl (fun mode token => mode.after token.line token.kind) mode

/-- The problem with the quote that is open in a mode. -/
def Mode.unclosed (mode : Mode) : List ScanError :=
  (mode.openQuote?.map fun opened => ⟨opened, .unterminatedString⟩).toList

/-- A piece is a token of its region with the value that its text denotes, or a character outside
quotes that no token begins with. -/
def Piece.IsCutIn (mode : Mode) : Piece → Prop
  | .token found =>
    Fits mode.region found.kind found.lexeme.toList ∧
      found.literal? = Literal.ofLexeme? found.kind found.lexeme.toList
  | .stray char _ => mode.region ≠ .quoted ∧ BeginsNoToken char

/-- Each piece is one in the mode behind the tokens in front of it. -/
def AreCut (mode : Mode) (pieces : List Piece) : Prop :=
  ∀ before piece after, pieces = before ++ piece :: after →
    piece.IsCutIn (mode.behind (before.filterMap Piece.token?))

variable {mode : Mode}

theorem AreCut.nil : AreCut mode [] := by
  simp [AreCut]

theorem AreCut.cons (first : piece.IsCutIn mode)
    (others : AreCut (mode.behind ([piece].filterMap Piece.token?)) pieces) :
    AreCut mode (piece :: pieces) := by
  intro before other after split
  cases before with
  | nil =>
      cases split
      exact first
  | cons front before =>
      cases split
      have isCut := others before other after rfl
      rw [Mode.behind, Mode.behind, ← List.foldl_append, ← List.filterMap_append] at isCut
      exact isCut

/-- Each token among the pieces ends where the rest of the source begins. -/
def AreEnded (pieces : List Piece) : Prop :=
  ∀ before token after, pieces = before ++ .token token :: after →
    Ends token.kind token.lexeme.toList (after.flatMap Piece.text)

theorem AreEnded.nil : AreEnded [] := by
  simp [AreEnded]

theorem AreEnded.cons (first : ∀ token, piece = .token token →
    Ends token.kind token.lexeme.toList (pieces.flatMap Piece.text))
    (others : AreEnded pieces) : AreEnded (piece :: pieces) := by
  intro before token after split
  cases before with
  | nil =>
      cases split
      exact first token rfl
  | cons front before =>
      cases split
      exact others before token after rfl

/-- From every place in a source on, a scan finds the pieces of the rest of the source, each as long
as it can be, then that a quote is open if it is in the mode behind all pieces, and the end of the
source on its last line. -/
theorem exists_areEnded_findings (mode : Mode) (line : Nat) (source : List Char) :
    ∃ pieces, Cuts line source pieces ∧ AreCut mode pieces ∧ AreEnded pieces ∧
      findings mode line source = pieces.map Piece.finding ++
        (mode.behind (pieces.filterMap Piece.token?)).unclosed.map Finding.problem ++
          [.token (atEnd (line + source.count '\n'))] := by
  induction mode, line, source using findings_induction with
  | closed mode line isClosed =>
      refine ⟨[], .nil, .nil, .nil, ?_⟩
      rw [findings_nil, isClosed]
      simp [Mode.behind, Mode.unclosed, isClosed]
  | unclosed mode line opened isOpen =>
      refine ⟨[], .nil, .nil, .nil, ?_⟩
      rw [findings_nil, isOpen]
      simp [Mode.behind, Mode.unclosed, isOpen]
  | proper mode line first rest kind text following cut ih =>
      rcases ih with ⟨pieces, cuts, areCut, areEnded, found⟩
      rcases Mode.next_eq_proper.mp cut with ⟨split, fits, ends⟩
      have sameText : (ofLexeme kind text line).lexeme.toList = text := by
        simp [ofLexeme]
      refine ⟨.token (ofLexeme kind text line) :: pieces, ?_, .cons ?_ areCut, .cons ?_ areEnded,
        ?_⟩
      · rw [split]
        refine Cuts.cons sameText fits.text_ne_nil ?_ rfl cuts
        intro token same
        cases same
        exact fits.kind_ne_endMark
      · rw [Piece.IsCutIn, sameText]
        exact ⟨fits, rfl⟩
      · intro token same
        cases same
        rw [sameText, cuts.whole]
        exact ends
      · rw [findings_cons_proper cut, found, split, List.count_append, ← Nat.add_assoc]
        rfl
  | stray mode line first rest char following cut ih =>
      rcases ih with ⟨pieces, cuts, areCut, areEnded, found⟩
      rcases Mode.next_eq_stray.mp cut with ⟨rfl, rfl, outside, none⟩
      have unbroken : [char].count '\n' = 0 := List.count_cons_of_ne none.ne_newline
      refine ⟨.stray char line :: pieces, ?_, .cons ⟨outside, none⟩ areCut, .cons ?_ areEnded, ?_⟩
      · change Cuts line ([char] ++ following) (.stray char line :: pieces)
        refine .cons rfl (by simp) (by simp) rfl ?_
        rwa [unbroken]
      · simp
      · rw [findings_cons_stray cut, found, List.count_cons_of_ne none.ne_newline]
        rfl

/-- From every place in a source on, a scan finds the pieces of the rest of the source, then that a
quote is open if it is in the mode behind all pieces, and the end of the source. -/
theorem exists_areCut_findings (mode : Mode) (line : Nat) (source : List Char) :
    ∃ pieces, Cuts line source pieces ∧ AreCut mode pieces ∧
      findings mode line source = pieces.map Piece.finding ++
        (mode.behind (pieces.filterMap Piece.token?)).unclosed.map Finding.problem ++
          [.token (atEnd (line + source.count '\n'))] := by
  rcases exists_areEnded_findings mode line source with ⟨pieces, cuts, areCut, _, found⟩
  exact ⟨pieces, cuts, areCut, found⟩

theorem Mode.length_unclosed_le (mode : Mode) : mode.unclosed.length ≤ 1 := by
  cases mode <;> simp [unclosed, openQuote?]

theorem Mode.cause_of_mem_unclosed {error : ScanError} (member : error ∈ mode.unclosed) :
    error.cause = .unterminatedString := by
  simp only [unclosed, Option.mem_toList, Option.map_eq_some_iff] at member
  rcases member with ⟨opened, _, rfl⟩
  rfl

/-- From every place in a source on, a scan finds the pieces of the rest of the source, then at most
that a quote is open, and the end of the source. -/
theorem exists_cuts_findings (mode : Mode) (line : Nat) (source : List Char) :
    ∃ (pieces : List Piece) (last : List ScanError), Cuts line source pieces ∧
      findings mode line source = pieces.map Piece.finding ++ last.map Finding.problem ++
        [.token (atEnd (line + source.count '\n'))] ∧
      last.length ≤ 1 ∧ ∀ error ∈ last, error.cause = .unterminatedString := by
  rcases exists_areCut_findings mode line source with ⟨pieces, cuts, _, found⟩
  exact ⟨pieces, _, cuts, found, Mode.length_unclosed_le _,
    fun _ member => Mode.cause_of_mem_unclosed member⟩

theorem filterMap_token?_problems (errors : List ScanError) :
    (errors.map Finding.problem).filterMap Finding.token? = [] := by
  simp [Finding.token?]

theorem filterMap_problem?_problems (errors : List ScanError) :
    (errors.map Finding.problem).filterMap Finding.problem? = errors := by
  rw [List.filterMap_map]
  exact List.filterMap_some

/-- What is found in a whole source, as tokens and as problems. -/
theorem scan_of_findings {source : String} {last : List ScanError}
    (found : findings .plain 1 source.toList = pieces.map Piece.finding ++
      last.map Finding.problem ++ [.token (atEnd (lastLine source.toList))]) :
    (scan source).tokens =
        pieces.filterMap Piece.token? ++ [atEnd (lastLine source.toList)] ∧
      (scan source).errors = pieces.filterMap Piece.problem? ++ last := by
  constructor
  · change (findings .plain 1 source.toList).filterMap Finding.token? = _
    rw [found, List.filterMap_append, List.filterMap_append, List.filterMap_map,
      filterMap_token?_problems, List.append_nil]
    rfl
  · change (findings .plain 1 source.toList).filterMap Finding.problem? = _
    rw [found, List.filterMap_append, List.filterMap_append, List.filterMap_map,
      filterMap_problem?_problems]
    exact List.append_nil _

/-- Without problems all pieces are tokens. -/
theorem flatMap_text_of_problem?_eq_none
    (clean : ∀ piece ∈ pieces, piece.problem? = none) :
    (pieces.filterMap Piece.token?).flatMap (fun token => token.lexeme.toList) =
      pieces.flatMap Piece.text := by
  induction pieces with
  | nil => rfl
  | cons piece pieces ih =>
      rw [List.forall_mem_cons] at clean
      cases piece with
      | stray char line => cases clean.1
      | token found =>
          have isToken : (Piece.token found).token? = some found := rfl
          rw [List.filterMap_cons_some isToken, List.flatMap_cons, List.flatMap_cons,
            ih clean.2]
          rfl

/-- A scan is a cut of its source into pieces.  Its tokens are the tokens among the pieces and then
the end of the source; its problems are the stray characters among the pieces, and then at most that
a quote is open.  So if it finds no problem, the texts of its tokens make up the source. -/
theorem exists_cuts_scan (source : String) :
    ∃ (pieces : List Piece) (last : List ScanError), Cuts 1 source.toList pieces ∧
      (scan source).tokens =
        pieces.filterMap Piece.token? ++ [atEnd (1 + source.toList.count '\n')] ∧
      (scan source).errors = pieces.filterMap Piece.problem? ++ last ∧
      last.length ≤ 1 ∧ (∀ error ∈ last, error.cause = .unterminatedString) ∧
      ((scan source).errors = [] →
        (scan source).tokens.flatMap (fun token => token.lexeme.toList) = source.toList) := by
  rcases exists_cuts_findings .plain 1 source.toList with
    ⟨pieces, last, cuts, found, short, isOpen⟩
  rcases scan_of_findings found with ⟨tokens, errors⟩
  refine ⟨pieces, last, cuts, tokens, errors, short, isOpen, ?_⟩
  intro clean
  rw [errors, List.append_eq_nil_iff, List.filterMap_eq_nil_iff] at clean
  rw [tokens, List.flatMap_append, flatMap_text_of_problem?_eq_none clean.1, cuts.whole]
  simp [atEnd]

end Stencil.Token
