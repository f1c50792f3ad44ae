import Mathlib.Data.List.Chain
import Stencil.Proofs.Compile.NormalForm
import Stencil.Proofs.Scan.LineEnds

/-!
# Sources that are put together

Which tokens a scan finds in a source that is put together from marks, words, space and text in
quotes.  An identifier is a text that a scan finds to be one token; space is found to be tokens that
only separate others, however long it is; and text without quotes and without two opening braces is
at most one token between quotes.
-/

namespace Stencil.Token

open Stencil.Grammar (IsSpace)

variable {region final : Region} {tokens rest space : List Token} {next : Token}

/-- The token of a kind that has only one spelling. -/
def fixed (kind : Kind) : Token :=
  { kind, lexeme := String.ofList (kind.spelling?.getD []), line := 1 }

/-- The token of an identifier at the beginning of a source. -/
def identifier (name : String) : Token :=
  { kind := .identifier, lexeme := name, line := 1 }

theorem Fits.of_spelling? {kind : Kind} {text : List Char} (outside : region ≠ .quoted)
    (spelled : kind.spelling? = some text) : Fits region kind text := by
  by_cases isWord : kind ∈ words
  · cases kind with
    | ifWord | elseWord | eachWord =>
        cases spelled
        exact .word outside (by decide) (List.all_eq_true.mp rfl) rfl
    | identifier => cases spelled
    | _ => exact absurd isWord (by decide)
  · have listed : (text, kind) ∈ marks := by
      revert spelled isWord
      cases kind <;> simp +contextual [Kind.spelling?, marks, words]
    exact .mark listed (absurd · outside)

theorem fixed_fitsIn {kind : Kind} (outside : region ≠ .quoted)
    (spelled : kind.spelling?.isSome = true) : FitsIn region (fixed kind) := by
  rcases Option.isSome_iff_exists.mp spelled with ⟨text, isText⟩
  rw [FitsIn, fixed, isText, Option.getD_some, String.toList_ofList]
  exact Fits.of_spelling? outside isText

theorem IsIdentifier.fitsIn {name : String} (isIdentifier : IsIdentifier name)
    (outside : region ≠ .quoted) : FitsIn region (identifier name) := by
  rcases isIdentifier.word with ⟨first, parts, split, begins, areParts⟩
  have notReserved := isIdentifier.notReserved
  have isKind : Kind.ofWord name.toList = .identifier := by
    simp only [List.mem_cons, ← String.toList_inj, List.not_mem_nil, or_false, not_or]
      at notReserved
    rcases notReserved with ⟨notIf, notElse, notEach⟩
    exact (if_neg notIf).trans ((if_neg notElse).trans (if_neg notEach))
  rw [split] at isKind
  rw [FitsIn, identifier, split]
  exact .word outside begins areParts isKind

theorem IsIdentifier.isLexeme {name : String} (isIdentifier : IsIdentifier name) :
    IsLexeme (identifier name) :=
  ⟨.plain, isIdentifier.fitsIn (by decide)⟩

theorem fixed_joins {kind : Kind}
    (apart : kind ≠ .number ∧ kind ≠ .string ∧
      next.lexeme.toList.head?.any kind.goesOn = false) : Joins (fixed kind) next :=
  (ends_iff apart.1 apart.2.1).mpr ((Option.any_eq_false _ _).mp apart.2.2)

theorem identifier_joins (name : String)
    (apart : next.lexeme.toList.head?.any isNamePart = false) : Joins (identifier name) next :=
  (Option.any_eq_false _ _).mp apart

theorem IsIdentifier.joins {name : String} {token : Token} (isIdentifier : IsIdentifier name)
    (before : token.kind ∈ [.mustacheOpen, .blockClose, .tagClose, .blank]) :
    Joins token (identifier name) :=
  joins_word (by simp [identifier, words]) isIdentifier.isLexeme before

theorem IsIdentifier.begins {name : String} (isIdentifier : IsIdentifier name) :
    ∀ char ∈ (identifier name).lexeme.toList.head?, isBlank char = false :=
  isIdentifier.joins (by decide : gap.kind ∈ _)

/-- A token that a scan may find outside quotes and that leads into none. -/
def StaysPlain (token : Token) : Prop :=
  FitsIn .plain token ∧ token.kind ≠ .quote

theorem fixed_staysPlain {kind : Kind} (spelled : kind.spelling?.isSome = true)
    (notQuote : kind ≠ .quote) : StaysPlain (fixed kind) :=
  ⟨fixed_fitsIn (by decide) spelled, notQuote⟩

theorem IsIdentifier.staysPlain {name : String} (isIdentifier : IsIdentifier name) :
    StaysPlain (identifier name) :=
  ⟨isIdentifier.fitsIn (by decide), by simp [identifier]⟩

theorem gap_staysPlain : StaysPlain gap :=
  ⟨gap_fitsIn (by decide), by decide⟩

/-- Outside quotes nothing but quotes leads elsewhere. -/
theorem scans_of_isChain (stay : ∀ token ∈ tokens, StaysPlain token)
    (joined : tokens.IsChain Joins) : Scans .plain tokens .plain := by
  induction tokens with
  | nil => rfl
  | cons token tokens ih =>
      rw [List.forall_mem_cons] at stay
      rw [List.isChain_cons] at joined
      rcases stay with ⟨⟨fits, notQuote⟩, others⟩
      refine ⟨fits, joined.1, ?_⟩
      rw [Region.after_plain notQuote]
      exact ih others joined.2

/-- Tokens without a quote in their text stay outside quotes. -/
theorem Scans.staysPlain (scans : Scans .plain tokens final) (noQuote : '"' ∉ source tokens) :
    ∀ token ∈ tokens, StaysPlain token := by
  induction tokens with
  | nil => simp
  | cons token tokens ih =>
      rcases scans with ⟨fits, _, scans⟩
      rw [source_cons, List.mem_append, not_or] at noQuote
      have notQuote : token.kind ≠ .quote := by
        intro isQuote
        rw [IsLexeme.spelled ⟨.plain, fits⟩ isQuote rfl] at noQuote
        exact noQuote.1 (List.mem_singleton_self _)
      rw [Region.after_plain notQuote] at scans
      rw [List.forall_mem_cons]
      exact ⟨⟨fits, notQuote⟩, ih scans noQuote.2⟩

def spaceChars : List Char := [' ', '\t', '\r', '\n']

theorem mem_spaceChars {char : Char} : char ∈ spaceChars ↔ isBlank char = true ∨ char = '\n' := by
  simp [spaceChars, isBlank, or_assoc]

theorem Fits.begins_space {kind : Kind} {text : List Char} (fits : Fits region kind text)
    (isSpace : kind.isSpace = true) : ∀ first ∈ text.head?, first ∈ spaceChars := by
  cases fits with
  | mark listed =>
      have others : ∀ entry ∈ marks, entry.2.isSpace = true →
          entry.1.head?.all spaceChars.contains = true := by decide
      intro first isFirst
      exact List.contains_iff_mem.mp
        ((Option.all_eq_true _ _).mp (others _ listed isSpace) first isFirst)
  | blank _ _ blanks =>
      intro first isFirst
      exact mem_spaceChars.mpr (.inl (blanks first (List.mem_of_mem_head? isFirst)))
  | word _ _ _ isKind =>
      have others : ∀ kind ∈ words, kind.isSpace = false := by decide
      rw [others _ (isKind ▸ ofWord_mem_words _)] at isSpace
      cases isSpace
  | string | number => cases isSpace

theorem goesOn_eq_false_of_mem_spaceChars {kind : Kind} {char : Char}
    (before : kind ∈ [.mustacheOpen, .identifier]) (space : char ∈ spaceChars) :
    kind.goesOn char = false := by
  have apart : ∀ kind ∈ [Kind.mustacheOpen, .identifier],
      spaceChars.any kind.goesOn = false := by decide
  exact Bool.eq_false_iff.mpr (List.any_eq_false.mp (apart kind before) char space)

/-- Space may follow two opening braces and an identifier. -/
theorem joins_space {token : Token} (before : token.kind ∈ [.mustacheOpen, .identifier])
    (isSpace : next.kind.isSpace = true) (fits : FitsIn region next) : Joins token next := by
  have others : ∀ kind ∈ [Kind.mustacheOpen, .identifier], kind ≠ .number ∧ kind ≠ .string := by
    decide
  rw [Joins, ends_iff (others _ before).1 (others _ before).2]
  intro char isFirst
  exact goesOn_eq_false_of_mem_spaceChars before (fits.begins_space isSpace char isFirst)

/-- What joins the token behind some space also joins the space, if there is any. -/
theorem joins_head_of_isSpace {token : Token} (before : token.kind ∈ [.mustacheOpen, .identifier])
    (joins : Joins token next) (isSpace : IsSpace space)
    (scans : Scans region (space ++ next :: rest) final) :
    ∀ follower ∈ (space ++ next :: rest).head?, Joins token follower := by
  intro follower isFollower
  cases space with
  | nil =>
      cases isFollower
      exact joins
  | cons first others =>
      cases isFollower
      exact joins_space before (isSpace follower (by simp)) scans.1

def blanks (run : List Char) : Token :=
  { kind := .blank, lexeme := String.ofList run, line := 1 }

/-- A run of blanks may stand in front of what begins with no blank. -/
theorem scans_blanks_cons {run : List Char} (outside : region ≠ .quoted) (nonempty : run ≠ [])
    (areBlank : ∀ char ∈ run, isBlank char = true)
    (notBlank : ∀ follower ∈ tokens.head?, ∀ char ∈ follower.lexeme.toList.head?,
      isBlank char = false)
    (scans : Scans region tokens final) : Scans region (blanks run :: tokens) final := by
  refine ⟨?_, notBlank, ?_⟩
  · rw [FitsIn, blanks, String.toList_ofList]
    exact .blank outside nonempty areBlank
  · rw [after_isSpace rfl]
    exact scans

theorem Fits.areBlank {text : List Char} (fits : Fits region .blank text) :
    ∀ char ∈ text, isBlank char = true := by
  cases fits with
  | mark listed =>
      have others : ∀ entry ∈ marks, entry.2 ≠ .blank := by decide
      exact absurd rfl (others _ listed)
  | blank _ _ areBlank => exact areBlank
  | word _ _ _ isKind =>
      have others : ∀ kind ∈ words, kind ≠ .blank := by decide
      exact absurd isKind (others _ (ofWord_mem_words _))

/-- One more blank belongs to the run of blanks that it stands in front of, if there is one. -/
theorem exists_blank_cons {first : Char} (outside : region ≠ .quoted)
    (isBlank_first : isBlank first = true)
    (notBlank : ∀ char ∈ next.lexeme.toList.head?, isBlank char = false) (isSpace : IsSpace space)
    (scans : Scans region (space ++ next :: rest) final) :
    ∃ wider, IsSpace wider ∧ source wider = first :: source space ∧
      Scans region (wider ++ next :: rest) final := by
  have alone : ∀ char ∈ [first], isBlank char = true := by simpa using isBlank_first
  cases space with
  | nil =>
      refine ⟨[blanks [first]], by simp [IsSpace, blanks, Kind.isSpace], by simp [blanks],
        scans_blanks_cons outside (by simp) alone ?_ scans⟩
      intro follower isFollower
      cases isFollower
      exact notBlank
  | cons token others =>
      rw [IsSpace, List.forall_mem_cons] at isSpace
      rcases isSpace with ⟨isSpace, areSpace⟩
      by_cases isRun : token.kind = .blank
      · rcases scans with ⟨fits, joins, scans⟩
        rw [after_isSpace isSpace] at scans
        rw [FitsIn, isRun] at fits
        refine ⟨blanks (first :: token.lexeme.toList) :: others, ?_, by simp [blanks],
          scans_blanks_cons outside (by simp) ?_ ?_ scans⟩
        · rw [IsSpace, List.forall_mem_cons]
          exact ⟨rfl, areSpace⟩
        · rw [List.forall_mem_cons]
          exact ⟨isBlank_first, fits.areBlank⟩
        · intro follower isFollower
          have ends := joins follower isFollower
          rwa [Joins, isRun] at ends
      · have isBreak : token.kind = .newline := by
          revert isSpace isRun
          cases token.kind <;> decide
        have text : token.lexeme.toList = ['\n'] := IsLexeme.spelled ⟨region, scans.1⟩ isBreak rfl
        refine ⟨blanks [first] :: token :: others, ?_, by simp [blanks],
          scans_blanks_cons outside (by simp) alone ?_ scans⟩
        · simp only [IsSpace, List.forall_mem_cons]
          exact ⟨rfl, isSpace, areSpace⟩
        · intro follower isFollower
          cases isFollower
          rw [text]
          exact (Option.any_eq_false _ _).mp rfl

/-- Characters of space in front of a token that is no blank are found to be space. -/
theorem exists_isSpace {run : List Char} (outside : region ≠ .quoted)
    (areSpace : ∀ char ∈ run, char ∈ spaceChars)
    (notBlank : ∀ char ∈ next.lexeme.toList.head?, isBlank char = false)
    (scans : Scans region (next :: rest) final) :
    ∃ space, IsSpace space ∧ source space = run ∧ Scans region (space ++ next :: rest) final := by
  induction run with
  | nil => exact ⟨[], by simp [IsSpace], rfl, scans⟩
  | cons first run ih =>
      rw [List.forall_mem_cons] at areSpace
      rcases ih areSpace.2 with ⟨space, isSpace, text, spaceScans⟩
      rw [← text]
      rcases mem_spaceChars.mp areSpace.1 with blank | rfl
      · exact exists_blank_cons outside blank notBlank isSpace spaceScans
      · refine ⟨fixed .newline :: space, ?_, rfl, fixed_fitsIn outside rfl, ?_, ?_⟩
        · rw [IsSpace, List.forall_mem_cons]
          exact ⟨rfl, isSpace⟩
        · intro follower _ char _
          rfl
        · rw [after_isSpace rfl]
          exact spaceScans

/-- A pair of opening braces stands somewhere in a text. -/
def HasBraces (text : List Char) : Prop :=
  ['{', '{'] <:+: text

instance (text : List Char) : Decidable (HasBraces text) :=
  inferInstanceAs (Decidable (_ <:+: text))

/-- Text without quotes and without two opening braces goes on to the next quote. -/
theorem cutString_append_quote {text following : List Char} (noQuote : '"' ∉ text)
    (noBraces : ¬ HasBraces text) (ends : ∀ char ∈ following.head?, char = '"') :
    cutString (text ++ following) = (text, following) := by
  induction text with
  | nil =>
      apply cutString_eq_nil.mpr
      cases following with
      | nil => exact .inl rfl
      | cons char more =>
          have isQuote : char = '"' := ends char rfl
          subst isQuote
          exact .inr rfl
  | cons first text ih =>
      rw [List.mem_cons, not_or] at noQuote
      rw [List.cons_append, cutString_cons_eq]
      constructor
      · have notBrace : first = '{' → ∀ char ∈ (text ++ following).head?, char ≠ '{' := by
          rintro rfl char isChar rfl
          cases text with
          | nil => cases ends _ isChar
          | cons second more =>
              cases isChar
              exact noBraces ⟨[], more, rfl⟩
        unfold endsString
        split
        next tail same => exact absurd (List.cons.inj same).1.symm noQuote.1
        next tail same =>
          rcases List.cons.inj same with ⟨isBrace, isNext⟩
          exact absurd rfl (notBrace isBrace '{' (by rw [isNext]; rfl))
        next => rfl
      · apply ih noQuote.2
        intro ⟨front, back, inside⟩
        exact noBraces ⟨first :: front, back, congrArg (first :: ·) inside⟩

/-- The token of a text between quotes; no text is no token. -/
def enclosed (text : String) : List Token :=
  if text = "" then [] else [{ kind := .string, lexeme := text, line := 1 }]

@[simp] theorem source_enclosed (text : String) : source (enclosed text) = text.toList := by
  unfold enclosed
  split
  next isEmpty => simp [isEmpty]
  next => simp

theorem quote_joins (next : Token) : Joins (fixed .quote) next := by
  intro char _
  rfl

/-- Text without quotes and without two opening braces may stand between quotes. -/
theorem scans_enclosed {text : String} (noQuote : '"' ∉ text.toList)
    (noBraces : ¬ HasBraces text.toList) (scans : Scans .plain rest final) :
    Scans .plain (fixed .quote :: (enclosed text ++ fixed .quote :: rest)) final := by
  have opens : FitsIn .plain (fixed .quote) := fixed_fitsIn (by decide) rfl
  have closes : FitsIn .quoted (fixed .quote) := Fits.mark (by decide) fun _ => rfl
  have closed : Scans .quoted (fixed .quote :: rest) final :=
    ⟨closes, fun next _ => quote_joins next, scans⟩
  refine ⟨opens, fun next _ => quote_joins next, ?_⟩
  unfold enclosed
  split
  next => exact closed
  next notEmpty =>
    have whole : cutString (text.toList ++ []) = (text.toList, []) :=
      cutString_append_quote noQuote noBraces (by simp)
    rw [List.append_nil] at whole
    refine ⟨Fits.string rfl ?_ whole, ?_, closed⟩
    · intro isNil
      exact notEmpty (String.toList_eq_nil_iff.mp isNil)
    · intro next isNext
      cases isNext
      exact cutString_append_quote noQuote noBraces fun _ isFirst => (Option.some.inj isFirst).symm

theorem count_newline_eq_zero {text : String} (isIdentifier : IsIdentifier text) :
    text.toList.count '\n' = 0 := by
  rw [List.count_eq_zero]
  intro breaks
  have fits : FitsIn .plain (identifier text) := isIdentifier.fitsIn (by decide)
  cases fits.kind_eq_newline (by simp [identifier]) breaks

/-- An identifier is a text that a scan finds to be one token of that kind. -/
theorem isIdentifier_iff_scan {text : String} :
    IsIdentifier text ↔ scan text = { tokens := [identifier text, atEnd 1], errors := [] } := by
  constructor
  · intro isIdentifier
    have scans : Scans .plain [identifier text] .plain :=
      ⟨isIdentifier.fitsIn (by decide), by simp, rfl⟩
    have whole : source [identifier text] = text.toList := by simp [identifier]
    rw [scan_eq_of_scans scans whole, lastLine, count_newline_eq_zero isIdentifier]
    rfl
  · intro found
    have clean : (scan text).errors = [] := by rw [found]
    rcases exists_scans_of_scan clean with ⟨tokens, isTokens, scans, _⟩
    rw [found] at isTokens
    have split : [identifier text] ++ [atEnd 1] = tokens ++ [atEnd (lastLine text.toList)] :=
      isTokens
    have single : [identifier text] = tokens := (List.append_inj' split (by simp)).1
    rcases scans.forall_fitsIn (identifier text) (by simp [← single]) with ⟨region, fits⟩
    exact IsLexeme.isIdentifier ⟨region, fits⟩ rfl

end Stencil.Token
