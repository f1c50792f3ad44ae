import Stencil.Proofs.Compile.Places
import Stencil.Proofs.Reading.Strictness
import Stencil.Proofs.Text.OneLine

/-!
# The lines of a report

A report on a source has one line for each problem, and a source cannot add to them.  What messages
take from it is quoted in escaped form, except for the names in a mismatch; these are words among
the tokens, and a word has no line feed.
-/

namespace Stencil

open Text (IsOneLine)

variable {source : String} {tokens : List Token} {options : CompileOptions}

theorem ScanError.isOneLine_text {error : ScanError} (isOneLine : IsOneLine error.message) :
    IsOneLine error.text := by
  have isPlace : IsOneLine ("[line " ++ toString error.line ++ "] Error: ") :=
    .around (.ofList (by decide)) (Text.isOneLine_toString _) (.ofList (by decide))
  exact isPlace.append isOneLine

theorem ScanError.isOneLine_message {error : ScanError}
    (isIn : error ∈ (Token.scan source).errors) : IsOneLine error.message := by
  rcases Token.exists_areCut_findings .plain 1 source.toList with ⟨pieces, _, areCut, found⟩
  rw [(Token.scan_of_findings found).2, List.mem_append] at isIn
  rcases isIn with isStray | isOpen
  · rcases areCut.unexpected error isStray with ⟨char, _, isMessage⟩
    rw [isMessage]
    exact .around (.ofList (by decide)) (Text.isOneLine_escapeChar char) (.ofList (by decide))
  · rw [message, Token.Mode.cause_of_mem_unclosed isOpen]
    exact .ofList (by decide)

namespace Expectation

theorem isOneLine_opening {mark : String} (isMark : IsOneLine mark) : IsOneLine (opening mark) :=
  .around (.ofList (by decide)) isMark (.ofList (by decide))

theorem isOneLine_closing : IsOneLine closing :=
  .ofList (by decide)

theorem isOneLine_whole {mark : String} (isMark : IsOneLine mark) : IsOneLine (whole mark) :=
  .around (.ofList (by decide)) isMark (.ofList (by decide))

theorem isOneLine_message (what : Expectation) : IsOneLine what.message := by
  cases what with
  | slotSpace | slotName | slotClosing | callSpace | callName | variableName | eachSpace
  | ifSpace =>
      exact .around (.ofList (by decide)) (isOneLine_opening (.ofList (by decide)))
        (.ofList (by decide))
  | slotOpeningEnd | slotClosingEnd | callEnd | variableEnd | eachOpeningEnd | eachClosingEnd
  | ifOpeningEnd | ifClosingEnd =>
      exact .around (.ofList (by decide)) isOneLine_closing (.ofList (by decide))
  | eachClosing | ifClosing =>
      exact .around (.ofList (by decide)) (isOneLine_whole (.ofList (by decide)))
        (.ofList (by decide))
  | _ => exact .ofList (by decide)

end Expectation

namespace ParseError

theorem Location.isOneLine_text (location : Location) : IsOneLine location.text := by
  cases location with
  | token lexeme =>
      exact .around (.ofList (by decide)) (Text.isOneLine_escape lexeme) (.ofList (by decide))
  | sourceEnd => exact .ofList (by decide)

theorem isOneLine_text {error : ParseError} (isOneLine : IsOneLine error.message) :
    IsOneLine error.text :=
  .append (.around (.around (.ofList (by decide)) (Text.isOneLine_toString _) (.ofList (by decide)))
    error.location.isOneLine_text (.ofList (by decide))) isOneLine

/-- The causes that the readers of constructs report are told on one line if the words among the
tokens are on one line. -/
theorem Cause.Structural.isOneLine_message {alike : Token → Token → Prop} {cause : Cause}
    (structural : cause.Structural alike) (words : ∀ {first second : Token}, alike first second →
      first.kind = .identifier → IsOneLine first.lexeme) : IsOneLine cause.message := by
  cases structural with
  | expected what => exact what.isOneLine_message
  | slotMismatch isOpened openedName isClosed closedName =>
      have opened := words isOpened openedName
      have mark : IsOneLine ("/" ++ _) := .append (.ofList (by decide)) opened
      exact .around (.around (.around (.ofList (by decide)) (Expectation.isOneLine_whole mark)
        (.ofList (by decide))) opened (.ofList (by decide))) (words isClosed closedName)
        (.ofList (by decide))
  | tagMismatch isOpened openedName isClosed closedName =>
      have opened := words isOpened openedName
      exact .around (.around (.around (.ofList (by decide)) opened (.ofList (by decide))) opened
        (.ofList (by decide))) (words isClosed closedName) (.ofList (by decide))
  | unknownBlock =>
      have opening (mark : String) (isMark : IsOneLine mark) := Expectation.isOneLine_opening isMark
      exact .around (.around (.around (.ofList (by decide)) (opening "#if" (.ofList (by decide)))
        (.ofList (by decide))) (opening "#each" (.ofList (by decide))) (.ofList (by decide)))
        (opening "#>" (.ofList (by decide))) (.ofList (by decide))
  | strayClosing => exact .ofList (by decide)

end ParseError

theorem ParseError.isOneLine_message {error : ParseError}
    (words : ∀ token ∈ tokens, token.kind = .identifier → IsOneLine token.lexeme)
    (stopped : Template.parse tokens options = .error error) : IsOneLine error.message := by
  have known : ∀ token ∈ Token.beforeEnd tokens, token.kind = .identifier →
      IsOneLine token.lexeme :=
    fun token isIn => words token (Token.mem_of_mem_beforeEnd isIn)
  have found : ∃ fault : Fault, IsOneLine fault.cause.message ∧
      error = fault.toError (Token.endLine tokens) := by
    apply Likeness.exists_fault_of_parse known _ _ _ stopped
    · intro token cause _ structural
      exact structural.isOneLine_message fun alike => alike.2
    · intro token _
      exact .ofList (by decide)
    · intro what
      exact what.isOneLine_message
  rcases found with ⟨fault, isOneLine, rfl⟩
  rw [fault.message_toError]
  exact isOneLine

theorem Token.isOneLine_of_isNamePart {text : String}
    (parts : ∀ char ∈ text.toList, Token.isNamePart char = true) : IsOneLine text := by
  intro isIn
  exact not_mem_markStarts_of_isNamePart (parts _ isIn) (by decide)

/-- A word among the tokens of a scan is on one line. -/
theorem Token.isOneLine_of_scan {token : Token} (isIn : token ∈ (scan source).tokens)
    (isWord : token.kind = .identifier) : IsOneLine token.lexeme := by
  rcases exists_areCut_findings .plain 1 source.toList with ⟨pieces, _, areCut, found⟩
  rw [(scan_of_findings found).1, List.mem_append] at isIn
  rcases isIn with isToken | isEnd
  · rcases areCut.exists_isCutIn (mem_pieces_of_mem isToken) with ⟨mode, fits, _⟩
    rw [isWord] at fits
    rcases fits.word_of_identifier.2 with ⟨first, rest, isText, begins, parts⟩
    apply isOneLine_of_isNamePart
    rw [isText, List.forall_mem_cons]
    exact ⟨isNamePart_of_isNameStart begins, parts⟩
  · rw [List.mem_singleton.mp isEnd] at isWord
    cases isWord

theorem Template.compile_eq_scanError {errors : List ScanError}
    (failed : compile source options = .error (.scan errors)) :
    errors = (Token.scan source).errors ∧ errors ≠ [] := by
  simp only [compile, List.isEmpty_iff] at failed
  by_cases clean : (Token.scan source).errors = []
  · rw [if_pos clean] at failed
    revert failed
    cases parse (Token.scan source).tokens options <;> simp [Except.mapError]
  · rw [if_neg clean] at failed
    cases failed
    exact ⟨rfl, clean⟩

/-- The lines of a report on the text are the problems, one after the other and each with its line
and message, and a report on the structure is one line, whatever the source holds. -/
theorem CompileError.lines_text {error : CompileError}
    (failed : Template.compile source options = .error error) :
    (∀ errors, error = .scan errors → Text.lines error.text = errors.map fun problem =>
      "[line " ++ toString problem.line ++ "] Error: " ++ problem.message) ∧
      ∀ fault, error = .parse fault → IsOneLine error.text := by
  constructor
  · rintro errors rfl
    rcases Template.compile_eq_scanError failed with ⟨rfl, nonempty⟩
    apply Text.lines_intercalate
    · rw [List.forall_mem_map]
      intro problem isIn
      exact ScanError.isOneLine_text (ScanError.isOneLine_message isIn)
    · exact mt List.map_eq_nil_iff.mp nonempty
  · rintro fault rfl
    rcases Template.compile_eq_parseError failed with ⟨_, stopped⟩
    have isMessage := ParseError.isOneLine_message (fun _ isIn => Token.isOneLine_of_scan isIn)
      stopped
    exact ParseError.isOneLine_text isMessage

/-- A stray line tabulation and an open quote on the line after it. -/
def twoProblemsSource : String :=
  "\x0b\n\""

/-- A conditional with a line feed where a blank is needed. -/
def brokenBlockSource : String :=
  r"{{#if" ++ "\nx"

/-- The line feed at which reading stops is quoted, not written. -/
theorem CompileError.lines_text_brokenBlockSource :
    Template.compile twoProblemsSource =
        .error (.scan [⟨1, .unexpectedCharacter '\x0b'⟩, ⟨2, .unterminatedString⟩]) ∧
      Text.lines (CompileError.scan
          [⟨1, .unexpectedCharacter '\x0b'⟩, ⟨2, .unterminatedString⟩]).text =
        ["[line 1] Error: Unexpected character: '\\u{b}'",
          "[line 2] Error: Unterminated string."] ∧
      Template.compile brokenBlockSource =
        .error (.parse ⟨1, .token "\n", .expected .ifSpace⟩) ∧
      IsOneLine (CompileError.parse ⟨1, .token "\n", .expected .ifSpace⟩).text := by
  have problems : (Token.scan twoProblemsSource).errors =
      [⟨1, .unexpectedCharacter '\x0b'⟩, ⟨2, .unterminatedString⟩] := by
    decide +kernel
  have refused : Template.compile twoProblemsSource =
      .error (.scan [⟨1, .unexpectedCharacter '\x0b'⟩, ⟨2, .unterminatedString⟩]) := by
    simp only [Template.compile, problems, List.isEmpty_cons, Bool.false_eq_true, if_false]
  have clean : (Token.scan brokenBlockSource).errors = [] := by decide +kernel
  have found : (Token.scan brokenBlockSource).tokens =
      [(.blockOpen, r"{{#", 1), (.ifWord, "if", 1), (.newline, "\n", 1), (.identifier, "x", 2),
        (.endMark, "", 2)].map fun entry =>
          { kind := entry.1, lexeme := entry.2.1, line := entry.2.2 } := by
    decide +kernel
  have failed : Template.compile brokenBlockSource =
      .error (.parse ⟨1, .token "\n", .expected .ifSpace⟩) := by
    simp only [Template.compile, clean, found]
    rfl
  refine ⟨refused, ?_, failed, (lines_text failed).2 _ rfl⟩
  rw [(lines_text refused).1 _ rfl]
  decide +kernel

end Stencil
