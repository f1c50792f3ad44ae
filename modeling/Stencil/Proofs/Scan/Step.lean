import Stencil.Proofs.Scan.Lexemes

/-!
# One step of a scan

A scan that cuts off the text of a token finds that token: a numeral can always be read as a number.
Behind every lexeme the scan is as many lines further as there are line feeds in its text, although
it moves on only behind a line feed outside quotes and on its way through text inside them.

So a scan is determined by what it cuts off, and `findings_induction` is the induction over that.
-/

namespace Stencil.Token

variable {region : Region} {mode : Mode} {kind : Kind} {first char : Char}
variable {line : Nat} {rest text following : List Char}

/-- The text of a number: digits, or digits, a point and more digits. -/
def IsNumeral (text : List Char) : Prop :=
  ∃ whole, whole ≠ [] ∧ (∀ char ∈ whole, char.isDigit = true) ∧
    (text = whole ∨ ∃ fraction, fraction ≠ [] ∧ (∀ char ∈ fraction, char.isDigit = true) ∧
      text = whole ++ '.' :: fraction)

theorem Fits.isNumeral (fits : Fits region .number text) : IsNumeral text := by
  cases fits with
  | mark listed =>
      have others : ∀ entry ∈ marks, entry.2 ≠ .number := by decide
      exact absurd rfl (others _ listed)
  | word _ _ _ isKind =>
      unfold Kind.ofWord at isKind
      split_ifs at isKind
  | @number first rest _ digit whole =>
      rcases (cutNumeral_eq_iff.mp whole).2.2 with
        ⟨areDigits, _⟩ | ⟨front, fraction, isText, areDigits, nonempty, areMore⟩
      · exact ⟨first :: rest, by simp, areDigits, .inl rfl⟩
      · refine ⟨front, ?_, areDigits, .inr ⟨fraction, nonempty, areMore, isText⟩⟩
        rintro rfl
        cases isText
        cases digit

theorem IsNumeral.isDecimal (isNumeral : IsNumeral text) : isDecimal text = true := by
  rcases isNumeral with ⟨whole, nonempty, areDigits, rfl | ⟨fraction, _, areMore, rfl⟩⟩
  · rcases span_eq_iff.mpr ⟨(List.append_nil text).symm, areDigits, by simp⟩ with ⟨taken, dropped⟩
    simp [Token.isDecimal, taken, dropped, nonempty]
  · rcases span_eq_iff.mpr ⟨rfl, areDigits, (by simp : ∀ char ∈ ('.' :: fraction).head?, _)⟩ with
      ⟨taken, dropped⟩
    simp only [Token.isDecimal, taken, dropped]
    simpa [nonempty] using areMore

/-- No numeral is an invalid number. -/
theorem IsNumeral.readNumber?_eq (isNumeral : IsNumeral text) :
    readNumber? text = some (numeralValue text) :=
  if_pos isNumeral.isDecimal

/-- The value that a lexeme denotes: numerals denote numbers, text inside quotes denotes itself. -/
def Literal.ofLexeme? (kind : Kind) (lexeme : List Char) : Option Literal :=
  match kind with
  | .number => some (.number (numeralValue lexeme))
  | .string => some (.text (String.ofList lexeme))
  | _ => none

def ofLexeme (kind : Kind) (lexeme : List Char) (line : Nat) : Token :=
  { kind, lexeme := String.ofList lexeme, literal? := Literal.ofLexeme? kind lexeme, line }

theorem Fits.finding_eq (fits : Fits region kind text) (line : Nat) :
    (Lexeme.proper kind text).finding line = .token (ofLexeme kind text line) := by
  cases kind with
  | number => simp only [Lexeme.finding, fits.isNumeral.readNumber?_eq, ofLexeme, Literal.ofLexeme?]
  | _ => rfl

/-- Outside quotes a line feed is a lexeme of its own. -/
theorem Fits.kind_eq_newline (fits : Fits region kind text) (notString : kind ≠ .string)
    (breaks : '\n' ∈ text) : kind = .newline := by
  have starts : '\n' ∈ markStarts := by decide
  cases fits with
  | mark listed =>
      have alone : ∀ entry ∈ marks, '\n' ∈ entry.1 → entry.2 = .newline := by decide
      exact alone _ listed breaks
  | string => exact absurd rfl notString
  | blank _ _ blanks =>
      exact absurd starts (not_mem_markStarts_of_isBlank (blanks _ breaks))
  | number _ _ whole =>
      have part := isNamePart_of_cutNumeral whole _ breaks
      exact absurd starts (not_mem_markStarts_of_isNamePart part)
  | word _ begins parts =>
      have part : isNamePart '\n' = true := by
        rcases List.mem_cons.mp breaks with rfl | later
        · exact isNamePart_of_isNameStart begins
        · exact parts _ later
      exact absurd starts (not_mem_markStarts_of_isNamePart part)

theorem foldl_line (line : Nat) (text : List Char) :
    text.foldl (fun line char => if char = '\n' then line + 1 else line) line =
      line + text.count '\n' := by
  induction text generalizing line with
  | nil => rfl
  | cons char text ih =>
      rw [List.foldl_cons, ih, List.count_cons]
      by_cases breaks : char = '\n'
      · simp [breaks, Nat.add_right_comm, Nat.add_assoc]
      · simp [breaks]

/-- Behind a token the scan is as many lines further as there are line feeds in its text. -/
theorem Fits.lineBehind_eq (fits : Fits region kind text) (line : Nat) :
    (Lexeme.proper kind text).lineBehind line = line + text.count '\n' := by
  by_cases isString : kind = .string
  · subst isString
    exact foldl_line line text
  by_cases isNewline : kind = .newline
  · subst isNewline
    have isText : text = ['\n'] := fits.spelled rfl
    rw [isText]
    rfl
  · have unbroken : '\n' ∉ text :=
      fun breaks => isNewline (fits.kind_eq_newline isString breaks)
    rw [List.count_eq_zero_of_not_mem unbroken]
    cases kind <;> first | rfl | contradiction

/-- What is found at a token, and from there on. -/
theorem findings_cons_proper (cut : mode.next first rest = (.proper kind text, following)) :
    findings mode line (first :: rest) =
      .token (ofLexeme kind text line) ::
        findings (mode.after line kind) (line + text.count '\n') following := by
  rcases Mode.next_eq_proper.mp cut with ⟨_, fits, _⟩
  rw [findings]
  simp only [cut, fits.finding_eq, fits.lineBehind_eq]
  rfl

theorem BeginsNoToken.ne_newline (none : BeginsNoToken char) : char ≠ '\n' := by
  rintro rfl
  exact none.1 (by decide)

/-- What is found at a character that no token begins with, and from there on. -/
theorem findings_cons_stray (cut : mode.next first rest = (.stray char, following)) :
    findings mode line (first :: rest) =
      .problem ⟨line, .unexpectedCharacter char⟩ :: findings mode line following := by
  rw [findings]
  simp only [cut]
  rfl

/-- What is found at the end of the source, where a quote may be open. -/
theorem findings_nil : findings mode line [] =
    (mode.openQuote?.map fun opened => .problem ⟨opened, .unterminatedString⟩).toList ++
      [.token (atEnd line)] := by
  rw [findings]
  cases mode.openQuote? <;> rfl

/-- Induction over a scan.  Every step of it cuts off a token or a character that no token begins
with. -/
@[elab_as_elim]
theorem findings_induction {motive : Mode → Nat → List Char → Prop}
    (closed : ∀ mode line, mode.openQuote? = none → motive mode line [])
    (unclosed : ∀ mode line opened, mode.openQuote? = some opened → motive mode line [])
    (proper : ∀ mode line first rest kind text following,
      mode.next first rest = (.proper kind text, following) →
      motive (mode.after line kind) (line + text.count '\n') following →
      motive mode line (first :: rest))
    (stray : ∀ mode line first rest char following,
      mode.next first rest = (.stray char, following) →
      motive mode line following → motive mode line (first :: rest))
    (mode : Mode) (line : Nat) (source : List Char) : motive mode line source := by
  induction isLength : source.length using Nat.strong_induction_on
    generalizing mode line source with
  | _ length ih =>
      subst isLength
      cases source with
      | nil =>
          cases isQuote : mode.openQuote? with
          | none => exact closed mode line isQuote
          | some opened => exact unclosed mode line opened isQuote
      | cons first rest =>
          have shorter := Nat.lt_succ_of_le (Mode.next_length_le mode first rest)
          rcases cut : mode.next first rest with ⟨lexeme, following⟩
          rw [cut] at shorter
          cases lexeme with
          | proper kind text =>
              exact proper mode line first rest kind text following cut (ih _ shorter _ _ _ rfl)
          | stray char =>
              exact stray mode line first rest char following cut (ih _ shorter _ _ _ rfl)

/-- The line on which a source ends, by the number of its line feeds. -/
def lastLine (source : List Char) : Nat :=
  1 + source.count '\n'

end Stencil.Token
