import Stencil.Token.Lexeme
import Stencil.Token.ScanError

/-!
# Scanning a source

A source is a sequence of pieces, and every piece is a token or a stray character.  Which lexeme
comes next depends only on the remaining source and on the *mode*: outside quotes, inside quotes, or
in an interpolation inside quotes.  The kind of a lexeme determines the next mode.  A quote that is
still open at the end of the source is a problem on the line where it was opened.

The scan keeps the line it is on, and moves it on where a line ends.  A token or a problem has the
line that the scan is on when it meets it.
-/

namespace Stencil.Token

/-- Where in the source a scan is.  Inside quotes it remembers the line of the opening quote. -/
inductive Mode where
  | plain
  | quoted (opened : Nat)
  /-- In an interpolation inside quotes. -/
  | interpolated (opened : Nat)
  deriving DecidableEq, Repr

namespace Mode

/-- Cut off the lexeme at the beginning of `first :: rest`. -/
def next (mode : Mode) (first : Char) (rest : List Char) : Lexeme × List Char :=
  match mode with
  | .quoted _ => Lexeme.nextQuoted first rest
  | _ => Lexeme.nextPlain first rest

theorem next_append (mode : Mode) (first : Char) (rest : List Char) :
    (mode.next first rest).1.text ++ (mode.next first rest).2 = first :: rest := by
  cases mode with
  | quoted opened => exact Lexeme.nextQuoted_append first rest
  | plain => exact Lexeme.nextPlain_append first rest
  | interpolated opened => exact Lexeme.nextPlain_append first rest

theorem next_text_ne_nil (mode : Mode) (first : Char) (rest : List Char) :
    (mode.next first rest).1.text ≠ [] := by
  cases mode with
  | quoted opened => exact Lexeme.nextQuoted_text_ne_nil first rest
  | plain => exact Lexeme.nextPlain_text_ne_nil first rest
  | interpolated opened => exact Lexeme.nextPlain_text_ne_nil first rest

theorem next_length_le (mode : Mode) (first : Char) (rest : List Char) :
    (mode.next first rest).2.length ≤ rest.length := by
  have whole := congrArg List.length (next_append mode first rest)
  have nonempty := List.length_pos_iff.mpr (next_text_ne_nil mode first rest)
  simp only [List.length_append, List.length_cons] at whole
  omega

/-- The mode after a token of the given kind on the given line.  Between quotes two opening braces
begin an interpolation, two closing braces end it, and a quote ends both. -/
def after (mode : Mode) (line : Nat) (kind : Kind) : Mode :=
  match mode, kind with
  | .plain, .quote => .quoted line
  | .plain, _ => .plain
  | .quoted _, .quote => .plain
  | .quoted opened, .mustacheOpen => .interpolated opened
  | .quoted opened, .blockOpen => .interpolated opened
  | .quoted opened, .blockClose => .interpolated opened
  | .quoted opened, _ => .quoted opened
  | .interpolated _, .quote => .plain
  | .interpolated opened, .mustacheClose => .quoted opened
  | .interpolated opened, _ => .interpolated opened

/-- The line of the quote that is open in a mode. -/
def openQuote? : Mode → Option Nat
  | .plain => none
  | .quoted opened => some opened
  | .interpolated opened => some opened

end Mode

/-- What a scan finds, one after the other. -/
inductive Finding where
  | token (found : Token)
  | problem (error : ScanError)
  deriving DecidableEq, Repr

/-- The token that was found, if it was one. -/
def Finding.token? : Finding → Option Token
  | .token found => some found
  | .problem _ => none

/-- The problem that was found, if it was one. -/
def Finding.problem? : Finding → Option ScanError
  | .token _ => none
  | .problem error => some error

/-- What is found at a lexeme on the given line.  A numeral is a token only if it can be read as a
number; text inside quotes denotes itself. -/
def Lexeme.finding (lexeme : Lexeme) (line : Nat) : Finding :=
  match lexeme with
  | .proper .number text =>
    match readNumber? text with
    | some value => .token ⟨.number, String.ofList text, some (.number value), line⟩
    | none => .problem ⟨line, .described ("Invalid number: " ++ String.ofList text)⟩
  | .proper .string text =>
    .token ⟨.string, String.ofList text, some (.text (String.ofList text)), line⟩
  | .proper kind text => .token ⟨kind, String.ofList text, none, line⟩
  | .stray char => .problem ⟨line, .unexpectedCharacter char⟩

/-- The line behind a lexeme on the given line.  A line feed is a token, which ends its line, except
inside quotes, where the scan passes it with the rest of the text, one character at a time. -/
def Lexeme.lineBehind (lexeme : Lexeme) (line : Nat) : Nat :=
  match lexeme with
  | .proper .newline _ => line + 1
  | .proper .string text =>
    text.foldl (fun line char => if char = '\n' then line + 1 else line) line
  | _ => line

/-- The findings from a place in the source on, given the mode and the line there.  The last one is
the token at the end of the source, on the line that the scan has come to. -/
def findings (mode : Mode) (line : Nat) (source : List Char) : List Finding :=
  match source with
  | [] =>
    match mode.openQuote? with
    | none => [.token (atEnd line)]
    | some opened => [.problem ⟨opened, .unterminatedString⟩, .token (atEnd line)]
  | first :: rest =>
    let next := mode.next first rest
    let behind := next.1.lineBehind line
    match next.1.finding line with
    | .token found => .token found :: findings (mode.after found.line found.kind) behind next.2
    | .problem error => .problem error :: findings mode behind next.2
termination_by source.length
decreasing_by
  all_goals exact Nat.lt_succ_of_le (Mode.next_length_le mode first rest)

/-- The outcome of a scan. -/
structure Scan where
  /-- The tokens in order, closed by the token at the end of the source. -/
  tokens : List Token
  /-- The problems in the order in which they were met. -/
  errors : List ScanError
  deriving DecidableEq, Repr

/-- Scan a whole source, from its first line on. -/
def scan (source : String) : Scan :=
  let found := findings .plain 1 source.toList
  { tokens := found.filterMap Finding.token?
    errors := found.filterMap Finding.problem? }

end Stencil.Token
