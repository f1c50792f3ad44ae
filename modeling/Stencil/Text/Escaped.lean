import Stencil.CodePoint.GraphemeExtend
import Stencil.CodePoint.Printable

/-!
# Escaped text

The form in which messages and token listings quote a piece of source text.  A few characters have
an escape of two characters; any other character that would be invisible is written as its code
point, `\u{hex}` with lower-case digits.  A mark that joins itself to the character before it is
written as its code point only where nothing precedes it, at the start of a text or alone; inside a
text it is kept, since it belongs to what it follows.  The two halfwidth voicing marks are kept in
every place: by property they extend a grapheme, but they are letters with a width of their own.

Escaped text holds no control character, in particular no line break, so a quotation never spreads
over two lines.
-/

namespace Stencil.Text

open CodePoint (isPrintable extendsGrapheme)

/-- The letter after the backslash, for the characters with an escape of two characters. -/
def shortEscape? : Char → Option Char
  | '\x00' => some '0'
  | '\t' => some 't'
  | '\r' => some 'r'
  | '\n' => some 'n'
  | '\'' => some '\''
  | '"' => some '"'
  | '\\' => some '\\'
  | _ => none

/-- The escape that names a character by its code point. -/
def codePointEscape (char : Char) : List Char :=
  '\\' :: 'u' :: '{' :: (Nat.toDigits 16 char.toNat ++ ['}'])

/-- The written form of a character that follows another one. -/
def escapeInner (char : Char) : List Char :=
  match shortEscape? char with
  | some letter => ['\\', letter]
  | none => if isPrintable char then [char] else codePointEscape char

/-- The halfwidth voicing marks of Katakana, the only letters that extend a grapheme. -/
def isVoicingLetter (char : Char) : Bool :=
  char == '\uff9e' || char == '\uff9f'

/-- Whether a character is drawn onto the one before it, so that it cannot stand alone. -/
def joinsPrevious (char : Char) : Bool :=
  extendsGrapheme char && !isVoicingLetter char

/-- The written form of a character with nothing before it to join. -/
def escapeLeading (char : Char) : List Char :=
  match shortEscape? char with
  | some letter => ['\\', letter]
  | none =>
    if isPrintable char && !joinsPrevious char then [char] else codePointEscape char

/-- A single character, as a message quotes it. -/
def escapeChar (char : Char) : String :=
  String.ofList (escapeLeading char)

/-- A piece of text, as a message quotes it. -/
def escape (text : String) : String :=
  match text.toList with
  | [] => ""
  | first :: rest => String.ofList (escapeLeading first ++ rest.flatMap escapeInner)

end Stencil.Text
