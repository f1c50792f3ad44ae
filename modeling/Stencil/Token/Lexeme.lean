import Stencil.CodePoint.Alphabetic
import Stencil.Token.Basic

/-!
# Lexemes

How template source is cut into the texts of its tokens.  Outside quotes a lexeme is a mark, a run
of blanks, a numeral, or a word; each is taken as long as possible.  Inside quotes the source up to
the closing quote or the next interpolation is one lexeme.  A character that begins nothing is
*stray*.

The facts at the end say that cutting loses nothing: a lexeme has at least one character, and the
lexeme followed by what is left is the source (`Lexeme.nextPlain_append`).
-/

namespace Stencil.Token

/-- The characters of a run of blanks.  A line feed is not one of them. -/
def isBlank (char : Char) : Bool :=
  char == ' ' || char == '\t' || char == '\r'

/-- The characters a word may begin with besides letters. -/
def nameMarks : List Char := ['_', '+', '-', ',', '.', ':', '@', '$', '!', '?']

def isNameStart (char : Char) : Bool :=
  CodePoint.isAlphabetic char || nameMarks.contains char

/-- The characters a word may go on with: those it may begin with, and the digits `0`–`9`. -/
def isNamePart (char : Char) : Bool :=
  isNameStart char || char.isDigit

/-- The marks with a fixed text.  A mark stands before the marks it begins with, so the first one
that fits is the longest. -/
def marks : List (List Char × Kind) :=
  [(['{', '{', '#'], .blockOpen), (['{', '{', '/'], .blockClose), (['{', '{'], .mustacheOpen),
    (['{'], .braceOpen), (['}', '}'], .mustacheClose), (['}'], .braceClose),
    (['<', '/'], .tagClose), (['<'], .less), (['>'], .greater), (['/', '>'], .selfClose),
    (['/'], .slash), (['='], .equal), (['#'], .hash), (['"'], .quote), (['\n'], .newline)]

/-- The mark at the beginning of the source, if there is one. -/
def mark? (source : List Char) : Option (List Char × Kind) :=
  marks.find? fun (mark, _) => mark.isPrefixOf source

/-- The kind of a word: three words are reserved, all others are identifiers. -/
def Kind.ofWord (word : List Char) : Kind :=
  if word = ['i', 'f'] then .ifWord
  else if word = ['e', 'l', 's', 'e'] then .elseWord
  else if word = ['e', 'a', 'c', 'h'] then .eachWord
  else .identifier

/-- Cut off a numeral: digits, then a point with further digits if a digit follows the point. -/
def cutNumeral (source : List Char) : List Char × List Char :=
  let whole := source.takeWhile Char.isDigit
  match source.dropWhile Char.isDigit with
  | '.' :: digit :: rest =>
    if digit.isDigit then
      (whole ++ '.' :: (digit :: rest).takeWhile Char.isDigit,
        (digit :: rest).dropWhile Char.isDigit)
    else
      (whole, '.' :: digit :: rest)
  | rest => (whole, rest)

/-- The number with the given decimal digits. -/
def digitsValue (digits : List Char) : Nat :=
  digits.foldl (fun value digit => 10 * value + (digit.toNat - '0'.toNat)) 0

/-- The value of a numeral, rounded once to the nearest number. -/
def numeralValue (numeral : List Char) : Float :=
  let whole := numeral.takeWhile Char.isDigit
  let fraction := (numeral.dropWhile Char.isDigit).drop 1
  Float.ofScientific (digitsValue (whole ++ fraction)) true fraction.length

/-- Whether a text is a number in decimal digits, of which a point may be in front, behind or among
them. -/
def isDecimal (text : List Char) : Bool :=
  let whole := text.takeWhile Char.isDigit
  match text.dropWhile Char.isDigit with
  | [] => !whole.isEmpty
  | point :: fraction =>
    point == '.' && fraction.all Char.isDigit && !(whole ++ fraction).isEmpty

/-- Read a text as a number, if it is one.  Signs and exponents are not read, since no text with
them is cut off as a numeral. -/
def readNumber? (text : List Char) : Option Float :=
  if isDecimal text then some (numeralValue text) else none

/-- Whether text inside quotes ends here: at a quote, or where an interpolation begins. -/
def endsString : List Char → Bool
  | '"' :: _ => true
  | '{' :: '{' :: _ => true
  | _ => false

def cutString : List Char → List Char × List Char
  | [] => ([], [])
  | first :: rest =>
    if endsString (first :: rest) then ([], first :: rest)
    else
      let next := cutString rest
      (first :: next.1, next.2)

/-- One piece of the source. -/
inductive Lexeme where
  | proper (kind : Kind) (text : List Char)
  /-- A character that no token begins with. -/
  | stray (char : Char)
  deriving DecidableEq, Repr

namespace Lexeme

def text : Lexeme → List Char
  | .proper _ text => text
  | .stray char => [char]

/-- Cut off the lexeme at the beginning of `first :: rest`, outside quotes. -/
def nextPlain (first : Char) (rest : List Char) : Lexeme × List Char :=
  match mark? (first :: rest) with
  | some (mark, kind) => (.proper kind mark, (first :: rest).drop mark.length)
  | none =>
    if isBlank first then
      (.proper .blank (first :: rest.takeWhile isBlank), rest.dropWhile isBlank)
    else if first.isDigit then
      let numeral := cutNumeral (first :: rest)
      (.proper .number numeral.1, numeral.2)
    else if isNameStart first then
      let word := first :: rest.takeWhile isNamePart
      (.proper (Kind.ofWord word) word, rest.dropWhile isNamePart)
    else
      (.stray first, rest)

/-- Cut off the lexeme at the beginning of `first :: rest`, inside quotes. -/
def nextQuoted (first : Char) (rest : List Char) : Lexeme × List Char :=
  if endsString (first :: rest) then
    nextPlain first rest
  else
    let run := cutString (first :: rest)
    (.proper .string run.1, run.2)

end Lexeme

theorem mark?_append {source mark : List Char} {kind : Kind}
    (found : mark? source = some (mark, kind)) :
    mark ++ source.drop mark.length = source := by
  have fits := List.find?_some found
  exact (List.prefix_iff_eq_append.mp (List.isPrefixOf_iff_prefix.mp fits))

theorem mark?_ne_nil {source mark : List Char} {kind : Kind}
    (found : mark? source = some (mark, kind)) : mark ≠ [] := by
  have listed : (mark, kind) ∈ marks := List.mem_of_find?_eq_some found
  have nonempty : ∀ entry ∈ marks, entry.1 ≠ [] := by decide
  exact nonempty _ listed

theorem cutNumeral_append (source : List Char) :
    (cutNumeral source).1 ++ (cutNumeral source).2 = source := by
  have whole : source.takeWhile Char.isDigit ++ source.dropWhile Char.isDigit = source :=
    List.takeWhile_append_dropWhile
  unfold cutNumeral
  split
  next digit rest tail =>
    rw [tail] at whole
    split
    · rw [List.append_assoc, List.cons_append, List.takeWhile_append_dropWhile, whole]
    · exact whole
  next rest => exact whole

theorem cutNumeral_ne_nil {first : Char} {rest : List Char} (digit : first.isDigit = true) :
    (cutNumeral (first :: rest)).1 ≠ [] := by
  unfold cutNumeral
  have whole : (first :: rest).takeWhile Char.isDigit ≠ [] := by simp [digit]
  split
  · split
    · simp
    · exact whole
  · exact whole

theorem cutString_append (source : List Char) :
    (cutString source).1 ++ (cutString source).2 = source := by
  fun_induction cutString source with
  | case1 => rfl
  | case2 => rfl
  | case3 first rest _ next ih => simp [next, ih]

namespace Lexeme

theorem nextPlain_append (first : Char) (rest : List Char) :
    (nextPlain first rest).1.text ++ (nextPlain first rest).2 = first :: rest := by
  unfold nextPlain
  split
  next mark kind found => exact mark?_append found
  next =>
    split
    · simp [text, List.takeWhile_append_dropWhile]
    · split
      · exact cutNumeral_append _
      · split
        · simp [text, List.takeWhile_append_dropWhile]
        · rfl

theorem nextPlain_text_ne_nil (first : Char) (rest : List Char) :
    (nextPlain first rest).1.text ≠ [] := by
  unfold nextPlain
  split
  next mark kind found => exact mark?_ne_nil found
  next =>
    split
    · simp [text]
    · split
      next digit => exact cutNumeral_ne_nil digit
      next =>
        split
        · simp [text]
        · simp [text]

theorem nextQuoted_append (first : Char) (rest : List Char) :
    (nextQuoted first rest).1.text ++ (nextQuoted first rest).2 = first :: rest := by
  unfold nextQuoted
  split
  · exact nextPlain_append first rest
  · exact cutString_append _

theorem nextQuoted_text_ne_nil (first : Char) (rest : List Char) :
    (nextQuoted first rest).1.text ≠ [] := by
  unfold nextQuoted
  split
  · exact nextPlain_text_ne_nil first rest
  next goesOn => simp [text, cutString, goesOn]

end Lexeme

end Stencil.Token
