import Stencil.Number.Text
import Stencil.Text.Escaped

/-!
# Tokens

A token is a stretch of template source with its kind and the line it begins on.  Numbers and the
text inside quotes also carry the value they denote.
-/

namespace Stencil

namespace Token

/-- What a token is, as far as reading a template is concerned. -/
inductive Kind where
  | braceOpen
  | braceClose
  | mustacheOpen
  | mustacheClose
  /-- Two opening braces and a number sign, which begin a block. -/
  | blockOpen
  /-- Two opening braces and a slash, which end a block. -/
  | blockClose
  | less
  | greater
  /-- A less-than sign and a slash, which begin a closing tag. -/
  | tagClose
  | slash
  /-- A slash and a greater-than sign, which end a tag without content. -/
  | selfClose
  | equal
  | hash
  | quote
  /-- Text between quotes. -/
  | string
  | identifier
  | number
  /-- Spaces, tabs and carriage returns. -/
  | blank
  | newline
  | ifWord
  | elseWord
  | eachWord
  /-- The end of the source, which has no text. -/
  | endMark
  deriving DecidableEq, Repr

def Kind.label : Kind → String
  | .braceOpen => "CurlyOpen"
  | .braceClose => "CurlyClose"
  | .mustacheOpen => "MustacheOpen"
  | .mustacheClose => "MustacheClose"
  | .blockOpen => "BlockOpen"
  | .blockClose => "BlockClose"
  | .less => "Less"
  | .greater => "Greater"
  | .tagClose => "TagClose"
  | .slash => "Slash"
  | .selfClose => "SlashGreater"
  | .equal => "Equal"
  | .hash => "Hash"
  | .quote => "Quote"
  | .string => "String"
  | .identifier => "Identifier"
  | .number => "Number"
  | .blank => "Whitespace"
  | .newline => "Newline"
  | .ifWord => "If"
  | .elseWord => "Else"
  | .eachWord => "Each"
  | .endMark => "Eof"

/-- Whether a token of this kind only separates others inside a construct. -/
def Kind.isSpace (kind : Kind) : Bool :=
  kind = .blank || kind = .newline

/-- The value that a token denotes. -/
inductive Literal where
  | text (content : String)
  | number (value : Float)
  deriving DecidableEq, Repr

def Literal.listing : Literal → String
  | .text content => content
  | .number value => Number.listing value

end Token

/-- A stretch of template source. -/
structure Token where
  kind : Token.Kind
  /-- The source text of the token. -/
  lexeme : String
  literal? : Option Token.Literal := none
  /-- The line on which the token begins, counted from one. -/
  line : Nat
  deriving DecidableEq, Repr

/-- A token in a listing: its kind, its escaped text and its literal, with spaces between. -/
def Token.listing (token : Token) : String :=
  let literal := (token.literal?.map Token.Literal.listing).getD "null"
  token.kind.label ++ " " ++ Text.escape token.lexeme ++ " " ++ literal

def Token.atEnd (line : Nat) : Token :=
  { kind := .endMark, lexeme := "", line }

end Stencil
