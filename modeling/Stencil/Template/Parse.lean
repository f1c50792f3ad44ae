import Stencil.Template.Parser

/-!
# Reading a template from tokens

The first token of a statement, and sometimes the second, determines its form.  Each form is a
parser that is given the means to read the statements inside it, and the statement at a given depth
is tied to the statements one level below it by recursion on the levels that are left.

Tokens that begin no form are text.  Whether a word followed by an equals sign is an attribute
depends on the position: it is one inside a tag or a call, and text elsewhere.
-/

namespace Stencil

/-- How a template is read. -/
structure CompileOptions where
  /-- Whether a closing tag has to repeat the name of the tag it closes. -/
  matchTagNames : Bool := false
  /-- How many statements may lie inside each other. -/
  maxNesting : Nat := 256
  deriving DecidableEq, Repr

namespace Parse

open Stencil.Parser

/-- Where a statement stands. -/
inductive Position where
  /-- In text, where a word with an equals sign is text. -/
  | content
  /-- In a tag or a call, where it is an attribute. -/
  | attributes
  deriving DecidableEq, Repr

/-- A way to read the statement that begins with a given token, in a given position. -/
abbrev StatementParser := Position → Token → Parser Statement

/-- The text up to the closing quote, and the quote. -/
def stringBody (inner : StatementParser) : Parser (List Statement) := do
  let body ← sequence (startsWith .quote) (inner .content)
  let _ ← expect .quote .stringEnd
  return body

/-- A text in quotes outside an attribute, where the quotes are text too. -/
def quotedText (inner : StatementParser) : Parser Statement := do
  let body ← stringBody inner
  return .quoted (joinLiterals (.literal "\"" :: body ++ [.literal "\""]))

/-- The value of an attribute whose name and equals sign are taken. -/
def attributeValue (inner : StatementParser) (name : String) : Parser Attribute := do
  if ← accept .quote then
    let body ← stringBody inner
    return .quoted name body
  else
    let word ← expect .identifier .attributeValue
    return .bare name word.lexeme

/-- A tag whose less-than sign is taken. -/
def tag (inner : StatementParser) (matchNames : Bool) : Parser Statement := do
  let name ← expect .identifier .tagName
  let given ← sequence (fun tokens => startsWith .greater tokens || startsWith .selfClose tokens)
    (inner .attributes)
  if ← accept .selfClose then
    return .emptyTag name.lexeme given
  else
    let _ ← expect .greater .tagEnd
    let content ← sequence (startsWith .tagClose) (inner .content)
    let _ ← expect .tagClose .closingTag
    let closing ← expect .identifier .closingTagName
    require (!matchNames || closing.lexeme = name.lexeme) closing
      (.tagMismatch name.lexeme closing.lexeme)
    let _ ← expect .greater .closingTagEnd
    return .tag name.lexeme given content

/-- An interpolation whose opening braces are taken. -/
def interpolation : Parser Statement := do
  skipSpace
  let path ← expect .identifier .variableName
  skipSpace
  let _ ← expect .mustacheClose .variableEnd
  return .interpolation path.lexeme

/-- A call whose opening mark is taken. -/
def call (inner : StatementParser) : Parser Statement := do
  let _ ← expect .blank .callSpace
  let name ← expect .identifier .callName
  let given ← attributes (inner .attributes)
  let _ ← expect .mustacheClose .callEnd
  return .call name.lexeme given

/-- A call that encloses statements, whose opening mark is taken.  What it encloses becomes its last
attribute. -/
def slot (inner : StatementParser) : Parser Statement := do
  let _ ← expect .blank .slotSpace
  let name ← expect .identifier .slotName
  let given ← attributes (inner .attributes)
  let _ ← expect .mustacheClose .slotOpeningEnd
  let body ← sequence (startsWith .blockClose) (inner .content)
  let _ ← expect .blockClose .slotClosing
  skipSpace
  let closing ← expect .identifier .slotClosingName
  require (closing.lexeme = name.lexeme) closing (.slotMismatch name.lexeme closing.lexeme)
  skipSpace
  let _ ← expect .mustacheClose .slotClosingEnd
  return .call name.lexeme (given ++ [.captured Attribute.capturedName body])

/-- A loop whose opening mark and word are taken. -/
def each (inner : StatementParser) : Parser Statement := do
  let _ ← expect .blank .eachSpace
  let collection ← expect .identifier .eachCollection
  let _ ← expect .blank .eachSeparator
  let item ← expect .identifier .eachItem
  skipSpace
  let _ ← expect .mustacheClose .eachOpeningEnd
  let body ← sequence (startsWith .blockClose) (inner .content)
  let _ ← expect .blockClose .eachClosing
  skipSpace
  let _ ← expect .eachWord .eachClosingWord
  skipSpace
  let _ ← expect .mustacheClose .eachClosingEnd
  return .each collection.lexeme item.lexeme body

def conditionalEnd : Parser Unit := do
  let _ ← expect .blockClose .ifClosing
  skipSpace
  let _ ← expect .ifWord .ifClosingWord
  skipSpace
  let _ ← expect .mustacheClose .ifClosingEnd

/-- A conditional whose opening mark and word are taken. -/
def conditional (inner : StatementParser) : Parser Statement := do
  let _ ← expect .blank .ifSpace
  let condition ← expect .identifier .ifCondition
  skipSpace
  let _ ← expect .mustacheClose .ifOpeningEnd
  let body ← sequence (fun tokens => startsWith .blockClose tokens || (afterElse? tokens).isSome)
    (inner .content)
  if ← acceptElse then
    let alternative ← sequence (startsWith .blockClose) (inner .content)
    conditionalEnd
    return .ifThenElse condition.lexeme body alternative
  else
    conditionalEnd
    return .ifThen condition.lexeme body

/-- The statement that begins with a given token, the statements inside it being read by `inner`. -/
def form (matchNames : Bool) (inner : StatementParser) (position : Position) (first : Token) :
    Parser Statement :=
  match first.kind with
  | .blockOpen => do
    if ← accept .greater then slot inner
    else if ← accept .eachWord then each inner
    else if ← accept .ifWord then conditional inner
    else stopAt first .unknownBlock
  | .mustacheOpen => do
    if ← accept .greater then call inner else interpolation
  | .identifier => do
    if position = .attributes then
      if ← accept .equal then
        let given ← attributeValue inner first.lexeme
        return .assignment given
      else
        return .literal first.lexeme
    else
      return .literal first.lexeme
  | .less => tag inner matchNames
  | .quote => quotedText inner
  | .blockClose => stopAt first .strayClosing
  | _ => return .literal first.lexeme

/-- The statement that begins with a given token, with the given number of levels left. -/
def statement (matchNames : Bool) : Nat → StatementParser
  | 0 => fun _ first => stopAt first .nestedTooDeeply
  | levels + 1 => form matchNames (statement matchNames levels)

def template (options : CompileOptions) : Parser Template :=
  sequence (fun _ => false) (statement options.matchTagNames options.maxNesting .content)

end Parse

/-- The tokens before the first mark for the end of the source. -/
def Token.beforeEnd (tokens : List Token) : List Token :=
  tokens.takeWhile fun token => token.kind != .endMark

/-- The line on which the source ends: that of the first mark for its end, or without one that of
the last token. -/
def Token.endLine (tokens : List Token) : Nat :=
  match tokens.find? fun token => token.kind == .endMark with
  | some mark => mark.line
  | none => (tokens.getLast?.map Token.line).getD 1

/-- Read a template from tokens.  Tokens after the first mark for the end of the source are not
looked at. -/
def Template.parse (tokens : List Token) (options : CompileOptions := {}) :
    Except ParseError Template :=
  match Parse.template options (Token.beforeEnd tokens) with
  | .ok (template, _) => .ok template
  | .error fault => .error (fault.toError (Token.endLine tokens))

end Stencil
