import Stencil.Text.Escaped

/-!
# Faults in the structure of a template

Reading a template stops at the first fault.  An error names the line and the lexeme at which
reading stopped, or says that it stopped at the end of the source.
-/

namespace Stencil

/-- What reading a template needed and did not find. -/
inductive Expectation where
  | slotSpace
  | slotName
  | slotOpeningEnd
  | slotClosing
  | slotClosingName
  | slotClosingEnd
  | callSpace
  | callName
  | callEnd
  | argument
  | attributeValue
  | stringEnd
  | variableName
  | variableEnd
  | tagName
  | tagEnd
  | closingTag
  | closingTagName
  | closingTagEnd
  | eachSpace
  | eachCollection
  | eachSeparator
  | eachItem
  | eachOpeningEnd
  | eachClosing
  | eachClosingWord
  | eachClosingEnd
  | ifSpace
  | ifCondition
  | ifOpeningEnd
  | ifClosing
  | ifClosingWord
  | ifClosingEnd
  deriving DecidableEq, Repr

namespace Expectation

/-- Two opening braces and what follows them, in single quotes. -/
def opening (mark : String) : String :=
  r"'{{" ++ mark ++ "'"

def closing : String :=
  r"'}}'"

/-- A mark with both its opening and its closing braces, in single quotes. -/
def whole (mark : String) : String :=
  r"'{{" ++ mark ++ r"}}'"

def message : Expectation → String
  | slotSpace => "Expect whitespace after " ++ opening "#>" ++ "."
  | slotName => "Expect slot component name after " ++ opening "#> " ++ "."
  | slotOpeningEnd => "Expect " ++ closing ++ " at the end of a slot opening expression."
  | slotClosing => "Expect " ++ opening "/" ++ " to close slot block."
  | slotClosingName => "Expect slot component name in closing slot block."
  | slotClosingEnd => "Expect " ++ closing ++ " at the end of a closing slot expression."
  | callSpace => "Expect whitespace after " ++ opening ">" ++ "."
  | callName => "Expect partial name after " ++ opening "> " ++ "."
  | callEnd => "Expect " ++ closing ++ " at the end of a partial expression."
  | argument => "Expect attribute (name=value) in partial invocation."
  | attributeValue => "Expect string or identifier after '='."
  | stringEnd => "Expect '\"' at the end of string."
  | variableName => "Expect variable name after " ++ opening "" ++ "."
  | variableEnd => "Expect " ++ closing ++ " after variable name."
  | tagName => "Expect tag name after '<'."
  | tagEnd => "Expect '>' after tag attributes."
  | closingTag => "Expect '</' before closing tag name."
  | closingTagName => "Expect tag name after '</' in closing tag."
  | closingTagEnd => "Expect '>' after closing tag name."
  | eachSpace => "Expect whitespace after " ++ opening "#each" ++ "."
  | eachCollection => "Expect collection name in each block."
  | eachSeparator => "Expect whitespace after collection name in each block."
  | eachItem => "Expect alias for the items of the collection."
  | eachOpeningEnd => "Expect " ++ closing ++ " at the end of each opening block."
  | eachClosing => "Expect " ++ whole "/each" ++ " to close each block."
  | eachClosingWord => "Expect 'each' in closing each block."
  | eachClosingEnd => "Expect " ++ closing ++ " at the end of closing each block."
  | ifSpace => "Expect whitespace after " ++ opening "#if" ++ "."
  | ifCondition => "Expect condition variable in if block."
  | ifOpeningEnd => "Expect " ++ closing ++ " at the end of if opening block."
  | ifClosing => "Expect " ++ whole "/if" ++ " to close if block."
  | ifClosingWord => "Expect 'if' in closing if block."
  | ifClosingEnd => "Expect " ++ closing ++ " at the end of closing if block."

end Expectation

/-- Why reading a template stopped. -/
inductive ParseError.Cause where
  | expected (what : Expectation)
  /-- A slot is closed under another name than its own. -/
  | slotMismatch (opened closed : String)
  /-- A tag is closed under another name than its own. -/
  | tagMismatch (opened closed : String)
  | nestedTooDeeply
  /-- A fault in words of its own, such as a block that cannot stand where it does. -/
  | described (message : String)
  deriving DecidableEq, Repr

@[reducible]
def ParseError.Cause.unknownBlock : ParseError.Cause :=
  .described ("Unknown block; expect " ++ Expectation.opening "#if" ++ ", "
    ++ Expectation.opening "#each" ++ " or " ++ Expectation.opening "#>" ++ ".")

@[reducible]
def ParseError.Cause.strayClosing : ParseError.Cause :=
  .described "Unexpected closing block."

def ParseError.Cause.message : ParseError.Cause → String
  | .expected what => what.message
  | .slotMismatch opened closed =>
    "Expect " ++ Expectation.whole ("/" ++ opened) ++ " to close slot '" ++ opened ++ "', found '"
      ++ closed ++ "'."
  | .tagMismatch opened closed =>
    "Expect '</" ++ opened ++ ">' to close '<" ++ opened ++ ">', found '</" ++ closed ++ ">'."
  | .nestedTooDeeply => "Template nested too deeply."
  | .described message => message

/-- Where reading a template stopped. -/
inductive ParseError.Location where
  | token (lexeme : String)
  | sourceEnd
  deriving DecidableEq, Repr

/-- The words for a place: a lexeme is quoted in escaped form. -/
def ParseError.Location.text : ParseError.Location → String
  | .token lexeme => "at '" ++ Text.escape lexeme ++ "'"
  | .sourceEnd => "at end"

/-- The fault at which reading a template stopped. -/
structure ParseError where
  line : Nat
  location : ParseError.Location
  cause : ParseError.Cause
  deriving DecidableEq, Repr

def ParseError.message (error : ParseError) : String :=
  error.cause.message

/-- A fault with its line and place, as it is reported. -/
def ParseError.text (error : ParseError) : String :=
  "[line " ++ toString error.line ++ "] Error " ++ error.location.text ++ ": " ++ error.message

end Stencil
