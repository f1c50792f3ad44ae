import Stencil.Text.Escaped

/-!
# Problems in the text of a template

A scan goes on after a problem, so one source may have several.
-/

namespace Stencil

/-- What is wrong with a piece of template text. -/
inductive ScanError.Cause where
  /-- A character outside quotes that no token begins with. -/
  | unexpectedCharacter (char : Char)
  /-- A quote that nothing closes. -/
  | unterminatedString
  /-- A problem in words of its own, such as a numeral that cannot be read. -/
  | described (message : String)
  deriving DecidableEq, Repr

def ScanError.Cause.message : ScanError.Cause → String
  | .unexpectedCharacter char => "Unexpected character: '" ++ Text.escapeChar char ++ "'"
  | .unterminatedString => "Unterminated string."
  | .described message => message

/-- A problem and the line it is on. -/
structure ScanError where
  line : Nat
  cause : ScanError.Cause
  deriving DecidableEq, Repr

def ScanError.message (error : ScanError) : String :=
  error.cause.message

/-- A problem with its line, as it is reported. -/
def ScanError.text (error : ScanError) : String :=
  "[line " ++ toString error.line ++ "] Error: " ++ error.message

end Stencil
