import Stencil.Template.Parse
import Stencil.Token.Scan

/-!
# Compiling a template

A source is scanned first.  Problems in its text are all reported together; only a source without
such problems is read as a template, and reading stops at the first fault.
-/

namespace Stencil

/-- Why a source is no template. -/
inductive CompileError where
  | scan (errors : List ScanError)
  | parse (error : ParseError)
  deriving DecidableEq, Repr

namespace CompileError

/-- The words for the failure: one line for each problem. -/
def text : CompileError → String
  | scan errors => "\n".intercalate (errors.map ScanError.text)
  | parse error => error.text

/-- The line of the first problem, or zero if none is given. -/
def line : CompileError → Nat
  | scan [] => 0
  | scan (first :: _) => first.line
  | parse error => error.line

end CompileError

/-- Compile a template source. -/
def Template.compile (source : String) (options : CompileOptions := {}) :
    Except CompileError Template :=
  let scanned := Token.scan source
  if scanned.errors.isEmpty then
    (Template.parse scanned.tokens options).mapError CompileError.parse
  else
    .error (.scan scanned.errors)

end Stencil
