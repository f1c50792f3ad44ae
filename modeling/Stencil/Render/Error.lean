/-!
# Limits of rendering, and why it fails

A rendering is bounded in two ways: by how many calls may lie inside each other, and by how many
lists of statements may, calls included.
-/

namespace Stencil

/-- How deep a rendering may go. -/
structure RenderLimits where
  /-- How many calls may lie inside each other. -/
  calls : Nat := 64
  /-- How many lists of statements may lie inside the outermost one. -/
  nesting : Nat := 512
  deriving DecidableEq, Repr

/-- Why a rendering stops. -/
inductive Halt where
  /-- A loop over something that is no list. -/
  | notIterable (collection : String)
  /-- A call inside as many calls as are allowed. -/
  | callTooDeep (name : String)
  /-- A list of statements inside as many lists as are allowed. -/
  | nestingTooDeep
  deriving DecidableEq, Repr

/-- Why a rendering fails, with the limit that was reached if it was one. -/
inductive RenderError where
  | notIterable (collection : String)
  | callTooDeep (name : String) (limit : Nat)
  | nestingTooDeep (limit : Nat)
  deriving DecidableEq, Repr

/-- The failure of a rendering that stops under the given limits. -/
def Halt.toError (limits : RenderLimits) : Halt → RenderError
  | notIterable collection => .notIterable collection
  | callTooDeep name => .callTooDeep name limits.calls
  | nestingTooDeep => .nestingTooDeep limits.nesting

def RenderError.text : RenderError → String
  | notIterable collection =>
    "Cannot iterate '" ++ collection ++ "': value is missing or not a sequence"
  | callTooDeep name limit =>
    "Partial '" ++ name ++ "' exceeds the maximum nesting depth of " ++ toString limit
  | nestingTooDeep limit =>
    "Template exceeds the maximum nesting depth of " ++ toString limit ++ " while rendering"

end Stencil
