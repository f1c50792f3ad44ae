import Stencil.Data.Path
import Stencil.Data.Value

/-!
# Scopes

The bindings in force at a place in a template.  A loop and a call put bindings of their own in
front of those around them; a name means its innermost binding.
-/

namespace Stencil

/-- Bindings around each other, the innermost first. -/
abbrev Scope := List (Bindings Value)

namespace Scope

/-- The innermost value under a name.  The name is not taken apart. -/
def get? (scope : Scope) (name : String) : Option Value :=
  match scope with
  | [] => none
  | inner :: outer =>
    match inner.get? name with
    | some value => some value
    | none => get? outer name

/-- The value at the end of a path.  The first name alone decides which binding is meant. -/
def lookup? (scope : Scope) (path : String) : Option Value :=
  match Path.names path with
  | [] => none
  | first :: rest => (scope.get? first).bind fun value => value.follow? rest

/-- The value that a condition tests: the one under the whole text as a name, or else the one at the
end of the path. -/
def condition? (scope : Scope) (condition : String) : Option Value :=
  (scope.get? condition).or (scope.lookup? condition)

def holds (scope : Scope) (condition : String) : Bool :=
  (scope.condition? condition).any Value.isTruthy

/-- The text that an interpolation yields: nothing where the path leads nowhere. -/
def textAt (scope : Scope) (path : String) : String :=
  ((scope.lookup? path).map Value.text).getD ""

/-- The items that a loop runs over, if the path leads to a list. -/
def itemsAt? (scope : Scope) (path : String) : Option (List Value) :=
  (scope.lookup? path).bind Value.items?

end Scope

end Stencil
