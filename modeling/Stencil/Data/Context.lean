import Stencil.Data.Value

/-!
# Contexts

The values that are bound when rendering begins.
-/

namespace Stencil

/-- The values that are bound when rendering begins. -/
structure Context where
  bindings : Bindings Value := []

/-- Why data does not make a context. -/
inductive ContextError where
  /-- The data is no object, so it binds no names. -/
  | notAMap
  deriving DecidableEq, Repr

def ContextError.message : ContextError → String
  | .notAMap => "template context must serialize to a map"

namespace Context

def empty : Context := {}

/-- The value under a name.  The name is not taken apart. -/
def get? (context : Context) (name : String) : Option Value :=
  context.bindings.get? name

/-- Bind a name to a value, in place of the value it may have had. -/
def set (context : Context) (name : String) (value : Value) : Context :=
  ⟨context.bindings.set name value⟩

/-- The context with the given bindings; the last value for a name counts. -/
def ofList (entries : List (String × Value)) : Context :=
  ⟨Bindings.ofList entries⟩

/-- The context that binds the members of a JSON object. -/
def ofJson? (json : Json) : Option Context :=
  (Value.ofJson json).entries?.map Context.mk

/-- The context for serialized data, which has to be an object. -/
def ofSerialized (json : Json) : Except ContextError Context :=
  match ofJson? json with
  | some context => .ok context
  | none => .error .notAMap

@[simp] theorem get?_set_self (context : Context) (name : String) (value : Value) :
    (context.set name value).get? name = some value :=
  Bindings.get?_set_self context.bindings name value

@[simp] theorem get?_set_of_ne (context : Context) {name other : String} (value : Value)
    (different : name ≠ other) :
    (context.set name value).get? other = context.get? other :=
  Bindings.get?_set_of_ne context.bindings value different

end Context

end Stencil
