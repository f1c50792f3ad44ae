import Stencil.Data.Bindings
import Stencil.Template.Compile

/-!
# Registries

Templates that other templates call by name.  A call is resolved when it is rendered, so templates
may be registered in any order and may call each other.
-/

namespace Stencil

/-- Templates under names. -/
structure Registry where
  templates : Bindings Template := []

namespace Registry

def empty : Registry := {}

def get? (registry : Registry) (name : String) : Option Template :=
  registry.templates.get? name

/-- Whether a template is registered under a name. -/
def contains (registry : Registry) (name : String) : Bool :=
  (registry.get? name).isSome

def size (registry : Registry) : Nat :=
  registry.templates.length

def isEmpty (registry : Registry) : Bool :=
  registry.templates.isEmpty

/-- Register a compiled template, in place of the one that may have had the name. -/
def insert (registry : Registry) (name : String) (template : Template) : Registry :=
  ⟨registry.templates.set name template⟩

/-- Register a compiled template, and give back the one that had the name. -/
def exchange (registry : Registry) (name : String) (template : Template) :
    Option Template × Registry :=
  (registry.get? name, registry.insert name template)

/-- Compile a source and register the template.  If the source is no template, there is no new
registry. -/
def register (registry : Registry) (name source : String) (options : CompileOptions := {}) :
    Except CompileError Registry :=
  (Template.compile source options).map (registry.insert name)

@[simp] theorem get?_insert_self (registry : Registry) (name : String) (template : Template) :
    (registry.insert name template).get? name = some template :=
  Bindings.get?_set_self registry.templates name template

@[simp] theorem get?_insert_of_ne (registry : Registry) {name other : String}
    (template : Template) (different : name ≠ other) :
    (registry.insert name template).get? other = registry.get? other :=
  Bindings.get?_set_of_ne registry.templates template different

end Registry

end Stencil
