import Stencil.Data.Context
import Stencil.Registry
import Stencil.Render.Error
import Stencil.Render.Scope

/-!
# Rendering

The text of a template is the text of its statements one after the other.  The statements inside a
statement are rendered in the same way, one level deeper and with more bindings where a loop or a
call adds some.

A call renders the template registered under its name.  Its attributes are rendered first, in order
and in the scope of the call, what the call encloses included; they are the bindings that the called
template sees in front of the others.  A call of an unregistered name renders nothing, whatever its
attributes are.

Rendering a statement is by recursion on the statement, and a called template, which is no part of
the calling one, is reached through the number of calls that are left.
-/

namespace Stencil

/-- Go one level deeper if a level is left. -/
def descend {α : Type} (levels : Nat) (run : Nat → Except Halt α) : Except Halt α :=
  match levels with
  | 0 => .error .nestingTooDeep
  | inner + 1 => run inner

/-- A way to render a called template in a scope, with a number of levels left. -/
abbrev Callee := Template → Scope → Nat → Except Halt String

mutual

/-- The text of a statement.  No callee stands for no calls left. -/
def Statement.render (registry : Registry) (callee? : Option Callee) (statement : Statement)
    (scope : Scope) (levels : Nat) : Except Halt String :=
  match statement with
  | .literal text => .ok text
  | .interpolation path => .ok (scope.textAt path)
  | .assignment given => given.render registry callee? scope levels
  | .quoted body =>
    descend levels fun inner => renderAll registry callee? body scope inner
  | .tag name attributes content => do
    let opening ← descend levels fun inner => renderAll registry callee? attributes scope inner
    let inside ← descend levels fun inner => renderAll registry callee? content scope inner
    return "<" ++ name ++ opening ++ ">" ++ inside ++ "</" ++ name ++ ">"
  | .emptyTag name attributes => do
    let opening ← descend levels fun inner => renderAll registry callee? attributes scope inner
    return "<" ++ name ++ opening ++ "/>"
  | .ifThen condition body =>
    if scope.holds condition then
      descend levels fun inner => renderAll registry callee? body scope inner
    else
      .ok ""
  | .ifThenElse condition body alternative =>
    if scope.holds condition then
      descend levels fun inner => renderAll registry callee? body scope inner
    else
      descend levels fun inner => renderAll registry callee? alternative scope inner
  | .each collection item body =>
    match scope.itemsAt? collection with
    | none => .error (.notIterable collection)
    | some values => do
      let rounds ← values.mapM fun value =>
        descend levels fun inner =>
          renderAll registry callee? body ([(item, value)] :: scope) inner
      return String.join rounds
  | .call name given =>
    match registry.get? name with
    | none => .ok ""
    | some template =>
      match callee? with
      | none => .error (.callTooDeep name)
      | some callee => do
        let bindings ← bindAll registry callee? given scope levels
        callee template (Bindings.ofList bindings :: scope) levels

/-- The text of an attribute of a tag, where a bare word stands for itself. -/
def Attribute.render (registry : Registry) (callee? : Option Callee) (given : Attribute)
    (scope : Scope) (levels : Nat) : Except Halt String :=
  match given with
  | .bare name value => .ok (name ++ "=\"" ++ value ++ "\"")
  | .quoted name body => do
    let value ← descend levels fun inner => renderAll registry callee? body scope inner
    return name ++ "=\"" ++ value ++ "\""
  | .captured name body => do
    let value ← descend levels fun inner => renderAll registry callee? body scope inner
    return name ++ "=\"" ++ value ++ "\""

def renderAll (registry : Registry) (callee? : Option Callee) (statements : List Statement)
    (scope : Scope) (levels : Nat) : Except Halt String :=
  match statements with
  | [] => .ok ""
  | statement :: rest => do
    let text ← statement.render registry callee? scope levels
    let more ← renderAll registry callee? rest scope levels
    return text ++ more

/-- The binding that an attribute of a call makes, where a bare word is a path and stands for null
if it leads nowhere. -/
def Attribute.bind (registry : Registry) (callee? : Option Callee) (given : Attribute)
    (scope : Scope) (levels : Nat) : Except Halt (String × Value) :=
  match given with
  | .bare name path => .ok (name, (scope.lookup? path).getD .null)
  | .quoted name body => do
    let value ← descend levels fun inner => renderAll registry callee? body scope inner
    return (name, .string value)
  | .captured name body => do
    let value ← descend levels fun inner => renderAll registry callee? body scope inner
    return (name, .string value)

/-- The bindings that the attributes of a call make, in order. -/
def bindAll (registry : Registry) (callee? : Option Callee) (arguments : List Attribute)
    (scope : Scope) (levels : Nat) : Except Halt (List (String × Value)) :=
  match arguments with
  | [] => .ok []
  | given :: rest => do
    let binding ← given.bind registry callee? scope levels
    let more ← bindAll registry callee? rest scope levels
    return binding :: more

end

/-- Render a template with a number of calls and a number of levels left. -/
def Template.renderIn (registry : Registry) (calls : Nat) (template : Template) (scope : Scope)
    (levels : Nat) : Except Halt String :=
  let callee? : Option Callee :=
    match calls with
    | 0 => none
    | fewer + 1 => some fun called => Template.renderIn registry fewer called
  descend levels fun inner => renderAll registry callee? template scope inner

/-- Render a template with a context and the templates it may call. -/
def Template.render (template : Template) (context : Context) (registry : Registry)
    (limits : RenderLimits := {}) : Except RenderError String :=
  (template.renderIn registry limits.calls [context.bindings] (limits.nesting + 1)).mapError
    (Halt.toError limits)

/-- Why a source yields no text. -/
inductive TemplateError where
  | compile (error : CompileError)
  | render (error : RenderError)
  deriving DecidableEq, Repr

def TemplateError.text : TemplateError → String
  | compile error => error.text
  | render error => error.text

/-- Compile a source and render the template. -/
def renderSource (source : String) (context : Context) (registry : Registry) :
    Except TemplateError String := do
  let template ← (Template.compile source).mapError TemplateError.compile
  (Template.render template context registry).mapError TemplateError.render

end Stencil
