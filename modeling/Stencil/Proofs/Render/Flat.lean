import Mathlib.Data.List.Induction
import Stencil.Render.Basic

/-!
# Rendering with one map

Scopes put bindings in front of bindings.  Here is the same rendering with a single map from names
to values: a loop renders its body with a copy of the map in which its own name has the item, and a
call renders the called template with a copy in which the attributes have their values.  Both ways
to render have the same outcome, failures included, because a chain of bindings and the map that it
amounts to give every name the same value.
-/

namespace Stencil

/-- All the bindings in force at a place in a template, in one map. -/
abbrev Environment := Bindings Value

namespace Environment

def lookup? (environment : Environment) (path : String) : Option Value :=
  match Path.names path with
  | [] => none
  | first :: rest => (environment.get? first).bind fun value => value.follow? rest

/-- The value that a condition tests: the one under the whole text as a name, or else the one at the
end of the path. -/
def condition? (environment : Environment) (condition : String) : Option Value :=
  (environment.get? condition).or (environment.lookup? condition)

/-- Overwrite a map with some bindings, in order. -/
def extend (environment : Environment) (bindings : List (String × Value)) : Environment :=
  bindings.foldl (fun environment binding => environment.set binding.1 binding.2) environment

end Environment

/-- A way to render a called template with a map, with a number of levels left. -/
abbrev FlatCallee := Template → Environment → Nat → Except Halt String

mutual

def Statement.renderFlat (registry : Registry) (callee? : Option FlatCallee)
    (statement : Statement) (environment : Environment) (levels : Nat) : Except Halt String :=
  match statement with
  | .literal text => .ok text
  | .interpolation path => .ok (((environment.lookup? path).map Value.text).getD "")
  | .assignment given => given.renderFlat registry callee? environment levels
  | .quoted body =>
    descend levels fun inner => renderAllFlat registry callee? body environment inner
  | .tag name attributes content => do
    let opening ← descend levels fun inner =>
      renderAllFlat registry callee? attributes environment inner
    let inside ← descend levels fun inner =>
      renderAllFlat registry callee? content environment inner
    return "<" ++ name ++ opening ++ ">" ++ inside ++ "</" ++ name ++ ">"
  | .emptyTag name attributes => do
    let opening ← descend levels fun inner =>
      renderAllFlat registry callee? attributes environment inner
    return "<" ++ name ++ opening ++ "/>"
  | .ifThen condition body =>
    if (environment.condition? condition).any Value.isTruthy then
      descend levels fun inner => renderAllFlat registry callee? body environment inner
    else
      .ok ""
  | .ifThenElse condition body alternative =>
    if (environment.condition? condition).any Value.isTruthy then
      descend levels fun inner => renderAllFlat registry callee? body environment inner
    else
      descend levels fun inner => renderAllFlat registry callee? alternative environment inner
  | .each collection item body =>
    match (environment.lookup? collection).bind Value.items? with
    | none => .error (.notIterable collection)
    | some values => do
      let rounds ← values.mapM fun value =>
        descend levels fun inner =>
          renderAllFlat registry callee? body (environment.set item value) inner
      return String.join rounds
  | .call name given =>
    match registry.get? name with
    | none => .ok ""
    | some template =>
      match callee? with
      | none => .error (.callTooDeep name)
      | some callee => do
        let bindings ← bindAllFlat registry callee? given environment levels
        callee template (environment.extend bindings) levels

/-- The text of an attribute of a tag with a map. -/
def Attribute.renderFlat (registry : Registry) (callee? : Option FlatCallee) (given : Attribute)
    (environment : Environment) (levels : Nat) : Except Halt String :=
  match given with
  | .bare name value => .ok (name ++ "=\"" ++ value ++ "\"")
  | .quoted name body | .captured name body => do
    let value ← descend levels fun inner => renderAllFlat registry callee? body environment inner
    return name ++ "=\"" ++ value ++ "\""

/-- The text of a list of statements with a map. -/
def renderAllFlat (registry : Registry) (callee? : Option FlatCallee)
    (statements : List Statement) (environment : Environment) (levels : Nat) :
    Except Halt String :=
  match statements with
  | [] => .ok ""
  | statement :: rest => do
    let text ← statement.renderFlat registry callee? environment levels
    let more ← renderAllFlat registry callee? rest environment levels
    return text ++ more

/-- The binding that an attribute of a call makes with a map. -/
def Attribute.bindFlat (registry : Registry) (callee? : Option FlatCallee) (given : Attribute)
    (environment : Environment) (levels : Nat) : Except Halt (String × Value) :=
  match given with
  | .bare name path => .ok (name, (environment.lookup? path).getD .null)
  | .quoted name body | .captured name body => do
    let value ← descend levels fun inner => renderAllFlat registry callee? body environment inner
    return (name, .string value)

/-- The bindings that the attributes of a call make with a map, in order. -/
def bindAllFlat (registry : Registry) (callee? : Option FlatCallee) (arguments : List Attribute)
    (environment : Environment) (levels : Nat) : Except Halt (List (String × Value)) :=
  match arguments with
  | [] => .ok []
  | given :: rest => do
    let binding ← given.bindFlat registry callee? environment levels
    let more ← bindAllFlat registry callee? rest environment levels
    return binding :: more

end

/-- Render a template with a map, with a number of calls and a number of levels left. -/
def Template.renderFlatIn (registry : Registry) (calls : Nat) (template : Template)
    (environment : Environment) (levels : Nat) : Except Halt String :=
  let callee? : Option FlatCallee :=
    match calls with
    | 0 => none
    | fewer + 1 => some fun called => Template.renderFlatIn registry fewer called
  descend levels fun inner => renderAllFlat registry callee? template environment inner

/-- Render a template with one map, which begins as a context. -/
def Template.renderFlat (template : Template) (context : Context) (registry : Registry)
    (limits : RenderLimits := {}) : Except RenderError String :=
  (template.renderFlatIn registry limits.calls context.bindings (limits.nesting + 1)).mapError
    (Halt.toError limits)

/-- A map and a scope give every name the same value. -/
def Agree (environment : Environment) (scope : Scope) : Prop :=
  ∀ name, environment.get? name = scope.get? name

namespace Agree

variable {environment : Environment} {scope : Scope}

theorem lookup?_eq (agree : Agree environment scope) (path : String) :
    environment.lookup? path = scope.lookup? path := by
  unfold Environment.lookup? Scope.lookup?
  cases Path.names path with
  | nil => rfl
  | cons first rest => simp only [agree first]

theorem condition?_eq (agree : Agree environment scope) (condition : String) :
    environment.condition? condition = scope.condition? condition := by
  rw [Environment.condition?, Scope.condition?, agree condition, agree.lookup?_eq]

/-- The context is the only binding around a template that nothing calls. -/
theorem root (bindings : Bindings Value) : Agree bindings [bindings] := by
  intro name
  unfold Scope.get?
  cases bindings.get? name <;> rfl

/-- Overwriting a map by some bindings is putting them in front of a scope. -/
theorem cons {inner : Bindings Value} {extended : Environment} (agree : Agree environment scope)
    (overwrites : ∀ name, extended.get? name = (inner.get? name).or (environment.get? name)) :
    Agree extended (inner :: scope) := by
  intro name
  rw [overwrites, agree name, Scope.get?]
  cases inner.get? name <;> rfl

theorem set (agree : Agree environment scope) (item : String) (value : Value) :
    Agree (environment.set item value) ([(item, value)] :: scope) := by
  apply agree.cons
  intro name
  by_cases same : item = name
  · simp [same, Bindings.get?]
  · simp [same, Bindings.get?]

/-- The last value for a name counts, whether there are other bindings behind or not. -/
theorem get?_extend (environment : Environment) (bindings : List (String × Value))
    (name : String) :
    (environment.extend bindings).get? name =
      ((Bindings.ofList bindings).get? name).or (environment.get? name) := by
  induction bindings using List.reverseRecOn with
  | nil => rfl
  | append_singleton bindings binding ih =>
      simp only [Environment.extend, Bindings.ofList, List.foldl_append, List.foldl_cons,
        List.foldl_nil] at ih ⊢
      by_cases same : binding.1 = name
      · simp [same]
      · rw [Bindings.get?_set_of_ne _ _ same, Bindings.get?_set_of_ne _ _ same,
          ih]

theorem extend (agree : Agree environment scope) (bindings : List (String × Value)) :
    Agree (environment.extend bindings) (Bindings.ofList bindings :: scope) := by
  apply agree.cons
  exact get?_extend environment bindings

end Agree

/-! ## Both ways to render have the same outcome -/

/-- Two ways to render called templates have the same outcome with a map and a scope that agree. -/
def SameCallee (flat : FlatCallee) (callee : Callee) : Prop :=
  ∀ template environment scope levels, Agree environment scope →
    flat template environment levels = callee template scope levels

variable {registry : Registry} {flat? : Option FlatCallee} {callee? : Option Callee}

mutual

theorem Statement.renderFlat_eq {environment : Environment} {scope : Scope}
    (same : Option.Rel SameCallee flat? callee?) (statement : Statement)
    (agree : Agree environment scope) (levels : Nat) :
    statement.renderFlat registry flat? environment levels =
      statement.render registry callee? scope levels := by
  cases statement with
  | literal text => rfl
  | interpolation path =>
      simp only [Statement.renderFlat, Statement.render, Scope.textAt, agree.lookup?_eq]
  | assignment given => exact given.renderFlat_eq same agree levels
  | quoted body =>
      simp only [Statement.renderFlat, Statement.render, renderAllFlat_eq same body agree]
  | tag name attributes content =>
      simp only [Statement.renderFlat, Statement.render, renderAllFlat_eq same attributes agree,
        renderAllFlat_eq same content agree]
  | emptyTag name attributes =>
      simp only [Statement.renderFlat, Statement.render, renderAllFlat_eq same attributes agree]
  | ifThen condition body =>
      simp only [Statement.renderFlat, Statement.render, Scope.holds, agree.condition?_eq,
        renderAllFlat_eq same body agree]
      rfl
  | ifThenElse condition body alternative =>
      simp only [Statement.renderFlat, Statement.render, Scope.holds, agree.condition?_eq,
        renderAllFlat_eq same body agree, renderAllFlat_eq same alternative agree]
      rfl
  | each collection item body =>
      simp only [Statement.renderFlat, Statement.render, Scope.itemsAt?, agree.lookup?_eq]
      cases (scope.lookup? collection).bind Value.items? with
      | none => rfl
      | some values =>
          simp only [fun value => renderAllFlat_eq same body (agree.set item value)]
  | call name given =>
      have sameBindings := bindAllFlat_eq same given agree levels
      simp only [Statement.renderFlat, Statement.render]
      cases registry.get? name with
      | none => rfl
      | some template =>
          -- The attributes come from the caller's map, the template from its extension.
          cases same with
          | none => rfl
          | some sameCallee =>
              simp only [sameBindings, sameCallee _ _ _ _ (agree.extend _)]

theorem Attribute.renderFlat_eq {environment : Environment} {scope : Scope}
    (same : Option.Rel SameCallee flat? callee?) (given : Attribute)
    (agree : Agree environment scope) (levels : Nat) :
    given.renderFlat registry flat? environment levels =
      given.render registry callee? scope levels := by
  cases given with
  | bare name value => rfl
  | quoted name body | captured name body =>
      simp only [Attribute.renderFlat, Attribute.render, renderAllFlat_eq same body agree]

theorem renderAllFlat_eq {environment : Environment} {scope : Scope}
    (same : Option.Rel SameCallee flat? callee?) (statements : List Statement)
    (agree : Agree environment scope) (levels : Nat) :
    renderAllFlat registry flat? statements environment levels =
      renderAll registry callee? statements scope levels := by
  cases statements with
  | nil => rfl
  | cons statement rest =>
      simp only [renderAllFlat, renderAll, statement.renderFlat_eq same agree,
        renderAllFlat_eq same rest agree]

theorem Attribute.bindFlat_eq {environment : Environment} {scope : Scope}
    (same : Option.Rel SameCallee flat? callee?) (given : Attribute)
    (agree : Agree environment scope) (levels : Nat) :
    given.bindFlat registry flat? environment levels =
      given.bind registry callee? scope levels := by
  cases given with
  | bare name path => simp only [Attribute.bindFlat, Attribute.bind, agree.lookup?_eq]
  | quoted name body | captured name body =>
      simp only [Attribute.bindFlat, Attribute.bind, renderAllFlat_eq same body agree]

theorem bindAllFlat_eq {environment : Environment} {scope : Scope}
    (same : Option.Rel SameCallee flat? callee?) (arguments : List Attribute)
    (agree : Agree environment scope) (levels : Nat) :
    bindAllFlat registry flat? arguments environment levels =
      bindAll registry callee? arguments scope levels := by
  cases arguments with
  | nil => rfl
  | cons given rest =>
      simp only [bindAllFlat, bindAll, given.bindFlat_eq same agree,
        bindAllFlat_eq same rest agree]

end

/-- A called template is rendered in the same way with fewer calls left, so both ways agree by
induction on the number of calls. -/
theorem Template.renderFlatIn_eq (registry : Registry) (calls : Nat) :
    SameCallee (fun template => template.renderFlatIn registry calls)
      (fun template => template.renderIn registry calls) := by
  induction calls with
  | zero =>
      intro template environment scope levels agree
      simp only [renderFlatIn, renderIn, renderAllFlat_eq .none template agree]
  | succ calls ih =>
      intro template environment scope levels agree
      simp only [renderFlatIn, renderIn,
        renderAllFlat_eq (.some ih) template agree]

/-- Chains of bindings implement maps that are copied and overwritten: rendering has the same
outcome with both, for every template, whether it came from a source or not. -/
theorem Template.render_eq_renderFlat (template : Template) (context : Context)
    (registry : Registry) (limits : RenderLimits) :
    template.render context registry limits = template.renderFlat context registry limits := by
  have same : template.renderFlatIn registry limits.calls context.bindings (limits.nesting + 1) =
      template.renderIn registry limits.calls [context.bindings] (limits.nesting + 1) :=
    renderFlatIn_eq registry limits.calls template _ _ _ (Agree.root context.bindings)
  rw [render, renderFlat, same]

end Stencil
