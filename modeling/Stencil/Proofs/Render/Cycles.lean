import Mathlib.Data.Set.Defs
import Stencil.Render.Basic

/-!
# Cycles of calls

Some calls of a template are made whatever it is rendered with.  Templates that call each other
in this way without an end cannot be rendered: every call leaves one call less, and none of them
comes to an end before the calls are used up.
-/

namespace Stencil

mutual

/-- The names of the templates that a statement calls whatever it is rendered with.  Values decide
about what is in a conditional or a loop, and the registry about what is given to a call. -/
def Statement.certainCalls : Statement → List String
  | .literal _ => []
  | .tag _ attributes content => certainCallsAll attributes ++ certainCallsAll content
  | .emptyTag _ attributes => certainCallsAll attributes
  | .interpolation _ => []
  | .assignment given => given.certainCalls
  | .quoted body => certainCallsAll body
  | .ifThen _ _ => []
  | .ifThenElse _ _ _ => []
  | .each _ _ _ => []
  | .call name _ => [name]

/-- The names of the templates that an attribute of a tag calls whatever it is rendered with. -/
def Attribute.certainCalls : Attribute → List String
  | .bare _ _ => []
  | .quoted _ body => certainCallsAll body
  | .captured _ body => certainCallsAll body

/-- The names of the templates that a list of statements calls whatever it is rendered with. -/
def certainCallsAll : List Statement → List String
  | [] => []
  | statement :: rest => statement.certainCalls ++ certainCallsAll rest

end

/-- The template calls one of the names, whatever it is rendered with. -/
def Template.CertainlyCalls (template : Template) (names : Set String) : Prop :=
  ∃ name ∈ names, name ∈ certainCallsAll template

/-- Each of the names is that of a template that calls one of the names again. -/
def Registry.CertainCycle (registry : Registry) (names : Set String) : Prop :=
  ∀ name ∈ names, ∃ template, registry.get? name = some template ∧ template.CertainlyCalls names

/-- A rendering does not come to an end with a result. -/
def Fails {α : Type} (outcome : Except Halt α) : Prop :=
  ∃ halt, outcome = .error halt

namespace Fails

variable {α β : Type}

theorem bind {outcome : Except Halt α} (first : Fails outcome) (next : α → Except Halt β) :
    Fails (outcome >>= next) := by
  rcases first with ⟨halt, rfl⟩
  exact ⟨halt, rfl⟩

theorem after (outcome : Except Halt α) {next : α → Except Halt β}
    (second : ∀ value, Fails (next value)) : Fails (outcome >>= next) := by
  cases outcome with
  | error halt => exact ⟨halt, rfl⟩
  | ok value => exact second value

theorem descend {run : Nat → Except Halt α} (further : ∀ inner, Fails (run inner))
    (levels : Nat) : Fails (Stencil.descend levels run) := by
  cases levels with
  | zero => exact ⟨.nestingTooDeep, rfl⟩
  | succ inner => exact further inner

end Fails

/-- Each of the names is that of a template whose call fails. -/
def CallsFail (registry : Registry) (callee? : Option Callee) (names : Set String) : Prop :=
  ∀ name ∈ names, ∃ template, registry.get? name = some template ∧
    ∀ callee, callee? = some callee → ∀ scope levels, Fails (callee template scope levels)

variable {registry : Registry} {callee? : Option Callee} {names : Set String} {name : String}

mutual

theorem Statement.render_fails (fails : CallsFail registry callee? names) (isOne : name ∈ names)
    (statement : Statement) (called : name ∈ statement.certainCalls) (scope : Scope)
    (levels : Nat) : Fails (statement.render registry callee? scope levels) := by
  cases statement with
  | literal | interpolation | ifThen | ifThenElse | each => cases called
  | assignment given => exact given.render_fails fails isOne called scope levels
  | quoted body =>
      apply Fails.descend
      exact renderAll_fails fails isOne body called scope
  | tag tagName attributes content =>
      rcases List.mem_append.mp called with inAttributes | inContent
      · apply Fails.bind
        apply Fails.descend
        exact renderAll_fails fails isOne attributes inAttributes scope
      · apply Fails.after
        intro opening
        apply Fails.bind
        apply Fails.descend
        exact renderAll_fails fails isOne content inContent scope
  | emptyTag tagName attributes =>
      apply Fails.bind
      apply Fails.descend
      exact renderAll_fails fails isOne attributes called scope
  | call other given =>
      rcases List.mem_singleton.mp called with rfl
      rcases fails name isOne with ⟨template, registered, further⟩
      simp only [Statement.render, registered]
      cases callee? with
      | none => exact ⟨.callTooDeep name, rfl⟩
      | some callee =>
          -- If what is given can be rendered at all, then the called template cannot.
          apply Fails.after
          intro bindings
          exact further callee rfl _ levels

theorem Attribute.render_fails (fails : CallsFail registry callee? names) (isOne : name ∈ names)
    (given : Attribute) (called : name ∈ given.certainCalls) (scope : Scope) (levels : Nat) :
    Fails (given.render registry callee? scope levels) := by
  cases given with
  | bare => cases called
  | quoted _ body | captured _ body =>
      apply Fails.bind
      apply Fails.descend
      exact renderAll_fails fails isOne body called scope

theorem renderAll_fails (fails : CallsFail registry callee? names) (isOne : name ∈ names)
    (statements : List Statement) (called : name ∈ certainCallsAll statements) (scope : Scope)
    (levels : Nat) : Fails (renderAll registry callee? statements scope levels) := by
  cases statements with
  | nil => cases called
  | cons statement rest =>
      rcases List.mem_append.mp called with first | later
      · exact (statement.render_fails fails isOne first scope levels).bind _
      · apply Fails.after
        intro text
        exact (renderAll_fails fails isOne rest later scope levels).bind _

end

theorem descend_fails (fails : CallsFail registry callee? names) {template : Template}
    (enters : template.CertainlyCalls names) (scope : Scope) (levels : Nat) :
    Fails (descend levels fun inner => renderAll registry callee? template scope inner) := by
  rcases enters with ⟨name, isOne, called⟩
  apply Fails.descend
  exact renderAll_fails fails isOne template called scope

namespace Template

/-- A call in the cycle is a rendering with one call less that calls one of the names again.  By
induction on the number of calls that are left. -/
theorem renderIn_fails (cycle : registry.CertainCycle names) (calls : Nat) {template : Template}
    (enters : template.CertainlyCalls names) (scope : Scope) (levels : Nat) :
    Fails (template.renderIn registry calls scope levels) := by
  induction calls generalizing template scope levels with
  | zero =>
      have noCalls : CallsFail registry none names := by
        intro name isOne
        rcases cycle name isOne with ⟨called, registered, _⟩
        refine ⟨called, registered, ?_⟩
        intro callee impossible
        cases impossible
      exact descend_fails noCalls enters scope levels
  | succ calls ih =>
      have fails : CallsFail registry (some fun called => renderIn registry calls called)
          names := by
        intro name isOne
        rcases cycle name isOne with ⟨called, registered, again⟩
        refine ⟨called, registered, ?_⟩
        intro callee same
        cases same
        exact ih again
      exact descend_fails fails enters scope levels

/-- Templates that call each other without a condition and without an end cannot be rendered, nor
can a template that calls one of them, whatever the context and the limits are. -/
theorem exists_render_eq_error (cycle : registry.CertainCycle names) {template : Template}
    (enters : template.CertainlyCalls names) (context : Context) (limits : RenderLimits) :
    ∃ error, template.render context registry limits = .error error := by
  rcases renderIn_fails cycle limits.calls enters [context.bindings] (limits.nesting + 1) with
    ⟨halt, stops⟩
  rw [render, stops]
  exact ⟨halt.toError limits, rfl⟩

/-- Two templates that call each other, one in an attribute and one in the content of a tag, beside
a template that neither of them needs. -/
def mutualRegistry : Registry :=
  ((Registry.empty.insert "left"
    [.literal "x", .emptyTag "i" [.assignment (.quoted "title" [.call "right" []])]]).insert "right"
    [.tag "b" [] [.quoted [.literal "\"", .call "left" [.bare "x" "y"], .literal "\""]]]).insert
    "other" [.literal "z"]

theorem exists_render_eq_error_mutualRegistry :
    mutualRegistry.CertainCycle {name | name = "left" ∨ name = "right"} ∧
      CertainlyCalls [.call "other" [], .tag "p" [] [.call "right" []]]
        {name | name = "left" ∨ name = "right"} ∧
      ∀ limits, ∃ error,
        render [.call "other" [], .tag "p" [] [.call "right" []]] {} mutualRegistry limits =
          .error error := by
  have cycle : mutualRegistry.CertainCycle {name | name = "left" ∨ name = "right"} := by
    rintro name (rfl | rfl)
    · exact ⟨_, rfl, "right", .inr rfl, by decide⟩
    · exact ⟨_, rfl, "left", .inl rfl, by decide⟩
  have enters : CertainlyCalls [.call "other" [], .tag "p" [] [.call "right" []]]
      {name | name = "left" ∨ name = "right"} :=
    ⟨"right", .inr rfl, by decide⟩
  exact ⟨cycle, enters, exists_render_eq_error cycle enters {}⟩

end Template

end Stencil
