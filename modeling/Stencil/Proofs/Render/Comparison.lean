import Stencil.Render.Basic

/-!
# Renderings side by side

A rendering asks for the values under some names and for the templates under others, and it stops
where its limits are reached.  So two renderings of a template that are given the same answers take
the same course.  If the first one has less left of its limits, it may stop at a limit where the
second one goes on: such a failure is excused, and nothing is compared after it.
-/

namespace Stencil

/-- The name that decides which binding a path begins at. -/
def Path.root (path : String) : String :=
  (Path.names path).headD ""

theorem Path.names_eq_root_cons (path : String) : ∃ rest, Path.names path = root path :: rest := by
  unfold root
  cases found : Path.names path with
  | nil =>
      rw [Path.names, List.map_eq_nil_iff] at found
      exact absurd found (List.splitOn_ne_nil '.' path.toList)
  | cons first rest => exact ⟨rest, rfl⟩

namespace Scope

variable {scope scope' : Scope} {path condition : String}

theorem lookup?_congr (same : scope.get? (Path.root path) = scope'.get? (Path.root path)) :
    scope.lookup? path = scope'.lookup? path := by
  rcases Path.names_eq_root_cons path with ⟨rest, names⟩
  simp only [lookup?, names, same]

theorem textAt_congr (same : scope.get? (Path.root path) = scope'.get? (Path.root path)) :
    scope.textAt path = scope'.textAt path := by
  rw [textAt, textAt, lookup?_congr same]

theorem itemsAt?_congr (same : scope.get? (Path.root path) = scope'.get? (Path.root path)) :
    scope.itemsAt? path = scope'.itemsAt? path := by
  rw [itemsAt?, itemsAt?, lookup?_congr same]

/-- A condition is looked for as a name and as a path. -/
theorem holds_congr (same : scope.get? condition = scope'.get? condition)
    (sameRoot : scope.get? (Path.root condition) = scope'.get? (Path.root condition)) :
    scope.holds condition = scope'.holds condition := by
  rw [holds, holds, condition?, condition?, same, lookup?_congr sameRoot]

end Scope

/-- Something that a rendering may ask for. -/
inductive Use where
  /-- The value under a name. -/
  | value (name : String)
  /-- The template under a name. -/
  | template (name : String)
  deriving DecidableEq, Repr

mutual

def Statement.uses : Statement → List Use
  | .literal _ => []
  | .tag _ attributes content => usesAll attributes ++ usesAll content
  | .emptyTag _ attributes => usesAll attributes
  | .interpolation path => [.value (Path.root path)]
  | .assignment given => given.uses
  | .quoted body => usesAll body
  | .ifThen condition body =>
    .value condition :: .value (Path.root condition) :: usesAll body
  | .ifThenElse condition body alternative =>
    .value condition :: .value (Path.root condition) :: (usesAll body ++ usesAll alternative)
  | .each collection _ body => .value (Path.root collection) :: usesAll body
  | .call name given => .template name :: usesArguments given

/-- What rendering an attribute of a tag may ask for.  A bare word there stands for itself. -/
def Attribute.uses : Attribute → List Use
  | .bare _ _ => []
  | .quoted _ body => usesAll body
  | .captured _ body => usesAll body

/-- What rendering a list of statements may ask for. -/
def usesAll : List Statement → List Use
  | [] => []
  | statement :: rest => statement.uses ++ usesAll rest

/-- What an attribute of a call may ask for.  A bare word there is a path. -/
def Attribute.usesInCall : Attribute → List Use
  | .bare _ path => [.value (Path.root path)]
  | .quoted _ body => usesAll body
  | .captured _ body => usesAll body

/-- What the attributes of a call may ask for. -/
def usesArguments : List Attribute → List Use
  | [] => []
  | given :: rest => given.usesInCall ++ usesArguments rest

end

/-- What two renderings with two registries have in common.  What is shared includes all that the
shared templates use. -/
structure Comparison (registry registry' : Registry) where
  /-- What has the same answer in both renderings. -/
  shared : Use → Prop
  /-- The failures of the first rendering that end the comparison. -/
  excused : Halt → Prop
  get?_eq : ∀ {name : String}, shared (.template name) → registry.get? name = registry'.get? name
  within : ∀ {name : String} {template : Template}, shared (.template name) →
    registry.get? name = some template → ∀ use ∈ usesAll template, shared use

namespace Comparison

variable {registry registry' : Registry} {α β : Type}

/-- The second outcome is the first one, unless the first one is an excused failure. -/
inductive Outcome (compare : Comparison registry registry') :
    Except Halt α → Except Halt α → Prop where
  | same (outcome : Except Halt α) : Outcome compare outcome outcome
  | excused {halt : Halt} {outcome : Except Halt α} : compare.excused halt →
      Outcome compare (.error halt) outcome

/-- As many levels are left in both renderings, or fewer in the first one if that is excused. -/
inductive Levels (compare : Comparison registry registry') : Nat → Nat → Prop where
  | same (levels : Nat) : Levels compare levels levels
  | fewer {levels levels' : Nat} : compare.excused .nestingTooDeep → levels ≤ levels' →
      Levels compare levels levels'

/-- Both scopes have the same values under the names that are shared. -/
def Scopes (compare : Comparison registry registry') (scope scope' : Scope) : Prop :=
  ∀ name, compare.shared (.value name) → scope.get? name = scope'.get? name

/-- Both callees take the same course with a template that uses only what is shared. -/
def Follows (compare : Comparison registry registry') (callee callee' : Callee) : Prop :=
  ∀ template scope scope' levels levels', (∀ use ∈ usesAll template, compare.shared use) →
    compare.Scopes scope scope' → compare.Levels levels levels' →
    compare.Outcome (callee template scope levels) (callee' template scope' levels')

/-- As many calls are left in both renderings, or fewer in the first one if that is excused. -/
inductive Callees (compare : Comparison registry registry') :
    Option Callee → Option Callee → Prop where
  | none : Callees compare none none
  | fewer {callee?' : Option Callee} : (∀ name, compare.excused (.callTooDeep name)) →
      Callees compare .none callee?'
  | some {callee callee' : Callee} : compare.Follows callee callee' →
      Callees compare (some callee) (some callee')

variable {compare : Comparison registry registry'}

namespace Outcome

variable {outcome outcome' : Except Halt α}

/-- Where nothing is excused, the outcomes are the same. -/
theorem eq (compared : compare.Outcome outcome outcome')
    (noneExcused : ∀ halt, ¬ compare.excused halt) : outcome = outcome' := by
  cases compared with
  | same => rfl
  | excused isExcused => exact absurd isExcused (noneExcused _)

theorem bind {next next' : α → Except Halt β} (first : compare.Outcome outcome outcome')
    (second : ∀ value, compare.Outcome (next value) (next' value)) :
    compare.Outcome (outcome >>= next) (outcome' >>= next') := by
  cases first with
  | excused isExcused => exact .excused isExcused
  | same =>
      cases outcome with
      | error halt => exact .same _
      | ok value => exact second value

/-- For a step whose result is only wrapped. -/
theorem map (first : compare.Outcome outcome outcome') (wrap : α → β) :
    compare.Outcome (outcome >>= fun value => Pure.pure (wrap value))
      (outcome' >>= fun value => Pure.pure (wrap value)) := by
  apply first.bind
  intro value
  exact .same _

theorem mapM {step step' : α → Except Halt β}
    (each : ∀ value, compare.Outcome (step value) (step' value)) (values : List α) :
    compare.Outcome (values.mapM step) (values.mapM step') := by
  induction values with
  | nil => exact .same _
  | cons value rest ih =>
      rw [List.mapM_cons, List.mapM_cons]
      apply (each value).bind
      intro result
      exact ih.map _

theorem descend {levels levels' : Nat} {run run' : Nat → Except Halt α}
    (left : compare.Levels levels levels')
    (further : ∀ inner inner', compare.Levels inner inner' →
      compare.Outcome (run inner) (run' inner')) :
    compare.Outcome (Stencil.descend levels run) (Stencil.descend levels' run') := by
  cases left with
  | same =>
      cases levels with
      | zero => exact .same _
      | succ inner => exact further inner inner (.same inner)
  | fewer isExcused fewer =>
      cases levels with
      | zero => exact .excused isExcused
      | succ inner =>
          cases levels' with
          | zero => exact absurd fewer (Nat.not_succ_le_zero inner)
          | succ inner' =>
              exact further inner inner' (.fewer isExcused (Nat.le_of_succ_le_succ fewer))

end Outcome

/-- Bindings that are put in front of both scopes may hide what is different. -/
theorem Scopes.cons {scope scope' : Scope} (scopes : compare.Scopes scope scope')
    (inner : Bindings Value) : compare.Scopes (inner :: scope) (inner :: scope') := by
  intro name isShared
  simp only [Scope.get?, scopes name isShared]

/-! ## Templates that use only what is shared -/

variable {callee? callee?' : Option Callee}

mutual

theorem statement_outcome {scope scope' : Scope} {levels levels' : Nat}
    (callees : compare.Callees callee? callee?') (statement : Statement)
    (within : ∀ use ∈ statement.uses, compare.shared use) (scopes : compare.Scopes scope scope')
    (left : compare.Levels levels levels') :
    compare.Outcome (statement.render registry callee? scope levels)
      (statement.render registry' callee?' scope' levels') := by
  cases statement with
  | literal text => exact .same _
  | interpolation path =>
      simp only [Statement.uses, List.forall_mem_singleton] at within
      simp only [Statement.render, Scope.textAt_congr (scopes _ within)]
      exact .same _
  | assignment given => exact attribute_outcome callees given within scopes left
  | quoted body =>
      apply Outcome.descend left
      intro inner inner'
      exact all_outcome callees body within scopes
  | tag name attributes content =>
      simp only [Statement.uses, List.forall_mem_append] at within
      have opens : compare.Outcome
          (descend levels fun inner => renderAll registry callee? attributes scope inner)
          (descend levels' fun inner => renderAll registry' callee?' attributes scope' inner) := by
        apply Outcome.descend left
        intro inner inner'
        exact all_outcome callees attributes within.1 scopes
      have holds : compare.Outcome
          (descend levels fun inner => renderAll registry callee? content scope inner)
          (descend levels' fun inner => renderAll registry' callee?' content scope' inner) := by
        apply Outcome.descend left
        intro inner inner'
        exact all_outcome callees content within.2 scopes
      apply opens.bind
      intro opening
      exact holds.map _
  | emptyTag name attributes =>
      apply Outcome.map
      apply Outcome.descend left
      intro inner inner'
      exact all_outcome callees attributes within scopes
  | ifThen condition body =>
      simp only [Statement.uses, List.forall_mem_cons] at within
      simp only [Statement.render, Scope.holds_congr (scopes _ within.1) (scopes _ within.2.1)]
      split
      · apply Outcome.descend left
        intro inner inner'
        exact all_outcome callees body within.2.2 scopes
      · exact .same _
  | ifThenElse condition body alternative =>
      simp only [Statement.uses, List.forall_mem_cons, List.forall_mem_append] at within
      simp only [Statement.render, Scope.holds_congr (scopes _ within.1) (scopes _ within.2.1)]
      split
      · apply Outcome.descend left
        intro inner inner'
        exact all_outcome callees body within.2.2.1 scopes
      · apply Outcome.descend left
        intro inner inner'
        exact all_outcome callees alternative within.2.2.2 scopes
  | each collection item body =>
      simp only [Statement.uses, List.forall_mem_cons] at within
      simp only [Statement.render, Scope.itemsAt?_congr (scopes _ within.1)]
      cases scope'.itemsAt? collection with
      | none => exact .same _
      | some values =>
          apply Outcome.map
          apply Outcome.mapM
          intro value
          apply Outcome.descend left
          intro inner inner'
          exact all_outcome callees body within.2 (scopes.cons _)
  | call name given =>
      simp only [Statement.uses, List.forall_mem_cons] at within
      have bound := arguments_outcome callees given within.2 scopes left
      simp only [Statement.render, ← compare.get?_eq within.1]
      cases registered : registry.get? name with
      | none => exact .same _
      | some template =>
          cases callees with
          | none => exact .same _
          | fewer isExcused => exact .excused (isExcused name)
          | some follows =>
              apply bound.bind
              intro bindings
              -- The bindings are the same, so they may be put in front of both scopes.
              exact follows template _ _ levels levels' (compare.within within.1 registered)
                (scopes.cons _) left

theorem attribute_outcome {scope scope' : Scope} {levels levels' : Nat}
    (callees : compare.Callees callee? callee?') (given : Attribute)
    (within : ∀ use ∈ given.uses, compare.shared use) (scopes : compare.Scopes scope scope')
    (left : compare.Levels levels levels') :
    compare.Outcome (given.render registry callee? scope levels)
      (given.render registry' callee?' scope' levels') := by
  cases given with
  | bare name value => exact .same _
  | quoted name body | captured name body =>
      apply Outcome.map
      apply Outcome.descend left
      intro inner inner'
      exact all_outcome callees body within scopes

theorem all_outcome {scope scope' : Scope} {levels levels' : Nat}
    (callees : compare.Callees callee? callee?') (statements : List Statement)
    (within : ∀ use ∈ usesAll statements, compare.shared use)
    (scopes : compare.Scopes scope scope') (left : compare.Levels levels levels') :
    compare.Outcome (renderAll registry callee? statements scope levels)
      (renderAll registry' callee?' statements scope' levels') := by
  cases statements with
  | nil => exact .same _
  | cons statement rest =>
      simp only [usesAll, List.forall_mem_append] at within
      apply (statement_outcome callees statement within.1 scopes left).bind
      intro text
      exact (all_outcome callees rest within.2 scopes left).map _

theorem binding_outcome {scope scope' : Scope} {levels levels' : Nat}
    (callees : compare.Callees callee? callee?') (given : Attribute)
    (within : ∀ use ∈ given.usesInCall, compare.shared use)
    (scopes : compare.Scopes scope scope') (left : compare.Levels levels levels') :
    compare.Outcome (given.bind registry callee? scope levels)
      (given.bind registry' callee?' scope' levels') := by
  cases given with
  | bare name path =>
      simp only [Attribute.usesInCall, List.forall_mem_singleton] at within
      simp only [Attribute.bind, Scope.lookup?_congr (scopes _ within)]
      exact .same _
  | quoted name body | captured name body =>
      apply Outcome.map
      apply Outcome.descend left
      intro inner inner'
      exact all_outcome callees body within scopes

theorem arguments_outcome {scope scope' : Scope} {levels levels' : Nat}
    (callees : compare.Callees callee? callee?') (arguments : List Attribute)
    (within : ∀ use ∈ usesArguments arguments, compare.shared use)
    (scopes : compare.Scopes scope scope') (left : compare.Levels levels levels') :
    compare.Outcome (bindAll registry callee? arguments scope levels)
      (bindAll registry' callee?' arguments scope' levels') := by
  cases arguments with
  | nil => exact .same _
  | cons given rest =>
      simp only [usesArguments, List.forall_mem_append] at within
      apply (binding_outcome callees given within.1 scopes left).bind
      intro binding
      exact (arguments_outcome callees rest within.2 scopes left).map _

end

theorem descend_outcome (callees : compare.Callees callee? callee?') :
    compare.Follows
      (fun template scope levels =>
        descend levels fun inner => renderAll registry callee? template scope inner)
      (fun template scope levels =>
        descend levels fun inner => renderAll registry' callee?' template scope inner) := by
  intro template scope scope' levels levels' within scopes left
  apply Outcome.descend left
  intro inner inner'
  exact all_outcome callees template within scopes

/-- What both renderings call is rendered with one call less, so they take the same course by
induction on the number of calls that are left in the first one. -/
theorem renderIn_follows (compare : Comparison registry registry') {calls calls' : Nat}
    (left : calls = calls' ∨ (∀ name, compare.excused (.callTooDeep name)) ∧ calls ≤ calls') :
    compare.Follows (fun template => template.renderIn registry calls)
      (fun template => template.renderIn registry' calls') := by
  induction calls generalizing calls' with
  | zero =>
      rcases left with rfl | ⟨isExcused, -⟩
      · exact descend_outcome .none
      · cases calls' with
        | zero | succ => exact descend_outcome (.fewer isExcused)
  | succ calls ih =>
      cases calls' with
      | zero => omega
      | succ calls' =>
          apply descend_outcome
          apply Callees.some
          apply ih
          rcases left with same | ⟨isExcused, fewer⟩
          · exact .inl (Nat.succ.inj same)
          · exact .inr ⟨isExcused, Nat.le_of_succ_le_succ fewer⟩

/-- What is rendered depends only on the values and the templates that are used. -/
theorem render_eq (compare : Comparison registry registry')
    (noneExcused : ∀ halt, ¬ compare.excused halt) {template : Template}
    (within : ∀ use ∈ usesAll template, compare.shared use) {context context' : Context}
    (same : ∀ name, compare.shared (.value name) → context.get? name = context'.get? name)
    (limits : RenderLimits) :
    template.render context registry limits = template.render context' registry' limits := by
  have scopes : compare.Scopes [context.bindings] [context'.bindings] := by
    intro name isShared
    have found : context.bindings.get? name = context'.bindings.get? name := same name isShared
    simp only [Scope.get?, found]
  have outcome : compare.Outcome
      (template.renderIn registry limits.calls [context.bindings] (limits.nesting + 1))
      (template.renderIn registry' limits.calls [context'.bindings] (limits.nesting + 1)) :=
    compare.renderIn_follows (.inl rfl) template _ _ _ _ within scopes (.same _)
  rw [Template.render, Template.render, outcome.eq noneExcused]

end Comparison

end Stencil
