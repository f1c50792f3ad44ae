import Stencil.Proofs.Render.Comparison

/-!
# Chains of calls

The limit on calls bounds how many calls lie inside each other, where a call lies inside another one
if it stands in the template that the other one calls.  What a call is given does not count: it is
rendered beside the called template and not inside it.  So the calls that lie inside each other are
a chain of names that can be read off the templates, and a rendering stays within a limit that no
such chain exceeds.
-/

namespace Stencil

/-- The template calls the first of the names, and each of the names is that of a registered
template that calls the next one.  Every call counts that stands somewhere in a template, also in
what another call is given. -/
inductive Registry.CallChain (registry : Registry) : Template → List String → Prop where
  | nil {template : Template} : CallChain registry template []
  | cons {template called : Template} {name : String} {rest : List String} :
      .template name ∈ usesAll template → registry.get? name = some called →
      CallChain registry called rest → CallChain registry template (name :: rest)

/-- If names have ranks and every registered template only calls names of a lower rank than its own,
then a chain is no longer than the ranks of the names that it may begin with allow. -/
theorem Registry.CallChain.length_le {registry : Registry} {template : Template}
    {names : List String} (chain : registry.CallChain template names) (rank : String → Nat)
    {bound : Nat} (below : ∀ name, .template name ∈ usesAll template → rank name < bound)
    (lower : ∀ name called, registry.get? name = some called →
      ∀ next, .template next ∈ usesAll called → rank next < rank name) :
    names.length ≤ bound := by
  induction chain generalizing bound with
  | nil => exact Nat.zero_le bound
  | cons isUsed registered _ ih =>
      have shorter := ih (lower _ _ registered)
      exact Nat.succ_le_of_lt (Nat.lt_of_le_of_lt shorter (below _ isUsed))

/-- A rendering does not stop because too many calls lie inside each other. -/
def WithinCalls {α : Type} (outcome : Except Halt α) : Prop :=
  ∀ name, outcome ≠ .error (.callTooDeep name)

namespace WithinCalls

variable {α β : Type}

theorem ok (value : α) : WithinCalls (.ok value) := by
  intro name impossible
  cases impossible

theorem bind {outcome : Except Halt α} {next : α → Except Halt β} (first : WithinCalls outcome)
    (second : ∀ value, WithinCalls (next value)) : WithinCalls (outcome >>= next) := by
  cases outcome with
  | ok value => exact second value
  | error halt =>
      intro name stops
      cases stops
      exact first name rfl

/-- For a step whose result is only wrapped. -/
theorem map {outcome : Except Halt α} (first : WithinCalls outcome) (wrap : α → β) :
    WithinCalls (outcome >>= fun value => pure (wrap value)) :=
  first.bind fun value => ok (wrap value)

theorem mapM {step : α → Except Halt β} (each : ∀ value, WithinCalls (step value))
    (values : List α) : WithinCalls (values.mapM step) := by
  induction values with
  | nil => exact ok []
  | cons value rest ih =>
      rw [List.mapM_cons]
      apply (each value).bind
      intro result
      exact ih.map _

/-- Running out of levels is another failure. -/
theorem descend {run : Nat → Except Halt α} (further : ∀ inner, WithinCalls (run inner))
    (levels : Nat) : WithinCalls (Stencil.descend levels run) := by
  cases levels with
  | zero =>
      intro name impossible
      cases impossible
  | succ inner => exact further inner

end WithinCalls

/-! ## Templates whose calls are possible -/

/-- A template that is asked for can be called, and its rendering stays within the limit. -/
def Use.IsCallable (registry : Registry) (callee? : Option Callee) : Use → Prop
  | .value _ => True
  | .template name => ∀ template, registry.get? name = some template →
      ∃ callee, callee? = some callee ∧ ∀ scope levels, WithinCalls (callee template scope levels)

variable {registry : Registry} {callee? : Option Callee}

mutual

theorem Statement.render_withinCalls (statement : Statement)
    (callable : ∀ use ∈ statement.uses, use.IsCallable registry callee?) (scope : Scope)
    (levels : Nat) : WithinCalls (statement.render registry callee? scope levels) := by
  cases statement with
  | literal | interpolation => exact .ok _
  | assignment given => exact given.render_withinCalls callable scope levels
  | quoted body =>
      apply WithinCalls.descend
      exact renderAll_withinCalls body callable scope
  | tag name attributes content =>
      simp only [Statement.uses, List.forall_mem_append] at callable
      apply (WithinCalls.descend (renderAll_withinCalls attributes callable.1 scope) levels).bind
      intro opening
      exact (WithinCalls.descend (renderAll_withinCalls content callable.2 scope) levels).map _
  | emptyTag name attributes =>
      apply WithinCalls.map
      apply WithinCalls.descend
      exact renderAll_withinCalls attributes callable scope
  | ifThen condition body =>
      simp only [Statement.uses, List.forall_mem_cons] at callable
      unfold Statement.render
      split
      · apply WithinCalls.descend
        exact renderAll_withinCalls body callable.2.2 scope
      · exact .ok _
  | ifThenElse condition body alternative =>
      simp only [Statement.uses, List.forall_mem_cons, List.forall_mem_append] at callable
      unfold Statement.render
      split
      · apply WithinCalls.descend
        exact renderAll_withinCalls body callable.2.2.1 scope
      · apply WithinCalls.descend
        exact renderAll_withinCalls alternative callable.2.2.2 scope
  | each collection item body =>
      simp only [Statement.uses, List.forall_mem_cons] at callable
      unfold Statement.render
      split
      · intro name impossible
        cases impossible
      · apply WithinCalls.map
        apply WithinCalls.mapM
        intro value
        apply WithinCalls.descend
        exact renderAll_withinCalls body callable.2 _
  | call name given =>
      simp only [Statement.uses, List.forall_mem_cons] at callable
      -- What is given has as many calls left as the call itself, however deep calls lie in it.
      have bound : WithinCalls (bindAll registry callee? given scope levels) :=
        bindAll_withinCalls given callable.2 scope levels
      unfold Statement.render
      split
      next => exact .ok _
      next template registered =>
        rcases callable.1 template registered with ⟨callee, rfl, within⟩
        apply bound.bind
        intro bindings
        exact within _ levels

theorem Attribute.render_withinCalls (given : Attribute)
    (callable : ∀ use ∈ given.uses, use.IsCallable registry callee?) (scope : Scope)
    (levels : Nat) : WithinCalls (given.render registry callee? scope levels) := by
  cases given with
  | bare name value => exact .ok _
  | quoted name body | captured name body =>
      apply WithinCalls.map
      apply WithinCalls.descend
      exact renderAll_withinCalls body callable scope

theorem renderAll_withinCalls (statements : List Statement)
    (callable : ∀ use ∈ usesAll statements, use.IsCallable registry callee?) (scope : Scope)
    (levels : Nat) : WithinCalls (renderAll registry callee? statements scope levels) := by
  cases statements with
  | nil => exact .ok _
  | cons statement rest =>
      simp only [usesAll, List.forall_mem_append] at callable
      apply (statement.render_withinCalls callable.1 scope levels).bind
      intro text
      exact (renderAll_withinCalls rest callable.2 scope levels).map _

theorem Attribute.bind_withinCalls (given : Attribute)
    (callable : ∀ use ∈ given.usesInCall, use.IsCallable registry callee?) (scope : Scope)
    (levels : Nat) : WithinCalls (given.bind registry callee? scope levels) := by
  cases given with
  | bare name path => exact .ok _
  | quoted name body | captured name body =>
      apply WithinCalls.map
      apply WithinCalls.descend
      exact renderAll_withinCalls body callable scope

theorem bindAll_withinCalls (arguments : List Attribute)
    (callable : ∀ use ∈ usesArguments arguments, use.IsCallable registry callee?) (scope : Scope)
    (levels : Nat) : WithinCalls (bindAll registry callee? arguments scope levels) := by
  cases arguments with
  | nil => exact .ok _
  | cons given rest =>
      simp only [usesArguments, List.forall_mem_append] at callable
      apply (given.bind_withinCalls callable.1 scope levels).bind
      intro binding
      exact (bindAll_withinCalls rest callable.2 scope levels).map _

end

namespace Template

/-- Behind a call with one call less left, the chains are shorter by the name of what it calls.  By
induction on the number of calls that are left. -/
theorem renderIn_withinCalls (calls : Nat) {template : Template}
    (short : ∀ names, registry.CallChain template names → names.length ≤ calls) (scope : Scope)
    (levels : Nat) : WithinCalls (template.renderIn registry calls scope levels) := by
  induction calls generalizing template scope levels with
  | zero =>
      apply WithinCalls.descend
      apply renderAll_withinCalls
      intro use isUsed
      cases use with
      | value => trivial
      | template name =>
          intro called registered
          have tooLong := short [name] (.cons isUsed registered .nil)
          exact absurd tooLong (Nat.not_succ_le_zero 0)
  | succ calls ih =>
      apply WithinCalls.descend
      apply renderAll_withinCalls
      intro use isUsed
      cases use with
      | value => trivial
      | template name =>
          intro called registered
          refine ⟨_, rfl, ?_⟩
          apply ih
          intro rest chain
          exact Nat.le_of_succ_le_succ (short (name :: rest) (.cons isUsed registered chain))

/-- If no chain of calls is longer than the limit on calls, then no rendering reaches it.  Neither
the number of calls matters, nor how often a loop repeats them, nor how deep calls lie inside what
other calls are given. -/
theorem render_ne_callTooDeep {template : Template} {limits : RenderLimits}
    (short : ∀ names, registry.CallChain template names → names.length ≤ limits.calls)
    (context : Context) (name : String) (limit : Nat) :
    template.render context registry limits ≠ .error (.callTooDeep name limit) := by
  have within := renderIn_withinCalls limits.calls short [context.bindings] (limits.nesting + 1)
  unfold render
  revert within
  generalize template.renderIn registry limits.calls [context.bindings] (limits.nesting + 1) =
    outcome
  intro within stops
  cases outcome with
  | ok text => cases stops
  | error halt =>
      cases halt with
      | callTooDeep other => exact within other rfl
      | notIterable | nestingTooDeep => cases stops

/-- A loop around calls of a frame that lie in what other calls of it enclose. -/
def framesTemplate : Template :=
  [.each "xs" "x"
    [.call "frame" [.captured "children"
      [.call "frame" [.captured "children"
        [.call "frame" [.captured "children" [.call "mark" [], .interpolation "x"]]]],
        .call "mark" []]]]]

def framesRegistry : Registry :=
  (Registry.empty.insert "frame" [.call "mark" [], .tag "b" [] [.interpolation "children"]]).insert
    "mark" [.literal "*"]

def framesContext : Context :=
  Context.empty.set "xs" (.array [.string "1", .string "2"])

/-- Four calls lie inside each other in the source, but only two of them are ever under way. -/
theorem render_ne_callTooDeep_framesTemplate :
    (∀ names, framesRegistry.CallChain framesTemplate names → names.length ≤ 2) ∧
      framesTemplate.render framesContext framesRegistry ⟨2, 512⟩ =
        .ok "*<b>*<b>*<b>*1</b></b>*</b>*<b>*<b>*<b>*2</b></b>*</b>" ∧
      ∀ name limit, framesTemplate.render framesContext framesRegistry ⟨2, 512⟩ ≠
        .error (.callTooDeep name limit) := by
  have short : ∀ names, framesRegistry.CallChain framesTemplate names → names.length ≤ 2 := by
    intro names chain
    apply chain.length_le fun name => if name = "frame" then 1 else 0
    · intro name _
      split <;> decide
    · intro name called registered next isUsed
      by_cases isMark : "mark" = name
      · subst isMark
        rw [framesRegistry, Registry.get?_insert_self] at registered
        cases registered
        simp [usesAll, Statement.uses] at isUsed
      · rw [framesRegistry, Registry.get?_insert_of_ne _ _ isMark] at registered
        by_cases isFrame : "frame" = name
        · subst isFrame
          rw [Registry.get?_insert_self] at registered
          cases registered
          have nextIsMark : next = "mark" := by
            simpa [usesAll, Statement.uses, usesArguments] using isUsed
          subst nextIsMark
          decide
        · rw [Registry.get?_insert_of_ne _ _ isFrame] at registered
          cases registered
  exact ⟨short, rfl, render_ne_callTooDeep short framesContext⟩

/-- With a limit below the longest chain, the same rendering reaches it. -/
example : framesTemplate.render framesContext framesRegistry ⟨1, 512⟩ =
    .error (.callTooDeep "mark" 1) :=
  rfl

end Template

end Stencil
