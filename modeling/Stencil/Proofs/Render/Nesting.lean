import Stencil.Proofs.Print.RoundTrip
import Stencil.Proofs.Template.Joining
import Stencil.Render.Basic

/-!
# How deep a rendering goes

Compiling counts the statements that lie inside each other, and rendering counts the lists of
statements that do, calls included.  A template that is compiled under some limit has at most so
many lists inside each other between one call and the next.  So if the templates that may be called
are compiled under that limit as well, rendering stays within as many times that limit as there may
be templates inside each other, the calling one included.
-/

namespace Stencil

open Grammar

mutual

/-- How many lists of statements lie inside each other in a statement.  What a call calls counts as
one list, whatever it contains. -/
def Statement.nesting : Statement → Nat
  | .literal _ => 0
  | .tag _ attributes content => max (nestingAll attributes) (nestingAll content) + 1
  | .emptyTag _ attributes => nestingAll attributes + 1
  | .interpolation _ => 0
  | .assignment given => given.nesting
  | .quoted body => nestingAll body + 1
  | .ifThen _ body => nestingAll body + 1
  | .ifThenElse _ body alternative => max (nestingAll body) (nestingAll alternative) + 1
  | .each _ _ body => nestingAll body + 1
  | .call _ given => max 1 (nestingArguments given)

/-- How many lists of statements lie inside each other in an attribute. -/
def Attribute.nesting : Attribute → Nat
  | .bare _ _ => 0
  | .quoted _ body => nestingAll body + 1
  | .captured _ body => nestingAll body + 1

/-- How many lists of statements lie inside each other in a list, apart from the list itself. -/
def nestingAll : List Statement → Nat
  | [] => 0
  | statement :: rest => max statement.nesting (nestingAll rest)

/-- How many lists of statements lie inside each other in the attributes of a call. -/
def nestingArguments : List Attribute → Nat
  | [] => 0
  | given :: rest => max given.nesting (nestingArguments rest)

end

theorem nestingAll_append (front back : List Statement) :
    nestingAll (front ++ back) = max (nestingAll front) (nestingAll back) := by
  induction front with
  | nil => simp [nestingAll]
  | cons statement front ih =>
      rw [List.cons_append, nestingAll, nestingAll, ih, Nat.max_assoc]

theorem nestingArguments_append (front back : List Attribute) :
    nestingArguments (front ++ back) = max (nestingArguments front) (nestingArguments back) := by
  induction front with
  | nil => simp [nestingArguments]
  | cons given front ih =>
      rw [List.cons_append, nestingArguments, nestingArguments, ih, Nat.max_assoc]

theorem nestingAll_ignoresJoining : IgnoresJoining nestingAll where
  merge text next rest := by simp [nestingAll, Statement.nesting]
  cons := by
    intro statement rest rest' same
    rw [nestingAll, nestingAll, same]

/-- Joining neighbouring text does not change how deep a list is nested. -/
theorem nestingAll_joinLiterals (statements : List Statement) :
    nestingAll (joinLiterals statements) = nestingAll statements :=
  nestingAll_ignoresJoining.joinLiterals statements

/-- How many lists of statements lie inside each other in what a phrase is read as. -/
def Grammar.Phrase.nesting : Phrase → Nat
  | .statement _ read => read.nesting
  | .list _ read => nestingAll read
  | .attribute read => read.nesting
  | .arguments read => nestingArguments read

/-- There are at most as many lists inside each other as there are statements inside each other:
each list that is not the outermost one belongs to a statement around it. -/
theorem Grammar.Derives.nesting_le {matchNames : Bool} {levels : Nat} {phrase : Phrase}
    {tokens : List Token} (derived : Derives matchNames levels phrase tokens) :
    phrase.nesting ≤ levels := by
  induction derived with
  | nil => exact Nat.zero_le _
  | cons _ _ _ _ one more => exact Nat.max_le.mpr ⟨one, more⟩
  | literal | interpolation | bare => exact Nat.zero_le _
  | assignment _ given => exact given
  | quoted _ _ _ body =>
      simp only [Phrase.nesting, Statement.nesting, nestingAll_joinLiterals, nestingAll_append,
        nestingAll] at body ⊢
      omega
  | emptyTag _ _ _ _ given =>
      simp only [Phrase.nesting, Statement.nesting, nestingAll_joinLiterals] at given ⊢
      omega
  | tag _ _ _ _ _ _ _ _ _ given body =>
      simp only [Phrase.nesting, Statement.nesting, nestingAll_joinLiterals] at given body ⊢
      omega
  | ifThen _ _ _ _ _ body | each _ _ _ _ _ _ _ body =>
      simp only [Phrase.nesting, Statement.nesting, nestingAll_joinLiterals] at body ⊢
      omega
  | ifThenElse _ _ _ _ _ _ _ body other =>
      simp only [Phrase.nesting, Statement.nesting, nestingAll_joinLiterals] at body other ⊢
      omega
  | call _ _ _ given =>
      simp only [Phrase.nesting, Statement.nesting] at given ⊢
      omega
  | slot _ _ _ _ _ _ given body =>
      simp only [Phrase.nesting, Statement.nesting, Attribute.nesting, nestingArguments_append,
        nestingArguments, nestingAll_joinLiterals] at given body ⊢
      omega
  | quotedValue _ _ _ _ _ body =>
      simp only [Phrase.nesting, Attribute.nesting, nestingAll_joinLiterals] at body ⊢
      omega
  | argumentsEnd => exact Nat.zero_le _
  | argumentsCons _ _ _ one more => exact Nat.max_le.mpr ⟨one, more⟩

/-- A rendering does not stop because too many lists lie inside each other. -/
def NotTooDeep {α : Type} (outcome : Except Halt α) : Prop :=
  outcome ≠ .error .nestingTooDeep

namespace NotTooDeep

variable {α β : Type}

theorem ok (value : α) : NotTooDeep (.ok value) := by
  intro impossible
  cases impossible

theorem bind {outcome : Except Halt α} {next : α → Except Halt β} (first : NotTooDeep outcome)
    (second : ∀ value, NotTooDeep (next value)) : NotTooDeep (outcome >>= next) := by
  cases outcome with
  | ok value => exact second value
  | error halt =>
      intro stops
      apply first
      cases stops
      rfl

/-- For a step whose result is only wrapped. -/
theorem map {outcome : Except Halt α} (first : NotTooDeep outcome) (wrap : α → β) :
    NotTooDeep (outcome >>= fun value => Pure.pure (wrap value)) := by
  apply first.bind
  intro value
  exact ok (wrap value)

theorem mapM {step : α → Except Halt β} (each : ∀ value, NotTooDeep (step value))
    (values : List α) : NotTooDeep (values.mapM step) := by
  induction values with
  | nil => exact ok []
  | cons value rest ih =>
      rw [List.mapM_cons]
      apply (each value).bind
      intro result
      exact ih.map _

/-- Going one level deeper takes one level. -/
theorem descend {needed beyond levels : Nat} {run : Nat → Except Halt α}
    (enough : needed + 1 + beyond ≤ levels)
    (further : ∀ inner, needed + beyond ≤ inner → NotTooDeep (run inner)) :
    NotTooDeep (Stencil.descend levels run) := by
  rw [Nat.succ_add] at enough
  rcases exists_fewer_of_succ_le enough with ⟨inner, rfl, fits⟩
  exact further inner fits

end NotTooDeep

/-! ## Levels that are enough -/

/-- Going into what is called takes at most the given number of levels, the list of the called
template included. -/
def CallsTake (registry : Registry) (callee? : Option Callee) (needed : Nat) : Prop :=
  ∀ name template callee, registry.get? name = some template → callee? = some callee →
    ∀ scope levels, needed ≤ levels → NotTooDeep (callee template scope levels)

variable {registry : Registry} {callee? : Option Callee} {beyond : Nat}

mutual

/-- Levels are enough if there are as many as lists inside each other in the statement, apart from
those that a call takes beyond the list of what it calls. -/
theorem Statement.render_notTooDeep (calls : CallsTake registry callee? (beyond + 1))
    (statement : Statement) (scope : Scope) {levels : Nat}
    (enough : statement.nesting + beyond ≤ levels) :
    NotTooDeep (statement.render registry callee? scope levels) := by
  cases statement with
  | literal | interpolation => exact .ok _
  | assignment given => exact given.render_notTooDeep calls scope enough
  | quoted body =>
      apply NotTooDeep.descend enough
      intro inner
      exact renderAll_notTooDeep calls body scope
  | tag name attributes content =>
      unfold Statement.nesting at enough
      have opens : NotTooDeep (descend levels fun inner =>
          renderAll registry callee? attributes scope inner) := by
        apply NotTooDeep.descend (Nat.le_trans _ enough)
        · intro inner
          exact renderAll_notTooDeep calls attributes scope
        · omega
      have holds : NotTooDeep (descend levels fun inner =>
          renderAll registry callee? content scope inner) := by
        apply NotTooDeep.descend (Nat.le_trans _ enough)
        · intro inner
          exact renderAll_notTooDeep calls content scope
        · omega
      apply opens.bind
      intro opening
      exact holds.map _
  | emptyTag name attributes =>
      apply NotTooDeep.map
      apply NotTooDeep.descend enough
      intro inner
      exact renderAll_notTooDeep calls attributes scope
  | ifThen condition body =>
      unfold Statement.render
      split
      · apply NotTooDeep.descend enough
        intro inner
        exact renderAll_notTooDeep calls body scope
      · exact .ok _
  | ifThenElse condition body alternative =>
      unfold Statement.nesting at enough
      unfold Statement.render
      split
      · apply NotTooDeep.descend (Nat.le_trans _ enough)
        · intro inner
          exact renderAll_notTooDeep calls body scope
        · omega
      · apply NotTooDeep.descend (Nat.le_trans _ enough)
        · intro inner
          exact renderAll_notTooDeep calls alternative scope
        · omega
  | each collection item body =>
      unfold Statement.render
      split
      · intro impossible
        cases impossible
      · apply NotTooDeep.map
        apply NotTooDeep.mapM
        intro value
        apply NotTooDeep.descend enough
        intro inner
        exact renderAll_notTooDeep calls body _
  | call name given =>
      unfold Statement.nesting at enough
      have bound : NotTooDeep (bindAll registry callee? given scope levels) :=
        bindAll_notTooDeep calls given scope (by omega)
      unfold Statement.render
      split
      next => exact .ok _
      next template registered =>
        split
        next =>
          intro impossible
          cases impossible
        next callee =>
          apply bound.bind
          intro bindings
          exact calls name template callee registered rfl _ levels (by omega)

theorem Attribute.render_notTooDeep (calls : CallsTake registry callee? (beyond + 1))
    (given : Attribute) (scope : Scope) {levels : Nat} (enough : given.nesting + beyond ≤ levels) :
    NotTooDeep (given.render registry callee? scope levels) := by
  cases given with
  | bare name value => exact .ok _
  | quoted name body | captured name body =>
      apply NotTooDeep.map
      apply NotTooDeep.descend enough
      intro inner
      exact renderAll_notTooDeep calls body scope

theorem renderAll_notTooDeep (calls : CallsTake registry callee? (beyond + 1))
    (statements : List Statement) (scope : Scope) {levels : Nat}
    (enough : nestingAll statements + beyond ≤ levels) :
    NotTooDeep (renderAll registry callee? statements scope levels) := by
  cases statements with
  | nil => exact .ok _
  | cons statement rest =>
      unfold nestingAll at enough
      apply (statement.render_notTooDeep calls scope (by omega)).bind
      intro text
      exact (renderAll_notTooDeep calls rest scope (by omega)).map _

theorem Attribute.bind_notTooDeep (calls : CallsTake registry callee? (beyond + 1))
    (given : Attribute) (scope : Scope) {levels : Nat} (enough : given.nesting + beyond ≤ levels) :
    NotTooDeep (given.bind registry callee? scope levels) := by
  cases given with
  | bare name path => exact .ok _
  | quoted name body | captured name body =>
      apply NotTooDeep.map
      apply NotTooDeep.descend enough
      intro inner
      exact renderAll_notTooDeep calls body scope

theorem bindAll_notTooDeep (calls : CallsTake registry callee? (beyond + 1))
    (arguments : List Attribute) (scope : Scope) {levels : Nat}
    (enough : nestingArguments arguments + beyond ≤ levels) :
    NotTooDeep (bindAll registry callee? arguments scope levels) := by
  cases arguments with
  | nil => exact .ok _
  | cons given rest =>
      unfold nestingArguments at enough
      apply (given.bind_notTooDeep calls scope (by omega)).bind
      intro binding
      exact (bindAll_notTooDeep calls rest scope (by omega)).map _

end

theorem descend_notTooDeep (calls : CallsTake registry callee? (beyond + 1))
    (statements : List Statement) (scope : Scope) {levels : Nat}
    (enough : nestingAll statements + 1 + beyond ≤ levels) :
    NotTooDeep (descend levels fun inner => renderAll registry callee? statements scope inner) := by
  apply NotTooDeep.descend enough
  intro inner
  exact renderAll_notTooDeep calls statements scope

/-- The templates that may be called have at most so many lists of statements inside each other. -/
def Registry.NestedWithin (registry : Registry) (depth : Nat) : Prop :=
  ∀ name template, registry.get? name = some template → nestingAll template ≤ depth

/-- Each call that is left may take as many levels once more as one template does.  By induction on
the number of calls that are left. -/
theorem Template.renderIn_notTooDeep {depth : Nat} (nested : registry.NestedWithin depth)
    (calls : Nat) {template : Template} (fits : nestingAll template ≤ depth) (scope : Scope)
    {levels : Nat} (enough : (calls + 1) * depth + 1 ≤ levels) :
    NotTooDeep (template.renderIn registry calls scope levels) := by
  induction calls generalizing template scope levels with
  | zero =>
      have noCalls : CallsTake registry none (0 + 1) := by
        intro _ _ _ _ impossible
        cases impossible
      exact descend_notTooDeep noCalls template scope (by omega)
  | succ calls ih =>
      have furtherCalls : CallsTake registry
          (some fun called => Template.renderIn registry calls called)
          ((calls + 1) * depth + 1) := by
        intro name called callee registered same inner levels enough
        cases same
        exact ih (nested name called registered) inner enough
      rw [Nat.succ_mul] at enough
      exact descend_notTooDeep furtherCalls template scope (by omega)

/-- Without registered templates no call takes any level, however many calls are left. -/
theorem Template.renderIn_notTooDeep_of_isEmpty (none : registry.isEmpty = true) (calls : Nat)
    (template : Template) (scope : Scope) {levels : Nat}
    (enough : nestingAll template + 1 ≤ levels) :
    NotTooDeep (template.renderIn registry calls scope levels) := by
  have noCalls : ∀ callee?, CallsTake registry callee? (0 + 1) := by
    intro callee? name called callee registered
    rw [Registry.get?, List.isEmpty_iff.mp none] at registered
    cases registered
  cases calls with
  | zero => exact descend_notTooDeep (noCalls _) template scope enough
  | succ calls => exact descend_notTooDeep (noCalls _) template scope enough

/-! ## Templates that were compiled -/

/-- A template was compiled from some source with a limit on nesting that is not above the given
one. -/
def Template.CompiledWithin (template : Template) (depth : Nat) : Prop :=
  ∃ source options, options.maxNesting ≤ depth ∧ Template.compile source options = .ok template

/-- All templates that may be called were compiled with limits on nesting that are not above the
given one. -/
def Registry.CompiledWithin (registry : Registry) (depth : Nat) : Prop :=
  ∀ name template, registry.get? name = some template → template.CompiledWithin depth

theorem Registry.CompiledWithin.empty (depth : Nat) : Registry.empty.CompiledWithin depth := by
  intro name template registered
  cases registered

/-- Registering a source with a limit on nesting that is low enough keeps all limits low enough. -/
theorem Registry.CompiledWithin.register {registry extended : Registry} {depth : Nat}
    {name source : String} {options : CompileOptions} (compiled : registry.CompiledWithin depth)
    (low : options.maxNesting ≤ depth)
    (registered : registry.register name source options = .ok extended) :
    extended.CompiledWithin depth := by
  intro other template found
  unfold Registry.register at registered
  cases outcome : Template.compile source options with
  | error failure =>
      rw [outcome] at registered
      cases registered
  | ok added =>
      rw [outcome] at registered
      cases registered
      by_cases same : name = other
      · subst same
        rw [Registry.get?_insert_self] at found
        cases found
        exact ⟨source, options, low, outcome⟩
      · rw [Registry.get?_insert_of_ne registry added same] at found
        exact compiled other template found

theorem Template.CompiledWithin.nestingAll_le {template : Template} {depth : Nat}
    (compiled : template.CompiledWithin depth) : nestingAll template ≤ depth := by
  rcases compiled with ⟨source, options, low, compiled⟩
  rcases Template.compile_eq_ok_iff.mp compiled with ⟨tokens, body, _, _, derived, rfl⟩
  rw [nestingAll_joinLiterals]
  exact Nat.le_trans derived.nesting_le low

theorem NotTooDeep.mapError {outcome : Except Halt String} (notTooDeep : NotTooDeep outcome)
    (limits : RenderLimits) (limit : Nat) :
    outcome.mapError (Halt.toError limits) ≠ .error (.nestingTooDeep limit) := by
  intro stops
  cases outcome with
  | ok text => cases stops
  | error halt =>
      cases halt with
      | nestingTooDeep => exact notTooDeep rfl
      | notIterable | callTooDeep => cases stops

/-- The limits on nesting of compiling and of rendering agree.  With levels for as many templates
inside each other as there may be, rendering templates that were compiled never stops for too deep
nesting; and where no templates are registered, the levels of one template are enough. -/
theorem Template.render_ne_nestingTooDeep {template : Template} {depth : Nat}
    (compiled : template.CompiledWithin depth) (registry : Registry) (context : Context)
    (limits : RenderLimits) (limit : Nat) :
    (registry.CompiledWithin depth → (limits.calls + 1) * depth ≤ limits.nesting →
        template.render context registry limits ≠ .error (.nestingTooDeep limit)) ∧
      (registry.isEmpty = true → depth ≤ limits.nesting →
        template.render context registry limits ≠ .error (.nestingTooDeep limit)) := by
  have fits := compiled.nestingAll_le
  constructor
  · intro allCompiled enough
    have nested : registry.NestedWithin depth := by
      intro name called registered
      exact (allCompiled name called registered).nestingAll_le
    have notTooDeep := renderIn_notTooDeep nested limits.calls fits [context.bindings]
      (Nat.succ_le_succ enough)
    exact notTooDeep.mapError limits limit
  · intro none enough
    have notTooDeep := renderIn_notTooDeep_of_isEmpty none limits.calls template
      [context.bindings] (Nat.succ_le_succ (Nat.le_trans fits enough))
    exact notTooDeep.mapError limits limit

/-- A tag around an empty tag and a call of the same template. -/
def loopingSource : String :=
  "<b><i></i>{{> p}}</b>"

def loopingTokens : List Token :=
  [(.less, "<"), (.identifier, "b"), (.greater, ">"), (.less, "<"), (.identifier, "i"),
    (.greater, ">"), (.tagClose, "</"), (.identifier, "i"), (.greater, ">"),
    (.mustacheOpen, r"{{"), (.greater, ">"), (.blank, " "), (.identifier, "p"),
    (.mustacheClose, r"}}"), (.tagClose, "</"), (.identifier, "b"), (.greater, ">"),
    (.endMark, "")].map fun entry =>
      { kind := entry.1, lexeme := entry.2, line := 1 }

def loopingTemplate : Template :=
  [.tag "b" [] [.tag "i" [] [], .call "p" []]]

def loopingRegistry : Registry :=
  Registry.empty.insert "p" loopingTemplate

theorem Template.render_ne_nestingTooDeep_loopingTemplate :
    loopingTemplate.CompiledWithin 2 ∧ loopingRegistry.CompiledWithin 2 ∧ (3 + 1) * 2 ≤ 8 ∧
      Registry.empty.isEmpty = true ∧
      (∀ limit, loopingTemplate.render {} loopingRegistry ⟨3, 8⟩ ≠
        .error (.nestingTooDeep limit)) ∧
      ∀ limit, loopingTemplate.render {} Registry.empty ⟨3, 2⟩ ≠
        .error (.nestingTooDeep limit) := by
  have clean : (Token.scan loopingSource).errors = [] := by decide +kernel
  have found : (Token.scan loopingSource).tokens = loopingTokens := by decide +kernel
  have compiled : Template.compile loopingSource ⟨false, 2⟩ = .ok loopingTemplate := by
    rw [compile_eq_ok, found]
    exact ⟨clean, rfl⟩
  have registered : Registry.empty.register "p" loopingSource ⟨false, 2⟩ = .ok loopingRegistry := by
    rw [Registry.register, compiled]
    rfl
  have template : loopingTemplate.CompiledWithin 2 :=
    ⟨loopingSource, ⟨false, 2⟩, Nat.le_refl 2, compiled⟩
  have registry : loopingRegistry.CompiledWithin 2 :=
    (Registry.CompiledWithin.empty 2).register (Nat.le_refl 2) registered
  refine ⟨template, registry, Nat.le_refl 8, rfl, ?_, ?_⟩
  · intro limit
    exact (render_ne_nestingTooDeep template loopingRegistry {} ⟨3, 8⟩ limit).1 registry
      (Nat.le_refl 8)
  · intro limit
    exact (render_ne_nestingTooDeep template Registry.empty {} ⟨3, 2⟩ limit).2 rfl (Nat.le_refl 2)

/-- The levels are just enough: with one less, the innermost empty tag is too deep. -/
example :
    loopingTemplate.render {} loopingRegistry ⟨3, 8⟩ = .error (.callTooDeep "p" 3) ∧
      loopingTemplate.render {} loopingRegistry ⟨3, 7⟩ = .error (.nestingTooDeep 7) := by
  decide +kernel

end Stencil
