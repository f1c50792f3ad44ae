import Mathlib.Data.List.Induction
import Stencil.Proofs.Data.Bindings
import Stencil.Proofs.Render.Dependence

/-!
# Runs of a registry

A registry is filled by operations, one after the other: a source is compiled and registered, or a
compiled template is.  What a registry holds under a name is what the last operation on the name
that succeeded put there.  An operation that fails is as if it had not been tried, and operations on
different names do not get in each other's way.
-/

namespace Stencil.Registry

/-- A change of a registry. -/
inductive Operation where
  /-- Compile a source and register the template. -/
  | register (name source : String) (options : CompileOptions := {})
  /-- Register a compiled template. -/
  | insert (name : String) (template : Template)

/-- What a change of a registry answers. -/
inductive Answer where
  | registered
  | refused (error : CompileError)
  /-- With the template that had the name before, if one had. -/
  | replaced (former : Option Template)

namespace Operation

def name : Operation → String
  | .register name _ _ => name
  | .insert name _ => name

/-- The template that an operation is to register, if it succeeds. -/
def template? : Operation → Option Template
  | .register _ source options => (Template.compile source options).toOption
  | .insert _ template => some template

end Operation

/-- Carry out an operation.  One that fails leaves the registry as it is. -/
def perform (registry : Registry) : Operation → Answer × Registry
  | .register name source options =>
    match registry.register name source options with
    | .ok changed => (.registered, changed)
    | .error error => (.refused error, registry)
  | .insert name template =>
    let exchanged := registry.exchange name template
    (.replaced exchanged.1, exchanged.2)

/-- The registry after operations on an empty one. -/
def run (operations : List Operation) : Registry :=
  operations.foldl (fun registry operation => (registry.perform operation).2) empty

/-- The templates that operations put under a name, in order. -/
def stored (name : String) (operations : List Operation) : List Template :=
  (operations.filter fun operation => operation.name = name).filterMap Operation.template?

/-- The names that operations put a template under, in order. -/
def storedNames (operations : List Operation) : List String :=
  operations.filterMap fun operation => operation.template?.map fun _ => operation.name

variable {registry : Registry} {operation : Operation} {operations : List Operation} {name : String}

/-- An operation registers its template, or there is none and it does nothing. -/
theorem perform_eq (registry : Registry) (operation : Operation) :
    (registry.perform operation).2 =
      (operation.template?.map (registry.insert operation.name)).getD registry := by
  cases operation with
  | insert name template => rfl
  | register name source options =>
      rw [perform, register, Operation.template?]
      cases Template.compile source options <;> rfl

theorem perform_of_compile_error {source : String} {options : CompileOptions}
    {error : CompileError} (failed : Template.compile source options = .error error) :
    registry.perform (.register name source options) = (.refused error, registry) := by
  rw [perform, register, failed]
  rfl

theorem get?_perform (registry : Registry) (operation : Operation) (name : String) :
    (registry.perform operation).2.get? name =
      ((stored name [operation]).getLast?).or (registry.get? name) := by
  rw [perform_eq]
  by_cases same : operation.name = name
  · subst same
    cases isTemplate : operation.template? <;> simp [stored, isTemplate]
  · cases isTemplate : operation.template? <;>
      simp [stored, same, get?_insert_of_ne registry _ same]

/-- The names stay in ascending order. -/
theorem isAscending_perform (ascending : registry.templates.IsAscending) (operation : Operation) :
    (registry.perform operation).2.templates.IsAscending := by
  rw [perform_eq]
  cases operation.template? with
  | none => exact ascending
  | some template => exact ascending.set operation.name template

theorem run_concat (operations : List Operation) (operation : Operation) :
    run (operations ++ [operation]) = ((run operations).perform operation).2 := by
  rw [run, List.foldl_append]
  rfl

theorem stored_append (name : String) (operations more : List Operation) :
    stored name (operations ++ more) = stored name operations ++ stored name more := by
  rw [stored, List.filter_append, List.filterMap_append]
  rfl

theorem get?_run (operations : List Operation) (name : String) :
    (run operations).get? name = (stored name operations).getLast? := by
  induction operations using List.reverseRecOn with
  | nil => rfl
  | append_singleton operations operation ih =>
      rw [run_concat, get?_perform, ih, stored_append, List.getLast?_append]

theorem isAscending_run (operations : List Operation) :
    (run operations).templates.IsAscending := by
  induction operations using List.reverseRecOn with
  | nil => exact .nil
  | append_singleton operations operation ih =>
      rw [run_concat]
      exact isAscending_perform ih operation

theorem mem_storedNames :
    name ∈ storedNames operations ↔ ∃ template, template ∈ stored name operations := by
  simp only [stored, storedNames, List.mem_filterMap, List.mem_filter, decide_eq_true_eq,
    Option.map_eq_some_iff]
  constructor
  · rintro ⟨operation, isIn, template, isTemplate, rfl⟩
    exact ⟨template, operation, ⟨isIn, rfl⟩, isTemplate⟩
  · rintro ⟨template, operation, ⟨isIn, rfl⟩, isTemplate⟩
    exact ⟨operation, isIn, template, isTemplate, rfl⟩

theorem names_run (operations : List Operation) :
    (run operations).templates.names.toFinset = (storedNames operations).toFinset := by
  ext name
  rw [List.mem_toFinset, List.mem_toFinset, Bindings.mem_names, mem_storedNames]
  change ((run operations).get? name).isSome = true ↔ _
  rw [get?_run, List.getLast?_isSome, ← List.length_pos_iff, List.length_pos_iff_exists_mem]

theorem size_run (operations : List Operation) :
    (run operations).size = (storedNames operations).toFinset.card := by
  rw [size, (isAscending_run operations).length_eq, names_run]

/-- The second list has the operations of the first, and those on one name in the same order. -/
def SameOrder (operations others : List Operation) : Prop :=
  ∀ name, operations.filter (fun operation => operation.name = name) =
    others.filter fun operation => operation.name = name

theorem SameOrder.get?_run {others : List Operation} (same : SameOrder operations others)
    (name : String) : (run operations).get? name = (run others).get? name := by
  rw [Registry.get?_run, Registry.get?_run, stored, stored, same name]

/-- After any run, a registry holds what the last successful operation on each name put there, and
counts the names that one succeeded on.  From there, a registration that fails changes nothing, and
one of a compiled template gives back what was held before.  And operations on different names may
change places: every template is rendered in the same way afterwards. -/
theorem run_observed (operations : List Operation) :
    (∀ name, (run operations).get? name = (stored name operations).getLast?) ∧
      (∀ name, (run operations).contains name = ((run operations).get? name).isSome) ∧
      (run operations).size = (storedNames operations).toFinset.card ∧
      ((run operations).isEmpty = true ↔ (run operations).size = 0) ∧
      (∀ name source options error, Template.compile source options = .error error →
        (run operations).perform (.register name source options) =
          (.refused error, run operations)) ∧
      (∀ name template, ((run operations).perform (.insert name template)).1 =
        .replaced ((run operations).get? name)) ∧
      ∀ others, SameOrder operations others →
        ∀ (template : Template) (context : Context) (limits : RenderLimits),
          template.render context (run operations) limits =
            template.render context (run others) limits := by
  refine ⟨get?_run operations, fun _ => rfl, size_run operations, ?_, ?_, fun _ _ => rfl, ?_⟩
  · exact List.isEmpty_iff_length_eq_zero
  · intro name source options error failed
    exact perform_of_compile_error failed
  · intro others same template context limits
    apply Template.render_congr
    · intro name _
      exact same.get?_run name
    · intro _ _
      rfl

/-- A source and a template that calls what it is registered as, and then a source with a stray
character under the name of the first. -/
def fillingOperations : List Operation :=
  [.register "a" "b", .insert "c" [.call "a" []], .register "a" "("]

def reorderedOperations : List Operation :=
  [.register "a" "b", .register "a" "(", .insert "c" [.call "a" []]]

theorem sameOrder_reorderedOperations : SameOrder fillingOperations reorderedOperations := by
  intro name
  by_cases isA : "a" = name
  · subst isA
    rfl
  · simp [fillingOperations, reorderedOperations, List.filter_cons, Operation.name, isA]

theorem run_observed_fillingOperations :
    (run fillingOperations).get? "a" = some [.literal "b"] ∧
      (run fillingOperations).size = 2 ∧
      Template.compile "(" = .error (.scan [⟨1, .unexpectedCharacter '('⟩]) ∧
      (run fillingOperations).perform (.register "a" "(") =
        (.refused (.scan [⟨1, .unexpectedCharacter '('⟩]), run fillingOperations) ∧
      ((run fillingOperations).perform (.insert "c" [])).1 = .replaced (some [.call "a" []]) ∧
      SameOrder fillingOperations reorderedOperations ∧
      Template.render [.call "c" []] Context.empty (run fillingOperations) =
        Template.render [.call "c" []] Context.empty (run reorderedOperations) := by
  have clean : (Token.scan "b").errors = [] := by decide +kernel
  have found : (Token.scan "b").tokens =
      [{ kind := .identifier, lexeme := "b", line := 1 }, Token.atEnd 1] := by decide +kernel
  have compiled : Template.compile "b" = .ok [.literal "b"] := by
    simp only [Template.compile, clean, found, List.isEmpty_nil, if_true]
    rfl
  have stray : (Token.scan "(").errors = [⟨1, .unexpectedCharacter '('⟩] := by decide +kernel
  have failed : Template.compile "(" = .error (.scan [⟨1, .unexpectedCharacter '('⟩]) := by
    simp only [Template.compile, stray, List.isEmpty_cons, Bool.false_eq_true, if_false]
  have isTemplate : (Operation.register "a" "b").template? = some [.literal "b"] := by
    rw [Operation.template?, compiled]
    rfl
  have noTemplate : (Operation.register "a" "(").template? = none := by
    rw [Operation.template?, failed]
    rfl
  have isGiven : (Operation.insert "c" [.call "a" []]).template? = some [.call "a" []] := rfl
  have isStored : stored "a" fillingOperations = [[.literal "b"]] := by
    simp [stored, fillingOperations, Operation.name, isTemplate, noTemplate]
  have isStoredNext : stored "c" fillingOperations = [[.call "a" []]] := rfl
  have areStored : storedNames fillingOperations = ["a", "c"] := by
    simp [storedNames, fillingOperations, Operation.name, isTemplate, noTemplate, isGiven]
  rcases run_observed fillingOperations with ⟨get?_eq, _, size_eq, _, refuses, replaces, reorders⟩
  refine ⟨?_, ?_, failed, refuses _ _ _ _ failed, ?_, sameOrder_reorderedOperations,
    reorders _ sameOrder_reorderedOperations _ _ _⟩
  · rw [get?_eq, isStored]
    rfl
  · rw [size_eq, areStored]
    rfl
  · rw [replaces, get?_eq, isStoredNext]
    rfl

end Stencil.Registry
