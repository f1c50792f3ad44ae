import Stencil.Proofs.Template.Joining

/-!
# The source of a template

Every template has a canonical source: no space where none is needed, one blank where some is, and
closing tags that repeat the names of their opening tags.
-/

namespace Stencil

mutual

def Statement.source : Statement → String
  | .literal text => text
  | .tag name attributes content =>
    "<" ++ name ++ sourceAll attributes ++ ">" ++ sourceAll content ++ "</" ++ name ++ ">"
  | .emptyTag name attributes => "<" ++ name ++ sourceAll attributes ++ "/>"
  | .interpolation path => r"{{" ++ path ++ r"}}"
  | .assignment given => given.source
  | .quoted body => sourceAll body
  | .ifThen condition body =>
    r"{{#if " ++ condition ++ r"}}" ++ sourceAll body ++ "{{/if}}"
  | .ifThenElse condition body alternative =>
    r"{{#if " ++ condition ++ r"}}" ++ sourceAll body ++ "{{else}}" ++
      sourceAll alternative ++ "{{/if}}"
  | .each collection item body =>
    r"{{#each " ++ collection ++ " " ++ item ++ r"}}" ++ sourceAll body ++
      "{{/each}}"
  | .call name given =>
    match argumentsSource given with
    | (arguments, none) => r"{{> " ++ name ++ arguments ++ r"}}"
    | (arguments, some body) =>
      r"{{#> " ++ name ++ arguments ++ r"}}" ++ body ++ r"{{/" ++ name ++ r"}}"

def Attribute.source : Attribute → String
  | .bare name value => name ++ "=" ++ value
  | .quoted name body => name ++ "=\"" ++ sourceAll body ++ "\""
  | .captured name body => name ++ "=\"" ++ sourceAll body ++ "\""

/-- The canonical source of a list of statements. -/
def sourceAll : List Statement → String
  | [] => ""
  | statement :: rest => statement.source ++ sourceAll rest

/-- The source of the attributes of a call, each with a blank before it, and the source of what the
call encloses if that is its last attribute. -/
def argumentsSource : List Attribute → String × Option String
  | [] => ("", none)
  | [.captured _ body] => ("", some (sourceAll body))
  | given :: rest => (" " ++ given.source ++ (argumentsSource rest).1, (argumentsSource rest).2)

end

def Template.source (template : Template) : String :=
  sourceAll template

theorem sourceAll_append (front back : List Statement) :
    sourceAll (front ++ back) = sourceAll front ++ sourceAll back := by
  induction front with
  | nil => simp [sourceAll]
  | cons statement front ih =>
      rw [List.cons_append, sourceAll, sourceAll, ih, String.append_assoc]

theorem sourceAll_ignoresJoining : IgnoresJoining sourceAll where
  merge text next rest := by
    simp only [sourceAll, Statement.source, String.append_assoc]
  cons := by
    intro statement rest rest' same
    rw [sourceAll, sourceAll, same]

/-- Joining neighbouring text changes no source. -/
theorem sourceAll_joinLiterals (statements : List Statement) :
    sourceAll (joinLiterals statements) = sourceAll statements :=
  sourceAll_ignoresJoining.joinLiterals statements

/-- An attribute that is written between the braces of a call. -/
def Attribute.IsWritten (given : Attribute) : Prop :=
  ∀ name body, given ≠ .captured name body

theorem argumentsSource_cons {given : Attribute} (isWritten : given.IsWritten)
    (rest : List Attribute) :
    argumentsSource (given :: rest) =
      (" " ++ given.source ++ (argumentsSource rest).1, (argumentsSource rest).2) := by
  cases given with
  | captured name body => exact absurd rfl (isWritten name body)
  | bare | quoted =>
      rw [argumentsSource]
      intro name body same
      cases same

/-- What a call encloses stands behind the attributes between its braces. -/
theorem argumentsSource_append_captured {given : List Attribute}
    (areWritten : ∀ entry ∈ given, entry.IsWritten) (name : String)
    (body : List Statement) :
    argumentsSource (given ++ [.captured name body]) =
      ((argumentsSource given).1, some (sourceAll body)) := by
  induction given with
  | nil => rfl
  | cons entry rest ih =>
      rw [List.forall_mem_cons] at areWritten
      rw [List.cons_append, argumentsSource_cons areWritten.1, argumentsSource_cons areWritten.1,
        ih areWritten.2]

theorem argumentsSource_of_areWritten {given : List Attribute}
    (areWritten : ∀ entry ∈ given, entry.IsWritten) :
    argumentsSource given = ((argumentsSource given).1, none) := by
  induction given with
  | nil => rfl
  | cons entry rest ih =>
      rw [List.forall_mem_cons] at areWritten
      rw [argumentsSource_cons areWritten.1, ih areWritten.2]

/-- A call that encloses nothing. -/
theorem Statement.source_call {given : List Attribute}
    (areWritten : ∀ entry ∈ given, entry.IsWritten) (name : String) :
    (Statement.call name given).source =
      r"{{> " ++ name ++ (argumentsSource given).1 ++ r"}}" := by
  rw [source, argumentsSource_of_areWritten areWritten]

/-- A call that encloses statements. -/
theorem Statement.source_call_captured {given : List Attribute}
    (areWritten : ∀ entry ∈ given, entry.IsWritten) (name captured : String)
    (body : List Statement) :
    (Statement.call name (given ++ [.captured captured body])).source =
      r"{{#> " ++ name ++ (argumentsSource given).1 ++ r"}}" ++ sourceAll body ++
        r"{{/" ++ name ++ r"}}" := by
  rw [source, argumentsSource_append_captured areWritten]

end Stencil
