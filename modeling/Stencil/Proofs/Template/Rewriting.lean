import Stencil.Template.Basic

/-!
# Changing every list of a template

A change of lists of statements is carried out on a template and on all lists inside it, the inner
ones first.  What the change brings about in one list then holds of all lists of the template, as
long as the change puts no new lists into a list.  If the change leaves such a list as it is, then
making it a second time changes nothing.
-/

namespace Stencil

variable {change : List Statement → List Statement}

mutual

/-- The lists of statements inside a statement, at every depth. -/
def Statement.lists : Statement → List (List Statement)
  | .literal _ => []
  | .tag _ attributes content =>
    attributes :: listsInside attributes ++ content :: listsInside content
  | .emptyTag _ attributes => attributes :: listsInside attributes
  | .interpolation _ => []
  | .assignment given => given.lists
  | .quoted body => body :: listsInside body
  | .ifThen _ body => body :: listsInside body
  | .ifThenElse _ body alternative =>
    body :: listsInside body ++ alternative :: listsInside alternative
  | .each _ _ body => body :: listsInside body
  | .call _ given => listsInArguments given

/-- The lists of statements inside an attribute, at every depth. -/
def Attribute.lists : Attribute → List (List Statement)
  | .bare _ _ => []
  | .quoted _ body => body :: listsInside body
  | .captured _ body => body :: listsInside body

/-- The lists of statements inside the statements of a list, at every depth. -/
def listsInside : List Statement → List (List Statement)
  | [] => []
  | statement :: rest => statement.lists ++ listsInside rest

/-- The lists of statements inside the attributes of a call, at every depth. -/
def listsInArguments : List Attribute → List (List Statement)
  | [] => []
  | given :: rest => given.lists ++ listsInArguments rest

end

/-- All lists of statements of a template: its own and those inside it. -/
def Template.lists (template : Template) : List (List Statement) :=
  template :: listsInside template

theorem mem_listsInside {list statements : List Statement} :
    list ∈ listsInside statements ↔ ∃ statement ∈ statements, list ∈ statement.lists := by
  induction statements with
  | nil => simp [listsInside]
  | cons statement rest ih => simp [listsInside, ih]

mutual

/-- A statement with every list inside it changed. -/
def Statement.rewrite (change : List Statement → List Statement) : Statement → Statement
  | .literal text => .literal text
  | .tag name attributes content =>
    .tag name (change (rewriteEach change attributes)) (change (rewriteEach change content))
  | .emptyTag name attributes => .emptyTag name (change (rewriteEach change attributes))
  | .interpolation path => .interpolation path
  | .assignment given => .assignment (given.rewrite change)
  | .quoted body => .quoted (change (rewriteEach change body))
  | .ifThen condition body => .ifThen condition (change (rewriteEach change body))
  | .ifThenElse condition body alternative =>
    .ifThenElse condition (change (rewriteEach change body))
      (change (rewriteEach change alternative))
  | .each collection item body => .each collection item (change (rewriteEach change body))
  | .call name given => .call name (rewriteArguments change given)

/-- An attribute with every list inside it changed. -/
def Attribute.rewrite (change : List Statement → List Statement) : Attribute → Attribute
  | .bare name value => .bare name value
  | .quoted name body => .quoted name (change (rewriteEach change body))
  | .captured name body => .captured name (change (rewriteEach change body))

/-- Statements with every list inside them changed. -/
def rewriteEach (change : List Statement → List Statement) : List Statement → List Statement
  | [] => []
  | statement :: rest => statement.rewrite change :: rewriteEach change rest

/-- The attributes of a call with every list inside them changed. -/
def rewriteArguments (change : List Statement → List Statement) : List Attribute → List Attribute
  | [] => []
  | given :: rest => given.rewrite change :: rewriteArguments change rest

end

def Template.rewrite (change : List Statement → List Statement) (template : Template) : Template :=
  change (rewriteEach change template)

/-- After the change a list has the property, and the change puts no statement with lists of its own
into a list. -/
structure Establishes (property : List Statement → Prop)
    (change : List Statement → List Statement) : Prop where
  holds : ∀ statements, property (change statements)
  noNewLists : ∀ statements, ∀ statement ∈ change statements,
    statement ∈ statements ∨ statement.lists = []

variable {property : List Statement → Prop}

/-- In a changed list, the property holds of the list and of the lists inside it. -/
theorem Establishes.forall_mem_cons (establishes : Establishes property change)
    {statements : List Statement} (inside : ∀ list ∈ listsInside statements, property list) :
    ∀ list ∈ change statements :: listsInside (change statements), property list := by
  rw [List.forall_mem_cons]
  refine ⟨establishes.holds statements, ?_⟩
  intro list isIn
  rcases mem_listsInside.mp isIn with ⟨statement, isStatement, isInStatement⟩
  rcases establishes.noNewLists statements statement isStatement with isOld | none
  · exact inside list (mem_listsInside.mpr ⟨statement, isOld, isInStatement⟩)
  · rw [none] at isInStatement
    cases isInStatement

mutual

theorem Statement.forall_lists_rewrite (establishes : Establishes property change)
    (statement : Statement) : ∀ list ∈ (statement.rewrite change).lists, property list := by
  cases statement with
  | literal | interpolation => simp [Statement.rewrite, Statement.lists]
  | assignment given => exact given.forall_lists_rewrite establishes
  | quoted body | ifThen condition body | each collection item body =>
      exact establishes.forall_mem_cons (forall_listsInside_rewriteEach establishes body)
  | emptyTag name attributes =>
      exact establishes.forall_mem_cons (forall_listsInside_rewriteEach establishes attributes)
  | tag name front back | ifThenElse condition front back =>
      rw [Statement.rewrite, Statement.lists, List.forall_mem_append]
      exact ⟨establishes.forall_mem_cons (forall_listsInside_rewriteEach establishes front),
        establishes.forall_mem_cons (forall_listsInside_rewriteEach establishes back)⟩
  | call name given => exact forall_listsInArguments_rewrite establishes given

theorem Attribute.forall_lists_rewrite (establishes : Establishes property change)
    (given : Attribute) : ∀ list ∈ (given.rewrite change).lists, property list := by
  cases given with
  | bare name value => simp [Attribute.rewrite, Attribute.lists]
  | quoted name body | captured name body =>
      exact establishes.forall_mem_cons (forall_listsInside_rewriteEach establishes body)

theorem forall_listsInside_rewriteEach (establishes : Establishes property change)
    (statements : List Statement) :
    ∀ list ∈ listsInside (rewriteEach change statements), property list := by
  cases statements with
  | nil => simp [rewriteEach, listsInside]
  | cons statement rest =>
      rw [rewriteEach, listsInside, List.forall_mem_append]
      exact ⟨statement.forall_lists_rewrite establishes,
        forall_listsInside_rewriteEach establishes rest⟩

theorem forall_listsInArguments_rewrite (establishes : Establishes property change)
    (arguments : List Attribute) :
    ∀ list ∈ listsInArguments (rewriteArguments change arguments), property list := by
  cases arguments with
  | nil => simp [rewriteArguments, listsInArguments]
  | cons given rest =>
      rw [rewriteArguments, listsInArguments, List.forall_mem_append]
      exact ⟨given.forall_lists_rewrite establishes,
        forall_listsInArguments_rewrite establishes rest⟩

end

/-- What the change establishes holds of all lists of the changed template. -/
theorem Template.forall_lists_rewrite (establishes : Establishes property change)
    (template : Template) : ∀ list ∈ (template.rewrite change).lists, property list :=
  establishes.forall_mem_cons (forall_listsInside_rewriteEach establishes template)

/-- A list with the property is left as it is. -/
def Fixes (property : List Statement → Prop) (change : List Statement → List Statement) : Prop :=
  ∀ statements, property statements → change statements = statements

/-- A list is left as it is if it has the property and all lists inside it are left as they are. -/
theorem Fixes.of_rewriteEach (fixes : Fixes property change) {statements : List Statement}
    (inside : (∀ list ∈ listsInside statements, property list) →
      rewriteEach change statements = statements)
    (holds : ∀ list ∈ statements :: listsInside statements, property list) :
    change (rewriteEach change statements) = statements := by
  rw [List.forall_mem_cons] at holds
  rw [inside holds.2, fixes statements holds.1]

mutual

theorem Statement.rewrite_eq_self (fixes : Fixes property change) (statement : Statement)
    (holds : ∀ list ∈ statement.lists, property list) : statement.rewrite change = statement := by
  cases statement with
  | literal | interpolation => rfl
  | assignment given => rw [Statement.rewrite, given.rewrite_eq_self fixes holds]
  | quoted body | ifThen condition body | each collection item body =>
      rw [Statement.rewrite, fixes.of_rewriteEach (rewriteEach_eq_self fixes body) holds]
  | emptyTag name attributes =>
      rw [Statement.rewrite, fixes.of_rewriteEach (rewriteEach_eq_self fixes attributes) holds]
  | tag name front back | ifThenElse condition front back =>
      rw [Statement.lists, List.forall_mem_append] at holds
      rw [Statement.rewrite, fixes.of_rewriteEach (rewriteEach_eq_self fixes front) holds.1,
        fixes.of_rewriteEach (rewriteEach_eq_self fixes back) holds.2]
  | call name given => rw [Statement.rewrite, rewriteArguments_eq_self fixes given holds]

theorem Attribute.rewrite_eq_self (fixes : Fixes property change) (given : Attribute)
    (holds : ∀ list ∈ given.lists, property list) : given.rewrite change = given := by
  cases given with
  | bare name value => rfl
  | quoted name body | captured name body =>
      rw [Attribute.rewrite, fixes.of_rewriteEach (rewriteEach_eq_self fixes body) holds]

theorem rewriteEach_eq_self (fixes : Fixes property change) (statements : List Statement)
    (holds : ∀ list ∈ listsInside statements, property list) :
    rewriteEach change statements = statements := by
  cases statements with
  | nil => rfl
  | cons statement rest =>
      rw [listsInside, List.forall_mem_append] at holds
      rw [rewriteEach, statement.rewrite_eq_self fixes holds.1,
        rewriteEach_eq_self fixes rest holds.2]

theorem rewriteArguments_eq_self (fixes : Fixes property change) (arguments : List Attribute)
    (holds : ∀ list ∈ listsInArguments arguments, property list) :
    rewriteArguments change arguments = arguments := by
  cases arguments with
  | nil => rfl
  | cons given rest =>
      rw [listsInArguments, List.forall_mem_append] at holds
      rw [rewriteArguments, given.rewrite_eq_self fixes holds.1,
        rewriteArguments_eq_self fixes rest holds.2]

end

/-- A change that establishes what it leaves alone changes nothing when it is made again. -/
theorem Template.rewrite_rewrite (establishes : Establishes property change)
    (fixes : Fixes property change) (template : Template) :
    (template.rewrite change).rewrite change = template.rewrite change :=
  fixes.of_rewriteEach (rewriteEach_eq_self fixes _)
    (template.forall_lists_rewrite establishes)

end Stencil
