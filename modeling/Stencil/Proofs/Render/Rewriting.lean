import Stencil.Proofs.Render.Lists
import Stencil.Proofs.Template.Rewriting

/-!
# Rendering a changed template

If a change of a list of statements does not change what the list renders to, then neither does it
change what a template renders to when it is carried out on all lists of the template.

Calls of names that are not registered are such statements that may go from a list: they render
nothing, whatever they are given, and the limits are not asked before.
-/

namespace Stencil

variable {registry : Registry} {callee? : Option Callee} {change : List Statement → List Statement}

/-- A list and the changed list are rendered alike, in every scope and with all levels left. -/
def KeepsRendering (registry : Registry) (callee? : Option Callee)
    (change : List Statement → List Statement) : Prop :=
  ∀ statements scope levels, renderAll registry callee? (change statements) scope levels =
    renderAll registry callee? statements scope levels

mutual

theorem Statement.render_rewrite (keeps : KeepsRendering registry callee? change)
    (statement : Statement) (scope : Scope) (levels : Nat) :
    (statement.rewrite change).render registry callee? scope levels =
      statement.render registry callee? scope levels := by
  cases statement with
  | literal | interpolation => rfl
  | assignment given => exact given.render_rewrite keeps scope levels
  | quoted body =>
      simp only [Statement.rewrite, Statement.render, keeps _, renderAll_rewriteEach keeps body]
  | tag name attributes content =>
      simp only [Statement.rewrite, Statement.render, keeps _,
        renderAll_rewriteEach keeps attributes, renderAll_rewriteEach keeps content]
  | emptyTag name attributes =>
      simp only [Statement.rewrite, Statement.render, keeps _,
        renderAll_rewriteEach keeps attributes]
  | ifThen condition body =>
      simp only [Statement.rewrite, Statement.render, keeps _, renderAll_rewriteEach keeps body]
  | ifThenElse condition body alternative =>
      simp only [Statement.rewrite, Statement.render, keeps _, renderAll_rewriteEach keeps body,
        renderAll_rewriteEach keeps alternative]
  | each collection item body =>
      simp only [Statement.rewrite, Statement.render, keeps _, renderAll_rewriteEach keeps body]
  | call name given =>
      simp only [Statement.rewrite, Statement.render, bindAll_rewriteArguments keeps given]

theorem Attribute.render_rewrite (keeps : KeepsRendering registry callee? change)
    (given : Attribute) (scope : Scope) (levels : Nat) :
    (given.rewrite change).render registry callee? scope levels =
      given.render registry callee? scope levels := by
  cases given with
  | bare name value => rfl
  | quoted name body | captured name body =>
      simp only [Attribute.rewrite, Attribute.render, keeps _, renderAll_rewriteEach keeps body]

theorem renderAll_rewriteEach (keeps : KeepsRendering registry callee? change)
    (statements : List Statement) (scope : Scope) (levels : Nat) :
    renderAll registry callee? (rewriteEach change statements) scope levels =
      renderAll registry callee? statements scope levels := by
  cases statements with
  | nil => rfl
  | cons statement rest =>
      rw [rewriteEach, renderAll_cons, renderAll_cons, statement.render_rewrite keeps,
        renderAll_rewriteEach keeps rest]

theorem Attribute.bind_rewrite (keeps : KeepsRendering registry callee? change)
    (given : Attribute) (scope : Scope) (levels : Nat) :
    (given.rewrite change).bind registry callee? scope levels =
      given.bind registry callee? scope levels := by
  cases given with
  | bare name path => rfl
  | quoted name body | captured name body =>
      simp only [Attribute.rewrite, Attribute.bind, keeps _, renderAll_rewriteEach keeps body]

theorem bindAll_rewriteArguments (keeps : KeepsRendering registry callee? change)
    (arguments : List Attribute) (scope : Scope) (levels : Nat) :
    bindAll registry callee? (rewriteArguments change arguments) scope levels =
      bindAll registry callee? arguments scope levels := by
  cases arguments with
  | nil => rfl
  | cons given rest =>
      rw [rewriteArguments, bindAll, bindAll, given.bind_rewrite keeps,
        bindAll_rewriteArguments keeps rest]

end

/-- A template may be changed in all its lists if no list is rendered differently. -/
theorem Template.render_rewrite (template : Template)
    (keeps : ∀ callee?, KeepsRendering registry callee? change) (context : Context)
    (limits : RenderLimits) :
    (template.rewrite change).render context registry limits =
      template.render context registry limits := by
  rcases exists_renderIn_eq registry limits.calls with ⟨callee?, renderIn_eq⟩
  simp only [render, renderIn_eq, rewrite, keeps callee? _,
    renderAll_rewriteEach (keeps callee?) template]

/-- A statement is a call of a name that is not registered. -/
def Statement.isUnregistered (registry : Registry) : Statement → Bool
  | .call name _ => !registry.contains name
  | _ => false

/-- The statements that are no calls of names that are not registered. -/
def dropUnregistered (registry : Registry) (statements : List Statement) : List Statement :=
  statements.filter fun statement => !statement.isUnregistered registry

/-- The template without the calls of names that are not registered, at every depth. -/
def Template.withoutUnregistered (registry : Registry) (template : Template) : Template :=
  template.rewrite (dropUnregistered registry)

/-- A call of a name that is not registered renders nothing, whether or not a call is left and
whatever it is given. -/
theorem Statement.render_of_isUnregistered {statement : Statement}
    (unregistered : statement.isUnregistered registry = true) (scope : Scope) (levels : Nat) :
    statement.render registry callee? scope levels = .ok "" := by
  cases statement with
  | call name given =>
      have missing : registry.get? name = none := by
        simpa [isUnregistered, Registry.contains] using unregistered
      rw [Statement.render, missing]
  | _ => cases unregistered

theorem keepsRendering_dropUnregistered (registry : Registry) (callee? : Option Callee) :
    KeepsRendering registry callee? (dropUnregistered registry) := by
  intro statements scope levels
  unfold dropUnregistered
  induction statements with
  | nil => rfl
  | cons statement rest ih =>
      rw [renderAll_cons, List.filter_cons]
      by_cases unregistered : statement.isUnregistered registry = true
      · rw [Statement.render_of_isUnregistered unregistered, empty_thenText, unregistered]
        exact ih
      · rw [eq_false_of_ne_true unregistered, ← ih]
        exact renderAll_cons statement _

theorem establishes_dropUnregistered (registry : Registry) :
    Establishes (fun statements => ∀ statement ∈ statements,
      statement.isUnregistered registry = false) (dropUnregistered registry) where
  holds statements := by
    intro statement isIn
    simpa using (List.mem_filter.mp isIn).2
  noNewLists statements := by
    intro statement isIn
    exact .inl (List.mem_filter.mp isIn).1

/-- Calls of names that are not registered do not matter.  Without them the template, in which no
list has such a call any more, is rendered as before, to the same text or with the same failure.
So nothing that such a call is given or encloses is ever rendered, not even where a limit is
reached. -/
theorem Template.render_withoutUnregistered (template : Template) (context : Context)
    (registry : Registry) (limits : RenderLimits) :
    (∀ list ∈ (template.withoutUnregistered registry).lists, ∀ statement ∈ list,
        statement.isUnregistered registry = false) ∧
      (template.withoutUnregistered registry).render context registry limits =
        template.render context registry limits := by
  constructor
  · exact template.forall_lists_rewrite (establishes_dropUnregistered registry)
  · exact template.render_rewrite (keepsRendering_dropUnregistered registry) context limits

/-- Calls of a name that is not registered: around a loop over nothing and a call of its own name,
in an attribute of a tag, and in what a registered template is called with. -/
def strayTemplate : Template :=
  [.emptyTag "a" [.assignment (.quoted "b"
      [.call "none" [.captured "children" [.each "x" "y" [], .call "none" []]]])],
    .call "box" [.captured "children" [.call "none" [], .literal "."]]]

def strayRegistry : Registry :=
  Registry.empty.insert "box" [.quoted [.call "none" [], .interpolation "children"]]

/-- The limits are those that the template reaches without these calls. -/
theorem Template.render_withoutUnregistered_strayTemplate :
    strayTemplate.withoutUnregistered strayRegistry =
        [.emptyTag "a" [.assignment (.quoted "b" [])],
          .call "box" [.captured "children" [.literal "."]]] ∧
      (strayTemplate.withoutUnregistered strayRegistry).render Context.empty strayRegistry ⟨1, 2⟩ =
        .ok "<ab=\"\"/>." ∧
      strayTemplate.render Context.empty strayRegistry ⟨1, 2⟩ = .ok "<ab=\"\"/>." := by
  have rendered : (strayTemplate.withoutUnregistered strayRegistry).render Context.empty
      strayRegistry ⟨1, 2⟩ = .ok "<ab=\"\"/>." := rfl
  have same := (render_withoutUnregistered strayTemplate Context.empty strayRegistry ⟨1, 2⟩).2
  exact ⟨rfl, rendered, same.symm.trans rendered⟩

end Stencil
