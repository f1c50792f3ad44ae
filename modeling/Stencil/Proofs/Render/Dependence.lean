import Stencil.Proofs.Render.Comparison

/-!
# What a rendering depends on

A rendering may ask for what is written in its template, and in every template that it may come to
through calls, which can lead back to where they began.  So registries that agree on the templates
it may come to, and contexts that agree on the names that are mentioned in them, yield the same
rendering.
-/

namespace Stencil

/-- What a rendering may ask for: what its template uses, and what a registered template uses under
a name that it may ask for. -/
inductive Registry.Reaches (registry : Registry) (template : Template) : Use → Prop where
  | own {use : Use} : use ∈ usesAll template → Reaches registry template use
  | called {name : String} {other : Template} {use : Use} :
      Reaches registry template (.template name) → registry.get? name = some other →
      use ∈ usesAll other → Reaches registry template use

/-- A name is mentioned where a value is asked for, in a template or in any that is registered. -/
def Registry.Mentions (registry : Registry) (template : Template) (name : String) : Prop :=
  .value name ∈ usesAll template ∨
    ∃ called other, registry.get? called = some other ∧ .value name ∈ usesAll other

variable {registry registry' : Registry} {template : Template}

namespace Registry.Reaches

/-- What is reached is the least that includes what the template uses and is closed under calls. -/
theorem least {included : Use → Prop} (own : ∀ use ∈ usesAll template, included use)
    (closed : ∀ name other, included (.template name) → registry.get? name = some other →
      ∀ use ∈ usesAll other, included use) {use : Use}
    (reached : registry.Reaches template use) : included use := by
  induction reached with
  | own isUsed => exact own _ isUsed
  | called _ registered isUsed ih =>
      exact closed _ _ ih registered _ isUsed

/-- A value that is reached is mentioned, in a template that calls lead to if not in the first. -/
theorem mentions {name : String} (reached : registry.Reaches template (.value name)) :
    registry.Mentions template name := by
  cases reached with
  | own isUsed => exact .inl isUsed
  | called _ registered isUsed => exact .inr ⟨_, _, registered, isUsed⟩

end Registry.Reaches

/-- Two registries that have the same templates under all names that are reached. -/
def Comparison.ofReaches (template : Template)
    (same : ∀ name, registry.Reaches template (.template name) →
      registry.get? name = registry'.get? name) : Comparison registry registry' where
  shared := registry.Reaches template
  excused _ := False
  get?_eq reached := same _ reached
  within reached registered _ isUsed := .called reached registered isUsed

namespace Template

variable {context context' : Context} {limits : RenderLimits}

/-- A rendering is determined by the templates and the values that are reached. -/
theorem render_congr
    (sameTemplates : ∀ name, registry.Reaches template (.template name) →
      registry.get? name = registry'.get? name)
    (sameValues : ∀ name, registry.Reaches template (.value name) →
      context.get? name = context'.get? name) :
    template.render context registry limits = template.render context' registry' limits := by
  apply (Comparison.ofReaches template sameTemplates).render_eq
  · intro halt impossible
    exact impossible
  · intro use isUsed
    exact .own isUsed
  · exact sameValues

/-- Registering a template under a name that is not reached changes no rendering. -/
theorem render_insert_of_not_reaches {name : String} (other : Template)
    (notReached : ¬ registry.Reaches template (.template name)) :
    template.render context (registry.insert name other) limits =
      template.render context registry limits := by
  symm
  apply render_congr
  · intro reachedName reached
    have different : name ≠ reachedName := by
      intro same
      subst reachedName
      exact notReached reached
    exact (Registry.get?_insert_of_ne registry other different).symm
  · intro _ _
    rfl

/-- A rendering depends only on the templates under the names that are reached.  So it does not
matter what is registered under any other name, or whether anything is. -/
theorem render_eq_of_same_reached (template : Template) (context : Context) (registry : Registry)
    (limits : RenderLimits) :
    (∀ registry' : Registry,
        (∀ name, registry.Reaches template (.template name) →
          registry.get? name = registry'.get? name) →
        template.render context registry limits = template.render context registry' limits) ∧
      ∀ name other, ¬ registry.Reaches template (.template name) →
        template.render context (registry.insert name other) limits =
          template.render context registry limits := by
  constructor
  · intro registry' same
    apply render_congr same
    intro _ _
    rfl
  · intro name other notReached
    exact render_insert_of_not_reaches other notReached

/-- A call, with something else to call in what it encloses. -/
def treeTemplate : Template :=
  [.call "node" [.captured "children" [.call "leaf" []]]]

/-- Two templates that call each other as long as there are children, in a loop and in an
attribute. -/
def treeRegistry : Registry :=
  (Registry.empty.insert "node"
    [.literal "(", .each "nodes" "inner" [.call "leaf" [.bare "nodes" "inner"]],
      .interpolation "children", .literal ")"]).insert "leaf"
    [.ifThen "nodes.more" [.call "box" [.quoted "title" [.call "node" []]]], .literal "."]

def treeContext : Context :=
  Context.empty.set "nodes" (.array [.string "a", .string "b"])

theorem not_reaches_treeTemplate : ¬ treeRegistry.Reaches treeTemplate (.template "page") := by
  intro reached
  have listed : Use.template "page" ∈ ([.template "node", .template "leaf", .template "box",
      .value "nodes", .value "inner", .value "children", .value "nodes.more"] : List Use) := by
    apply Registry.Reaches.least _ _ reached
    · decide
    · intro name other isListed registered
      simp at isListed
      rcases isListed with rfl | rfl | rfl
      · cases registered
        decide
      · cases registered
        decide
      · cases registered
  revert listed
  decide

theorem render_eq_of_same_reached_treeTemplate :
    (∀ name, treeRegistry.Reaches treeTemplate (.template name) →
        treeRegistry.get? name = (treeRegistry.insert "page" treeTemplate).get? name) ∧
      ¬ treeRegistry.Reaches treeTemplate (.template "page") ∧
      treeTemplate.render treeContext treeRegistry = .ok "(...)" ∧
      treeTemplate.render treeContext (treeRegistry.insert "page" treeTemplate) = .ok "(...)" ∧
      treeTemplate.render treeContext (treeRegistry.insert "page" []) = .ok "(...)" := by
  have same : ∀ name, treeRegistry.Reaches treeTemplate (.template name) →
      treeRegistry.get? name = (treeRegistry.insert "page" treeTemplate).get? name := by
    intro name reached
    have different : "page" ≠ name := by
      intro isPage
      subst isPage
      exact not_reaches_treeTemplate reached
    exact (Registry.get?_insert_of_ne treeRegistry treeTemplate different).symm
  have rendered : treeTemplate.render treeContext treeRegistry = .ok "(...)" := by
    rfl
  have depends := render_eq_of_same_reached treeTemplate treeContext treeRegistry {}
  exact ⟨same, not_reaches_treeTemplate, rendered, (depends.1 _ same).symm.trans rendered,
    (depends.2 "page" [] not_reaches_treeTemplate).trans rendered⟩

/-- A rendering depends only on the values under the names that are mentioned in the template or in
a registered one.  A path is mentioned by its first name, a condition also as a whole, and a bare
word in a tag is no path. -/
theorem render_eq_of_same_mentioned
    (same : ∀ name, registry.Mentions template name → context.get? name = context'.get? name)
    (limits : RenderLimits) :
    template.render context registry limits = template.render context' registry limits := by
  apply render_congr
  · intro _ _
    rfl
  · intro name reached
    exact same name reached.mentions

/-- A template with a bare word in a tag, and with a condition that is a path. -/
def badgeTemplate : Template :=
  [.tag "a" [.literal " ", .assignment (.bare "target" "blank")] [.interpolation "user.name"],
    .ifThen "user.admin" [.call "badge" [.bare "who" "user"]]]

/-- A registry with a template that shows what it is given, and a list. -/
def badgeRegistry : Registry :=
  Registry.empty.insert "badge"
    [.interpolation "who.name", .each "signs" "sign" [.interpolation "sign"]]

def badgeContext : Context :=
  (Context.empty.set "user" (.map [("admin", .bool true), ("name", .string "Sam")])).set "signs"
    (.array [.string "!", .string "?"])

theorem render_eq_of_same_mentioned_badgeTemplate :
    (∀ name, badgeRegistry.Mentions badgeTemplate name →
        badgeContext.get? name = (badgeContext.set "blank" (.string "none")).get? name) ∧
      badgeTemplate.render badgeContext badgeRegistry =
        .ok "<a target=\"blank\">Sam</a>Sam!?" ∧
      badgeTemplate.render (badgeContext.set "blank" (.string "none")) badgeRegistry =
        .ok "<a target=\"blank\">Sam</a>Sam!?" := by
  have same : ∀ name, badgeRegistry.Mentions badgeTemplate name →
      badgeContext.get? name = (badgeContext.set "blank" (.string "none")).get? name := by
    intro name mentioned
    have different : "blank" ≠ name := by
      intro isBlank
      subst isBlank
      cases mentioned with
      | inl isUsed =>
          revert isUsed
          decide
      | inr inRegistry =>
          rcases inRegistry with ⟨called, other, registered, isUsed⟩
          simp [badgeRegistry, Registry.get?, Registry.insert, Registry.empty, Bindings.set,
            Bindings.get?] at registered
          rcases registered with ⟨rfl, rfl⟩
          revert isUsed
          decide
    exact (Context.get?_set_of_ne badgeContext (.string "none") different).symm
  have rendered : badgeTemplate.render badgeContext badgeRegistry =
      .ok "<a target=\"blank\">Sam</a>Sam!?" := by
    rfl
  exact ⟨same, rendered, (render_eq_of_same_mentioned same {}).symm.trans rendered⟩

end Template

end Stencil
