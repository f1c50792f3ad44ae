import Mathlib.Data.List.Forall2
import Stencil.Proofs.Print.RoundTrip
import Stencil.Proofs.Render.Flat
import Stencil.Proofs.Render.Lists

/-!
# Calls as renderings of their own

What a call is given can be rendered beforehand, and then the called template can be rendered by
itself, in a context that binds the names of the attributes to what they stand for.  So a call may
be replaced by the template that it calls.
-/

namespace Stencil

namespace Context

/-- Bind some names in order, each in place of the value that it may have had. -/
def setAll (context : Context) (entries : List (String × Value)) : Context :=
  entries.foldl (fun context entry => context.set entry.1 entry.2) context

theorem bindings_setAll (context : Context) (entries : List (String × Value)) :
    (context.setAll entries).bindings = Environment.extend context.bindings entries := by
  induction entries generalizing context with
  | nil => rfl
  | cons entry rest ih => exact ih (context.set entry.1 entry.2)

/-- The last value for a name counts, and a name without one keeps the value that it had. -/
theorem get?_setAll (context : Context) (entries : List (String × Value)) (name : String) :
    (context.setAll entries).get? name =
      (entries.reverse.lookup name).or (context.get? name) := by
  induction entries using List.reverseRecOn with
  | nil => rfl
  | append_singleton entries entry ih =>
      rw [setAll, List.foldl_append, List.foldl_cons, List.foldl_nil, ← setAll,
        List.reverse_append, List.reverse_singleton, List.singleton_append, List.lookup_cons]
      by_cases same : entry.1 = name
      · simp [same]
      · have other : (name == entry.1) = false := by simp [Ne.symm same]
        rw [get?_set_of_ne _ _ same, ih, other]

end Context

/-- The binding that an attribute of a call makes: a bare word is a path in the context and stands
for null if it leads nowhere, and a body stands for its text. -/
def Attribute.bindingIn (given : Attribute) (context : Context) (registry : Registry)
    (limits : RenderLimits) : Except RenderError (String × Value) :=
  match given with
  | .bare name path => .ok (name, (Environment.lookup? context.bindings path).getD .null)
  | .quoted name body | .captured name body =>
    (Template.render body context registry limits).map fun text => (name, .string text)

/-- The attributes of a call make these bindings in a context, each attribute by itself. -/
def ArgumentsBind (arguments : List Attribute) (context : Context) (registry : Registry)
    (limits : RenderLimits) (entries : List (String × Value)) : Prop :=
  List.Forall₂ (fun given entry => given.bindingIn context registry limits = .ok entry) arguments
    entries

variable {registry : Registry} {context : Context} {calls nesting : Nat}

theorem bind_eq_ok_iff {α β ε : Type} (outcome : Except ε α) (next : α → Except ε β)
    (result : β) :
    (outcome >>= next) = .ok result ↔ ∃ value, outcome = .ok value ∧ next value = .ok result := by
  cases outcome <;> simp [bind, Except.bind]

theorem map_eq_ok_iff {α β ε : Type} (outcome : Except ε α) (wrap : α → β) (result : β) :
    outcome.map wrap = .ok result ↔ ∃ value, outcome = .ok value ∧ wrap value = result := by
  cases outcome <;> simp [Except.map]

/-- Around a call there is only the context, and one level is left less than in front of the
call. -/
theorem Attribute.bind_eq_ok_iff_bindingIn (given : Attribute) (entry : String × Value) :
    given.bind registry (some fun called => Template.renderIn registry calls called)
        [context.bindings] (nesting + 1) = .ok entry ↔
      given.bindingIn context registry ⟨calls + 1, nesting⟩ = .ok entry := by
  cases given with
  | bare name path =>
      rw [Attribute.bind, bindingIn, (Agree.root context.bindings).lookup?_eq, Except.ok.injEq,
        Except.ok.injEq]
  | quoted name body | captured name body =>
      simp only [Attribute.bind, bindingIn, bind_eq_ok_iff, map_eq_ok_iff, Template.render,
        mapError_eq_ok]
      apply exists_congr
      intro text
      exact and_congr Iff.rfl ⟨Except.ok.inj, congrArg Except.ok⟩

theorem bindAll_eq_ok_iff (arguments : List Attribute) (entries : List (String × Value)) :
    bindAll registry (some fun called => Template.renderIn registry calls called) arguments
        [context.bindings] (nesting + 1) = .ok entries ↔
      ArgumentsBind arguments context registry ⟨calls + 1, nesting⟩ entries := by
  unfold ArgumentsBind
  induction arguments generalizing entries with
  | nil =>
      rw [bindAll, List.forall₂_nil_left_iff, Except.ok.injEq, eq_comm]
  | cons given rest ih =>
      simp only [bindAll, bind_eq_ok_iff, Attribute.bind_eq_ok_iff_bindingIn, ih,
        List.forall₂_cons_left_iff]
      constructor
      · rintro ⟨entry, first, more, others, same⟩
        cases same
        exact ⟨entry, more, first, others, rfl⟩
      · rintro ⟨entry, more, first, others, rfl⟩
        exact ⟨entry, first, more, others, rfl⟩

namespace Template

/-- A template is rendered in the same way whether the bindings of its call are in front of the
context or in it. -/
theorem renderIn_setAll (template : Template) (entries : List (String × Value)) (levels : Nat) :
    template.renderIn registry calls [Bindings.ofList entries, context.bindings] levels =
      template.renderIn registry calls [(context.setAll entries).bindings] levels := by
  rw [Context.bindings_setAll]
  have root := Agree.root context.bindings
  have inFront := renderFlatIn_eq registry calls template _ _ levels (root.extend entries)
  have inContext := renderFlatIn_eq registry calls template _ _ levels
    (Agree.root (Environment.extend context.bindings entries))
  exact inFront.symm.trans inContext

variable {name : String} {template : Template}

theorem renderIn_call_eq_ok_iff (registered : registry.get? name = some template)
    (arguments : List Attribute) (text : String) :
    Template.renderIn registry (calls + 1) [.call name arguments] [context.bindings]
        (nesting + 2) = .ok text ↔
      ∃ entries,
        bindAll registry (some fun called => Template.renderIn registry calls called) arguments
            [context.bindings] (nesting + 1) = .ok entries ∧
          template.renderIn registry calls [Bindings.ofList entries, context.bindings]
            (nesting + 1) = .ok text := by
  change renderAll registry _ [Statement.call name arguments] _ (nesting + 1) = _ ↔ _
  rw [renderAll_cons, renderAll, thenText_empty, Statement.render, registered]
  exact bind_eq_ok_iff _ _ text

/-- A call yields a text exactly if every attribute can be rendered by itself in the context of the
call, one level deeper, and the called template yields that text with one call less and one level
less, in the context in which the attributes are bound in order.  There the last value for a name
counts, and so what a call encloses counts before an attribute of that name. -/
theorem render_call_eq_ok_iff (registered : registry.get? name = some template)
    (arguments : List Attribute) (context : Context) (calls nesting : Nat) :
    (∀ text,
        render [.call name arguments] context registry ⟨calls + 1, nesting + 1⟩ = .ok text ↔
          ∃ entries, ArgumentsBind arguments context registry ⟨calls + 1, nesting⟩ entries ∧
            template.render (context.setAll entries) registry ⟨calls, nesting⟩ = .ok text) ∧
      (∀ entries other, (context.setAll entries).get? other =
        (entries.reverse.lookup other).or (context.get? other)) ∧
      ∀ given body entries, arguments = given ++ [.captured Attribute.capturedName body] →
        ArgumentsBind arguments context registry ⟨calls + 1, nesting⟩ entries →
          ∃ text, render body context registry ⟨calls + 1, nesting⟩ = .ok text ∧
            (context.setAll entries).get? Attribute.capturedName = some (.string text) := by
  refine ⟨?_, context.get?_setAll, ?_⟩
  · intro text
    simp only [render, mapError_eq_ok, ← renderIn_setAll, ← bindAll_eq_ok_iff]
    exact renderIn_call_eq_ok_iff registered arguments text
  · rintro given body entries rfl bound
    rw [ArgumentsBind, ← List.forall₂_reverse_iff, List.reverse_append, List.reverse_singleton,
      List.singleton_append, List.forall₂_cons_left_iff] at bound
    rcases bound with ⟨entry, others, captured, -, isLast⟩
    rcases (map_eq_ok_iff _ _ entry).mp captured with ⟨text, rendered, rfl⟩
    refine ⟨text, rendered, ?_⟩
    rw [context.get?_setAll, isLast, List.lookup_cons_self, Option.some_or]

/-- A template that shows what its call encloses and two attributes. -/
def boxTemplate : Template :=
  [.tag "div" [] [.interpolation "children"], .interpolation "who", .interpolation "label"]

def boxRegistry : Registry :=
  Registry.empty.insert "box" boxTemplate

def boxContext : Context :=
  (Context.empty.set "inner" (.string "given")).set "who" (.string "caller")

/-- The attributes of a call that gives a name anew, and of which one has the name of what the call
encloses. -/
def boxArguments : List Attribute :=
  [.bare "who" "inner", .quoted "label" [.interpolation "who"],
    .quoted "children" [.literal "hidden"], .captured "children" [.interpolation "who"]]

/-- No attribute sees another one: only the called template sees the name that is given anew. -/
theorem render_call_eq_ok_iff_boxTemplate :
    boxRegistry.get? "box" = some boxTemplate ∧
      render [.call "box" boxArguments] boxContext boxRegistry ⟨1, 2⟩ =
        .ok "<div>caller</div>givencaller" := by
  have registered : boxRegistry.get? "box" = some boxTemplate := rfl
  have bound : ArgumentsBind boxArguments boxContext boxRegistry ⟨1, 1⟩
      [("who", .string "given"), ("label", .string "caller"), ("children", .string "hidden"),
        ("children", .string "caller")] :=
    .cons rfl (.cons rfl (.cons rfl (.cons rfl .nil)))
  have inlined := (render_call_eq_ok_iff registered boxArguments boxContext 0 1).1
  exact ⟨registered, (inlined _).mpr ⟨_, bound, rfl⟩⟩

end Template

end Stencil
