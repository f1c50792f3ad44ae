import Stencil.Proofs.Render.Comparison

/-!
# Raising the limits of rendering

The limits only stop renderings.  A rendering that ends without having reached one ends in the same
way where the limits are higher.
-/

namespace Stencil

/-- Whether a rendering stops because it has reached one of its limits. -/
def Halt.isLimit : Halt → Bool
  | notIterable _ => false
  | callTooDeep _ => true
  | nestingTooDeep => true

theorem Halt.toError_eq_of_not_isLimit {halt : Halt} (other : halt.isLimit = false)
    (limits raised : RenderLimits) : halt.toError limits = halt.toError raised := by
  cases halt with
  | notIterable => rfl
  | callTooDeep | nestingTooDeep => cases other

/-- Two renderings with one registry, the first of which may stop at a limit. -/
def Comparison.raisingLimits (registry : Registry) : Comparison registry registry where
  shared _ := True
  excused halt := halt.isLimit = true
  get?_eq _ := rfl
  within _ _ _ _ := trivial

namespace Template

/-- With more calls and more levels left, the outcome is the same unless a limit is reached. -/
theorem renderIn_raise (registry : Registry) (template : Template) (scope : Scope)
    {calls calls' levels levels' : Nat} (moreCalls : calls ≤ calls')
    (moreLevels : levels ≤ levels') :
    (Comparison.raisingLimits registry).Outcome (template.renderIn registry calls scope levels)
      (template.renderIn registry calls' scope levels') := by
  apply Comparison.renderIn_follows
  · exact .inr ⟨fun _ => rfl, moreCalls⟩
  · intro _ _
    trivial
  · intro _ _
    rfl
  · exact .fewer rfl moreLevels

variable (template : Template) (context : Context) (registry : Registry)
variable {limits raised : RenderLimits}

theorem render_raise (moreCalls : limits.calls ≤ raised.calls)
    (moreNesting : limits.nesting ≤ raised.nesting) :
    template.render context registry limits = template.render context registry raised ∨
      ∃ halt : Halt, halt.isLimit = true ∧
        template.render context registry limits = .error (halt.toError limits) := by
  have outcome := renderIn_raise registry template [context.bindings] moreCalls
    (Nat.succ_le_succ moreNesting)
  unfold render
  generalize template.renderIn registry limits.calls [context.bindings] (limits.nesting + 1) = low,
    template.renderIn registry raised.calls [context.bindings] (raised.nesting + 1) = high
    at outcome ⊢
  cases outcome with
  | @excused halt _ isLimit => exact .inr ⟨halt, isLimit, rfl⟩
  | same =>
      cases low with
      | ok text => exact .inl rfl
      | error halt =>
          -- A failure names its limit, so the same failure at a limit is not the same error.
          cases isLimit : halt.isLimit with
          | true => exact .inr ⟨halt, isLimit, rfl⟩
          | false => exact .inl (congrArg Except.error (halt.toError_eq_of_not_isLimit isLimit _ _))

/-- A rendering has the same outcome under higher limits, or it has reached the limit on calls or
the limit on nesting.  So a text stays that text, and a loop over what is no list stays that
failure. -/
theorem render_eq_or_limit (moreCalls : limits.calls ≤ raised.calls)
    (moreNesting : limits.nesting ≤ raised.nesting) :
    (template.render context registry limits = template.render context registry raised ∨
        (∃ name,
          template.render context registry limits = .error (.callTooDeep name limits.calls)) ∨
        template.render context registry limits = .error (.nestingTooDeep limits.nesting)) ∧
      (∀ text, template.render context registry limits = .ok text →
        template.render context registry raised = .ok text) ∧
      ∀ collection,
        template.render context registry limits = .error (.notIterable collection) →
          template.render context registry raised = .error (.notIterable collection) := by
  rcases template.render_raise context registry moreCalls moreNesting with
    same | ⟨halt, isLimit, stops⟩
  · rw [same]
    exact ⟨.inl rfl, fun _ => id, fun _ => id⟩
  · rw [stops]
    refine ⟨.inr ?_, ?_, ?_⟩
    · cases halt with
      | notIterable => cases isLimit
      | callTooDeep name => exact .inl ⟨name, rfl⟩
      | nestingTooDeep => exact .inr rfl
    · intro text impossible
      cases impossible
    · intro collection same
      cases halt with
      | notIterable => cases isLimit
      | callTooDeep | nestingTooDeep => cases same

/-- A template that calls itself once for every link of a chain. -/
def chainTemplate : Template :=
  [.literal "x", .ifThen "next" [.call "chain" [.bare "next" "next.next"]]]

def chainRegistry : Registry :=
  Registry.empty.insert "chain" chainTemplate

def chainContext : Context :=
  Context.empty.set "next" (.map [("next", .map [("next", .null)])])

theorem render_eq_or_limit_chainTemplate :
    2 ≤ 64 ∧ 4 ≤ 512 ∧
      chainTemplate.render chainContext chainRegistry ⟨2, 4⟩ = .ok "xxx" ∧
      chainTemplate.render chainContext chainRegistry ⟨64, 512⟩ = .ok "xxx" := by
  have rendered : chainTemplate.render chainContext chainRegistry ⟨2, 4⟩ = .ok "xxx" := by
    rfl
  have raised : chainTemplate.render chainContext chainRegistry ⟨64, 512⟩ = .ok "xxx" :=
    (render_eq_or_limit _ _ _ (by decide) (by decide)).2.1 "xxx" rendered
  exact ⟨by decide, by decide, rendered, raised⟩

/-- Lower limits stop the same rendering, each limit with a failure of its own. -/
example :
    chainTemplate.render chainContext chainRegistry ⟨1, 4⟩ = .error (.callTooDeep "chain" 1) ∧
      chainTemplate.render chainContext chainRegistry ⟨2, 3⟩ = .error (.nestingTooDeep 3) :=
  ⟨rfl, rfl⟩

end Template

end Stencil
