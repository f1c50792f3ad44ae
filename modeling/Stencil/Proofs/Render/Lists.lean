import Stencil.Proofs.Template.Joining
import Stencil.Render.Basic

/-!
# Rendering lists

The text of two lists one after the other is the text of the first and then that of the second, and
joining neighbouring text does not change it.
-/

namespace Stencil

variable {registry : Registry} {callee? : Option Callee} {scope : Scope} {levels : Nat}

/-- The text of two parts, if both have one; the first part fails first. -/
def thenText (front back : Except Halt String) : Except Halt String := do
  let text ← front
  let more ← back
  return text ++ more

theorem thenText_assoc (first second third : Except Halt String) :
    thenText (thenText first second) third = thenText first (thenText second third) := by
  cases first with
  | error halt => rfl
  | ok text =>
      cases second with
      | error halt => rfl
      | ok next =>
          cases third with
          | error halt => rfl
          | ok last =>
              change Except.ok (text ++ next ++ last) = Except.ok (text ++ (next ++ last))
              rw [String.append_assoc]

theorem empty_thenText (back : Except Halt String) : thenText (.ok "") back = back := by
  cases back with
  | error halt => rfl
  | ok text =>
      change Except.ok ("" ++ text) = Except.ok text
      rw [String.empty_append]

theorem thenText_empty (front : Except Halt String) : thenText front (.ok "") = front := by
  cases front with
  | error halt => rfl
  | ok text =>
      change Except.ok (text ++ "") = Except.ok text
      rw [String.append_empty]

theorem ok_append (text more : String) :
    (.ok (text ++ more) : Except Halt String) = thenText (.ok text) (.ok more) :=
  rfl

/-- What stands between two texts. -/
theorem between_eq (outcome : Except Halt String) (front back : String) :
    (do return front ++ (← outcome) ++ back) =
      thenText (thenText (.ok front) outcome) (.ok back) := by
  cases outcome <;> rfl

theorem tag_eq (opening inside : Except Halt String) (name : String) :
    (do
        let opening ← opening
        let inside ← inside
        return "<" ++ name ++ opening ++ ">" ++ inside ++ "</" ++ name ++ ">") =
      thenText (thenText (thenText (.ok ("<" ++ name)) opening) (.ok ">"))
        (thenText inside (.ok ("</" ++ name ++ ">"))) := by
  cases opening with
  | error halt => rfl
  | ok opening =>
      cases inside with
      | error halt => rfl
      | ok inside =>
          change Except.ok ("<" ++ name ++ opening ++ ">" ++ inside ++ "</" ++ name ++ ">") =
            Except.ok ("<" ++ name ++ opening ++ ">" ++ (inside ++ ("</" ++ name ++ ">")))
          simp only [String.append_assoc]

theorem join_mapM_cons (step : Value → Except Halt String) (item : Value) (items : List Value) :
    (do return String.join (← (item :: items).mapM step)) =
      thenText (step item) (do return String.join (← items.mapM step)) := by
  rw [List.mapM_cons]
  cases step item with
  | error halt => rfl
  | ok text =>
      cases items.mapM step with
      | error halt => rfl
      | ok texts =>
          change Except.ok (String.join (text :: texts)) = Except.ok (text ++ String.join texts)
          rw [String.join_cons]

theorem renderAll_cons (statement : Statement) (rest : List Statement) :
    renderAll registry callee? (statement :: rest) scope levels =
      thenText (statement.render registry callee? scope levels)
        (renderAll registry callee? rest scope levels) := by
  rw [renderAll]
  rfl

theorem renderAll_singleton (statement : Statement) :
    renderAll registry callee? [statement] scope levels =
      statement.render registry callee? scope levels := by
  rw [renderAll_cons, renderAll, thenText_empty]

theorem renderAll_append (front back : List Statement) :
    renderAll registry callee? (front ++ back) scope levels =
      thenText (renderAll registry callee? front scope levels)
        (renderAll registry callee? back scope levels) := by
  induction front with
  | nil =>
      rw [List.nil_append, renderAll, empty_thenText]
  | cons statement front ih =>
      rw [List.cons_append, renderAll_cons, renderAll_cons, ih, thenText_assoc]

theorem renderAll_ignoresJoining :
    IgnoresJoining fun statements => renderAll registry callee? statements scope levels where
  merge text next rest := by
    simp only [renderAll_cons, Statement.render]
    rw [← thenText_assoc]
    rfl
  cons := by
    intro statement rest rest' same
    simp only [renderAll_cons, same]

/-- Joining neighbouring text does not change what is rendered. -/
theorem renderAll_joinLiterals (statements : List Statement) :
    renderAll registry callee? (joinLiterals statements) scope levels =
      renderAll registry callee? statements scope levels :=
  renderAll_ignoresJoining.joinLiterals statements

/-- What a template may call depends on how many calls are left, not on the template. -/
theorem Template.exists_renderIn_eq (registry : Registry) (calls : Nat) :
    ∃ callee? : Option Callee, ∀ (template : Template) scope levels,
      template.renderIn registry calls scope levels =
        descend levels fun inner => renderAll registry callee? template scope inner := by
  cases calls with
  | zero => exact ⟨none, fun _ _ _ => rfl⟩
  | succ calls =>
      exact ⟨some fun called => Template.renderIn registry calls called, fun _ _ _ => rfl⟩

/-- A source yields what its template does. -/
theorem renderSource_eq_ok {source text : String} {template : Template} {context : Context}
    (compiled : Template.compile source = .ok template)
    (rendered : template.render context registry = .ok text) :
    renderSource source context registry = .ok text := by
  rw [renderSource, compiled]
  change (Template.render template context registry).mapError TemplateError.render = _
  rw [rendered]
  rfl

end Stencil
