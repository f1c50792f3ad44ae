import Stencil.Template.Basic

/-!
# Lists whose text is joined

Many views of a list of statements, such as its text or how deep it is nested, are the same before
and after neighbouring text is joined.  Such a view does not see whether two texts at the front of a
list are one or two, and puts together what it sees of a statement and of the list behind it.
-/

namespace Stencil

universe u

/-- A view of lists of statements that is the same whether neighbouring text is joined or not. -/
structure IgnoresJoining {α : Sort u} (view : List Statement → α) : Prop where
  /-- Two texts at the front may be one. -/
  merge : ∀ text next rest,
    view (.literal (text ++ next) :: rest) = view (.literal text :: .literal next :: rest)
  /-- Only the view of the list behind the first statement counts. -/
  cons : ∀ statement {rest rest'}, view rest = view rest' →
    view (statement :: rest) = view (statement :: rest')

namespace IgnoresJoining

variable {α : Sort u} {view : List Statement → α}

theorem joinTo (ignores : IgnoresJoining view) (statement : Statement) (rest : List Statement) :
    view (statement.joinTo rest) = view (statement :: rest) := by
  unfold Statement.joinTo
  split
  next text next rest => exact ignores.merge text next rest
  next => rfl

theorem joinLiterals (ignores : IgnoresJoining view) (statements : List Statement) :
    view (joinLiterals statements) = view statements := by
  induction statements with
  | nil => rfl
  | cons statement rest ih =>
      change view (statement.joinTo (Stencil.joinLiterals rest)) = _
      rw [ignores.joinTo]
      exact ignores.cons statement ih

end IgnoresJoining

/-- A statement that is text. -/
def Statement.IsText (statement : Statement) : Prop :=
  ∃ text, statement = .literal text

theorem Statement.joinTo_eq_cons {statement : Statement} (other : ¬ statement.IsText)
    (rest : List Statement) : statement.joinTo rest = statement :: rest := by
  cases statement with
  | literal text => exact absurd ⟨text, rfl⟩ other
  | _ => rfl

theorem Statement.joinTo_cons_eq_cons {next : Statement} (other : ¬ next.IsText)
    (statement : Statement) (rest : List Statement) :
    statement.joinTo (next :: rest) = statement :: next :: rest := by
  cases next with
  | literal text => exact absurd ⟨text, rfl⟩ other
  | _ => cases statement <;> rfl

/-- A template and then another one, joined where both have text. -/
def Template.followedBy (front back : Template) : Template :=
  match front.getLast?, back with
  | some (.literal text), .literal next :: rest => front.dropLast ++ .literal (text ++ next) :: rest
  | _, _ => front ++ back

namespace Template

theorem nil_followedBy (back : Template) : followedBy [] back = back :=
  rfl

theorem singleton_followedBy (statement : Statement) (back : Template) :
    followedBy [statement] back = statement.joinTo back := by
  unfold followedBy Statement.joinTo
  cases back with
  | nil => cases statement <;> rfl
  | cons next rest => cases statement <;> cases next <;> rfl

theorem cons_cons_followedBy (first second : Statement) (rest back : Template) :
    followedBy (first :: second :: rest) back = first :: followedBy (second :: rest) back := by
  unfold followedBy
  rw [List.getLast?_cons_cons]
  split
  next text next others isLast => rfl
  next => rfl

theorem cons_followedBy {first : Statement} (other : ¬ first.IsText) (rest back : Template) :
    followedBy (first :: rest) back = first :: followedBy rest back := by
  cases rest with
  | nil => rw [singleton_followedBy, Statement.joinTo_eq_cons other, nil_followedBy]
  | cons second rest => exact cons_cons_followedBy first second rest back

theorem joinTo_joinTo (text next : String) (back : Template) :
    (Statement.literal text).joinTo ((Statement.literal next).joinTo back) =
      (Statement.literal (text ++ next)).joinTo back := by
  cases back with
  | nil => rfl
  | cons first rest =>
      cases first with
      | literal last => simp only [Statement.joinTo, String.append_assoc]
      | _ => rfl

/-- It does not matter whether a statement is put in front before or after. -/
theorem joinTo_followedBy (statement : Statement) (front back : Template) :
    followedBy (statement.joinTo front) back = statement.joinTo (front.followedBy back) := by
  by_cases isText : statement.IsText
  · rcases isText with ⟨text, rfl⟩
    match front with
    | [] => exact singleton_followedBy (.literal text) back
    | next :: rest =>
        by_cases nextIsText : next.IsText
        · rcases nextIsText with ⟨more, rfl⟩
          change followedBy (.literal (text ++ more) :: rest) back = _
          cases rest with
          | nil => rw [singleton_followedBy, singleton_followedBy, joinTo_joinTo]
          | cons second rest =>
              rw [cons_cons_followedBy, cons_cons_followedBy]
              rfl
        · rw [Statement.joinTo_cons_eq_cons nextIsText, cons_cons_followedBy,
            cons_followedBy nextIsText, Statement.joinTo_cons_eq_cons nextIsText]
  · rw [Statement.joinTo_eq_cons isText, Statement.joinTo_eq_cons isText, cons_followedBy isText]

theorem joinLiterals_append (front back : List Statement) :
    joinLiterals (front ++ back) = followedBy (joinLiterals front) (joinLiterals back) := by
  induction front with
  | nil => rfl
  | cons statement front ih =>
      change statement.joinTo (joinLiterals (front ++ back)) = _
      rw [ih, ← joinTo_followedBy]
      rfl

end Template

theorem IgnoresJoining.followedBy {α : Sort u} {view : List Statement → α}
    (ignores : IgnoresJoining view) (front back : Template) :
    view (front.followedBy back) = view (front ++ back) := by
  induction front with
  | nil => rfl
  | cons statement front ih =>
      cases front with
      | nil =>
          rw [Template.singleton_followedBy]
          exact ignores.joinTo statement back
      | cons second rest =>
          rw [Template.cons_cons_followedBy]
          exact ignores.cons statement ih

end Stencil
