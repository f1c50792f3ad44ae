import Mathlib.Data.List.Chain
import Mathlib.Data.List.Induction
import Stencil.Proofs.Render.Rewriting

/-!
# Text that was put together late

A reader joins text as it reads: each statement goes behind the statements that are there, and text
behind text becomes part of it.  The same can be done with every list of a template that was made in
another way.  Then no two texts stand together anywhere, nothing is left to join, and the template
still renders to what it did.
-/

namespace Stencil

/-- Put a statement behind a template; text joins text that the template ends with. -/
def Template.push (template : Template) (statement : Statement) : Template :=
  template.followedBy [statement]

/-- The statements of a list, put one behind the other. -/
def pushAll (statements : List Statement) : List Statement :=
  statements.foldl Template.push []

/-- It does not matter from which end text is joined. -/
theorem pushAll_eq_joinLiterals (statements : List Statement) :
    pushAll statements = joinLiterals statements := by
  induction statements using List.reverseRecOn with
  | nil => rfl
  | append_singleton statements statement ih =>
      have alone : joinLiterals [statement] = [statement] := by
        cases statement <;> rfl
      rw [Template.joinLiterals_append, alone, ← ih, pushAll, List.foldl_append]
      rfl

def IsJoined (statements : List Statement) : Prop :=
  statements.IsChain fun statement next => ¬ (statement.IsText ∧ next.IsText)

theorem IsJoined.joinTo {statements : List Statement} (joined : IsJoined statements)
    (statement : Statement) : IsJoined (statement.joinTo statements) := by
  unfold Statement.joinTo
  split
  next text next rest =>
    rw [IsJoined, List.isChain_cons] at joined ⊢
    exact ⟨fun other isNext both => joined.1 other isNext ⟨⟨next, rfl⟩, both.2⟩, joined.2⟩
  next notBoth =>
    refine List.isChain_cons.mpr ⟨?_, joined⟩
    rintro next isNext ⟨⟨text, rfl⟩, ⟨more, rfl⟩⟩
    rcases List.head?_eq_some_iff.mp isNext with ⟨rest, rfl⟩
    exact notBoth text more rest rfl rfl

theorem isJoined_joinLiterals (statements : List Statement) :
    IsJoined (joinLiterals statements) := by
  induction statements with
  | nil => exact .nil
  | cons statement rest ih => exact ih.joinTo statement

theorem Statement.joinTo_of_isJoined {statement : Statement} {rest : List Statement}
    (joined : IsJoined (statement :: rest)) : statement.joinTo rest = statement :: rest := by
  unfold joinTo
  split
  next text next rest =>
    exact absurd ⟨⟨text, rfl⟩, ⟨next, rfl⟩⟩ (List.isChain_cons_cons.mp joined).1
  next => rfl

theorem joinLiterals_of_isJoined {statements : List Statement} (joined : IsJoined statements) :
    joinLiterals statements = statements := by
  induction statements with
  | nil => rfl
  | cons statement rest ih =>
      change statement.joinTo (joinLiterals rest) = _
      rw [ih joined.tail, Statement.joinTo_of_isJoined joined]

/-- A joined list has the statements it had, except for text. -/
theorem mem_or_isText_of_mem_joinLiterals {statement : Statement} {statements : List Statement}
    (isIn : statement ∈ joinLiterals statements) : statement ∈ statements ∨ statement.IsText := by
  induction statements with
  | nil => exact .inl isIn
  | cons first rest ih =>
      change statement ∈ first.joinTo (joinLiterals rest) at isIn
      unfold Statement.joinTo at isIn
      split at isIn
      next text next others isRest =>
        rcases List.mem_cons.mp isIn with rfl | isOther
        · exact .inr ⟨_, rfl⟩
        · rw [isRest] at ih
          exact (ih (List.mem_cons_of_mem _ isOther)).imp_left
            (List.mem_cons_of_mem _)
      next =>
        rcases List.mem_cons.mp isIn with rfl | isOther
        · exact .inl List.mem_cons_self
        · exact (ih isOther).imp_left (List.mem_cons_of_mem _)

/-- The template with the statements of all its lists put one behind the other, at every depth. -/
def Template.withTextJoined (template : Template) : Template :=
  template.rewrite pushAll

theorem establishes_pushAll : Establishes IsJoined pushAll where
  holds statements := by
    rw [pushAll_eq_joinLiterals]
    exact isJoined_joinLiterals statements
  noNewLists statements := by
    intro statement isIn
    rw [pushAll_eq_joinLiterals] at isIn
    rcases mem_or_isText_of_mem_joinLiterals isIn with isOld | ⟨text, rfl⟩
    · exact .inl isOld
    · exact .inr rfl

theorem fixes_pushAll : Fixes IsJoined pushAll := by
  intro statements joined
  rw [pushAll_eq_joinLiterals, joinLiterals_of_isJoined joined]

theorem keepsRendering_pushAll (registry : Registry) (callee? : Option Callee) :
    KeepsRendering registry callee? pushAll := by
  intro statements scope levels
  rw [pushAll_eq_joinLiterals, renderAll_joinLiterals]

/-- Joining the text of a template leaves no two texts together in any of its lists and nothing to
join, and does not matter to any rendering: the text is the same, or the failure. -/
theorem Template.render_withTextJoined (template : Template) :
    (∀ list ∈ template.withTextJoined.lists, IsJoined list) ∧
      template.withTextJoined.withTextJoined = template.withTextJoined ∧
      ∀ (context : Context) (registry : Registry) (limits : RenderLimits),
        template.withTextJoined.render context registry limits =
          template.render context registry limits := by
  refine ⟨template.forall_lists_rewrite establishes_pushAll,
    template.rewrite_rewrite establishes_pushAll fixes_pushAll, ?_⟩
  intro context registry limits
  exact template.render_rewrite (keepsRendering_pushAll registry) context limits

/-- Text in pieces, some of them empty: around a call, in what it encloses, and in a loop behind
it. -/
def piecemealTemplate : Template :=
  [.literal "<", .literal "", .call "box" [.captured "children" [.literal "a", .literal "b"]],
    .literal ">", .each "rows" "row" [.literal "", .interpolation "row", .literal ",",
      .literal " "]]

def piecemealRegistry : Registry :=
  Registry.empty.insert "box" [.interpolation "children", .interpolation "children"]

/-- The list that the call encloses is joined as well, and a loop over nothing still fails. -/
theorem Template.render_withTextJoined_piecemealTemplate :
    piecemealTemplate.withTextJoined =
        [.literal "<", .call "box" [.captured "children" [.literal "ab"]], .literal ">",
          .each "rows" "row" [.literal "", .interpolation "row", .literal ", "]] ∧
      IsJoined [.literal "ab"] ∧
      piecemealTemplate.withTextJoined.withTextJoined = piecemealTemplate.withTextJoined ∧
      piecemealTemplate.withTextJoined.render
        (Context.empty.set "rows" (.array [.string "1", .string "2"])) piecemealRegistry =
        .ok "<abab>1, 2, " ∧
      piecemealTemplate.withTextJoined.render Context.empty piecemealRegistry =
        .error (.notIterable "rows") := by
  have isIn : [Statement.literal "ab"] ∈ piecemealTemplate.withTextJoined.lists :=
    List.mem_cons_of_mem _ List.mem_cons_self
  have rendered : piecemealTemplate.render
      (Context.empty.set "rows" (.array [.string "1", .string "2"])) piecemealRegistry =
      .ok "<abab>1, 2, " := rfl
  have failed : piecemealTemplate.render Context.empty piecemealRegistry =
      .error (.notIterable "rows") := rfl
  rcases render_withTextJoined piecemealTemplate with ⟨joined, again, same⟩
  exact ⟨rfl, joined _ isIn, again, (same ..).trans rendered, (same ..).trans failed⟩

end Stencil
