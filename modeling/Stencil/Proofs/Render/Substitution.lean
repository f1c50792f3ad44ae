import Stencil.Proofs.Render.Comparison
import Stencil.Proofs.Render.Lists

/-!
# Values that are only shown

If a template uses a name only in interpolations of that name, then a string that is bound to the
name is put into the text and does nothing else.  The text around it is the same whatever the string
is: no part of the string is read as a template, and nothing that the template decides depends on
it.
-/

namespace Stencil

mutual

/-- Whether interpolations of a name are all that a statement uses the name for: neither a longer
path nor a condition nor the path of a collection begins with it.  What is given to a call is left
out, since a call of a name that is not registered renders none of it. -/
def Statement.onlyShows (name : String) : Statement → Bool
  | .literal _ => true
  | .tag _ attributes content => onlyShowsAll name attributes && onlyShowsAll name content
  | .emptyTag _ attributes => onlyShowsAll name attributes
  | .interpolation path => path == name || Path.root path != name
  | .assignment given => given.onlyShows name
  | .quoted body => onlyShowsAll name body
  | .ifThen condition body => Path.root condition != name && onlyShowsAll name body
  | .ifThenElse condition body alternative =>
    Path.root condition != name && (onlyShowsAll name body && onlyShowsAll name alternative)
  | .each collection _ body => Path.root collection != name && onlyShowsAll name body
  | .call _ _ => true

/-- Whether interpolations of a name are all that an attribute of a tag uses the name for. -/
def Attribute.onlyShows (name : String) : Attribute → Bool
  | .bare _ _ => true
  | .quoted _ body => onlyShowsAll name body
  | .captured _ body => onlyShowsAll name body

/-- Whether interpolations of a name are all that a list of statements uses the name for. -/
def onlyShowsAll (name : String) : List Statement → Bool
  | [] => true
  | statement :: rest => statement.onlyShows name && onlyShowsAll name rest

end

/-- A name without a point is a path of one name. -/
theorem Path.names_eq_singleton {name : String} (plain : '.' ∉ name.toList) :
    Path.names name = [name] := by
  rw [Path.names, List.splitOn_eq_singleton plain, List.map_singleton, String.ofList_toList]

theorem Path.root_eq_self {name : String} (single : Path.names name = [name]) :
    Path.root name = name := by
  rw [root, single, List.headD_cons]

/-- A text with gaps: pieces of text in order, where `none` is a gap. -/
abbrev Gapped := List (Option String)

namespace Gapped

def fill (value : String) (parts : Gapped) : String :=
  String.join (parts.map fun part => part.getD value)

theorem fill_append (value : String) (front back : Gapped) :
    fill value (front ++ back) = fill value front ++ fill value back := by
  rw [fill, List.map_append, String.join_append, fill, fill]

/-- The gaps lie between pieces of text, so filling them is putting the string between pieces. -/
theorem exists_pieces (parts : Gapped) :
    ∃ pieces : List String, pieces ≠ [] ∧ ∀ value, fill value parts = value.intercalate pieces := by
  induction parts with
  | nil =>
      refine ⟨[""], List.cons_ne_nil _ _, ?_⟩
      intro value
      rw [String.intercalate_singleton]
      rfl
  | cons part parts ih =>
      rcases ih with ⟨pieces, nonempty, filled⟩
      cases pieces with
      | nil => exact absurd rfl nonempty
      | cons first rest =>
          cases part with
          | some text =>
              refine ⟨(text ++ first) :: rest, List.cons_ne_nil _ _, ?_⟩
              intro value
              rw [String.intercalate_cons_append, ← filled, fill, List.map_cons, String.join_cons]
              rfl
          | none =>
              refine ⟨"" :: first :: rest, List.cons_ne_nil _ _, ?_⟩
              intro value
              rw [String.intercalate_cons_cons, String.empty_append, ← filled, fill, List.map_cons,
                String.join_cons]
              rfl

end Gapped

/-! ## Outcomes that only show a string -/

/-- The outcome for every string is the same failure, or one text with the string in its gaps. -/
def Uniform (outcomes : String → Except Halt String) : Prop :=
  ∃ gapped : Except Halt Gapped, ∀ value, outcomes value = gapped.map (Gapped.fill value)

namespace Uniform

theorem const (outcome : Except Halt String) : Uniform fun _ => outcome := by
  cases outcome with
  | error halt => exact ⟨.error halt, fun _ => rfl⟩
  | ok text =>
      refine ⟨.ok [some text], ?_⟩
      intro value
      change Except.ok text = Except.ok (String.join [text])
      rw [String.join_cons, String.join_nil, String.append_empty]

theorem gap : Uniform fun value => .ok value := by
  refine ⟨.ok [none], ?_⟩
  intro value
  change Except.ok value = Except.ok (String.join [value])
  rw [String.join_cons, String.join_nil, String.append_empty]

theorem thenText {front back : String → Except Halt String} (first : Uniform front)
    (second : Uniform back) :
    Uniform fun value => Stencil.thenText (front value) (back value) := by
  rcases first with ⟨gappedFront, sameFront⟩
  rcases second with ⟨gappedBack, sameBack⟩
  refine ⟨do return (← gappedFront) ++ (← gappedBack), ?_⟩
  intro value
  simp only [sameFront, sameBack]
  cases gappedFront with
  | error halt => rfl
  | ok frontParts =>
      cases gappedBack with
      | error halt => rfl
      | ok backParts =>
          change Except.ok (Gapped.fill value frontParts ++ Gapped.fill value backParts) =
            Except.ok (Gapped.fill value (frontParts ++ backParts))
          rw [Gapped.fill_append]

/-- Text in front of an outcome and text behind it are no gaps. -/
theorem between {outcomes : String → Except Halt String} (inner : Uniform outcomes)
    (front back : String) :
    Uniform fun value => Stencil.thenText (Stencil.thenText (.ok front) (outcomes value))
      (.ok back) :=
  ((const (.ok front)).thenText inner).thenText (const (.ok back))

theorem rounds {step : String → Value → Except Halt String}
    (each : ∀ item, Uniform fun value => step value item) (items : List Value) :
    Uniform fun value => do return String.join (← items.mapM (step value)) := by
  induction items with
  | nil => exact const (.ok "")
  | cons item items ih =>
      simp only [join_mapM_cons]
      exact (each item).thenText ih

theorem descend {run : String → Nat → Except Halt String}
    (further : ∀ inner, Uniform fun value => run value inner) (levels : Nat) :
    Uniform fun value => Stencil.descend levels (run value) := by
  cases levels with
  | zero => exact const (.error .nestingTooDeep)
  | succ inner => exact further inner

end Uniform

/-- Scopes, one for each string, that have the same values as the one for the empty string under all
names but one.  Under that name each has its string, or all have the same value there as well. -/
structure Varies (name : String) (scopes : String → Scope) : Prop where
  others : ∀ other, other ≠ name → ∀ value, (scopes value).get? other = (scopes "").get? other
  shown : (∀ value, (scopes value).get? name = some (.string value)) ∨
    ∀ value, (scopes value).get? name = (scopes "").get? name

namespace Varies

variable {name : String} {scopes : String → Scope}

/-- A context in which the name is set. -/
theorem set (context : Context) (name : String) :
    Varies name fun value => [(context.set name (.string value)).bindings] where
  others := by
    intro other different value
    simp [Scope.get?, Context.set, Bindings.get?_set_of_ne _ _ (Ne.symm different)]
  shown := by
    apply Or.inl
    intro value
    simp [Scope.get?, Context.set]

/-- Bindings in front of all scopes may hide the string. -/
theorem cons (varies : Varies name scopes) (inner : Bindings Value) :
    Varies name fun value => inner :: scopes value where
  others := by
    intro other different value
    simp only [Scope.get?, varies.others other different value]
  shown := by
    cases hidden : inner.get? name with
    | some value =>
        apply Or.inr
        intro _
        simp only [Scope.get?, hidden]
    | none =>
        simp only [Scope.get?, hidden]
        exact varies.shown

theorem holds_eq (varies : Varies name scopes) (single : Path.names name = [name])
    {condition : String} (other : Path.root condition ≠ name) (value : String) :
    (scopes value).holds condition = (scopes "").holds condition := by
  have different : condition ≠ name := by
    rintro rfl
    exact other (Path.root_eq_self single)
  exact Scope.holds_congr (varies.others condition different value)
    (varies.others _ other value)

theorem textAt_uniform (varies : Varies name scopes) (single : Path.names name = [name]) :
    Uniform fun value => .ok ((scopes value).textAt name) := by
  have found : ∀ value, (scopes value).lookup? name = (scopes value).get? name := by
    intro value
    simp only [Scope.lookup?, single]
    cases (scopes value).get? name <;> rfl
  simp only [Scope.textAt, found]
  rcases varies.shown with shows | same
  · simp only [shows]
    exact Uniform.gap
  · simp only [same]
    exact Uniform.const _

end Varies

variable {callee? : Option Callee} {name : String}

mutual

theorem Statement.render_uniform {scopes : String → Scope} (single : Path.names name = [name])
    (statement : Statement) (shows : statement.onlyShows name = true)
    (varies : Varies name scopes) (levels : Nat) :
    Uniform fun value => statement.render .empty callee? (scopes value) levels := by
  cases statement with
  | literal text => exact .const (.ok text)
  | interpolation path =>
      rw [Statement.onlyShows, Bool.or_eq_true, beq_iff_eq, bne_iff_ne] at shows
      -- A longer path that begins with the name would look into the string.
      rcases shows with rfl | other
      · exact varies.textAt_uniform single
      · simp only [Statement.render, fun value => Scope.textAt_congr (varies.others _ other value)]
        exact .const _
  | assignment given => exact given.render_uniform single shows varies levels
  | quoted body =>
      apply Uniform.descend
      exact renderAll_uniform single body shows varies
  | tag tagName attributes content =>
      rw [Statement.onlyShows, Bool.and_eq_true] at shows
      have opens : Uniform fun value => descend levels fun inner =>
          renderAll .empty callee? attributes (scopes value) inner := by
        apply Uniform.descend
        exact renderAll_uniform single attributes shows.1 varies
      have holds : Uniform fun value => descend levels fun inner =>
          renderAll .empty callee? content (scopes value) inner := by
        apply Uniform.descend
        exact renderAll_uniform single content shows.2 varies
      simp only [Statement.render, tag_eq]
      exact (opens.between ("<" ++ tagName) ">").thenText (holds.thenText (.const _))
  | emptyTag tagName attributes =>
      simp only [Statement.render, between_eq]
      apply Uniform.between
      apply Uniform.descend
      exact renderAll_uniform single attributes shows varies
  | ifThen condition body =>
      rw [Statement.onlyShows, Bool.and_eq_true, bne_iff_ne] at shows
      simp only [Statement.render, varies.holds_eq single shows.1]
      split
      · apply Uniform.descend
        exact renderAll_uniform single body shows.2 varies
      · exact .const (.ok "")
  | ifThenElse condition body alternative =>
      rw [Statement.onlyShows, Bool.and_eq_true, bne_iff_ne, Bool.and_eq_true] at shows
      simp only [Statement.render, varies.holds_eq single shows.1]
      split
      · apply Uniform.descend
        exact renderAll_uniform single body shows.2.1 varies
      · apply Uniform.descend
        exact renderAll_uniform single alternative shows.2.2 varies
  | each collection item body =>
      rw [Statement.onlyShows, Bool.and_eq_true, bne_iff_ne] at shows
      simp only [Statement.render, fun value =>
        Scope.itemsAt?_congr (varies.others _ shows.1 value)]
      cases (scopes "").itemsAt? collection with
      | none => exact .const _
      | some values =>
          apply Uniform.rounds
          intro value
          apply Uniform.descend
          -- Where the loop gives the name anew, the body shows an item, whatever the string is.
          exact renderAll_uniform single body shows.2 (varies.cons [(item, value)])
  | call called given => exact .const (.ok "")

theorem Attribute.render_uniform {scopes : String → Scope} (single : Path.names name = [name])
    (given : Attribute) (shows : given.onlyShows name = true) (varies : Varies name scopes)
    (levels : Nat) :
    Uniform fun value => given.render .empty callee? (scopes value) levels := by
  cases given with
  | bare label word => exact .const _
  | quoted label body | captured label body =>
      simp only [Attribute.render, between_eq]
      apply Uniform.between
      apply Uniform.descend
      exact renderAll_uniform single body shows varies

theorem renderAll_uniform {scopes : String → Scope} (single : Path.names name = [name])
    (statements : List Statement) (shows : onlyShowsAll name statements = true)
    (varies : Varies name scopes) (levels : Nat) :
    Uniform fun value => renderAll .empty callee? statements (scopes value) levels := by
  cases statements with
  | nil => exact .const (.ok "")
  | cons statement rest =>
      rw [onlyShowsAll, Bool.and_eq_true] at shows
      simp only [renderAll_cons]
      exact (statement.render_uniform single shows.1 varies levels).thenText
        (renderAll_uniform single rest shows.2 varies levels)

end

namespace Template

/-- Without registered templates, a template that only shows a name has the same failure for every
string under that name, or a text with the string in its gaps. -/
theorem exists_renderIn_set_eq (plain : '.' ∉ name.toList) {template : Template}
    (shows : onlyShowsAll name template = true) (context : Context) (calls levels : Nat) :
    Uniform fun value =>
      template.renderIn .empty calls [(context.set name (.string value)).bindings] levels := by
  rcases exists_renderIn_eq .empty calls with ⟨callee?, renderIn_eq⟩
  simp only [renderIn_eq]
  apply Uniform.descend
  exact renderAll_uniform (Path.names_eq_singleton plain) template shows (.set context name)

/-- Data never becomes template.  If a template only shows a name, and no templates are registered,
then rendering it puts the string under that name between pieces of text that do not depend on
the string, or it fails in the same way for every string. -/
theorem render_set_string (plain : '.' ∉ name.toList) {template : Template}
    (shows : onlyShowsAll name template = true) (context : Context) (limits : RenderLimits) :
    (∀ given text,
        template.render (context.set name (.string given)) .empty limits = .ok text →
          ∃ pieces : List String, pieces ≠ [] ∧
            ∀ value, template.render (context.set name (.string value)) .empty limits =
              .ok (value.intercalate pieces)) ∧
      ∀ given error,
        template.render (context.set name (.string given)) .empty limits = .error error →
          ∀ value, template.render (context.set name (.string value)) .empty limits =
            .error error := by
  rcases exists_renderIn_set_eq plain shows context limits.calls (limits.nesting + 1) with
    ⟨gapped, same⟩
  simp only [render, same]
  cases gapped with
  | error halt =>
      constructor
      · intro given text impossible
        cases impossible
      · intro given error stops value
        exact stops
  | ok parts =>
      rcases parts.exists_pieces with ⟨pieces, nonempty, filled⟩
      constructor
      · intro given text _
        refine ⟨pieces, nonempty, ?_⟩
        intro value
        rw [← filled]
        rfl
      · intro given error impossible
        cases impossible

/-- A template that shows a name in an attribute, in a tag and in a conditional, and that has a loop
which gives the name anew. -/
def showingTemplate : Template :=
  [.tag "p" [.literal " ", .assignment (.quoted "title" [.interpolation "x"])]
      [.interpolation "x", .each "items" "x" [.interpolation "x"],
        .ifThen "flag" [.interpolation "x"]],
    .call "p" [.bare "x" "x.y"]]

/-- A context with items for the loop, and in which the condition holds. -/
def showingContext : Context :=
  (Context.empty.set "items" (.array [.string "a", .string "b"])).set "flag" (.bool true)

theorem render_set_string_showingTemplate :
    '.' ∉ "x".toList ∧ onlyShowsAll "x" showingTemplate = true ∧
      showingTemplate.render (showingContext.set "x" (.string "z")) .empty ⟨0, 2⟩ =
        .ok "<p title=\"z\">zabz</p>" ∧
      ∃ pieces : List String, pieces ≠ [] ∧
        ∀ value, showingTemplate.render (showingContext.set "x" (.string value)) .empty ⟨0, 2⟩ =
          .ok (value.intercalate pieces) := by
  have plain : '.' ∉ "x".toList := by decide
  have shows : onlyShowsAll "x" showingTemplate = true := by rfl
  have rendered : showingTemplate.render (showingContext.set "x" (.string "z")) .empty ⟨0, 2⟩ =
      .ok "<p title=\"z\">zabz</p>" := by
    rfl
  exact ⟨plain, shows, rendered,
    (render_set_string plain shows showingContext ⟨0, 2⟩).1 "z" _ rendered⟩

end Template

end Stencil
