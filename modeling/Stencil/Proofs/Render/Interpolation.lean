import Stencil.Proofs.Data.Json
import Stencil.Proofs.Render.FixedPoint
import Stencil.Proofs.Scan.Writing

/-!
# Interpolations of JSON data

A source that is one interpolation, with space on both sides of its path, yields the text of what
the path leads to in the data.
-/

namespace Stencil

open Grammar
open Token (fixed identifier spaceChars Scans Joins IsIdentifier)

variable {path before after : String}

/-- The source of an interpolation, with text on both sides of its path. -/
def interpolationSource (before path after : String) : String :=
  r"{{" ++ before ++ path ++ after ++ r"}}"

theorem exists_scans_interpolation (isPath : IsIdentifier path)
    (spaceBefore : ∀ char ∈ before.toList, char ∈ spaceChars)
    (spaceAfter : ∀ char ∈ after.toList, char ∈ spaceChars) :
    ∃ tokens, Encloses .mustacheOpen .identifier (identifier path) tokens ∧
      Scans .plain tokens .plain ∧
      Token.source tokens = (interpolationSource before path after).toList := by
  have closes : Scans .plain [fixed .mustacheClose] .plain :=
    ⟨Token.fixed_fitsIn (by decide) rfl, by simp, rfl⟩
  have notBlank : ∀ char ∈ (fixed .mustacheClose).lexeme.toList.head?, Token.isBlank char = false :=
    (Option.any_eq_false _ _).mp rfl
  rcases Token.exists_isSpace (by decide) spaceAfter notBlank closes with
    ⟨closing, isClosing, closingText, closingScans⟩
  have named : Scans .plain (identifier path :: (closing ++ [fixed .mustacheClose])) .plain := by
    refine ⟨isPath.fitsIn (by decide), ?_, closingScans⟩
    apply Token.joins_head_of_isSpace (by simp [identifier]) _ isClosing closingScans
    exact Token.identifier_joins path rfl
  rcases Token.exists_isSpace (by decide) spaceBefore isPath.begins named with
    ⟨opening, isOpening, openingText, openingScans⟩
  have opened : Scans .plain (fixed .mustacheOpen :: (opening ++
      identifier path :: (closing ++ [fixed .mustacheClose]))) .plain := by
    refine ⟨Token.fixed_fitsIn (by decide) rfl, ?_, openingScans⟩
    apply Token.joins_head_of_isSpace (by decide) _ isOpening openingScans
    exact isPath.joins (by decide)
  refine ⟨_, .intro rfl isOpening rfl (.intro isClosing rfl), opened, ?_⟩
  simp [interpolationSource, fixed, Token.Kind.spelling?, Token.marks, identifier, openingText,
    closingText]

theorem Grammar.Derives.singleton {matchNames : Bool} {levels : Nat} {place : Place}
    {statement : Statement} {first : Token} {front : List Token}
    (notEnd : first.kind ∉ place.ends)
    (derived : Derives matchNames levels (.statement place.position statement) (first :: front)) :
    Derives matchNames levels (.list place [statement]) (first :: front) := by
  have alone := Derives.cons notEnd derived (by intro _ _ _ _ next isNext; cases isNext) .nil
  rwa [List.append_nil] at alone

/-- A path in two pairs of braces is compiled to an interpolation. -/
theorem Template.compile_interpolation (isPath : IsIdentifier path)
    (spaceBefore : ∀ char ∈ before.toList, char ∈ spaceChars)
    (spaceAfter : ∀ char ∈ after.toList, char ∈ spaceChars) :
    Template.compile (interpolationSource before path after) = .ok [.interpolation path] := by
  rcases exists_scans_interpolation isPath spaceBefore spaceAfter with
    ⟨tokens, encloses, scans, text⟩
  apply compile_eq_ok_iff.mpr
  refine ⟨tokens, [.interpolation path], scans, text, ?_, rfl⟩
  cases encloses with
  | intro opens isSpace named closes =>
      exact .singleton (by simp [Place.ends]) (.interpolation (.intro opens isSpace named closes))

theorem Template.render_singleton {statement : Statement} {context : Context} {registry : Registry}
    {limits : RenderLimits} {text : String}
    (rendered : ∀ callee?,
      statement.render registry callee? [context.bindings] limits.nesting = .ok text) :
    Template.render [statement] context registry limits = .ok text := by
  rcases exists_renderIn_eq registry limits.calls with ⟨callee?, renderIn_eq⟩
  rw [Template.render, mapError_eq_ok, renderIn_eq, descend, renderAll_singleton]
  exact rendered callee?

theorem Template.render_interpolation (path : String) (context : Context) (registry : Registry) :
    Template.render [.interpolation path] context registry =
      .ok (Scope.textAt [context.bindings] path) := by
  apply render_singleton
  intro callee?
  rw [Statement.render]

/-- An interpolation yields the text of what its path leads to in the data.  The names of the path
are what stands between its points; each leads from an object to its member, and where one leads
nowhere the interpolation yields nothing.  Space around the path does not matter, and neither do the
templates that may be called. -/
theorem renderSource_interpolation (members : List (String × Json)) (isPath : IsIdentifier path)
    (spaceBefore : ∀ char ∈ before.toList, char ∈ spaceChars)
    (spaceAfter : ∀ char ∈ after.toList, char ∈ spaceChars) :
    (".".intercalate (Path.names path) = path ∧ ∀ name ∈ Path.names path, '.' ∉ name.toList) ∧
      ∃ context, Context.ofJson? (.object members) = some context ∧
        ∀ registry, renderSource (interpolationSource before path after) context registry =
          .ok ((((Json.object members).at? (Path.names path)).map Json.text).getD "") := by
  have isContext : Context.ofJson? (.object members) =
      some ⟨Bindings.ofList (Value.ofJsonMembers members)⟩ := rfl
  refine ⟨⟨Path.intercalate_names path, fun name => Path.not_mem_of_mem_names⟩, _, isContext, ?_⟩
  intro registry
  rw [← Context.textAt_ofJson? isContext]
  exact renderSource_eq_ok (Template.compile_interpolation isPath spaceBefore spaceAfter)
    (Template.render_interpolation path _ registry)

/-- Data with a name that is empty, and with a name that stands in it twice. -/
def nestedMembers : List (String × Json) :=
  [("a", .null), ("a", .object [("", .object [("b", .array [.bool true, .null, .string "c"])])])]

/-- The last member of a name counts, and so does the empty name between two points. -/
theorem renderSource_interpolation_nestedMembers :
    IsIdentifier "a..b" ∧
      ∃ context, Context.ofJson? (.object nestedMembers) = some context ∧
        renderSource (interpolationSource " \n" "a..b" "\t") context Registry.empty =
          .ok "true,,c" := by
  have isPath : IsIdentifier "a..b" := {
    word := ⟨'a', ['.', '.', 'b'], rfl, by decide, List.all_eq_true.mp rfl⟩
    notReserved := by decide }
  have spaceBefore : ∀ char ∈ " \n".toList, char ∈ spaceChars := by simp [spaceChars]
  have spaceAfter : ∀ char ∈ "\t".toList, char ∈ spaceChars := by simp [spaceChars]
  rcases (renderSource_interpolation nestedMembers isPath spaceBefore spaceAfter).2 with
    ⟨context, isContext, renders⟩
  exact ⟨isPath, context, isContext, renders Registry.empty⟩

end Stencil
