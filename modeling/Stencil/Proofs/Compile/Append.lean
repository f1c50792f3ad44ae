import Stencil.Proofs.Print.RoundTrip
import Stencil.Proofs.Reading.Append
import Stencil.Proofs.Render.Lists

/-!
# Compiling sources one after the other

A source that is empty or ends a line, and is a template, may stand in front of any other source:
both together are compiled as the first and then the second, with the failures of the second on
later lines.  So a template may be put together from whole lines that are templates.
-/

namespace Stencil

def CompileError.later (lines : Nat) : CompileError → CompileError
  | scan errors => .scan (errors.map (ScanError.later lines))
  | parse error => .parse (error.later lines)

namespace Template

variable {options : CompileOptions} {template following : Template} {front : String}

/-- What compiling two sources together has to do with compiling each. -/
theorem compile_append (endsLine : EndsLine front)
    (compiled : compile front options = .ok template) (back : String) :
    compile (front ++ back) options =
      ((compile back options).map template.followedBy).mapError
        (CompileError.later (front.toList.count '\n')) := by
  rw [compile_eq_ok] at compiled
  rcases Token.scan_append compiled.1 endsLine back with
    ⟨tokens, scans, found, foundBoth, errors⟩
  have read := compiled.2
  rw [found] at read
  have noMark : ∀ token ∈ Token.foundFrom 1 tokens, token.kind ≠ .endMark :=
    kind_ne_endMark_of_foundFrom scans.kind_ne_endMark
  have ends := Token.hasEnd_scan back
  have readBoth := parse_append noMark rfl (ends.later (front.toList.count '\n')) read
  unfold compile
  simp only [errors, foundBoth, readBoth, parse_later ends, List.isEmpty_map]
  by_cases clean : (Token.scan back).errors.isEmpty = true
  · simp only [if_pos clean]
    cases parse (Token.scan back).tokens options <;> rfl
  · simp only [if_neg clean]
    rfl

/-- Rendering two templates one after the other yields their texts one after the other. -/
theorem render_followedBy {context : Context} {registry : Registry} {limits : RenderLimits}
    {text more : String} (rendered : template.render context registry limits = .ok text)
    (renderedMore : following.render context registry limits = .ok more) :
    (template.followedBy following).render context registry limits = .ok (text ++ more) := by
  rcases exists_renderIn_eq registry limits.calls with ⟨callee?, renderIn_eq⟩
  have first : renderAll registry callee? template [context.bindings] limits.nesting = .ok text :=
    (renderIn_eq template _ _).symm.trans (mapError_eq_ok.mp rendered)
  have second : renderAll registry callee? following [context.bindings] limits.nesting =
      .ok more :=
    (renderIn_eq following _ _).symm.trans (mapError_eq_ok.mp renderedMore)
  apply mapError_eq_ok.mpr
  rw [renderIn_eq]
  change renderAll registry callee? (template.followedBy following) _ limits.nesting = _
  rw [renderAll_ignoresJoining.followedBy, renderAll_append, first, second]
  rfl

/-- Compiling goes line by line.  Behind a source that is empty or ends a line and that is a
template, a source that is a template makes a template that renders to both texts; and a source that
is none fails as it does alone, on lines that are later by those of the first source. -/
theorem compile_append_of_endsLine (endsLine : EndsLine front)
    (compiled : compile front options = .ok template) (back : String) :
    (∀ following, compile back options = .ok following →
      compile (front ++ back) options = .ok (template.followedBy following) ∧
        ∀ context registry limits text more,
          template.render context registry limits = .ok text →
          following.render context registry limits = .ok more →
          (template.followedBy following).render context registry limits = .ok (text ++ more)) ∧
      ∀ error, compile back options = .error error →
        compile (front ++ back) options = .error (error.later (front.toList.count '\n')) := by
  constructor
  · intro following compiledBack
    constructor
    · rw [compile_append endsLine compiled, compiledBack]
      rfl
    · intro context registry limits text more rendered renderedMore
      exact render_followedBy rendered renderedMore
  · intro error failed
    rw [compile_append endsLine compiled, failed]
    rfl

def lineSource : String :=
  "{{a}}\n"

def lineTokens : List Token :=
  [(.mustacheOpen, r"{{", 1), (.identifier, "a", 1), (.mustacheClose, r"}}", 1),
    (.newline, "\n", 1), (.endMark, "", 2)].map fun entry =>
      { kind := entry.1, lexeme := entry.2.1, line := entry.2.2 }

theorem compile_append_of_endsLine_lineSource :
    EndsLine lineSource ∧ compile lineSource = .ok [.interpolation "a", .literal "\n"] ∧
      compile (lineSource ++ "b") = .ok [.interpolation "a", .literal "\nb"] ∧
      compile (lineSource ++ "\n(") = .error (.scan [⟨3, .unexpectedCharacter '('⟩]) := by
  have endsLine : EndsLine lineSource := .inr ⟨"{{a}}", by decide +kernel⟩
  have clean : (Token.scan lineSource).errors = [] := by decide +kernel
  have found : (Token.scan lineSource).tokens = lineTokens := by decide +kernel
  have compiled : compile lineSource = .ok [.interpolation "a", .literal "\n"] := by
    rw [compile_eq_ok, found]
    exact ⟨clean, rfl⟩
  have cleanWord : (Token.scan "b").errors = [] := by decide +kernel
  have foundWord : (Token.scan "b").tokens =
      [{ kind := .identifier, lexeme := "b", line := 1 }, Token.atEnd 1] := by decide +kernel
  have compiledWord : compile "b" = .ok [.literal "b"] := by
    rw [compile_eq_ok, foundWord]
    exact ⟨cleanWord, rfl⟩
  have stray : (Token.scan "\n(").errors = [⟨2, .unexpectedCharacter '('⟩] := by decide +kernel
  have failed : compile "\n(" = .error (.scan [⟨2, .unexpectedCharacter '('⟩]) := by
    simp only [compile, stray, List.isEmpty_cons, Bool.false_eq_true, if_false]
  have word := ((compile_append_of_endsLine endsLine compiled "b").1 _ compiledWord).1
  have problem := (compile_append_of_endsLine endsLine compiled "\n(").2 _ failed
  refine ⟨endsLine, compiled, word, ?_⟩
  rw [problem]
  rfl

end Template

end Stencil
