import Stencil.Proofs.Grammar.Reading
import Stencil.Proofs.Print.Canonical
import Stencil.Proofs.Print.Lines
import Stencil.Template.Compile

/-!
# Compiling the source of a template

A source is compiled to a template exactly if it is the text of some tokens that a scan may find and
that derive the template.  Such tokens can be brought into canonical form in place, so the canonical
source of a template that was compiled is compiled to the same template again.
-/

namespace Stencil

open Token (Scans)
open Grammar

variable {options : CompileOptions} {template : Template}

theorem Token.Scans.kind_ne_endMark {region final : Token.Region} {tokens : List Token}
    (scans : Scans region tokens final) : ∀ token ∈ tokens, token.kind ≠ .endMark := by
  intro token member
  rcases scans.forall_fitsIn token member with ⟨_, fits⟩
  exact fits.kind_ne_endMark

theorem kind_ne_endMark_of_foundFrom {line : Nat} {tokens : List Token}
    (noMark : ∀ token ∈ tokens, token.kind ≠ .endMark) :
    ∀ token ∈ Token.foundFrom line tokens, token.kind ≠ .endMark := by
  intro token member
  have sameKinds : (Token.foundFrom line tokens).map Token.kind = tokens.map Token.kind :=
    HasKinds.foundFrom rfl line
  have listed : token.kind ∈ tokens.map Token.kind := sameKinds ▸ List.mem_map_of_mem member
  rcases List.mem_map.mp listed with ⟨original, isOriginal, sameKind⟩
  rw [← sameKind]
  exact noMark original isOriginal

theorem mapError_eq_ok {α ε ε' : Type} {outcome : Except ε α} {convert : ε → ε'} {value : α} :
    outcome.mapError convert = .ok value ↔ outcome = .ok value := by
  cases outcome <;> simp [Except.mapError]

/-- A scan without problems is followed by reading its tokens. -/
theorem Template.compile_eq_ok {source : String} :
    Template.compile source options = .ok template ↔
      (Token.scan source).errors = [] ∧
        Template.parse (Token.scan source).tokens options = .ok template := by
  simp only [compile, List.isEmpty_iff]
  by_cases clean : (Token.scan source).errors = []
  · rw [if_pos clean, mapError_eq_ok]
    simp [clean]
  · rw [if_neg clean]
    simp [clean]

/-- What is compiled are the texts of the tokens that derive a template. -/
theorem Template.compile_eq_ok_iff {source : String} :
    Template.compile source options = .ok template ↔
      ∃ tokens body, Scans .plain tokens .plain ∧ Token.source tokens = source.toList ∧
        Derives options.matchTagNames options.maxNesting (.list .text body) tokens ∧
        template = joinLiterals body := by
  rw [compile_eq_ok, parse_eq_ok]
  constructor
  · intro ⟨clean, body, derived, joined⟩
    rcases Token.exists_scans_of_scan clean with ⟨tokens, found, scans, whole⟩
    rw [found, beforeEnd_append scans.kind_ne_endMark rfl] at derived
    exact ⟨tokens, body, scans, whole, derived, joined⟩
  · intro ⟨tokens, body, scans, whole, derived, joined⟩
    rw [Token.scan_eq_of_scans scans whole]
    refine ⟨rfl, body, ?_, joined⟩
    rw [beforeEnd_append (kind_ne_endMark_of_foundFrom scans.kind_ne_endMark) rfl]
    exact derived.foundFrom 1

/-- The canonical source of a template that was compiled from any source is compiled to the same
template, and so it is if closing tags have to repeat the names of their opening tags. -/
theorem Template.compile_source {source : String}
    (compiled : Template.compile source options = .ok template) :
    Template.compile template.source options = .ok template ∧
      Template.compile template.source { options with matchTagNames := true } = .ok template := by
  rcases compile_eq_ok_iff.mp compiled with ⟨tokens, body, scans, _, derived, joined⟩
  have again : ∀ matchNames, Template.compile template.source
      { options with matchTagNames := matchNames } = .ok template := by
    intro matchNames
    rcases derived.canonical scans.forall_fitsIn matchNames with
      ⟨new, newDerived, text, replaces⟩
    -- The statements are the same before neighbouring text is joined, not only after.
    refine compile_eq_ok_iff.mpr ⟨new, body, replaces.scans _ _ scans, ?_, newDerived, joined⟩
    rw [text, joined, Template.source, sourceAll_joinLiterals]
    rfl
  exact ⟨again options.matchTagNames, again true⟩

/-- A source with space where none is needed, more than one blank where one is, and a closing tag of
another name. -/
def looseSource : String :=
  "<a >{{ b }}{{#>  c}}d{{/ c}}</e>"

def looseTokens : List Token :=
  [(.less, "<"), (.identifier, "a"), (.blank, " "), (.greater, ">"), (.mustacheOpen, r"{{"),
    (.blank, " "), (.identifier, "b"), (.blank, " "), (.mustacheClose, r"}}"),
    (.blockOpen, r"{{#"), (.greater, ">"), (.blank, "  "), (.identifier, "c"),
    (.mustacheClose, r"}}"), (.identifier, "d"), (.blockClose, r"{{/"), (.blank, " "),
    (.identifier, "c"), (.mustacheClose, r"}}"), (.tagClose, "</"), (.identifier, "e"),
    (.greater, ">"), (.endMark, "")].map fun entry =>
      { kind := entry.1, lexeme := entry.2, line := 1 }

def looseTemplate : Template :=
  [.tag "a" [.literal " "]
    [.interpolation "b", .call "c" [.captured "children" [.literal "d"]]]]

theorem Template.compile_source_looseTemplate :
    Template.compile looseSource = .ok looseTemplate ∧
      looseTemplate.source =
        "<a >{{b}}{{#> c}}d{{/c}}</a>" ∧
      Template.compile looseTemplate.source = .ok looseTemplate ∧
      Template.compile looseTemplate.source { matchTagNames := true } = .ok looseTemplate := by
  have clean : (Token.scan looseSource).errors = [] := by decide +kernel
  have found : (Token.scan looseSource).tokens = looseTokens := by decide +kernel
  have compiled : Template.compile looseSource = .ok looseTemplate := by
    rw [compile_eq_ok, found]
    exact ⟨clean, rfl⟩
  exact ⟨compiled, by decide +kernel, compile_source compiled⟩

end Stencil
