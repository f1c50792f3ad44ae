import Stencil.Proofs.Reading.Threshold

/-!
# Checking the names in closing tags

A reading that checks whether a closing tag repeats the name of the tag it closes goes the same way
as a reading that does not, up to the first closing tag with another name.  There it stops, whatever
the other reading comes to: a template, a later fault or too many levels.
-/

namespace Stencil

/-- The fault at a closing tag with another name than the tag it closes.  Both names are words among
the tokens. -/
def Fault.IsMismatch (tokens : List Token) (fault : Fault) : Prop :=
  ∃ opened ∈ tokens, ∃ closing ∈ tokens,
    opened.kind = .identifier ∧ closing.kind = .identifier ∧ opened.lexeme ≠ closing.lexeme ∧
    fault = ⟨some closing, .tagMismatch opened.lexeme closing.lexeme⟩

namespace Likeness

/-- The same tokens, read with the names in closing tags checked and without. -/
def checked (tokens : List Token) : Likeness where
  token first second := first = second ∧ first ∈ tokens
  fault := Eq
  excused := Fault.IsMismatch tokens
  kind_eq same := by rw [same.1]
  lexeme_eq same := by rw [same.1]
  atToken same _ := by rw [same.1]
  atEnd := deeper.atEnd

variable {tokens : List Token}

/-- The check passes, as it does if there is none, or it stops at names that differ. -/
theorem namesFollow_checked : (checked tokens).NamesFollow true false := by
  rintro bound opened _ closing _ ⟨⟨rfl, openedMember⟩, isName⟩ ⟨⟨rfl, closingMember⟩, isClosing⟩
  by_cases sameName : closing.lexeme = opened.lexeme
  · simp only [matchName, sameName, decide_true, Bool.or_true]
    exact .pure rfl
  · simp only [matchName, sameName, decide_false, Bool.not_true, Bool.or_false]
    intro rest rest' _ _
    apply Outcome.excused
    exact ⟨opened, openedMember, closing, closingMember, isName, isClosing, Ne.symm sameName, rfl⟩

theorem statement_within_checked (levels bound : Nat) :
    (checked tokens).Within bound (Parse.statement true levels) (Parse.statement false levels) := by
  apply statement_within_self namesFollow_checked
  intro first first' same
  rw [same.1]
  rfl

end Likeness

theorem Token.mem_of_mem_beforeEnd {tokens : List Token} {token : Token}
    (member : token ∈ beforeEnd tokens) : token ∈ tokens :=
  (List.takeWhile_prefix _).subset member

/-- Checking the names in closing tags makes no difference, or the reading stops at the first word
that closes a tag with another name. -/
theorem Template.parse_checked (tokens : List Token) (maxNesting : Nat) :
    parse tokens ⟨true, maxNesting⟩ = parse tokens ⟨false, maxNesting⟩ ∨
      ∃ fault, Fault.IsMismatch tokens fault ∧
        parse tokens ⟨true, maxNesting⟩ = .error (fault.toError (Token.endLine tokens)) := by
  have same : List.Forall₂ (Likeness.checked tokens).token (Token.beforeEnd tokens)
      (Token.beforeEnd tokens) :=
    List.forall₂_same.mpr fun _ member => ⟨rfl, Token.mem_of_mem_beforeEnd member⟩
  rcases Likeness.parse_follows ⟨true, maxNesting⟩ ⟨false, maxNesting⟩
    (Likeness.statement_within_checked maxNesting _) same (Nat.le_refl _) with
    ⟨template, strict, lenient⟩ | ⟨fault, fault', sameFault, strict, lenient⟩ |
    ⟨fault, mismatch, strict⟩
  · left
    rw [strict, lenient]
  · left
    cases sameFault
    rw [strict, lenient]
  · exact .inr ⟨fault, mismatch, strict⟩

/-- Checking the names in closing tags only rejects more, and only for a name that differs: both
readings come to the same, or the one that checks stops at a word that closes a tag with another
name, and says so. -/
theorem Template.parse_strict_eq_or_mismatch (tokens : List Token) (maxNesting : Nat) :
    (parse tokens ⟨true, maxNesting⟩ = parse tokens ⟨false, maxNesting⟩ ∨
      ∃ opened ∈ tokens, ∃ closing ∈ tokens, ∃ error,
        opened.kind = .identifier ∧ closing.kind = .identifier ∧
        opened.lexeme ≠ closing.lexeme ∧
        parse tokens ⟨true, maxNesting⟩ = .error error ∧
        error.line = closing.line ∧ error.location = .token closing.lexeme ∧
        error.message = "Expect '</" ++ opened.lexeme ++ ">' to close '<" ++ opened.lexeme ++
          ">', found '</" ++ closing.lexeme ++ ">'.") ∧
    ∀ template, parse tokens ⟨true, maxNesting⟩ = .ok template →
      parse tokens ⟨false, maxNesting⟩ = .ok template := by
  rcases parse_checked tokens maxNesting with same | ⟨fault, mismatch, stopped⟩
  · refine ⟨.inl same, ?_⟩
    intro template read
    rw [← same, read]
  · rcases mismatch with ⟨opened, openedMember, closing, closingMember, isName, isClosing,
      differs, rfl⟩
    refine ⟨.inr ⟨opened, openedMember, closing, closingMember, _, isName, isClosing, differs,
      stopped, rfl, rfl, rfl⟩, ?_⟩
    intro template read
    rw [stopped] at read
    cases read

/-- The reading that checks stops before the fault that the other one comes to. -/
example :
    let tokens : List Token := [⟨.less, "<", none, 1⟩, ⟨.identifier, "a", none, 1⟩,
      ⟨.greater, ">", none, 1⟩, ⟨.tagClose, "</", none, 2⟩, ⟨.identifier, "b", none, 2⟩]
    Template.parse tokens ⟨true, 1⟩ = .error ⟨2, .token "b", .tagMismatch "a" "b"⟩ ∧
      Template.parse tokens ⟨false, 1⟩ = .error ⟨2, .sourceEnd, .expected .closingTagEnd⟩ :=
  ⟨rfl, rfl⟩

end Stencil
