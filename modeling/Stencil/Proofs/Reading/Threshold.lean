import Mathlib.Order.Nat
import Stencil.Proofs.Reading.Constructs

/-!
# The limit on nesting is a threshold

With a higher limit a reading goes the same way until the lower limit is met.  So what tokens are
read as does not depend on the limit, except that reading stops if the limit is below a number that
the tokens determine; and that number is at most the number of tokens.
-/

namespace Stencil

/-- The outcome of a reading that stopped because too many statements lie inside each other. -/
def StopsTooDeep (outcome : Except ParseError Template) : Prop :=
  ∃ error, outcome = .error error ∧ error.message = "Template nested too deeply."

/-- The text of a literal is not computed to find its first character. -/
theorem head?_toList_append (first : Char) (rest : List Char) (more : String) :
    (String.ofList (first :: rest) ++ more).toList.head? = some first := by
  rw [String.toList_append, String.toList_ofList]
  rfl

theorem Expectation.head?_message (what : Expectation) :
    what.message.toList.head? = some 'E' := by
  rw [← String.append_empty (s := what.message)]
  cases what
  all_goals
    unfold message
    simp only [String.append_assoc]
    exact head?_toList_append 'E' _ _

theorem ParseError.Cause.Structural.head?_message {alike : Token → Token → Prop}
    {cause : ParseError.Cause} (structural : cause.Structural alike) :
    cause.message.toList.head? = some 'E' ∨ cause.message.toList.head? = some 'U' := by
  rw [← String.append_empty (s := cause.message)]
  cases structural with
  | expected what =>
      left
      rw [String.append_empty]
      exact what.head?_message
  | slotMismatch | tagMismatch =>
      left
      unfold message
      simp only [String.append_assoc]
      exact head?_toList_append 'E' _ _
  | unknownBlock | strayClosing =>
      right
      unfold message
      simp only [String.append_assoc]
      exact head?_toList_append 'U' _ _

theorem ParseError.Cause.Structural.message_ne {alike : Token → Token → Prop}
    {cause : ParseError.Cause} (structural : cause.Structural alike) :
    cause.message ≠ "Template nested too deeply." := by
  intro same
  have first : cause.message.toList.head? = some 'T' := by
    rw [same, ← String.append_empty (s := "Template nested too deeply.")]
    exact head?_toList_append 'T' _ _
  rcases structural.head?_message with other | other
  · rw [first] at other
    cases other
  · rw [first] at other
    cases other

namespace Likeness

/-- The same tokens, read with a lower limit on nesting and with a higher one. -/
def deeper : Likeness where
  token := Eq
  fault := Eq
  excused fault := fault.cause = .nestedTooDeeply
  kind_eq same := by rw [same]
  lexeme_eq same := by rw [same]
  atToken same _ := by rw [same]
  atEnd _ := rfl

/-- The same tokens, read without faults of too deep nesting. -/
def shallow : Likeness where
  token := Eq
  fault first second := first = second ∧ first.cause.message ≠ "Template nested too deeply."
  excused _ := False
  kind_eq same := by rw [same]
  lexeme_eq same := by rw [same]
  atToken same structural := ⟨by rw [same], structural.message_ne⟩
  atEnd what := by
    have structural : ParseError.Cause.Structural Eq (.expected what) := .expected what
    exact ⟨rfl, structural.message_ne⟩

end Likeness

variable {tokens : List Token} {matchNames : Bool} {levels : Nat}

theorem Fault.message_toError (fault : Fault) (endLine : Nat) :
    (fault.toError endLine).message = fault.cause.message := by
  rcases fault with ⟨token?, cause⟩
  cases token? <;> rfl

/-- A higher limit on nesting only matters where the lower one stops the reading. -/
theorem Template.parse_add (tokens : List Token) (matchNames : Bool) (levels extra : Nat) :
    StopsTooDeep (parse tokens ⟨matchNames, levels⟩) ∨
      parse tokens ⟨matchNames, levels + extra⟩ = parse tokens ⟨matchNames, levels⟩ := by
  have within : Likeness.deeper.Within (Token.beforeEnd tokens).length
      (Parse.statement matchNames levels) (Parse.statement matchNames (levels + extra)) :=
    Likeness.statement_within_add matchNames levels extra fun _ => rfl
  have same : List.Forall₂ Likeness.deeper.token (Token.beforeEnd tokens)
      (Token.beforeEnd tokens) := List.forall₂_same.mpr fun _ _ => rfl
  rcases Likeness.parse_follows ⟨matchNames, levels⟩ ⟨matchNames, levels + extra⟩ within same
    (Nat.le_refl _) with
    ⟨template, lower, higher⟩ | ⟨fault, fault', sameFault, lower, higher⟩ | ⟨fault, tooDeep, lower⟩
  · right
    rw [lower, higher]
  · right
    cases sameFault
    rw [lower, higher]
  · left
    refine ⟨_, lower, ?_⟩
    rw [fault.message_toError, show fault.cause = .nestedTooDeeply from tooDeep]
    rfl

/-- With a limit of at least the number of tokens, reading never stops for too deep nesting. -/
theorem Template.not_stopsTooDeep (enough : (Token.beforeEnd tokens).length ≤ levels) :
    ¬ StopsTooDeep (parse tokens ⟨matchNames, levels⟩) := by
  have within : Likeness.shallow.Within levels (Parse.statement matchNames levels)
      (Parse.statement matchNames levels) :=
    Likeness.statement_within_length matchNames levels
  have same : List.Forall₂ Likeness.shallow.token (Token.beforeEnd tokens)
      (Token.beforeEnd tokens) := List.forall₂_same.mpr fun _ _ => rfl
  intro ⟨error, stopped, tooDeep⟩
  rcases Likeness.parse_follows ⟨matchNames, levels⟩ ⟨matchNames, levels⟩ within same enough with
    ⟨template, read, _⟩ | ⟨fault, _, notDeep, failed, _⟩ | ⟨_, impossible, _⟩
  · rw [read] at stopped
    cases stopped
  · rw [failed] at stopped
    cases stopped
    rw [fault.message_toError] at tooDeep
    exact notDeep.2 tooDeep
  · exact impossible

/-- The limit on nesting is a threshold: from some number on, not above the number of tokens, the
outcome is the same for every limit, and with every limit below reading stops for too deep
nesting. -/
theorem Template.exists_parse_threshold (tokens : List Token) (matchNames : Bool) :
    ∃ (least : Nat) (outcome : Except ParseError Template),
      least ≤ (Token.beforeEnd tokens).length ∧ ¬ StopsTooDeep outcome ∧
      (∀ levels, least ≤ levels → parse tokens ⟨matchNames, levels⟩ = outcome) ∧
      ∀ levels, levels < least → StopsTooDeep (parse tokens ⟨matchNames, levels⟩) := by
  classical
  have reached : ∃ levels, ¬ StopsTooDeep (parse tokens ⟨matchNames, levels⟩) :=
    ⟨(Token.beforeEnd tokens).length, not_stopsTooDeep (Nat.le_refl _)⟩
  have settled := Nat.find_spec reached
  refine ⟨Nat.find reached, parse tokens ⟨matchNames, Nat.find reached⟩, ?_, settled, ?_, ?_⟩
  · exact Nat.find_min' reached (not_stopsTooDeep (Nat.le_refl _))
  · intro levels above
    rcases Nat.exists_eq_add_of_le above with ⟨extra, rfl⟩
    exact (parse_add tokens matchNames _ extra).resolve_left settled
  · intro levels below
    exact not_not.mp (Nat.find_min reached below)

end Stencil
