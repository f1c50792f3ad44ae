import Stencil.Proofs.Grammar.Basic
import Stencil.Proofs.Scan.Chains

/-!
# Derivations and lines

What tokens derive depends on their kinds and their texts, not on the lines they are found on.
-/

namespace Stencil.Grammar

open Token (Kind foundFrom)

variable {matchNames : Bool} {levels line : Nat} {tokens front back : List Token}

theorem foundFrom_cons {token : Token} :
    foundFrom line (token :: back) =
      token.foundOn line :: foundFrom (line + token.lexeme.toList.count '\n') back :=
  rfl

theorem foundFrom_append :
    foundFrom line (front ++ back) =
      foundFrom line front ++ foundFrom (line + (Token.source front).count '\n') back := by
  induction front generalizing line with
  | nil => rfl
  | cons token front ih =>
      rw [List.cons_append, foundFrom_cons, foundFrom_cons, ih,
        Token.source_cons, List.count_append, Nat.add_assoc]
      rfl

theorem HasKinds.foundFrom {kinds : List Kind} (has : HasKinds kinds tokens) (line : Nat) :
    HasKinds kinds (foundFrom line tokens) := by
  rw [← has]
  clear has
  induction tokens generalizing line with
  | nil => rfl
  | cons token tokens ih =>
      exact congrArg (token.kind :: ·) (ih _)

theorem IsSpace.foundFrom (isSpace : IsSpace tokens) (line : Nat) :
    IsSpace (foundFrom line tokens) := by
  induction tokens generalizing line with
  | nil => exact isSpace
  | cons token tokens ih =>
      rw [IsSpace, List.forall_mem_cons] at isSpace
      rw [foundFrom_cons, IsSpace, List.forall_mem_cons]
      exact ⟨isSpace.1, ih isSpace.2 _⟩

theorem Closes.foundFrom (closes : Closes tokens) (line : Nat) :
    Closes (foundFrom line tokens) := by
  cases closes with
  | intro isSpace isBrace =>
      rw [foundFrom_append]
      exact .intro (isSpace.foundFrom _) isBrace

theorem Encloses.foundFrom {opening word : Kind} {name : Token}
    (encloses : Encloses opening word name tokens) (line : Nat) :
    ∃ nameLine, Encloses opening word (name.foundOn nameLine) (foundFrom line tokens) := by
  cases encloses with
  | intro opens isSpace named closes =>
      rw [foundFrom_cons, foundFrom_append, foundFrom_cons]
      exact ⟨_, .intro opens (isSpace.foundFrom _) named (closes.foundFrom _)⟩

theorem head?_foundFrom (line : Nat) (tokens : List Token) :
    (foundFrom line tokens).head? = tokens.head?.map fun token => token.foundOn line := by
  cases tokens <;> rfl

theorem Apart.foundFrom {position : Parse.Position} (apart : Apart position front back)
    (line backLine : Nat) :
    Apart position (foundFrom line front) (foundFrom backLine back) := by
  intro inTag word alone isName next isNext
  rw [head?_foundFrom] at isNext
  rcases Option.map_eq_some_iff.mp isNext with ⟨original, isOriginal, rfl⟩
  match front, alone with
  | [single], alone =>
      cases alone
      exact apart inTag single rfl isName original isOriginal

/-- A derivation does not look at lines. -/
theorem Derives.foundFrom {phrase : Phrase} (derived : Derives matchNames levels phrase tokens)
    (line : Nat) : Derives matchNames levels phrase (foundFrom line tokens) := by
  -- The tokens whose texts a phrase repeats are given: `foundOn` keeps the texts by definition.
  induction derived generalizing line with
  | nil => exact .nil
  | cons notEnd _ apart _ one more =>
      rw [foundFrom_append, foundFrom_cons]
      exact .cons notEnd (one line) (apart.foundFrom _ _) (more _)
  | @literal _ _ token other => exact @literal _ _ _ (token.foundOn line) other
  | @interpolation _ _ path _ encloses =>
      rcases encloses.foundFrom line with ⟨_, encloses⟩
      exact @interpolation _ _ _ (path.foundOn _) _ encloses
  | assignment _ given => exact .assignment (given line)
  | quoted isOpened _ isClosed body =>
      rw [foundFrom_cons, foundFrom_append]
      exact .quoted isOpened (body _) isClosed
  | @emptyTag _ _ _ _ name _ _ isOpened isName _ isClosed given =>
      rw [foundFrom_cons, foundFrom_cons, foundFrom_append]
      exact @emptyTag _ _ _ _ _ (name.foundOn _) _ _ isOpened isName (given _) isClosed
  | @tag _ _ _ _ _ name _ _ _ _ _ _ isOpened isName _ isEnd _ isClosed isClosing same isFinish
      given body =>
      rw [foundFrom_cons, foundFrom_cons, foundFrom_append, foundFrom_cons, foundFrom_append]
      exact @tag _ _ _ _ _ _ (name.foundOn _) _ _ _ _ _ _ isOpened isName (given _) isEnd (body _)
        isClosed isClosing same isFinish
  | @ifThen _ _ _ condition _ _ _ _ _ opened isName closes _ ends body =>
      rw [foundFrom_append, foundFrom_cons, foundFrom_append, foundFrom_append]
      rcases ends.foundFrom _ with ⟨_, ends⟩
      exact @ifThen _ _ _ _ (condition.foundOn _) _ _ _ _ _ (opened.foundFrom _) isName
        (closes.foundFrom _) (body _) ends
  | @ifThenElse _ _ _ _ condition _ _ _ _ _ _ _ _ opened isName closes _ isElse _ ends body other =>
      rw [foundFrom_append, foundFrom_cons, foundFrom_append, foundFrom_append, foundFrom_append,
        foundFrom_append]
      rcases isElse.foundFrom _ with ⟨_, isElse⟩
      rcases ends.foundFrom _ with ⟨_, ends⟩
      exact @ifThenElse _ _ _ _ _ (condition.foundOn _) _ _ _ _ _ _ _ _ (opened.foundFrom _) isName
        (closes.foundFrom _) (body _) isElse (other _) ends
  | @each _ _ _ collection _ item _ _ _ _ _ opened isName isGap isItem closes _ ends body =>
      rw [foundFrom_append, foundFrom_cons, foundFrom_cons, foundFrom_cons, foundFrom_append,
        foundFrom_append]
      rcases ends.foundFrom _ with ⟨_, ends⟩
      exact @each _ _ _ _ (collection.foundOn _) _ (item.foundOn _) _ _ _ _ _ (opened.foundFrom _)
        isName isGap isItem (closes.foundFrom _) (body _) ends
  | @call _ _ _ name _ _ opened isName _ given =>
      rw [foundFrom_append, foundFrom_cons]
      exact @call _ _ _ _ (name.foundOn _) _ _ (opened.foundFrom _) isName (given _)
  | @slot _ _ _ _ name _ _ _ _ _ opened isName _ _ ends same given body =>
      rw [foundFrom_append, foundFrom_cons, foundFrom_append, foundFrom_append]
      rcases ends.foundFrom _ with ⟨_, ends⟩
      exact @slot _ _ _ _ _ (name.foundOn _) _ _ _ _ _ (opened.foundFrom _) isName (given _)
        (body _) ends same
  | @bare _ name _ value named isSign isWord =>
      exact @bare _ _ (name.foundOn _) _ (value.foundOn _) named isSign isWord
  | @quotedValue _ _ name _ _ _ _ named isSign isOpened _ isClosed body =>
      rw [foundFrom_cons, foundFrom_cons, foundFrom_cons, foundFrom_append]
      exact @quotedValue _ _ _ (name.foundOn _) _ _ _ _ named isSign isOpened (body _) isClosed
  | argumentsEnd closes => exact .argumentsEnd (closes.foundFrom _)
  | argumentsCons isSpace _ _ one more =>
      rw [foundFrom_append, foundFrom_append]
      exact .argumentsCons (isSpace.foundFrom _) (one _) (more _)

end Stencil.Grammar
