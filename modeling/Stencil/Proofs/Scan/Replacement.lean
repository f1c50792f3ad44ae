import Stencil.Proofs.Grammar.Basic
import Stencil.Proofs.Scan.Chains

/-!
# Changing tokens in place

Some tokens may stand in place of others wherever a scan finds those.  It suffices to look at the
tokens themselves: a replacement leads from the same regions to the same regions, and it keeps the
first and the last token, so that the neighbours join as before.

Space between two tokens that also join directly may go, and it may become one blank in front of a
word.
-/

namespace Stencil.Token

open Stencil.Grammar

variable {region middle final : Region} {old new front back front' back' rest : List Token}

theorem scans_cons {token : Token} :
    Scans region (token :: rest) final ↔
      FitsIn region token ∧ (∀ next ∈ rest.head?, Joins token next) ∧
        Scans (region.after token.kind) rest final :=
  Iff.rfl

theorem scans_append :
    Scans region (front ++ back) final ↔
      ∃ middle, Scans region front middle ∧ Scans middle back final ∧
        ∀ token ∈ front.getLast?, ∀ next ∈ back.head?, Joins token next := by
  induction front generalizing region with
  | nil => simp [Scans]
  | cons token front ih =>
      rw [List.cons_append, scans_cons, ih]
      cases front with
      | nil => simp [Scans, and_assoc, and_comm]
      | cons second others =>
          rw [List.getLast?_cons_cons, List.cons_append, List.head?_cons]
          simp only [scans_cons, List.head?_cons, and_assoc, exists_and_left]

/-- Lists that begin alike are empty together, so two of them are a single token only if the others
were. -/
theorem eq_singleton_of_append {token : Token} (head : front'.head? = front.head?)
    (headBack : back'.head? = back.head?) (single : ∀ token, front' = [token] → front = [token])
    (singleBack : ∀ token, back' = [token] → back = [token]) (same : front' ++ back' = [token]) :
    front ++ back = [token] := by
  rcases List.append_eq_singleton_iff.mp same with ⟨none, one⟩ | ⟨one, none⟩
  · rw [none, List.head?_nil] at head
    rw [List.head?_eq_none_iff.mp head.symm, singleBack token one]
    rfl
  · rw [none, List.head?_nil] at headBack
    rw [single token one, List.head?_eq_none_iff.mp headBack.symm]
    rfl

/-- New tokens may stand wherever a scan finds the old ones. -/
structure Replaces (old new : List Token) : Prop where
  scans : ∀ region final, Scans region old final → Scans region new final
  head : new.head? = old.head?
  last : new.getLast? = old.getLast?
  /-- A single token is only ever kept. -/
  single : ∀ token, new = [token] → old = [token]

namespace Replaces

theorem refl (tokens : List Token) : Replaces tokens tokens where
  scans := by
    intro region final scans
    exact scans
  head := rfl
  last := rfl
  single := by
    intro token same
    exact same

theorem trans {newer : List Token} (first : Replaces old new) (second : Replaces new newer) :
    Replaces old newer where
  scans := by
    intro region final scans
    exact second.scans _ _ (first.scans _ _ scans)
  head := second.head.trans first.head
  last := second.last.trans first.last
  single := by
    intro token same
    exact first.single token (second.single token same)

/-- Two lists next to each other may be replaced one by one. -/
theorem append (first : Replaces front front') (second : Replaces back back') :
    Replaces (front ++ back) (front' ++ back') where
  scans := by
    intro region final scans
    rcases scans_append.mp scans with ⟨middle, scansFront, scansBack, joins⟩
    refine scans_append.mpr ⟨middle, first.scans _ _ scansFront, second.scans _ _ scansBack, ?_⟩
    rw [first.last, second.head]
    exact joins
  head := by
    rw [List.head?_append, List.head?_append, first.head, second.head]
  last := by
    rw [List.getLast?_append, List.getLast?_append, first.last, second.last]
  single := by
    intro token same
    exact eq_singleton_of_append first.head second.head first.single second.single same

theorem cons (token : Token) (replaces : Replaces back back') :
    Replaces (token :: back) (token :: back') :=
  (refl [token]).append replaces

end Replaces

/-- A token is a lexeme in some region. -/
def IsLexeme (token : Token) : Prop :=
  ∃ region, FitsIn region token

def words : List Kind := [.identifier, .ifWord, .elseWord, .eachWord]

theorem ofWord_mem_words (word : List Char) : Kind.ofWord word ∈ words := by
  unfold Kind.ofWord
  split_ifs <;> decide

theorem Fits.begins_word {kind : Kind} {text : List Char} (fits : Fits region kind text)
    (isWord : kind ∈ words) : ∃ first parts, text = first :: parts ∧ isNameStart first = true := by
  cases fits with
  | mark listed =>
      have others : ∀ entry ∈ marks, entry.2 ∉ words := by decide
      exact absurd isWord (others _ listed)
  | word _ begins => exact ⟨_, _, rfl, begins⟩
  | string | blank | number => exact absurd isWord (by decide)

theorem Fits.word_of_identifier {text : List Char} (fits : Fits region .identifier text) :
    Kind.ofWord text = .identifier ∧ ∃ first rest, text = first :: rest ∧
      isNameStart first = true ∧ ∀ char ∈ rest, isNamePart char = true := by
  cases fits with
  | mark listed =>
      have others : ∀ entry ∈ marks, entry.2 ≠ .identifier := by decide
      exact absurd rfl (others _ listed)
  | word _ begins parts isKind => exact ⟨isKind, _, _, rfl, begins, parts⟩

/-- Whether a word is a lexeme depends on the region only as far as quotes go. -/
theorem IsLexeme.fitsIn_of_outside {token : Token} (isLexeme : IsLexeme token)
    (isWord : token.kind ∈ words) (outside : region ≠ .quoted) : FitsIn region token := by
  rcases isLexeme with ⟨other, fits⟩
  unfold FitsIn at fits ⊢
  revert fits isWord
  generalize token.kind = kind, token.lexeme.toList = text
  intro isWord fits
  cases fits with
  | mark listed => exact .mark listed (absurd · outside)
  | word _ begins parts isKind => exact .word outside begins parts isKind
  | string | blank | number => exact absurd isWord (by decide)

/-- A blank, two closing braces, and a greater-than sign do not continue a word. -/
theorem Fits.begins_apart {kind : Kind} {text : List Char} (fits : Fits region kind text)
    (isApart : kind ∈ [.blank, .mustacheClose, .greater]) :
    ∀ first ∈ text.head?, isNamePart first = false := by
  cases fits with
  | mark listed =>
      have others : ∀ entry ∈ marks, entry.2 ∈ [Kind.blank, .mustacheClose, .greater] →
          entry.1.head?.all (fun first => !isNamePart first) = true := by decide
      intro first isFirst
      have notPart := others _ listed isApart
      rw [Option.mem_def.mp isFirst] at notPart
      simpa using notPart
  | blank _ _ blanks =>
      intro first member
      by_contra part
      have notBlank := isBlank_eq_false_of_isNamePart (eq_true_of_ne_false part)
      rw [blanks first (List.mem_of_mem_head? member)] at notBlank
      cases notBlank
  | word _ _ _ isKind =>
      have others : ∀ kind ∈ words, kind ∉ [Kind.blank, .mustacheClose, .greater] := by decide
      exact absurd isApart (others _ (isKind ▸ ofWord_mem_words _))
  | string | number => exact absurd isApart (by decide)

theorem goesOn_eq_false_of_isNameStart {kind : Kind} {char : Char}
    (before : kind ∈ [.mustacheOpen, .blockClose, .tagClose, .blank])
    (begins : isNameStart char = true) : kind.goesOn char = false := by
  have part := isNamePart_of_isNameStart begins
  have notMark := not_mem_markStarts_of_isNamePart part
  have notBlank := isBlank_eq_false_of_isNamePart part
  revert before
  cases kind <;> simp_all [Kind.goesOn, markStarts]

theorem goesOn_eq_false_of_not_isNamePart {kind : Kind} {char : Char}
    (before : kind ∈ .quote :: .greater :: words) (notPart : isNamePart char = false) :
    kind.goesOn char = false := by
  revert before
  cases kind <;> simp [Kind.goesOn, words, notPart]

/-- A word may directly follow a mark for opening or closing, and a blank. -/
theorem joins_word {token next : Token} (isWord : next.kind ∈ words) (isLexeme : IsLexeme next)
    (before : token.kind ∈ [.mustacheOpen, .blockClose, .tagClose, .blank]) :
    Joins token next := by
  have others : ∀ kind ∈ [Kind.mustacheOpen, .blockClose, .tagClose, .blank],
      kind ≠ .number ∧ kind ≠ .string := by decide
  rcases isLexeme with ⟨region, fits⟩
  rcases fits.begins_word isWord with ⟨first, parts, isText, begins⟩
  rw [Joins, isText, ends_iff (others _ before).1 (others _ before).2]
  intro char isFirst
  cases isFirst
  exact goesOn_eq_false_of_isNameStart before begins

/-- What is apart from a word may directly follow it. -/
theorem joins_apart {token next : Token} (isApart : next.kind ∈ [.blank, .mustacheClose, .greater])
    (isLexeme : IsLexeme next) (before : token.kind ∈ .quote :: .greater :: words) :
    Joins token next := by
  have others : ∀ kind ∈ Kind.quote :: .greater :: words, kind ≠ .number ∧ kind ≠ .string := by
    decide
  rcases isLexeme with ⟨region, fits⟩
  rw [Joins, ends_iff (others _ before).1 (others _ before).2]
  intro char isFirst
  exact goesOn_eq_false_of_not_isNamePart before (fits.begins_apart isApart char isFirst)

/-- The blank that stands between two words. -/
def gap : Token :=
  { kind := .blank, lexeme := " ", line := 1 }

theorem gap_fitsIn (outside : region ≠ .quoted) : FitsIn region gap := by
  refine Fits.blank outside ?_ ?_
  · simp [gap]
  · simp [gap, isBlank]

theorem gap_isLexeme : IsLexeme gap :=
  ⟨.plain, gap_fitsIn (by simp)⟩

theorem after_isSpace {token : Token} (isSpace : token.kind.isSpace = true) :
    region.after token.kind = region := by
  apply Region.after_eq_self
  revert isSpace
  cases token.kind <;> decide

theorem Scans.of_space {space : List Token} (isSpace : IsSpace space)
    (scans : Scans region (space ++ rest) final) : Scans region rest final := by
  induction space with
  | nil => exact scans
  | cons token space ih =>
      rw [IsSpace, List.forall_mem_cons] at isSpace
      apply ih isSpace.2
      have more := scans.2.2
      rw [after_isSpace isSpace.1] at more
      exact more

namespace Replaces

variable {token next : Token} {space : List Token}

/-- Space may go between tokens that join directly. -/
theorem dropSpace (isSpace : IsSpace space) (joins : Joins token next) :
    Replaces (token :: (space ++ next :: rest)) (token :: next :: rest) where
  scans := by
    intro region final scans
    refine ⟨scans.1, ?_, scans.2.2.of_space isSpace⟩
    intro follower isFollower
    cases isFollower
    exact joins
  head := rfl
  last := by
    rw [List.getLast?_cons_cons, ← List.cons_append, List.getLast?_append_cons]
  single := by simp

/-- Space, even none, may become one blank in front of a word. -/
theorem spaceToGap (isSpace : IsSpace space) (isWord : next.kind ∈ words)
    (isLexeme : IsLexeme next) (before : token.kind ∈ .quote :: .greater :: words) :
    Replaces (token :: (space ++ next :: rest)) (token :: gap :: next :: rest) where
  scans := by
    intro region final scans
    have scansNext := scans.2.2.of_space isSpace
    have apart : ∀ kind ∈ words, kind ∉ quotedKinds := by decide
    have outside := Fits.outside scansNext.1 (apart _ isWord)
    refine ⟨scans.1, ?_, gap_fitsIn outside, ?_, ?_⟩
    · intro follower isFollower
      cases isFollower
      exact joins_apart (by decide) gap_isLexeme before
    · intro follower isFollower
      cases isFollower
      exact joins_word isWord isLexeme (by decide)
    · rw [after_isSpace rfl]
      exact scansNext
  head := rfl
  last := by
    rw [List.getLast?_cons_cons, List.getLast?_cons_cons, ← List.cons_append,
      List.getLast?_append_cons]
  single := by simp

/-- A word may take the place of another of its kind, if both neighbours join it. -/
theorem renameWord {word newWord : Token} (isWord : word.kind ∈ words)
    (sameKind : newWord.kind = word.kind) (isLexeme : IsLexeme newWord)
    (joins : Joins token newWord) (joinsNext : Joins newWord next) :
    Replaces (token :: word :: next :: rest) (token :: newWord :: next :: rest) where
  scans := by
    intro region final scans
    rcases scans with ⟨fits, _, wordFits, _, scans⟩
    have apart : ∀ kind ∈ words, kind ∉ quotedKinds := by decide
    have outside := Fits.outside wordFits (apart _ isWord)
    refine ⟨fits, ?_, isLexeme.fitsIn_of_outside (sameKind ▸ isWord) outside, ?_, ?_⟩
    · intro follower isFollower
      cases isFollower
      exact joins
    · intro follower isFollower
      cases isFollower
      exact joinsNext
    · rw [sameKind]
      exact scans
  head := rfl
  last := by
    rw [List.getLast?_cons_cons, List.getLast?_cons_cons, List.getLast?_cons_cons,
      List.getLast?_cons_cons]
  single := by simp

end Replaces

theorem IsLexeme.spelled {token : Token} {kind : Kind} {spelling : List Char}
    (isLexeme : IsLexeme token) (isKind : token.kind = kind)
    (only : kind.spelling? = some spelling) : token.lexeme.toList = spelling := by
  rcases isLexeme with ⟨region, fits⟩
  subst isKind
  exact Fits.spelled fits only

end Stencil.Token
