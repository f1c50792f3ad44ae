import Stencil.Text.Escaped

/-!
# Texts on one line

A text that holds no line feed is on one line, and stays apart from the others when such texts are
put together as the lines of one.  The numbers and the quotations that messages are made of are such
texts, whatever is quoted.
-/

namespace Stencil.Text

/-- The lines of a text: every line feed separates two of them. -/
def lines (text : String) : List String :=
  (text.toList.splitOn '\n').map String.ofList

/-- A text without line feeds. -/
def IsOneLine (text : String) : Prop :=
  '\n' ∉ text.toList

/-- Texts on one line are the lines of the text that has a line feed between any two. -/
theorem lines_intercalate {texts : List String} (areOneLine : ∀ text ∈ texts, IsOneLine text)
    (nonempty : texts ≠ []) : lines ("\n".intercalate texts) = texts := by
  have apart : ∀ text ∈ texts.map String.toList, '\n' ∉ text :=
    List.forall_mem_map.mpr areOneLine
  have separator : "\n".toList = ['\n'] := rfl
  rw [lines, String.toList_intercalate, separator,
    List.splitOn_intercalate '\n' apart (mt List.map_eq_nil_iff.mp nonempty), List.map_map]
  simp [Function.comp_def]

namespace IsOneLine

variable {front middle back : String}

/-- The text of a literal is not computed to see that it is on one line. -/
theorem ofList {chars : List Char} (none : '\n' ∉ chars) : IsOneLine (String.ofList chars) := by
  rwa [IsOneLine, String.toList_ofList]

theorem append (isFront : IsOneLine front) (isBack : IsOneLine back) :
    IsOneLine (front ++ back) := by
  rw [IsOneLine, String.toList_append, List.mem_append, not_or]
  exact ⟨isFront, isBack⟩

theorem around (isFront : IsOneLine front) (isMiddle : IsOneLine middle)
    (isBack : IsOneLine back) : IsOneLine (front ++ middle ++ back) :=
  (isFront.append isMiddle).append isBack

end IsOneLine

theorem isOneLine_toString (number : Nat) : IsOneLine (toString number) := by
  rw [Nat.toString_eq_repr, Nat.repr_eq_ofList_toDigits]
  apply IsOneLine.ofList
  intro isDigit
  have digit := Nat.isDigit_of_mem_toDigits (by decide) (by decide) isDigit
  revert digit
  decide

theorem digitChar_ne_newline : ∀ digit < 16, Nat.digitChar digit ≠ '\n' := by
  decide

theorem not_mem_hexDigits (number : Nat) : '\n' ∉ Nat.toDigits 16 number := by
  induction number using Nat.strongRecOn with
  | ind number ih =>
      by_cases small : number < 16
      · rw [Nat.toDigits_of_lt_base small, List.mem_singleton]
        exact (digitChar_ne_newline number small).symm
      · have fewer : number / 16 < number := by omega
        have last : number % 16 < 16 := by omega
        rw [Nat.toDigits_of_base_le (by decide) (Nat.le_of_not_lt small), List.mem_append,
          List.mem_singleton, not_or]
        exact ⟨ih _ fewer, (digitChar_ne_newline _ last).symm⟩

theorem not_mem_codePointEscape (char : Char) : '\n' ∉ codePointEscape char := by
  have digits := not_mem_hexDigits char.toNat
  simp [codePointEscape, digits]

/-- No short escape is a line feed, and a line feed has one. -/
theorem shortEscape?_ne_newline {char letter : Char} (escaped : shortEscape? char = some letter) :
    letter ≠ '\n' := by
  rintro rfl
  unfold shortEscape? at escaped
  split at escaped <;> simp at escaped

theorem not_mem_escapeInner (char : Char) : '\n' ∉ escapeInner char := by
  unfold escapeInner
  split
  next letter escaped =>
    simp [(shortEscape?_ne_newline escaped).symm]
  next notEscaped =>
    have different : '\n' ≠ char := by
      rintro rfl
      cases notEscaped
    split
    · rwa [List.mem_singleton]
    · exact not_mem_codePointEscape char

/-- Where nothing precedes a character, it may be named by its code point instead. -/
theorem escapeLeading_eq_or (char : Char) :
    escapeLeading char = escapeInner char ∨ escapeLeading char = codePointEscape char := by
  unfold escapeLeading escapeInner
  cases shortEscape? char with
  | some letter => exact .inl rfl
  | none =>
      by_cases joins : joinsPrevious char = true
      · simp [joins]
      · simp [joins]

theorem not_mem_escapeLeading (char : Char) : '\n' ∉ escapeLeading char := by
  rcases escapeLeading_eq_or char with asInner | named
  · rw [asInner]
    exact not_mem_escapeInner char
  · rw [named]
    exact not_mem_codePointEscape char

theorem isOneLine_escapeChar (char : Char) : IsOneLine (escapeChar char) :=
  .ofList (not_mem_escapeLeading char)

theorem isOneLine_escape (text : String) : IsOneLine (escape text) := by
  unfold escape
  split
  next => exact .ofList List.not_mem_nil
  next first rest _ =>
    apply IsOneLine.ofList
    rw [List.mem_append, List.mem_flatMap, not_or]
    refine ⟨not_mem_escapeLeading first, ?_⟩
    rintro ⟨char, _, isIn⟩
    exact not_mem_escapeInner char isIn

end Stencil.Text
