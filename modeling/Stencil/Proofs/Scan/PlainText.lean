import Mathlib.Algebra.Group.Nat.Even
import Stencil.Proofs.Scan.Writing

/-!
# The problems in plain text

Text without two opening braces, and without a less-than sign outside quotes, has nothing in it that
leads out of text.  Which problems a scan finds in it is determined by its characters: those outside
quotes that are not plain, and the last quote, if it is left open.
-/

namespace Stencil.Token

variable {line : Nat} {inQuotes : Bool} {text front rest : List Char} {kind : Kind}

def plainMarks : List Char :=
  ['_', '+', '-', ',', '.', ':', '@', '$', '!', '?', '{', '}', '>', '/', '=', '#']

/-- Whether a character may stand in plain text, outside quotes. -/
def isPlain (char : Char) : Bool :=
  CodePoint.isAlphabetic char || char.isDigit || spaceChars.contains char ||
    plainMarks.contains char

/-- The characters outside quotes with their lines, from a place on that is in quotes or not.  Each
quote begins or ends text in quotes. -/
def unquoted (inQuotes : Bool) (line : Nat) : List Char → List (Nat × Char)
  | [] => []
  | char :: rest =>
    if char = '"' then unquoted (!inQuotes) line rest
    else
      let following := unquoted inQuotes (line + [char].count '\n') rest
      if inQuotes then following else (line, char) :: following

/-- The problems with characters that are not plain. -/
def unexpected (chars : List (Nat × Char)) : List ScanError :=
  (chars.filter fun entry => !isPlain entry.2).map fun entry =>
    ⟨entry.1, .unexpectedCharacter entry.2⟩

/-- The problem with the last quote, if the number of quotes is odd. -/
def unterminated (text : List Char) : List ScanError :=
  if Even (text.count '"') then []
  else [⟨lastLine (text.reverse.dropWhile (· ≠ '"')), .unterminatedString⟩]

/-- The line behind a character and a text. -/
theorem add_count_cons (line : Nat) (char : Char) (text : List Char) :
    line + [char].count '\n' + text.count '\n' = line + (char :: text).count '\n' := by
  rw [Nat.add_assoc, ← List.count_append, List.singleton_append]

theorem unquoted_append (noQuote : '"' ∉ front) :
    unquoted inQuotes line (front ++ rest) =
      unquoted inQuotes line front ++ unquoted inQuotes (line + front.count '\n') rest := by
  induction front generalizing line with
  | nil => rfl
  | cons char front ih =>
      rw [List.mem_cons, not_or] at noQuote
      have different : char ≠ '"' := Ne.symm noQuote.1
      rw [List.cons_append, unquoted, unquoted, if_neg different, if_neg different,
        ih noQuote.2, add_count_cons line char front]
      cases inQuotes <;> rfl

theorem unquoted_true_eq_nil (noQuote : '"' ∉ text) : unquoted true line text = [] := by
  induction text generalizing line with
  | nil => rfl
  | cons char text ih =>
      rw [List.mem_cons, not_or] at noQuote
      rw [unquoted, if_neg (Ne.symm noQuote.1)]
      exact ih noQuote.2

theorem mem_of_mem_unquoted {entry : Nat × Char} (isOutside : entry ∈ unquoted inQuotes line text) :
    entry.2 ∈ text := by
  induction text generalizing inQuotes line with
  | nil => cases isOutside
  | cons char text ih =>
      rw [unquoted] at isOutside
      split at isOutside
      next => exact List.mem_cons_of_mem _ (ih isOutside)
      next =>
        cases inQuotes with
        | true => exact List.mem_cons_of_mem _ (ih isOutside)
        | false =>
            rcases List.mem_cons.mp isOutside with rfl | later
            · exact List.mem_cons_self
            · exact List.mem_cons_of_mem _ (ih later)

theorem unexpected_append (front back : List (Nat × Char)) :
    unexpected (front ++ back) = unexpected front ++ unexpected back := by
  rw [unexpected, List.filter_append, List.map_append, unexpected, unexpected]

theorem unexpected_cons {char : Char} (notPlain : isPlain char = false)
    (chars : List (Nat × Char)) :
    unexpected ((line, char) :: chars) = ⟨line, .unexpectedCharacter char⟩ :: unexpected chars := by
  simp [unexpected, notPlain]

theorem unexpected_eq_nil_iff {chars : List (Nat × Char)} :
    unexpected chars = [] ↔ ∀ entry ∈ chars, isPlain entry.2 = true := by
  simp [unexpected]

/-- The line of the quote that is open behind a text, given the one that is open in front of it. -/
def openBehind? (opened? : Option Nat) (line : Nat) : List Char → Option Nat
  | [] => opened?
  | char :: rest =>
    if char = '"' then openBehind? (if opened?.isSome then none else some line) line rest
    else openBehind? opened? (line + [char].count '\n') rest

theorem openBehind?_cons (opened? : Option Nat) {char : Char} (notQuote : char ≠ '"') :
    openBehind? opened? line (char :: rest) =
      openBehind? opened? (line + [char].count '\n') rest := by
  rw [openBehind?, if_neg notQuote]

theorem openBehind?_append (opened? : Option Nat) (front back : List Char) :
    openBehind? opened? line (front ++ back) =
      openBehind? (openBehind? opened? line front) (line + front.count '\n') back := by
  induction front generalizing opened? line with
  | nil => rfl
  | cons char front ih =>
      rw [List.cons_append, openBehind?, openBehind?]
      split
      next isQuote =>
        subst isQuote
        rw [ih, ← add_count_cons]
        rfl
      next => rw [ih, add_count_cons]

theorem openBehind?_eq_self (opened? : Option Nat) (noQuote : '"' ∉ text) :
    openBehind? opened? line text = opened? := by
  induction text generalizing line with
  | nil => rfl
  | cons char text ih =>
      rw [List.mem_cons, not_or] at noQuote
      rw [openBehind?_cons _ (Ne.symm noQuote.1)]
      exact ih noQuote.2

/-- Behind a text with an odd number of quotes the last one is open. -/
theorem openBehind?_eq (text : List Char) :
    openBehind? none 1 text =
      if Even (text.count '"') then none
      else some (lastLine (text.reverse.dropWhile (· ≠ '"'))) := by
  induction text using List.reverseRecOn with
  | nil => rfl
  | append_singleton text char ih =>
      rw [openBehind?_append, ih, List.count_append, List.reverse_append,
        List.reverse_singleton, List.singleton_append]
      by_cases isQuote : char = '"'
      · subst isQuote
        have behind : lastLine (('"' :: text.reverse).dropWhile (· ≠ '"')) =
            1 + text.count '\n' := by simp [lastLine]
        rw [behind]
        by_cases even : Even (text.count '"') <;> simp [openBehind?, even, Nat.even_add_one]
      · have noQuote : '"' ∉ [char] := by simpa using Ne.symm isQuote
        rw [openBehind?_eq_self _ noQuote, List.count_eq_zero_of_not_mem noQuote, Nat.add_zero]
        simp [isQuote]

theorem unterminated_eq_nil_iff : unterminated text = [] ↔ Even (text.count '"') := by
  unfold unterminated
  split <;> simp_all

theorem unterminated_eq (text : List Char) :
    unterminated text =
      ((openBehind? none 1 text).map fun opened => ⟨opened, .unterminatedString⟩).toList := by
  rw [unterminated, openBehind?_eq]
  split <;> rfl

theorem isPlain_of_isNamePart {char : Char} (part : isNamePart char = true) :
    isPlain char = true := by
  have listed : nameMarks.all plainMarks.contains = true := by decide
  simp only [isNamePart, isNameStart, Bool.or_eq_true, List.contains_iff_mem] at part
  simp only [isPlain, Bool.or_eq_true, List.contains_iff_mem]
  rcases part with (alphabetic | isMark) | digit
  · exact .inl (.inl (.inl alphabetic))
  · exact .inr (List.contains_iff_mem.mp (List.all_eq_true.mp listed char isMark))
  · exact .inl (.inl (.inr digit))

theorem isPlain_of_mem_spaceChars {char : Char} (isSpace : char ∈ spaceChars) :
    isPlain char = true :=
  List.all_eq_true.mp (by decide : spaceChars.all isPlain = true) char isSpace

/-- Outside quotes a lexeme other than a quote, or a mark that begins with a less-than sign, is
plain. -/
theorem Fits.isPlain (fits : Fits .plain kind text) (notQuote : kind ≠ .quote)
    (notLess : ∀ first ∈ text.head?, first ≠ '<') : ∀ char ∈ text, isPlain char = true := by
  cases fits with
  | mark listed =>
      have plain : ∀ entry ∈ marks, entry.2 ≠ .quote → entry.1.head? ≠ some '<' →
          entry.1.all Token.isPlain = true := by decide
      have begins : text.head? ≠ some '<' := fun isLess => notLess '<' isLess rfl
      exact List.all_eq_true.mp (plain _ listed notQuote begins)
  | string inside => cases inside
  | blank _ _ blanks =>
      intro char isIn
      exact isPlain_of_mem_spaceChars (mem_spaceChars.mpr (.inl (blanks char isIn)))
  | number _ _ whole =>
      intro char isIn
      exact isPlain_of_isNamePart (isNamePart_of_cutNumeral whole char isIn)
  | word _ begins parts =>
      rw [List.forall_mem_cons]
      refine ⟨isPlain_of_isNamePart (isNamePart_of_isNameStart begins), ?_⟩
      intro char isPart
      exact isPlain_of_isNamePart (parts char isPart)

theorem not_mem_of_cutString {following : List Char}
    (cut : cutString (text ++ following) = (text, following)) : '"' ∉ text := by
  induction text with
  | nil => simp
  | cons first text ih =>
      rw [List.cons_append, cutString_cons_eq] at cut
      rw [List.mem_cons, not_or]
      refine ⟨?_, ih cut.2⟩
      rintro rfl
      cases cut.1

/-- In quotes a lexeme is a quote or text without quotes. -/
theorem Fits.quote_or_string (fits : Fits .quoted kind text) (noBraces : ¬ HasBraces text) :
    kind = .quote ∧ text = ['"'] ∨ kind = .string ∧ '"' ∉ text := by
  cases fits with
  | mark listed inQuotes =>
      have others : ∀ entry ∈ marks, endsString entry.1 = true → ¬ HasBraces entry.1 →
          entry.2 = .quote ∧ entry.1 = ['"'] := by decide
      exact .inl (others _ listed (inQuotes rfl) noBraces)
  | string _ _ whole =>
      have cut : cutString (text ++ []) = (text, []) := by
        rw [List.append_nil, whole]
      exact .inr ⟨rfl, not_mem_of_cutString cut⟩
  | blank outside | number outside | word outside => exact absurd rfl outside

/-- A plain character begins a token. -/
theorem BeginsNoToken.isPlain_eq_false {char : Char} (none : BeginsNoToken char) :
    isPlain char = false := by
  have starts :
      plainMarks.all (fun char => isNameStart char || markStarts.contains char) = true := by
    decide
  rcases none with ⟨notMark, notBlank, notDigit, notStart⟩
  by_contra isIt
  have plain := eq_true_of_ne_false isIt
  simp only [isPlain, Bool.or_eq_true, List.contains_iff_mem] at plain
  rcases plain with ((alphabetic | digit) | isSpace) | isMark
  · simp [isNameStart, alphabetic] at notStart
  · rw [digit] at notDigit
    cases notDigit
  · rcases mem_spaceChars.mp isSpace with blank | rfl
    · rw [blank] at notBlank
      cases notBlank
    · exact notMark (by decide)
  · have begins := List.all_eq_true.mp starts char isMark
    simp [notStart, notMark] at begins

/-! ## A scan of plain text -/

/-- The characters outside quotes that a scan still has in front of it. -/
def Mode.unquoted (mode : Mode) (line : Nat) (text : List Char) : List (Nat × Char) :=
  Token.unquoted mode.openQuote?.isSome line text

theorem Mode.unquoted_plain_cons {char : Char} (notQuote : char ≠ '"') :
    Mode.plain.unquoted line (char :: rest) =
      (line, char) :: Mode.plain.unquoted (line + [char].count '\n') rest := by
  rw [Mode.unquoted, Token.unquoted, if_neg notQuote]
  rfl

/-- Behind a lexeme of plain text a scan has the same problems in front of it as before the
lexeme. -/
structure Passes (mode : Mode) (line : Nat) (text rest : List Char) (after : Mode) : Prop where
  notInterpolated : ∀ opened, after ≠ .interpolated opened
  unexpected : Token.unexpected (mode.unquoted line (text ++ rest)) =
    Token.unexpected (after.unquoted (line + text.count '\n') rest)
  openBehind : openBehind? mode.openQuote? line (text ++ rest) =
    openBehind? after.openQuote? (line + text.count '\n') rest
  unquoted : ∀ entry ∈ after.unquoted (line + text.count '\n') rest,
    entry ∈ mode.unquoted line (text ++ rest)

/-- A lexeme without quotes whose characters outside quotes are plain is passed. -/
theorem Passes.of_not_mem {mode : Mode} (notInterpolated : ∀ opened, mode ≠ .interpolated opened)
    (noQuote : '"' ∉ text)
    (plain : ∀ entry ∈ mode.unquoted line text, isPlain entry.2 = true) :
    Passes mode line text rest mode where
  notInterpolated := notInterpolated
  unexpected := by
    have none : Token.unexpected (Token.unquoted mode.openQuote?.isSome line text) = [] :=
      unexpected_eq_nil_iff.mpr plain
    rw [Mode.unquoted, unquoted_append noQuote, unexpected_append, none]
    rfl
  openBehind := by
    rw [openBehind?_append, openBehind?_eq_self _ noQuote]
  unquoted := by
    intro entry isOutside
    rw [Mode.unquoted, unquoted_append noQuote]
    exact List.mem_append_right _ isOutside

theorem Fits.passes {mode : Mode} (fits : Fits mode.region kind text)
    (notInterpolated : ∀ opened, mode ≠ .interpolated opened) (noBraces : ¬ HasBraces text)
    (noLess : ∀ entry ∈ mode.unquoted line (text ++ rest), entry.2 ≠ '<') :
    Passes mode line text rest (mode.after line kind) := by
  cases mode with
  | interpolated opened => exact absurd rfl (notInterpolated opened)
  | plain =>
      by_cases isQuote : kind = .quote
      · subst isQuote
        have isText : text = ['"'] := fits.spelled rfl
        subst isText
        exact ⟨by simp [Mode.after], rfl, rfl, fun _ => id⟩
      · have notLess : ∀ first ∈ text.head?, first ≠ '<' := by
          intro first isFirst
          rcases List.head?_eq_some_iff.mp isFirst with ⟨others, rfl⟩
          rintro rfl
          exact noLess (line, '<') List.mem_cons_self rfl
        have plain := fits.isPlain isQuote notLess
        rw [Mode.after_plain isQuote]
        apply Passes.of_not_mem notInterpolated
        · intro quoteIn
          cases plain '"' quoteIn
        · intro entry isOutside
          exact plain entry.2 (mem_of_mem_unquoted isOutside)
  | quoted opened =>
      rcases fits.quote_or_string noBraces with ⟨rfl, rfl⟩ | ⟨rfl, noQuote⟩
      · exact ⟨by simp [Mode.after], rfl, rfl, fun _ => id⟩
      · apply Passes.of_not_mem notInterpolated noQuote
        intro entry isOutside
        rw [Mode.unquoted, Mode.openQuote?, Option.isSome_some, unquoted_true_eq_nil noQuote]
          at isOutside
        cases isOutside

theorem HasBraces.append_left (front : List Char) (braces : HasBraces rest) :
    HasBraces (front ++ rest) :=
  braces.trans (List.suffix_append front rest).isInfix

theorem HasBraces.append_right (rest : List Char) (braces : HasBraces text) :
    HasBraces (text ++ rest) :=
  braces.trans (List.prefix_append text rest).isInfix

theorem problems_findings {mode : Mode} (notInterpolated : ∀ opened, mode ≠ .interpolated opened)
    (noBraces : ¬ HasBraces text) (noLess : ∀ entry ∈ mode.unquoted line text, entry.2 ≠ '<') :
    (findings mode line text).filterMap Finding.problem? =
      unexpected (mode.unquoted line text) ++
        ((openBehind? mode.openQuote? line text).map fun opened =>
          ⟨opened, .unterminatedString⟩).toList := by
  induction mode, line, text using findings_induction with
  | closed mode line isClosed =>
      rw [findings_nil, isClosed]
      simp [Mode.unquoted, unquoted, unexpected, openBehind?, Finding.problem?]
  | unclosed mode line opened isOpen =>
      rw [findings_nil, isOpen]
      simp [Mode.unquoted, unquoted, unexpected, openBehind?, Finding.problem?]
  | proper mode line first rest kind text following cut ih =>
      rcases Mode.next_eq_proper.mp cut with ⟨split, fits, _⟩
      rw [findings_cons_proper cut]
      rw [split] at noBraces noLess ⊢
      have passes := fits.passes notInterpolated (fun braces => noBraces (braces.append_right _))
        noLess
      rw [passes.unexpected, passes.openBehind]
      apply ih passes.notInterpolated
      · exact fun braces => noBraces (braces.append_left text)
      · exact fun entry isOutside => noLess entry (passes.unquoted entry isOutside)
  | stray mode line first rest char following cut ih =>
      rcases Mode.next_eq_stray.mp cut with ⟨rfl, rfl, outside, none⟩
      cases mode with
      | interpolated opened => exact absurd rfl (notInterpolated opened)
      | quoted opened => exact absurd rfl outside
      | plain =>
          have notPlain := none.isPlain_eq_false
          have notQuote : char ≠ '"' := by
            rintro rfl
            exact none.1 (by decide)
          have sameLine : line + [char].count '\n' = line := by
            rw [List.count_cons_of_ne none.ne_newline]
            rfl
          rw [Mode.unquoted_plain_cons notQuote, sameLine, List.forall_mem_cons] at noLess
          have found := ih notInterpolated (fun braces => noBraces (braces.append_left [char]))
            noLess.2
          rw [findings_cons_stray cut, Mode.unquoted_plain_cons notQuote,
            openBehind?_cons _ notQuote, sameLine, unexpected_cons notPlain, List.cons_append,
            ← found]
          rfl

/-- The problems that a scan finds in plain text. -/
theorem scan_errors_eq {source : String} (noBraces : ¬ HasBraces source.toList)
    (noLess : ∀ entry ∈ unquoted false 1 source.toList, entry.2 ≠ '<') :
    (scan source).errors =
      unexpected (unquoted false 1 source.toList) ++ unterminated source.toList := by
  have notInterpolated : ∀ opened, Mode.plain ≠ .interpolated opened := by simp
  rw [unterminated_eq]
  exact problems_findings notInterpolated noBraces noLess

end Stencil.Token
