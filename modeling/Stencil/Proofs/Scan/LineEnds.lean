import Stencil.Proofs.Scan.Chains

/-!
# Scanning a source after the end of a line

No lexeme goes on past a line feed outside quotes, and a source without problems leaves no quote
open.  So a source that is empty or ends a line is scanned as if nothing followed it, and what
follows is scanned as if it stood alone, on later lines.
-/

namespace Stencil

/-- A source is empty or ends with a line feed. -/
def EndsLine (source : String) : Prop :=
  source = "" ∨ ∃ line, source = line ++ "\n"

def Token.later (lines : Nat) (token : Token) : Token :=
  { token with line := token.line + lines }

def ScanError.later (lines : Nat) (error : ScanError) : ScanError :=
  { error with line := error.line + lines }

namespace Token

def Finding.later (lines : Nat) : Finding → Finding
  | .token found => .token (found.later lines)
  | .problem error => .problem (error.later lines)

/-- The same mode, after a quote that was opened so many lines later. -/
def Mode.later (lines : Nat) : Mode → Mode
  | .plain => .plain
  | .quoted opened => .quoted (opened + lines)
  | .interpolated opened => .interpolated (opened + lines)

variable {lines line : Nat} {tokens : List Token}

theorem Mode.next_later (mode : Mode) (first : Char) (rest : List Char) :
    (mode.later lines).next first rest = mode.next first rest := by
  cases mode <;> rfl

theorem Mode.after_later (mode : Mode) (kind : Kind) :
    (mode.later lines).after (line + lines) kind = (mode.after line kind).later lines := by
  cases mode <;> cases kind <;> rfl

theorem Mode.openQuote?_later (mode : Mode) :
    (mode.later lines).openQuote? = mode.openQuote?.map (· + lines) := by
  cases mode <;> rfl

/-- Lines enter what is found only as numbers that are added to. -/
theorem findings_later (lines : Nat) (mode : Mode) (line : Nat) (text : List Char) :
    findings (mode.later lines) (line + lines) text =
      (findings mode line text).map (Finding.later lines) := by
  induction mode, line, text using findings_induction with
  | closed mode line isClosed =>
      rw [findings_nil, findings_nil, Mode.openQuote?_later, isClosed]
      rfl
  | unclosed mode line opened isOpen =>
      rw [findings_nil, findings_nil, Mode.openQuote?_later, isOpen]
      rfl
  | proper mode line first rest kind text following cut ih =>
      have cutLater : (mode.later lines).next first rest = (.proper kind text, following) := by
        rw [Mode.next_later, cut]
      rw [findings_cons_proper cut, findings_cons_proper cutLater, List.map_cons, ← ih,
        Mode.after_later, Nat.add_right_comm]
      rfl
  | stray mode line first rest char following cut ih =>
      have cutLater : (mode.later lines).next first rest = (.stray char, following) := by
        rw [Mode.next_later, cut]
      rw [findings_cons_stray cut, findings_cons_stray cutLater, List.map_cons, ← ih]
      rfl

variable {region : Region} {kind : Kind} {text : List Char}

/-- A lexeme with a line feed ends before everything, unless it is text inside quotes. -/
theorem Fits.ends_of_mem {following : List Char} (fits : Fits region kind text)
    (leaves : region.after kind = .plain) (breaks : '\n' ∈ text) : Ends kind text following := by
  have notString : kind ≠ .string := by
    intro same
    subst same
    rw [fits.quoted_of_string] at leaves
    cases leaves
  have isNewline := fits.kind_eq_newline notString breaks
  subst isNewline
  intro char _
  rfl

theorem Scans.last_leaves {final : Region} (scans : Scans region tokens final) :
    ∀ last ∈ tokens.getLast?, ∃ middle, FitsIn middle last ∧ middle.after last.kind = final := by
  induction tokens generalizing region with
  | nil => simp
  | cons token rest ih =>
      cases rest with
      | nil =>
          intro last isLast
          cases isLast
          exact ⟨region, scans.1, scans.2.2⟩
      | cons next others =>
          rw [List.getLast?_cons_cons]
          exact ih scans.2.2

/-- The last token of a source that ends a line ends there, whatever follows. -/
theorem Scans.last_ends_of_endsLine {source : String} (scans : Scans .plain tokens .plain)
    (whole : Token.source tokens = source.toList) (endsLine : EndsLine source)
    (following : List Char) :
    ∀ last ∈ tokens.getLast?, Ends last.kind last.lexeme.toList following := by
  intro last isLast
  rcases scans.last_leaves last isLast with ⟨region, fits, leaves⟩
  apply fits.ends_of_mem leaves
  have nonempty := fits.text_ne_nil
  rcases List.getLast?_eq_some_iff.mp isLast with ⟨front, rfl⟩
  rw [source_append, source_cons, source_nil, List.append_nil] at whole
  rcases endsLine with rfl | ⟨line, rfl⟩
  · exact absurd (List.append_eq_nil_iff.mp whole).2 nonempty
  · have lastChar : (source front ++ last.lexeme.toList).getLast? = some '\n' := by
      rw [whole, String.toList_append]
      exact List.getLast?_concat
    rw [List.getLast?_append_of_ne_nil _ nonempty] at lastChar
    exact List.mem_of_getLast? lastChar

theorem filterMap_token?_later (lines : Nat) (found : List Finding) :
    (found.map (Finding.later lines)).filterMap Finding.token? =
      (found.filterMap Finding.token?).map (Token.later lines) := by
  rw [List.filterMap_map, List.map_filterMap]
  congr
  funext finding
  cases finding <;> rfl

theorem filterMap_problem?_later (lines : Nat) (found : List Finding) :
    (found.map (Finding.later lines)).filterMap Finding.problem? =
      (found.filterMap Finding.problem?).map (ScanError.later lines) := by
  rw [List.filterMap_map, List.map_filterMap]
  congr
  funext finding
  cases finding <;> rfl

/-- A source after one without problems that is empty or ends a line: a scan finds the tokens of the
first and then those of the second on later lines, and the problems of the second on later lines. -/
theorem scan_append {front : String} (clean : (scan front).errors = [])
    (endsLine : EndsLine front) (back : String) :
    ∃ tokens, Scans .plain tokens .plain ∧
      (scan front).tokens = foundFrom 1 tokens ++ [atEnd (lastLine front.toList)] ∧
      (scan (front ++ back)).tokens = foundFrom 1 tokens ++
        (scan back).tokens.map (Token.later (front.toList.count '\n')) ∧
      (scan (front ++ back)).errors =
        (scan back).errors.map (ScanError.later (front.toList.count '\n')) := by
  rcases exists_scans_of_scan clean with ⟨tokens, _, scans, whole⟩
  have lastEnds := scans.last_ends_of_endsLine whole endsLine back.toList
  have found : findings .plain 1 (front.toList ++ back.toList) =
      (foundFrom 1 tokens).map Finding.token ++
        (findings .plain 1 back.toList).map (Finding.later (front.toList.count '\n')) := by
    rw [← whole, ← findings_later]
    exact findings_source_append scans lastEnds
  refine ⟨tokens, scans, ?_, ?_, ?_⟩
  · rw [scan_eq_of_scans scans whole]
  · simp only [scan, String.toList_append, found, List.filterMap_append, filterMap_token?_tokens,
      filterMap_token?_later]
  · simp only [scan, String.toList_append, found, List.filterMap_append, filterMap_problem?_tokens,
      filterMap_problem?_later, List.nil_append]

end Token

end Stencil
