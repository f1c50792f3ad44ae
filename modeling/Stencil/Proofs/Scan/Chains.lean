import Stencil.Proofs.Scan.Step

/-!
# The lists of tokens that a scan finds

A scan without problems finds tokens each of which is a lexeme of its region and ends where the next
one begins.  Conversely, a list of tokens with this property is what a scan of its text finds.
Whether a list has the property is decided by its tokens and its pairs of neighbours alone, so parts
of the list can be changed one at a time.
-/

namespace Stencil.Token

def source (tokens : List Token) : List Char :=
  tokens.flatMap fun token => token.lexeme.toList

@[simp] theorem source_nil : source [] = [] := rfl

@[simp] theorem source_cons (token : Token) (tokens : List Token) :
    source (token :: tokens) = token.lexeme.toList ++ source tokens := rfl

@[simp] theorem source_append (front back : List Token) :
    source (front ++ back) = source front ++ source back :=
  List.flatMap_append

/-- A token is a lexeme in a region. -/
def FitsIn (region : Region) (token : Token) : Prop :=
  Fits region token.kind token.lexeme.toList

/-- A token ends where the next one begins. -/
def Joins (token next : Token) : Prop :=
  Ends token.kind token.lexeme.toList next.lexeme.toList

/-- A scan that begins in one region may find the tokens and then be in another. -/
def Scans (region : Region) (tokens : List Token) (final : Region) : Prop :=
  match tokens with
  | [] => region = final
  | token :: rest =>
    FitsIn region token ∧ (∀ next ∈ rest.head?, Joins token next) ∧
      Scans (region.after token.kind) rest final

/-- The kinds of lexemes that text inside quotes is made of. -/
def quotedKinds : List Kind :=
  [.string, .quote, .mustacheOpen, .blockOpen, .blockClose]

theorem Fits.outside {region : Region} {kind : Kind} {text : List Char}
    (fits : Fits region kind text) (other : kind ∉ quotedKinds) : region ≠ .quoted := by
  cases fits with
  | mark listed inQuotes =>
      have apart : ∀ entry ∈ marks, endsString entry.1 = true → entry.2 ∈ quotedKinds := by decide
      intro quoted
      exact other (apart _ listed (inQuotes quoted))
  | string => exact absurd (by decide) other
  | blank outside | number outside | word outside => exact outside

theorem Fits.quoted_of_string {region : Region} {text : List Char}
    (fits : Fits region .string text) : region = .quoted := by
  cases fits with
  | mark listed =>
      have others : ∀ entry ∈ marks, entry.2 ≠ .string := by decide
      exact absurd rfl (others _ listed)
  | string inside => exact inside
  | word _ _ _ isKind =>
      unfold Kind.ofWord at isKind
      split_ifs at isKind

/-- The kinds of lexemes that may lead from one region into another. -/
def switches : List Kind :=
  [.quote, .mustacheOpen, .mustacheClose, .blockOpen, .blockClose]

theorem Region.after_eq_self {kind : Kind} (region : Region) (other : kind ∉ switches) :
    region.after kind = region := by
  revert other
  cases region <;> cases kind <;> decide

/-- At the end of the source every lexeme ends. -/
theorem Fits.ends_nil {region : Region} {kind : Kind} {text : List Char}
    (fits : Fits region kind text) : Ends kind text [] := by
  cases fits with
  | mark listed => exact (ends_of_listed listed).mpr (by simp)
  | string _ _ whole =>
      change cutString (text ++ []) = (text, [])
      rw [List.append_nil, whole]
  | blank => exact (ends_iff (by simp) (by simp)).mpr (by simp)
  | number _ _ whole =>
      change cutNumeral (_ ++ []) = (_, [])
      rw [List.append_nil, whole]
  | word _ _ _ isKind =>
      subst isKind
      exact ends_ofWord.mpr (by simp)

/-- A word that is a point goes on with digits. -/
theorem Fits.ends_point {region : Region} {kind : Kind} {following : List Char}
    (outside : region ≠ .quoted) (fits : Fits region kind ['.'])
    (ends : Ends kind ['.'] following) :
    ∀ char ∈ following.head?, char.isDigit = false := by
  cases fits with
  | mark listed =>
      have others : ∀ entry ∈ marks, entry.1 ≠ ['.'] := by decide
      exact absurd rfl (others _ listed)
  | string inside => exact absurd inside outside
  | blank _ _ blanks =>
      have point := blanks '.' (by simp)
      cases point
  | number _ digit => cases digit
  | word _ _ _ isKind =>
      subst isKind
      intro char next
      have apart := ends_ofWord.mp ends char next
      simp only [isNamePart, Bool.or_eq_false_iff] at apart
      exact apart.2

/-- A lexeme that ends where the next lexeme begins ends before everything after it. -/
theorem Ends.append {region : Region} {kind nextKind : Kind} {text next following : List Char}
    (ends : Ends kind text next) (fits : Fits region kind text)
    (nextFits : Fits (region.after kind) nextKind next) (nextEnds : Ends nextKind next following) :
    Ends kind text (next ++ following) := by
  have nonempty := nextFits.text_ne_nil
  -- Numbers and strings look two characters ahead, past a point or a brace; all others look at one.
  by_cases isNumber : kind = .number
  · subst isNumber
    have outside := fits.outside (by decide)
    rw [Region.after_eq_self region (by decide)] at nextFits
    apply cutNumeral_append_of_append ends nonempty
    intro point
    subst point
    exact nextFits.ends_point outside nextEnds
  by_cases isString : kind = .string
  · subst isString
    exact cutString_append_of_append ends nonempty
  · rw [ends_iff isNumber isString] at ends ⊢
    rwa [List.head?_append_of_ne_nil _ nonempty]

/-- In a list of tokens that a scan may find, each token ends before all that follow, and before a
further text if the last one does. -/
theorem Scans.ends_append {region final : Region} {token : Token} {rest : List Token}
    {following : List Char} (scans : Scans region (token :: rest) final)
    (lastEnds : ∀ last ∈ (token :: rest).getLast?,
      Ends last.kind last.lexeme.toList following) :
    Ends token.kind token.lexeme.toList (source rest ++ following) := by
  induction rest generalizing region token with
  | nil => exact lastEnds token rfl
  | cons next rest ih =>
      rcases scans with ⟨fits, joins, scans⟩
      rw [List.getLast?_cons_cons] at lastEnds
      rw [source_cons, List.append_assoc]
      exact Ends.append (joins next rfl) fits scans.1 (ih scans lastEnds)

theorem Scans.forall_fitsIn {region final : Region} {tokens : List Token}
    (scans : Scans region tokens final) : ∀ token ∈ tokens, ∃ region, FitsIn region token := by
  induction tokens generalizing region with
  | nil => simp
  | cons token rest ih =>
      rw [List.forall_mem_cons]
      exact ⟨⟨region, scans.1⟩, ih scans.2.2⟩

theorem Scans.last_ends_nil {region final : Region} {tokens : List Token}
    (scans : Scans region tokens final) :
    ∀ last ∈ tokens.getLast?, Ends last.kind last.lexeme.toList [] := by
  intro last isLast
  rcases scans.forall_fitsIn last (List.mem_of_getLast? isLast) with ⟨_, fits⟩
  exact fits.ends_nil

theorem Scans.ends {region final : Region} {token : Token} {rest : List Token}
    (scans : Scans region (token :: rest) final) :
    Ends token.kind token.lexeme.toList (source rest) := by
  have ends := scans.ends_append scans.last_ends_nil
  rwa [List.append_nil] at ends

/-- Text inside quotes is followed by a mark that ends it. -/
theorem Fits.endsString_of_append {kind : Kind} {text following : List Char}
    (fits : Fits .quoted kind text) (ends : Ends kind text following)
    (stops : endsString (text ++ following) = true) : endsString text = true := by
  cases fits with
  | mark _ inQuotes => exact inQuotes rfl
  | string _ nonempty =>
      cases text with
      | nil => exact absurd rfl nonempty
      | cons first text =>
          have goesOn : endsString (first :: text ++ following) = false :=
            (cutString_cons_eq.mp ends).1
          rw [stops] at goesOn
          cases goesOn
  | blank outside | number outside | word outside => exact absurd rfl outside

/-- A lexeme that ends before everything after it ends where the next lexeme begins. -/
theorem Ends.of_append {region : Region} {kind nextKind : Kind} {text next following : List Char}
    (ends : Ends kind text (next ++ following)) (fits : Fits region kind text)
    (nextFits : Fits (region.after kind) nextKind next) (nextEnds : Ends nextKind next following) :
    Ends kind text next := by
  have nonempty := nextFits.text_ne_nil
  by_cases isNumber : kind = .number
  · subst isNumber
    exact cutNumeral_append_of_prefix ends (List.prefix_append next following)
  by_cases isString : kind = .string
  · subst isString
    have quoted := fits.quoted_of_string
    subst quoted
    rcases endsString_of_cutString ends with empty | stops
    · exact absurd (List.append_eq_nil_iff.mp empty).1 nonempty
    · exact cutString_append_of_prefix ends (List.prefix_append next following)
        (.inr (nextFits.endsString_of_append nextEnds stops))
  · rw [ends_iff isNumber isString] at ends ⊢
    rwa [List.head?_append_of_ne_nil _ nonempty] at ends

/-! ## Scans and lists of tokens -/

variable {mode : Mode} {line : Nat} {tokens : List Token}

/-- A token with the line it is found on and the value that its text denotes. -/
def foundOn (token : Token) (line : Nat) : Token :=
  { token with literal? := Literal.ofLexeme? token.kind token.lexeme.toList, line }

theorem ofLexeme_eq_foundOn (token : Token) (line : Nat) :
    ofLexeme token.kind token.lexeme.toList line = token.foundOn line := by
  simp [ofLexeme, foundOn]

/-- Tokens with the lines they are found on, one after the other. -/
def foundFrom (line : Nat) (tokens : List Token) : List Token :=
  match tokens with
  | [] => []
  | token :: rest => token.foundOn line :: foundFrom (line + token.lexeme.toList.count '\n') rest

/-- What a scan finds if it finds no problem. -/
theorem exists_scans_of_clean (mode : Mode) (line : Nat) (text : List Char)
    (clean : (findings mode line text).filterMap Finding.problem? = []) :
    ∃ tokens, findings mode line text =
        tokens.map Finding.token ++ [.token (atEnd (line + text.count '\n'))] ∧
      Scans mode.region tokens .plain ∧ source tokens = text := by
  induction mode, line, text using findings_induction with
  | closed mode line isClosed =>
      cases mode with
      | plain => exact ⟨[], findings_nil, rfl, rfl⟩
      | quoted opened | interpolated opened => cases isClosed
  | unclosed mode line opened isOpen =>
      rw [findings_nil, isOpen] at clean
      cases clean
  | proper mode line first rest kind text following cut ih =>
      rw [findings_cons_proper cut] at clean ⊢
      rcases ih clean with ⟨tokens, found, scans, whole⟩
      rcases Mode.next_eq_proper.mp cut with ⟨split, fits, ends⟩
      have sameText : (ofLexeme kind text line).lexeme.toList = text := by
        simp [ofLexeme]
      refine ⟨ofLexeme kind text line :: tokens, ?_, ⟨?_, ?_, ?_⟩, ?_⟩
      · rw [found, split, List.count_append, ← Nat.add_assoc]
        rfl
      · rw [FitsIn, sameText]
        exact fits
      · intro follower isFollower
        rcases List.head?_eq_some_iff.mp isFollower with ⟨others, rfl⟩
        rw [Mode.region_after] at scans
        rw [Joins, sameText]
        -- The step looked at all of the rest of the source, of which only the next token counts.
        rw [← whole] at ends
        exact Ends.of_append ends fits scans.1 scans.ends
      · rw [Mode.region_after] at scans
        exact scans
      · rw [source_cons, sameText, whole, split]
  | stray mode line first rest char following cut =>
      rw [findings_cons_stray cut] at clean
      cases clean

/-- A scan finds the tokens of every list that it may find, also in front of a further text if the
last one ends there. -/
theorem findings_source_append {following : List Char} (scans : Scans mode.region tokens .plain)
    (lastEnds : ∀ last ∈ tokens.getLast?, Ends last.kind last.lexeme.toList following) :
    findings mode line (source tokens ++ following) =
      (foundFrom line tokens).map Finding.token ++
        findings .plain (line + (source tokens).count '\n') following := by
  induction tokens generalizing mode line with
  | nil =>
      cases mode with
      | plain => rfl
      | quoted opened | interpolated opened => cases scans
  | cons token rest ih =>
      have ends := scans.ends_append lastEnds
      have restEnds : ∀ last ∈ rest.getLast?, Ends last.kind last.lexeme.toList following := by
        intro last isLast
        apply lastEnds
        rw [List.getLast?_cons, Option.mem_def.mp isLast]
        rfl
      rcases scans with ⟨fits, _, scans⟩
      rw [← Mode.region_after mode line] at scans
      have found : findings (mode.after line token.kind)
          (line + token.lexeme.toList.count '\n') (source rest ++ following) =
            (foundFrom (line + token.lexeme.toList.count '\n') rest).map Finding.token ++
              findings .plain (line + token.lexeme.toList.count '\n' + (source rest).count '\n')
                following :=
        ih scans restEnds
      have sameToken := token.ofLexeme_eq_foundOn line
      cases isText : token.lexeme.toList with
      | nil => exact absurd isText fits.text_ne_nil
      | cons first text =>
          have cut : mode.next first (text ++ (source rest ++ following)) =
              (.proper token.kind (first :: text), source rest ++ following) := by
            rw [FitsIn, isText] at fits
            rw [isText] at ends
            exact Mode.next_eq_proper.mpr ⟨rfl, fits, ends⟩
          rw [isText] at found sameToken
          rw [source_cons, isText, List.append_assoc, List.cons_append, findings_cons_proper cut,
            foundFrom, isText, List.map_cons, List.cons_append, List.count_append, ← Nat.add_assoc,
            ← found, ← sameToken]

theorem findings_source (scans : Scans mode.region tokens .plain) :
    findings mode line (source tokens) =
      (foundFrom line tokens).map Finding.token ++
        [.token (atEnd (line + (source tokens).count '\n'))] := by
  have found : findings mode line (source tokens ++ []) = _ ++ findings .plain _ [] :=
    findings_source_append scans scans.last_ends_nil
  rwa [List.append_nil, findings_nil] at found

theorem filterMap_token?_tokens (tokens : List Token) :
    (tokens.map Finding.token).filterMap Finding.token? = tokens := by
  rw [List.filterMap_map]
  exact List.filterMap_some

theorem filterMap_problem?_tokens (tokens : List Token) :
    (tokens.map Finding.token).filterMap Finding.problem? = [] := by
  simp [Finding.problem?]

/-- The tokens that a scan finds in a source without problems. -/
theorem exists_scans_of_scan {text : String} (clean : (scan text).errors = []) :
    ∃ tokens, (scan text).tokens = tokens ++ [atEnd (lastLine text.toList)] ∧
      Scans .plain tokens .plain ∧ source tokens = text.toList := by
  rcases exists_scans_of_clean .plain 1 text.toList clean with ⟨tokens, found, scans, whole⟩
  refine ⟨tokens, ?_, scans, whole⟩
  change (findings .plain 1 text.toList).filterMap Finding.token? = _
  rw [found, List.filterMap_append, filterMap_token?_tokens]
  rfl

/-- A list of tokens that a scan may find is what it finds in the text of the list. -/
theorem scan_eq_of_scans {text : String} (scans : Scans .plain tokens .plain)
    (whole : source tokens = text.toList) :
    scan text =
      { tokens := foundFrom 1 tokens ++ [atEnd (lastLine text.toList)], errors := [] } := by
  have found : findings .plain 1 (source tokens) = _ := findings_source scans
  rw [whole] at found
  rw [scan, found, List.filterMap_append, List.filterMap_append, filterMap_token?_tokens,
    filterMap_problem?_tokens]
  rfl

end Stencil.Token
