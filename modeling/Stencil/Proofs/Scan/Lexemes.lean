import Mathlib.Data.List.Basic
import Mathlib.Data.List.TakeWhile
import Stencil.Token.Scan

/-!
# Lexemes and where they end

The lexeme at the front of a source is described in two parts.  `Fits` says which texts are lexemes
of a kind, and `Ends` says that a text of a kind ends where the following source begins.  Together
they determine what is cut off (`Mode.next_eq_proper`): a scan takes the longest lexeme there is.
-/

namespace Stencil.Token

/-- Where in the source a scan is, whatever the line of the quote that is open. -/
inductive Region where
  | plain
  | quoted
  | interpolated
  deriving DecidableEq, Repr

def Mode.region : Mode → Region
  | .plain => .plain
  | .quoted _ => .quoted
  | .interpolated _ => .interpolated

/-- The region after a token of the given kind. -/
def Region.after (region : Region) (kind : Kind) : Region :=
  match region, kind with
  | .plain, .quote => .quoted
  | .plain, _ => .plain
  | .quoted, .quote => .plain
  | .quoted, .mustacheOpen => .interpolated
  | .quoted, .blockOpen => .interpolated
  | .quoted, .blockClose => .interpolated
  | .quoted, _ => .quoted
  | .interpolated, .quote => .plain
  | .interpolated, .mustacheClose => .quoted
  | .interpolated, _ => .interpolated

@[simp] theorem Mode.region_after (mode : Mode) (line : Nat) (kind : Kind) :
    (mode.after line kind).region = mode.region.after kind := by
  cases mode <;> cases kind <;> rfl

/-- Outside quotes only a quote leads elsewhere. -/
theorem Mode.after_plain {line : Nat} {kind : Kind} (notQuote : kind ≠ .quote) :
    Mode.plain.after line kind = .plain := by
  revert notQuote
  cases kind <;> simp [Mode.after]

theorem Region.after_plain {kind : Kind} (notQuote : kind ≠ .quote) :
    Region.plain.after kind = .plain := by
  revert notQuote
  cases kind <;> decide

/-- A text is a lexeme of a kind in a region. -/
inductive Fits (region : Region) : Kind → List Char → Prop where
  | mark {kind : Kind} {text : List Char} (listed : (text, kind) ∈ marks)
      (inQuotes : region = .quoted → endsString text = true) : Fits region kind text
  | string {text : List Char} (inside : region = .quoted) (nonempty : text ≠ [])
      (whole : cutString text = (text, [])) : Fits region .string text
  | blank {text : List Char} (outside : region ≠ .quoted) (nonempty : text ≠ [])
      (blanks : ∀ char ∈ text, isBlank char = true) : Fits region .blank text
  | number {first : Char} {rest : List Char} (outside : region ≠ .quoted)
      (digit : first.isDigit = true) (whole : cutNumeral (first :: rest) = (first :: rest, [])) :
      Fits region .number (first :: rest)
  | word {kind : Kind} {first : Char} {rest : List Char} (outside : region ≠ .quoted)
      (begins : isNameStart first = true) (parts : ∀ char ∈ rest, isNamePart char = true)
      (isKind : Kind.ofWord (first :: rest) = kind) : Fits region kind (first :: rest)

/-- Whether a character after a lexeme of the given kind belongs to a longer lexeme.  For numerals
and for text inside quotes this also depends on the lexeme. -/
def Kind.goesOn : Kind → Char → Bool
  | .mustacheOpen, char => char == '#' || char == '/'
  | .braceOpen, char => char == '{'
  | .braceClose, char => char == '}'
  | .less, char => char == '/'
  | .slash, char => char == '>'
  | .blank, char => isBlank char
  | .identifier, char => isNamePart char
  | .ifWord, char => isNamePart char
  | .elseWord, char => isNamePart char
  | .eachWord, char => isNamePart char
  | _, _ => false

/-- A lexeme with the given kind and text ends where the following source begins. -/
def Ends (kind : Kind) (text following : List Char) : Prop :=
  match kind with
  | .number => cutNumeral (text ++ following) = (text, following)
  | .string => cutString (text ++ following) = (text, following)
  | _ => ∀ char ∈ following.head?, kind.goesOn char = false

def markStarts : List Char := ['{', '}', '<', '>', '/', '=', '#', '"', '\n']

theorem mark?_eq_none {first : Char} {rest : List Char} (other : first ∉ markStarts) :
    mark? (first :: rest) = none := by
  have starts : ∀ entry ∈ marks, entry.1.head?.any (markStarts.contains ·) = true := by decide
  rw [mark?, List.find?_eq_none]
  intro entry listed fits
  have start := starts entry listed
  rcases entry with ⟨text, kind⟩
  cases text with
  | nil => simp at start
  | cons char tail =>
      simp only [List.head?_cons, Option.any_some, List.contains_eq_mem, decide_eq_true_eq] at start
      rw [List.isPrefixOf_iff_prefix, List.cons_prefix_cons] at fits
      exact other (fits.1 ▸ start)

theorem not_mem_markStarts_of_isBlank {char : Char} (blank : isBlank char = true) :
    char ∉ markStarts := by
  have apart : markStarts.all (fun start => !isBlank start) = true := by decide
  intro listed
  have notBlank := List.all_eq_true.mp apart char listed
  simp [blank] at notBlank

theorem not_mem_markStarts_of_isNamePart {char : Char} (part : isNamePart char = true) :
    char ∉ markStarts := by
  have apart : markStarts.all (fun start => !isNamePart start) = true := by decide
  intro listed
  have notPart := List.all_eq_true.mp apart char listed
  simp [part] at notPart

theorem isNamePart_of_isNameStart {char : Char} (start : isNameStart char = true) :
    isNamePart char = true := by
  simp [isNamePart, start]

theorem isNamePart_of_isDigit {char : Char} (digit : char.isDigit = true) :
    isNamePart char = true := by
  simp [isNamePart, digit]

theorem isBlank_eq_false_of_isNamePart {char : Char} (part : isNamePart char = true) :
    isBlank char = false := by
  have apart : [' ', '\t', '\r'].all (fun blank => !isNamePart blank) = true := by decide
  by_contra isIt
  have listed : char ∈ [' ', '\t', '\r'] := by
    simpa [isBlank, or_assoc] using eq_true_of_ne_false isIt
  have notPart := List.all_eq_true.mp apart char listed
  simp [part] at notPart

def digits : List Char := ['0', '1', '2', '3', '4', '5', '6', '7', '8', '9']

theorem mem_digits_of_isDigit {char : Char} (digit : char.isDigit = true) : char ∈ digits := by
  simp only [Char.isDigit, ge_iff_le, Bool.and_eq_true, decide_eq_true_eq,
    UInt32.le_iff_toNat_le] at digit
  simp only [digits, List.mem_cons, List.not_mem_nil, or_false, Char.ext_iff,
    ← UInt32.toNat_inj]
  simp at *
  omega

theorem isDigit_eq_false_of_isNameStart {char : Char} (start : isNameStart char = true) :
    char.isDigit = false := by
  have apart : digits.all (fun digit => !isNameStart digit) = true := by decide
  by_contra isIt
  have notStart := List.all_eq_true.mp apart char
    (mem_digits_of_isDigit (eq_true_of_ne_false isIt))
  simp [start] at notStart

theorem mark?_self : ∀ entry ∈ marks, mark? entry.1 = some entry := by
  decide

/-- One character decides whether a mark ends. -/
theorem mark?_append_cons : ∀ entry ∈ marks, ∀ (char : Char) (rest : List Char),
    mark? (entry.1 ++ char :: rest) = some entry ↔ entry.2.goesOn char = false := by
  simp only [marks, List.forall_mem_cons]
  simp [mark?, marks, List.isPrefixOf, Kind.goesOn]
  grind

theorem mark?_append_eq_some {kind : Kind} {text following : List Char} :
    mark? (text ++ following) = some (text, kind) ↔
      (text, kind) ∈ marks ∧ ∀ char ∈ following.head?, kind.goesOn char = false := by
  constructor
  · intro found
    have listed : (text, kind) ∈ marks := List.mem_of_find?_eq_some found
    refine ⟨listed, ?_⟩
    intro char next
    rcases List.head?_eq_some_iff.mp next with ⟨rest, rfl⟩
    exact (mark?_append_cons _ listed char rest).mp found
  · intro ⟨listed, ends⟩
    cases following with
    | nil =>
        rw [List.append_nil]
        exact mark?_self _ listed
    | cons char rest => exact (mark?_append_cons _ listed char rest).mpr (ends char rfl)

theorem span_eq_iff {class_ : Char → Bool} {source run following : List Char} :
    source.takeWhile class_ = run ∧ source.dropWhile class_ = following ↔
      source = run ++ following ∧ (∀ char ∈ run, class_ char = true) ∧
        ∀ char ∈ following.head?, class_ char = false := by
  constructor
  · intro ⟨taken, dropped⟩
    refine ⟨?_, ?_, ?_⟩
    · rw [← taken, ← dropped, List.takeWhile_append_dropWhile]
    · intro char member
      rw [← taken] at member
      exact List.mem_takeWhile_imp member
    · intro char next
      have stopped := List.head?_dropWhile_not class_ source
      rw [dropped, Option.mem_def.mp next] at stopped
      exact stopped
  · intro ⟨split, all, stops⟩
    rw [split, List.takeWhile_append_of_pos all, List.dropWhile_append_of_pos all]
    cases following with
    | nil => simp
    | cons char rest => simp [stops char rfl]

/-- A point with a digit after it comes next. -/
def StartsFraction (source : List Char) : Prop :=
  ∃ digit rest, source = '.' :: digit :: rest ∧ digit.isDigit = true

theorem cutNumeral_eq_iff {source text following : List Char} :
    cutNumeral source = (text, following) ↔
      source = text ++ following ∧ (∀ char ∈ following.head?, char.isDigit = false) ∧
        ((∀ char ∈ text, char.isDigit = true) ∧ ¬ StartsFraction following ∨
          ∃ whole digits, text = whole ++ '.' :: digits ∧ (∀ char ∈ whole, char.isDigit = true) ∧
            digits ≠ [] ∧ ∀ char ∈ digits, char.isDigit = true) := by
  constructor
  · intro cut
    have split := cutNumeral_append source
    rw [cut] at split
    refine ⟨split.symm, ?_⟩
    rcases span_eq_iff.mp ⟨rfl, rfl⟩ with ⟨_, allWhole, stops⟩
    simp only [cutNumeral] at cut
    split at cut
    next digit rest tail =>
      split at cut
      next isDigit =>
        rcases span_eq_iff.mp ⟨rfl, rfl⟩ with ⟨_, allDigits, ends⟩
        cases cut
        refine ⟨ends, .inr ⟨_, _, rfl, allWhole, ?_, allDigits⟩⟩
        simp [isDigit]
      next notDigit =>
        rw [tail] at stops
        cases cut
        refine ⟨stops, .inl ⟨allWhole, ?_⟩⟩
        intro ⟨_, _, same, isDigit⟩
        cases same
        exact notDigit isDigit
    next rest other =>
      cases cut
      refine ⟨stops, .inl ⟨allWhole, ?_⟩⟩
      intro ⟨digit, more, same, _⟩
      exact other digit more same
  · intro ⟨split, stops, shape⟩
    rcases shape with ⟨digits, noFraction⟩ | ⟨whole, digits, isText, allWhole, nonempty, allDigits⟩
    · rcases span_eq_iff.mpr ⟨split, digits, stops⟩ with ⟨taken, dropped⟩
      unfold cutNumeral
      split
      next digit rest tail =>
        have notDigit : digit.isDigit ≠ true := by
          intro isDigit
          exact noFraction ⟨digit, rest, by rw [← dropped, tail], isDigit⟩
        rw [if_neg notDigit, taken, ← tail, dropped]
      next rest other => rw [taken, dropped]
    · have ends : ∀ char ∈ ('.' :: (digits ++ following)).head?, char.isDigit = false := by
        intro char next
        cases next
        rfl
      have point : source = whole ++ '.' :: (digits ++ following) := by simp [split, isText]
      rcases span_eq_iff.mpr ⟨point, allWhole, ends⟩ with ⟨taken, dropped⟩
      rcases span_eq_iff.mpr ⟨rfl, allDigits, stops⟩ with ⟨takenDigits, droppedDigits⟩
      cases digits with
      | nil => exact absurd rfl nonempty
      | cons digit more =>
          simp only [List.cons_append] at dropped takenDigits droppedDigits
          simp only [cutNumeral, dropped, allDigits digit (by simp), if_true, taken, takenDigits,
            droppedDigits, isText]

/-- A numeral that ends before some source ends before the beginning of that source. -/
theorem cutNumeral_append_of_prefix {text following more : List Char}
    (cut : cutNumeral (text ++ following) = (text, following)) (front : more <+: following) :
    cutNumeral (text ++ more) = (text, more) := by
  rcases front with ⟨rest, rfl⟩
  rw [cutNumeral_eq_iff] at cut ⊢
  rcases cut with ⟨_, stops, shape⟩
  refine ⟨rfl, ?_, ?_⟩
  · intro char next
    apply stops
    rw [List.head?_append, Option.mem_def.mp next]
    rfl
  · rcases shape with ⟨digits, noFraction⟩ | withFraction
    · refine .inl ⟨digits, ?_⟩
      intro ⟨digit, tail, same, isDigit⟩
      exact noFraction ⟨digit, tail ++ rest, by simp [same], isDigit⟩
    · exact .inr withFraction

/-- A numeral that ends before a text also ends before that text with more source after it, unless
the text is a point and a digit follows. -/
theorem cutNumeral_append_of_append {text next more : List Char}
    (cut : cutNumeral (text ++ next) = (text, next)) (nonempty : next ≠ [])
    (ends : next = ['.'] → ∀ char ∈ more.head?, char.isDigit = false) :
    cutNumeral (text ++ (next ++ more)) = (text, next ++ more) := by
  rw [cutNumeral_eq_iff] at cut ⊢
  rcases cut with ⟨_, stops, shape⟩
  refine ⟨rfl, ?_, ?_⟩
  · rwa [List.head?_append_of_ne_nil _ nonempty]
  · rcases shape with ⟨digits, noFraction⟩ | withFraction
    · refine .inl ⟨digits, ?_⟩
      intro ⟨digit, rest, same, isDigit⟩
      rcases List.append_eq_cons_iff.mp same with ⟨empty, _⟩ | ⟨tail, isNext, isRest⟩
      · exact nonempty empty
      cases tail with
      | nil =>
          have notDigit := ends isNext digit (by rw [← List.nil_append more, ← isRest]; rfl)
          exact absurd isDigit (by simp [notDigit])
      | cons second others =>
          cases isRest
          exact noFraction ⟨digit, others, isNext, isDigit⟩
    · exact .inr withFraction

/-- The characters of a numeral may also stand in a word. -/
theorem isNamePart_of_cutNumeral {text : List Char} (whole : cutNumeral text = (text, [])) :
    ∀ char ∈ text, isNamePart char = true := by
  rcases (cutNumeral_eq_iff.mp whole).2.2 with
    ⟨areDigits, _⟩ | ⟨front, fraction, isText, areDigits, _, areMore⟩
  · exact fun char isIn => isNamePart_of_isDigit (areDigits char isIn)
  · rw [isText, List.forall_mem_append, List.forall_mem_cons]
    exact ⟨fun char isIn => isNamePart_of_isDigit (areDigits char isIn), by decide,
      fun char isIn => isNamePart_of_isDigit (areMore char isIn)⟩

theorem endsString_append {source more : List Char} (ends : endsString source = true) :
    endsString (source ++ more) = true := by
  unfold endsString at ends
  split at ends
  · rfl
  · rfl
  · cases ends

/-- Two characters decide whether text inside quotes ends. -/
theorem endsString_append_of_two {first : Char} {source more : List Char} (nonempty : source ≠ [])
    (goesOn : endsString (first :: source) = false) :
    endsString (first :: (source ++ more)) = false := by
  cases source with
  | nil => exact absurd rfl nonempty
  | cons second rest =>
      unfold endsString at goesOn ⊢
      split at goesOn <;> simp_all

theorem cutString_eq_nil {following : List Char} :
    cutString following = ([], following) ↔ following = [] ∨ endsString following = true := by
  cases following with
  | nil => simp [cutString]
  | cons first rest => simp [cutString]

theorem cutString_cons_eq {first : Char} {source text following : List Char} :
    cutString (first :: source) = (first :: text, following) ↔
      endsString (first :: source) = false ∧ cutString source = (text, following) := by
  cases ends : endsString (first :: source) <;> simp [cutString, ends, Prod.ext_iff]

/-- Text inside quotes that ends before some source ends before the beginning of that source, if
text inside quotes ends before that beginning. -/
theorem cutString_append_of_prefix {text following more : List Char}
    (cut : cutString (text ++ following) = (text, following)) (front : more <+: following)
    (ends : more = [] ∨ endsString more = true) : cutString (text ++ more) = (text, more) := by
  induction text with
  | nil => exact cutString_eq_nil.mpr ends
  | cons first text ih =>
      rw [List.cons_append, cutString_cons_eq] at cut ⊢
      refine ⟨?_, ih cut.2⟩
      rcases front with ⟨rest, rfl⟩
      by_contra stops
      have still : endsString (first :: (text ++ more) ++ rest) = true :=
        endsString_append (eq_true_of_ne_false stops)
      rw [List.cons_append, List.append_assoc, cut.1] at still
      cases still

theorem cutString_append_of_append {text next more : List Char}
    (cut : cutString (text ++ next) = (text, next)) (nonempty : next ≠ []) :
    cutString (text ++ (next ++ more)) = (text, next ++ more) := by
  induction text with
  | nil =>
      rw [List.nil_append] at cut
      rcases cutString_eq_nil.mp cut with empty | ends
      · exact absurd empty nonempty
      · rw [List.nil_append]
        exact cutString_eq_nil.mpr (.inr (endsString_append ends))
  | cons first text ih =>
      rw [List.cons_append, cutString_cons_eq] at cut ⊢
      rw [← List.append_assoc]
      refine ⟨endsString_append_of_two (by simp [nonempty]) cut.1, ?_⟩
      rw [List.append_assoc]
      exact ih cut.2

theorem endsString_of_cutString {text following : List Char}
    (cut : cutString (text ++ following) = (text, following)) :
    following = [] ∨ endsString following = true := by
  induction text with
  | nil => exact cutString_eq_nil.mp cut
  | cons first text ih => exact ih (cutString_cons_eq.mp cut).2

/-- Where text inside quotes ends there is a mark, and it already ends the text by itself. -/
theorem mark?_of_endsString {source : List Char} (ends : endsString source = true) :
    ∃ text kind, mark? source = some (text, kind) ∧ endsString text = true := by
  unfold endsString at ends
  split at ends
  next rest => exact ⟨_, .quote, rfl, rfl⟩
  next rest =>
    cases rest with
    | nil => exact ⟨_, .mustacheOpen, rfl, rfl⟩
    | cons char rest =>
        by_cases hash : char = '#'
        · subst hash
          exact ⟨_, .blockOpen, rfl, rfl⟩
        by_cases slash : char = '/'
        · subst slash
          exact ⟨_, .blockClose, rfl, rfl⟩
        · have listed : (['{', '{'], Kind.mustacheOpen) ∈ marks := by decide
          have ended : Kind.mustacheOpen.goesOn char = false := by simp [Kind.goesOn, hash, slash]
          exact ⟨_, .mustacheOpen, (mark?_append_cons _ listed char rest).mpr ended, rfl⟩
  next => cases ends

/-! ## Cutting off one lexeme -/

theorem ends_iff {kind : Kind} {text following : List Char} (notNumber : kind ≠ .number)
    (notString : kind ≠ .string) :
    Ends kind text following ↔ ∀ char ∈ following.head?, kind.goesOn char = false := by
  cases kind <;> first | rfl | contradiction

theorem ends_of_listed {kind : Kind} {text following : List Char} (listed : (text, kind) ∈ marks) :
    Ends kind text following ↔ ∀ char ∈ following.head?, kind.goesOn char = false := by
  have others : ∀ entry ∈ marks, entry.2 ≠ .number ∧ entry.2 ≠ .string := by decide
  exact ends_iff (others _ listed).1 (others _ listed).2

theorem ends_ofWord {word text following : List Char} :
    Ends (Kind.ofWord word) text following ↔
      ∀ char ∈ following.head?, isNamePart char = false := by
  unfold Kind.ofWord
  split_ifs <;> rfl

/-- A quote, and an interpolation inside quotes, begin with a mark. -/
theorem Lexeme.nextPlain_of_mark {first : Char} {rest text : List Char} {kind : Kind}
    (found : mark? (first :: rest) = some (text, kind)) :
    nextPlain first rest = (.proper kind text, (first :: rest).drop text.length) := by
  simp only [nextPlain, found]

theorem Lexeme.nextPlain_eq_proper {region : Region} {kind : Kind} {first : Char}
    {rest text following : List Char} (outside : region ≠ .quoted) :
    nextPlain first rest = (.proper kind text, following) ↔
      first :: rest = text ++ following ∧ Fits region kind text ∧ Ends kind text following := by
  constructor
  · intro cut
    have split : first :: rest = text ++ following := by
      rw [← nextPlain_append first rest, cut]
      rfl
    refine ⟨split, ?_⟩
    unfold nextPlain at cut
    split at cut
    next mark found =>
      cases cut
      rw [split] at found
      rcases mark?_append_eq_some.mp found with ⟨listed, ends⟩
      exact ⟨.mark listed (absurd · outside), (ends_of_listed listed).mpr ends⟩
    next =>
      split_ifs at cut with blank digit word
      · cases cut
        rcases span_eq_iff.mp ⟨rfl, rfl⟩ with ⟨_, blanks, stops⟩
        exact ⟨.blank outside (by simp) (by simpa [blank] using blanks), stops⟩
      · simp only [Prod.mk.injEq, proper.injEq] at cut
        rcases cut with ⟨⟨rfl, isText⟩, isRest⟩
        have whole : cutNumeral (text ++ following) = (text, following) := by
          rw [← split, ← isText, ← isRest]
        have nonempty : (cutNumeral (first :: rest)).1 ≠ [] := cutNumeral_ne_nil digit
        rw [isText] at nonempty
        cases text with
        | nil => exact absurd rfl nonempty
        | cons char tail =>
            cases split
            have alone := cutNumeral_append_of_prefix whole List.nil_prefix
            rw [List.append_nil] at alone
            exact ⟨.number outside digit alone, whole⟩
      · cases cut
        rcases span_eq_iff.mp ⟨rfl, rfl⟩ with ⟨_, parts, stops⟩
        exact ⟨.word outside word parts rfl, ends_ofWord.mpr stops⟩
      · cases cut
  · intro ⟨split, fits, ends⟩
    cases fits with
    | mark listed =>
        have found := mark?_append_eq_some.mpr ⟨listed, (ends_of_listed listed).mp ends⟩
        rw [← split] at found
        rw [nextPlain_of_mark found, split, List.drop_left]
    | string inside => exact absurd inside outside
    | blank _ nonempty blanks =>
        cases text with
        | nil => exact absurd rfl nonempty
        | cons char tail =>
            cases split
            rw [List.forall_mem_cons] at blanks
            rcases blanks with ⟨blank, blanks⟩
            rcases span_eq_iff.mpr ⟨rfl, blanks, ends⟩ with ⟨taken, dropped⟩
            simp [nextPlain, mark?_eq_none (not_mem_markStarts_of_isBlank blank), blank, taken,
              dropped]
    | number _ digit =>
        cases split
        have part := isNamePart_of_isDigit digit
        have cut : cutNumeral (first :: (_ ++ following)) = _ := ends
        simp [nextPlain, mark?_eq_none (not_mem_markStarts_of_isNamePart part),
          isBlank_eq_false_of_isNamePart part, digit, cut]
    | word _ begins parts isKind =>
        cases split
        subst isKind
        have part := isNamePart_of_isNameStart begins
        rcases span_eq_iff.mpr ⟨rfl, parts, ends_ofWord.mp ends⟩ with ⟨taken, dropped⟩
        simp [nextPlain, mark?_eq_none (not_mem_markStarts_of_isNamePart part),
          isBlank_eq_false_of_isNamePart part, isDigit_eq_false_of_isNameStart begins, begins,
          taken, dropped]

theorem Lexeme.nextQuoted_eq_proper {kind : Kind} {first : Char} {rest text following : List Char} :
    nextQuoted first rest = (.proper kind text, following) ↔
      first :: rest = text ++ following ∧ Fits .quoted kind text ∧ Ends kind text following := by
  constructor
  · intro cut
    have split : first :: rest = text ++ following := by
      rw [← nextQuoted_append first rest, cut]
      rfl
    refine ⟨split, ?_⟩
    unfold nextQuoted at cut
    split_ifs at cut with ends
    · rcases mark?_of_endsString ends with ⟨mark, markKind, found, markEnds⟩
      rw [nextPlain_of_mark found] at cut
      cases cut
      rw [split] at found
      rcases mark?_append_eq_some.mp found with ⟨listed, stops⟩
      exact ⟨.mark listed fun _ => markEnds, (ends_of_listed listed).mpr stops⟩
    · simp only [Prod.mk.injEq, proper.injEq] at cut
      rcases cut with ⟨⟨rfl, isText⟩, isRest⟩
      have whole : cutString (text ++ following) = (text, following) := by
        rw [← split, ← isText, ← isRest]
      have alone := cutString_append_of_prefix whole List.nil_prefix (.inl rfl)
      rw [List.append_nil] at alone
      refine ⟨.string rfl ?_ alone, whole⟩
      intro empty
      rw [empty, List.nil_append] at split whole
      rw [← split] at whole
      rcases cutString_eq_nil.mp whole with none | stops
      · cases none
      · exact ends stops
  · intro ⟨split, fits, ends⟩
    cases fits with
    | mark listed inQuotes =>
        have stops : endsString (first :: rest) = true := by
          rw [split]
          exact endsString_append (inQuotes rfl)
        rw [nextQuoted, if_pos stops, nextPlain_eq_proper (by simp : Region.plain ≠ .quoted)]
        exact ⟨split, .mark listed (by simp), ends⟩
    | string _ nonempty =>
        cases text with
        | nil => exact absurd rfl nonempty
        | cons char text =>
            cases split
            have cut : cutString (first :: (text ++ following)) = (first :: text, following) := ends
            simp [nextQuoted, (cutString_cons_eq.mp cut).1, cut]
    | blank outside | number outside | word outside => exact absurd rfl outside

/-- The spec of one step of a scan: it cuts off a lexeme exactly if the lexeme stands at the front
of the source, is one in its region, and ends where the rest of the source begins. -/
theorem Mode.next_eq_proper {mode : Mode} {kind : Kind} {first : Char}
    {rest text following : List Char} :
    mode.next first rest = (.proper kind text, following) ↔
      first :: rest = text ++ following ∧ Fits mode.region kind text ∧
        Ends kind text following := by
  cases mode with
  | quoted opened => exact Lexeme.nextQuoted_eq_proper
  | plain => exact Lexeme.nextPlain_eq_proper (by simp [region])
  | interpolated opened => exact Lexeme.nextPlain_eq_proper (by simp [region])

/-- A character that no token begins with, outside quotes. -/
def BeginsNoToken (char : Char) : Prop :=
  char ∉ markStarts ∧ isBlank char = false ∧ char.isDigit = false ∧ isNameStart char = false

theorem mark?_ne_none {first : Char} {rest : List Char} (starts : first ∈ markStarts) :
    mark? (first :: rest) ≠ none := by
  have single : markStarts.all (fun start => marks.any fun entry => entry.1 == [start]) = true := by
    decide
  rcases List.any_eq_true.mp (List.all_eq_true.mp single first starts) with ⟨entry, listed, isFirst⟩
  intro noMark
  rw [mark?, List.find?_eq_none] at noMark
  apply noMark entry listed
  simp [beq_iff_eq.mp isFirst]

theorem Lexeme.nextPlain_eq_stray {first char : Char} {rest following : List Char} :
    nextPlain first rest = (.stray char, following) ↔
      char = first ∧ following = rest ∧ BeginsNoToken first := by
  constructor
  · intro stray
    unfold nextPlain at stray
    split at stray
    next => cases stray
    next noMark =>
      split_ifs at stray with blank digit word <;> cases stray
      exact ⟨rfl, rfl, fun starts => mark?_ne_none starts noMark, eq_false_of_ne_true blank,
        eq_false_of_ne_true digit, eq_false_of_ne_true word⟩
  · rintro ⟨rfl, rfl, noMark, notBlank, notDigit, notStart⟩
    simp [nextPlain, mark?_eq_none noMark, notBlank, notDigit, notStart]

/-- In quotes every character belongs to a token. -/
theorem Lexeme.nextQuoted_ne_stray (first char : Char) (rest following : List Char) :
    nextQuoted first rest ≠ (.stray char, following) := by
  intro stray
  unfold nextQuoted at stray
  split at stray
  next ends =>
    rcases mark?_of_endsString ends with ⟨mark, kind, found, _⟩
    rw [nextPlain_of_mark found] at stray
    cases stray
  next => cases stray

/-- The spec of a step that finds no token: it cuts off a character outside quotes that no token
begins with. -/
theorem Mode.next_eq_stray {mode : Mode} {first char : Char} {rest following : List Char} :
    mode.next first rest = (.stray char, following) ↔
      char = first ∧ following = rest ∧ mode.region ≠ .quoted ∧ BeginsNoToken first := by
  cases mode with
  | quoted opened => simp [next, region, Lexeme.nextQuoted_ne_stray]
  | plain => simp [next, region, Lexeme.nextPlain_eq_stray]
  | interpolated opened => simp [next, region, Lexeme.nextPlain_eq_stray]

theorem Fits.kind_ne_endMark {region : Region} {kind : Kind} {text : List Char}
    (fits : Fits region kind text) : kind ≠ .endMark := by
  cases fits with
  | mark listed =>
      have others : ∀ entry ∈ marks, entry.2 ≠ .endMark := by decide
      exact others _ listed
  | word _ _ _ isKind =>
      rw [← isKind, Kind.ofWord]
      split_ifs <;> simp
  | string | blank | number => simp

theorem Fits.text_ne_nil {region : Region} {kind : Kind} {text : List Char}
    (fits : Fits region kind text) : text ≠ [] := by
  cases fits with
  | mark listed =>
      have nonempty : ∀ entry ∈ marks, entry.1 ≠ [] := by decide
      exact nonempty _ listed
  | string _ nonempty | blank _ nonempty => exact nonempty
  | number | word => simp

/-- The text of a kind that has only one. -/
def Kind.spelling? (kind : Kind) : Option (List Char) :=
  match kind with
  | .ifWord => some ['i', 'f']
  | .elseWord => some ['e', 'l', 's', 'e']
  | .eachWord => some ['e', 'a', 'c', 'h']
  | _ => (marks.find? fun entry => entry.2 = kind).map Prod.fst

theorem Fits.spelled {region : Region} {kind : Kind} {text spelling : List Char}
    (fits : Fits region kind text) (only : kind.spelling? = some spelling) : text = spelling := by
  cases fits with
  | mark listed =>
      have single : ∀ entry ∈ marks, entry.2.spelling? = some entry.1 := by decide
      rw [single _ listed] at only
      exact Option.some.inj only
  | string | blank | number => cases only
  | word _ _ _ isKind =>
      subst isKind
      unfold Kind.ofWord at only
      split_ifs at only with isIf isElse isEach
      · rw [isIf]
        exact Option.some.inj only
      · rw [isElse]
        exact Option.some.inj only
      · rw [isEach]
        exact Option.some.inj only
      · cases only

end Stencil.Token
