import Stencil.Proofs.Render.Binders
import Stencil.Proofs.Scan.Problems

/-!
# Values without quotes

In a tag, a value without quotes is a single word.  What stands behind the word, up to the end of
the tag, is text of the tag and no part of the value.  So a value without quotes that is made of a
word and further marks is taken apart, and any other is taken whole or not at all.
-/

namespace Stencil

open Grammar
open Token (Kind fixed identifier gap Scans Joins IsIdentifier foundFrom)

variable {name value : String} {context : Context} {registry : Registry}
variable {first : Token} {tokens others : List Token}

namespace Token

/-- Whether a character is no part of a value without quotes. -/
def endsValue (char : Char) : Bool :=
  spaceChars.contains char || ['"', '<', '>', '=', '{', '}'].contains char

/-- A text that has none of the characters that a value without quotes ends with.  It does not end
with a slash, which would be taken for the end of a tag without content. -/
structure IsUnquoted (value : String) : Prop where
  nonempty : value ≠ ""
  inside : ∀ char ∈ value.toList, endsValue char = false
  last : value.toList.getLast? ≠ some '/'

/-- The marks that a value without quotes may contain. -/
def valueMarks : List Char := ['/', '#']

/-- The part of a value in front of its first mark. -/
def leadingWord (value : String) : String :=
  String.ofList (value.toList.takeWhile fun char => !valueMarks.contains char)

/-- The part of a value from its first mark on. -/
def behindWord (value : String) : String :=
  String.ofList (value.toList.dropWhile fun char => !valueMarks.contains char)

/-- Whether a character belongs to a word, a number or a mark that a value may contain. -/
def isValuePart (char : Char) : Bool :=
  isNamePart char || valueMarks.contains char

/-- A value of words, numbers and marks that begins with an identifier. -/
structure BeginsWithWord (value : String) : Prop where
  parts : ∀ char ∈ value.toList, isValuePart char = true
  word : IsIdentifier (leadingWord value)

theorem isUnquoted_iff : IsUnquoted value ↔
    value ≠ "" ∧ value.toList.any endsValue = false ∧ value.toList.getLast? ≠ some '/' := by
  rw [List.any_eq_false]
  simp only [Bool.not_eq_true]
  exact ⟨fun ⟨nonempty, inside, last⟩ => ⟨nonempty, inside, last⟩,
    fun ⟨nonempty, inside, last⟩ => ⟨nonempty, inside, last⟩⟩

instance (value : String) : Decidable (IsUnquoted value) :=
  decidable_of_iff _ isUnquoted_iff.symm

theorem beginsWithWord_iff : BeginsWithWord value ↔
    value.toList.all isValuePart = true ∧ IsIdentifier (leadingWord value) := by
  rw [List.all_eq_true]
  exact ⟨fun ⟨parts, word⟩ => ⟨parts, word⟩, fun ⟨parts, word⟩ => ⟨parts, word⟩⟩

instance (value : String) : Decidable (BeginsWithWord value) :=
  decidable_of_iff _ beginsWithWord_iff.symm

theorem leadingWord_append (value : String) :
    (leadingWord value).toList ++ (behindWord value).toList = value.toList := by
  simp [leadingWord, behindWord, List.takeWhile_append_dropWhile]

theorem isNamePart_eq_false_of_mem_valueMarks {char : Char} (isMark : char ∈ valueMarks) :
    isNamePart char = false := by
  have apart : valueMarks.all (fun mark => !isNamePart mark) = true := by decide
  simpa using List.all_eq_true.mp apart char isMark

theorem not_beginsNoToken_iff {char : Char} (inside : endsValue char = false) :
    ¬ BeginsNoToken char ↔ isValuePart char = true := by
  rw [isValuePart, Bool.or_eq_true, List.contains_iff_mem]
  constructor
  · intro begins
    by_contra other
    rw [not_or] at other
    have listed : markStarts.all (fun start => endsValue start || valueMarks.contains start) =
        true := by decide
    have notPart : isNameStart char = false ∧ char.isDigit = false := by
      simpa [isNamePart] using other.1
    refine begins ⟨?_, ?_, notPart.2, notPart.1⟩
    · intro starts
      have isListed := List.all_eq_true.mp listed char starts
      simp [inside, other.2] at isListed
    · apply eq_false_of_ne_true
      intro blank
      simp [endsValue, mem_spaceChars.mpr (.inl blank)] at inside
  · rintro (part | isMark)
    · exact not_beginsNoToken_of_isNamePart part
    · have starts : valueMarks.all markStarts.contains = true := by decide
      intro none
      exact none.1 (List.contains_iff_mem.mp (List.all_eq_true.mp starts char isMark))

/-- The kinds of tokens that a value without quotes is cut into. -/
def valueKinds : List Kind :=
  [.slash, .hash, .number, .identifier, .ifWord, .elseWord, .eachWord]

theorem Fits.mem_valueKinds {kind : Kind} {text : List Char} (fits : Fits .plain kind text)
    (inside : ∀ char ∈ text, endsValue char = false) : kind ∈ valueKinds := by
  cases fits with
  | mark listed =>
      have others : ∀ entry ∈ marks, entry.1.any endsValue = false → entry.2 ∈ valueKinds := by
        decide
      exact others _ listed (List.any_eq_false.mpr fun char isIn => ne_true_of_eq_false
        (inside char isIn))
  | string quoted => cases quoted
  | blank _ nonempty blanks =>
      rcases List.exists_mem_of_ne_nil _ nonempty with ⟨char, isIn⟩
      have goesOn := inside char isIn
      simp [endsValue, mem_spaceChars.mpr (.inl (blanks char isIn))] at goesOn
  | number => decide
  | word _ _ _ isKind =>
      rw [← isKind]
      exact (by decide : ∀ kind ∈ words, kind ∈ valueKinds) _ (ofWord_mem_words _)

/-- A token of a value ends where the tag does, unless it is a slash. -/
theorem Fits.ends_greater {region : Region} {kind : Kind} {text : List Char}
    (fits : Fits region kind text) (inValue : kind ∈ valueKinds) (notSlash : kind ≠ .slash) :
    Ends kind text ['>'] := by
  by_cases isNumber : kind = .number
  · subst isNumber
    have whole : cutNumeral (text ++ []) = (text, []) := fits.ends_nil
    rw [cutNumeral_eq_iff] at whole
    apply cutNumeral_eq_iff.mpr
    refine ⟨rfl, ?_, ?_⟩
    · intro char isFirst
      cases isFirst
      rfl
    · rcases whole.2.2 with ⟨areDigits, _⟩ | withFraction
      · refine .inl ⟨areDigits, ?_⟩
        intro ⟨_, _, same, _⟩
        cases same
      · exact .inr withFraction
  · have others : ∀ kind ∈ valueKinds, kind ≠ .slash → kind ≠ .number →
        kind ≠ .string ∧ kind.goesOn '>' = false := by decide
    rcases others kind inValue notSlash isNumber with ⟨notString, stops⟩
    rw [ends_iff isNumber notString]
    intro char isFirst
    cases isFirst
    exact stops

/-- The tokens that a value without quotes is cut into. -/
structure AreValue (value : String) (tokens : List Token) : Prop where
  scans : Scans .plain tokens .plain
  whole : source tokens = value.toList
  kinds : ∀ token ∈ tokens, token.kind ∈ valueKinds
  ends : ∀ last ∈ tokens.getLast?, Joins last (fixed .greater)

theorem IsUnquoted.noQuote (unquoted : IsUnquoted value) : '"' ∉ value.toList := by
  intro isIn
  cases unquoted.inside _ isIn

theorem IsUnquoted.exists_areValue (unquoted : IsUnquoted value)
    (parts : ∀ char ∈ value.toList, isValuePart char = true) :
    ∃ first others, AreValue value (first :: others) := by
  have noQuote := unquoted.noQuote
  have clean : (scan value).errors = [] := by
    rw [scan_errors_eq_nil_iff noQuote]
    exact fun char isIn => (not_beginsNoToken_iff (unquoted.inside char isIn)).mpr (parts char isIn)
  rcases exists_scans_of_scan clean with ⟨tokens, _, scans, whole⟩
  have stay := scans.staysPlain (whole ▸ noQuote)
  have kinds : ∀ token ∈ tokens, token.kind ∈ valueKinds := by
    intro token isToken
    apply Fits.mem_valueKinds (stay token isToken).1
    intro char isIn
    apply unquoted.inside
    rw [← whole]
    exact List.mem_flatMap_of_mem isToken isIn
  cases tokens with
  | nil =>
      have isEmpty : value = "" := String.toList_eq_nil_iff.mp whole.symm
      exact absurd isEmpty unquoted.nonempty
  | cons first others =>
      refine ⟨first, others, scans, whole, kinds, ?_⟩
      intro last isLast
      rcases List.getLast?_eq_some_iff.mp isLast with ⟨front, split⟩
      have isToken : last ∈ first :: others := List.mem_of_getLast? isLast
      apply Fits.ends_greater (stay last isToken).1 (kinds last isToken)
      intro isSlash
      have text : last.lexeme.toList = ['/'] :=
        IsLexeme.spelled ⟨.plain, (stay last isToken).1⟩ isSlash rfl
      apply unquoted.last
      rw [← whole, split, source_append, source_cons, source_nil, text, List.append_nil,
        List.getLast?_concat]

/-- What a value begins with is found as a token by itself if it is an identifier. -/
theorem AreValue.of_isIdentifier (areValue : AreValue value (first :: others))
    (isWord : IsIdentifier (leadingWord value)) :
    first.kind = .identifier ∧ first.lexeme.toList = (leadingWord value).toList ∧
      source others = (behindWord value).toList := by
  have fits : Fits .plain .identifier (leadingWord value).toList := isWord.fitsIn (by decide)
  have ends : Ends .identifier (leadingWord value).toList (behindWord value).toList := by
    intro char isFirst
    have stopped := List.head?_dropWhile_not (fun char => !valueMarks.contains char) value.toList
    rw [behindWord, String.toList_ofList] at isFirst
    rw [Option.mem_def.mp isFirst] at stopped
    exact isNamePart_eq_false_of_mem_valueMarks (by simpa using stopped)
  rcases areValue.scans with ⟨firstFits, _, _⟩
  have firstEnds := areValue.scans.ends
  have whole := areValue.whole
  rw [source_cons, ← leadingWord_append value] at whole
  cases isText : first.lexeme.toList with
  | nil => exact absurd isText firstFits.text_ne_nil
  | cons char text =>
      rw [isText] at whole firstEnds
      rw [FitsIn, isText] at firstFits
      have cut : Mode.plain.next char (text ++ source others) = (.proper first.kind _, _) :=
        Mode.next_eq_proper.mpr ⟨rfl, firstFits, firstEnds⟩
      have cutWord : Mode.plain.next char (text ++ source others) = (.proper .identifier _, _) :=
        Mode.next_eq_proper.mpr ⟨whole, fits, ends⟩
      rw [cut] at cutWord
      injection cutWord with isLexeme isRest
      injection isLexeme with isKind isWord
      exact ⟨isKind, isWord, isRest⟩

theorem IsIdentifier.isNamePart (isName : IsIdentifier name) :
    ∀ char ∈ name.toList, Token.isNamePart char = true := by
  rcases isName.word with ⟨first, rest, split, begins, parts⟩
  rw [split, List.forall_mem_cons]
  exact ⟨isNamePart_of_isNameStart begins, parts⟩

/-- If a value begins with an identifier, the value's first word is that identifier. -/
theorem AreValue.isIdentifier (areValue : AreValue value (first :: others))
    (parts : ∀ char ∈ value.toList, isValuePart char = true)
    (isWord : first.kind = .identifier) : IsIdentifier (leadingWord value) := by
  have isName : IsIdentifier first.lexeme := IsLexeme.isIdentifier ⟨.plain, areValue.scans.1⟩ isWord
  have ends := areValue.scans.ends
  rw [isWord] at ends
  have taken : (value.toList.takeWhile fun char => !valueMarks.contains char) =
        first.lexeme.toList ∧
      (value.toList.dropWhile fun char => !valueMarks.contains char) = source others := by
    apply span_eq_iff.mpr
    refine ⟨areValue.whole.symm, ?_, ?_⟩
    · intro char isIn
      have part := isName.isNamePart char isIn
      rw [Bool.not_eq_true', ← Bool.not_eq_true, List.contains_iff_mem]
      intro isMark
      rw [isNamePart_eq_false_of_mem_valueMarks isMark] at part
      cases part
    · intro char isFirst
      have isIn : char ∈ value.toList := by
        rw [← areValue.whole]
        exact List.mem_append_right _ (List.mem_of_mem_head? isFirst)
      have notPart : isNamePart char = false := ends char isFirst
      have isPart := parts char isIn
      rw [isValuePart, notPart, Bool.false_or] at isPart
      rw [isPart]
      rfl
  rw [leadingWord, taken.1, String.ofList_toList]
  exact isName

end Token

/-! ## A tag with a value -/

/-- The source of a tag with one attribute whose value has no quotes. -/
def unquotedSource (name value : String) : String :=
  "<a " ++ name ++ "=" ++ value ++ "></a>"

def openingTokens (name : String) : List Token :=
  [fixed .less, identifier "a", gap, identifier name, fixed .equal]

def closingTokens : List Token :=
  [fixed .greater, fixed .tagClose, identifier "a", fixed .greater]

theorem isIdentifier_a : IsIdentifier "a" := by
  decide

theorem scans_openingTokens (isName : IsIdentifier name) :
    Scans .plain (openingTokens name) .plain := by
  apply Token.scans_of_isChain
  · simp only [openingTokens, List.forall_mem_cons]
    simp (disch := decide) [Token.fixed_staysPlain, Token.gap_staysPlain,
      isIdentifier_a.staysPlain, isName.staysPlain]
  · simp only [openingTokens, List.isChain_cons_cons]
    exact ⟨Token.fixed_joins (by decide), Token.identifier_joins _ rfl, isName.joins (by decide),
      Token.identifier_joins _ rfl, .singleton _⟩

theorem scans_closingTokens : Scans .plain closingTokens .plain := by
  apply Token.scans_of_isChain
  · simp only [closingTokens, List.forall_mem_cons]
    simp (disch := decide) [Token.fixed_staysPlain, isIdentifier_a.staysPlain]
  · simp only [closingTokens, List.isChain_cons_cons]
    exact ⟨Token.fixed_joins (by decide), isIdentifier_a.joins (by decide),
      Token.identifier_joins _ rfl, .singleton _⟩

theorem scans_unquotedSource (isName : IsIdentifier name)
    (areValue : Token.AreValue value (first :: others)) :
    Scans .plain (openingTokens name ++ (first :: others ++ closingTokens)) .plain := by
  have inside : Scans .plain (first :: others ++ closingTokens) .plain := by
    rw [Token.scans_append]
    refine ⟨.plain, areValue.scans, scans_closingTokens, ?_⟩
    intro last isLast next isNext
    cases isNext
    exact areValue.ends last isLast
  rw [Token.scans_append]
  refine ⟨.plain, scans_openingTokens isName, inside, ?_⟩
  intro last isLast next _
  cases isLast
  -- Nothing that follows an equals sign makes it longer.
  intro char _
  rfl

theorem source_unquotedSource (areValue : Token.AreValue value (first :: others)) :
    Token.source (openingTokens name ++ (first :: others ++ closingTokens)) =
      (unquotedSource name value).toList := by
  rw [Token.source_append, Token.source_append, areValue.whole]
  simp [openingTokens, closingTokens, unquotedSource, fixed, Kind.spelling?, Token.marks, gap,
    identifier]

/-- Tokens that stand for their text. -/
def literals (tokens : List Token) : List Statement :=
  tokens.map fun token => .literal token.lexeme

theorem derives_literals (matchNames : Bool) (levels : Nat)
    (kinds : ∀ token ∈ tokens, token.kind ∈ Token.valueKinds) :
    Derives matchNames (levels + 1) (.list .opening (literals tokens)) tokens := by
  induction tokens with
  | nil => exact .nil
  | cons token tokens ih =>
      have apart : ∀ kind ∈ Token.valueKinds,
          kind ∉ Place.opening.ends ∧ kind ∉ reserved ∧ kind ≠ .equal := by decide
      rw [List.forall_mem_cons] at kinds
      apply Derives.cons _ (.literal _) _ (ih kinds.2)
      · exact (apart _ kinds.1).1
      · exact (apart _ kinds.1).2.1
      · intro _ _ _ _ next isNext
        exact (apart _ (kinds.2 next (List.mem_of_mem_head? isNext))).2.2

theorem renderAll_literals {callee? : Option Callee} {scope : Scope} {levels : Nat}
    (tokens : List Token) :
    renderAll registry callee? (literals tokens) scope levels =
      .ok (String.ofList (Token.source tokens)) := by
  induction tokens with
  | nil =>
      rw [literals, List.map_nil, renderAll]
      rfl
  | cons token tokens ih =>
      rw [literals] at ih
      rw [literals, List.map_cons, renderAll_cons, Statement.render, ih,
        Token.source_cons, String.ofList_append, String.ofList_toList]
      rfl

def givenStatements (name : String) (first : Token) (others : List Token) : List Statement :=
  .literal " " :: .assignment (.bare name first.lexeme) :: literals others

theorem derives_givenStatements (name : String) (matchNames : Bool) (levels : Nat)
    (isWord : first.kind = .identifier)
    (kinds : ∀ token ∈ others, token.kind ∈ Token.valueKinds) :
    Derives matchNames (levels + 1) (.list .opening (givenStatements name first others))
      (gap :: identifier name :: fixed .equal :: first :: others) := by
  have named : (identifier name).kind = .identifier := rfl
  have sign : (fixed .equal).kind = .equal := rfl
  have given : Derives matchNames (levels + 1) (.statement .attributes (.assignment _)) _ :=
    .assignment (.bare named sign isWord)
  have behindGap : Derives matchNames (levels + 1)
      (.list .opening (.assignment (.bare name first.lexeme) :: literals others))
      ([identifier name, fixed .equal, first] ++ others) := by
    have notEnd : Kind.identifier ∉ Place.opening.ends := by decide
    apply Derives.cons notEnd given _ (derives_literals matchNames levels kinds)
    intro _ word single
    cases single
  have blank : Derives matchNames (levels + 1) (.statement .attributes (.literal " ")) [gap] :=
    @Derives.literal _ _ _ gap (by decide)
  apply Derives.cons (by decide) blank _ behindGap
  intro _ word single isName
  cases single
  cases isName

/-- The template of a tag with a value that begins with a word. -/
def unquotedTemplate (name : String) (first : Token) (others : List Token) : Template :=
  [.tag "a" (joinLiterals (givenStatements name first others)) []]

theorem compile_unquotedSource (isName : IsIdentifier name)
    (areValue : Token.AreValue value (first :: others)) (isWord : first.kind = .identifier) :
    Template.compile (unquotedSource name value) = .ok (unquotedTemplate name first others) := by
  have kinds : ∀ token ∈ others, token.kind ∈ Token.valueKinds :=
    fun token isToken => areValue.kinds token (List.mem_cons_of_mem _ isToken)
  have less : (fixed .less).kind = .less := rfl
  have named : (identifier "a").kind = .identifier := rfl
  have greater : (fixed .greater).kind = .greater := rfl
  have closed : (fixed .tagClose).kind = .tagClose := rfl
  have given := derives_givenStatements name false 254 isWord kinds
  have derived : Derives false 256 (.statement .content (.tag "a" _ (joinLiterals []))) _ :=
    .tag less named given greater .nil closed named (by simp) greater
  apply Template.compile_eq_ok_iff.mpr
  exact ⟨_, unquotedTemplate name first others, scans_unquotedSource isName areValue,
    source_unquotedSource areValue, .singleton (by decide) derived, rfl⟩

theorem render_unquotedTemplate (name : String) (first : Token) (others : List Token)
    (context : Context) (registry : Registry) :
    (unquotedTemplate name first others).render context registry =
      .ok ("<a " ++ name ++ "=\"" ++ first.lexeme ++ "\"" ++ String.ofList (Token.source others) ++
        "></a>") := by
  apply Template.render_singleton
  intro callee?
  have opening : (descend 512 fun inner => renderAll registry callee?
      (joinLiterals (givenStatements name first others)) [context.bindings] inner) =
        .ok (" " ++ (name ++ "=\"" ++ first.lexeme ++ "\"" ++
          String.ofList (Token.source others))) := by
    rw [descend, renderAll_joinLiterals, givenStatements, renderAll_cons, renderAll_cons,
      renderAll_literals, Statement.render, Statement.render, Attribute.render]
    rfl
  rw [Statement.render, opening, descend, renderAll]
  apply congrArg Except.ok
  rw [← String.toList_inj]
  simp

/-- Where a value is expected, a token of a value other than a word is a fault. -/
theorem template_openingTokens {rest : List Token} (inValue : first.kind ∈ Token.valueKinds)
    (noWord : first.kind ≠ .identifier) :
    Parse.template {} (foundFrom 1 (openingTokens name) ++ first :: rest) =
      .error ⟨some first, .expected .attributeValue⟩ := by
  rcases first with ⟨kind, lexeme, literal?, line⟩
  cases kind with
  | slash | hash | number | ifWord | elseWord | eachWord => rfl
  | identifier => exact absurd rfl noWord
  | _ => exact absurd inValue (by simp [Token.valueKinds])

theorem exists_compile_eq_error_of_noWord (isName : IsIdentifier name)
    (areValue : Token.AreValue value (first :: others)) (noWord : first.kind ≠ .identifier) :
    ∃ error, Template.compile (unquotedSource name value) = .error error := by
  have scans := scans_unquotedSource isName areValue
  have noMark := @kind_ne_endMark_of_foundFrom 1 _ scans.kind_ne_endMark
  have scanned := Token.scan_eq_of_scans scans (source_unquotedSource areValue)
  have inValue := areValue.kinds first List.mem_cons_self
  have stops : ∃ fault, Parse.template {}
      (foundFrom 1 (openingTokens name ++ (first :: others ++ closingTokens))) = .error fault := by
    rw [foundFrom_append, List.cons_append, foundFrom_cons]
    exact ⟨_, template_openingTokens inValue noWord⟩
  rcases stops with ⟨fault, stops⟩
  rw [Template.compile, scanned]
  change ∃ error, (Template.parse _ _).mapError CompileError.parse = _
  rw [Template.parse, beforeEnd_append noMark rfl, stops]
  exact ⟨_, rfl⟩

theorem exists_compile_eq_error_of_stray (isName : IsIdentifier name)
    (unquoted : Token.IsUnquoted value)
    (stray : ¬ ∀ char ∈ value.toList, Token.isValuePart char = true) :
    ∃ error, Template.compile (unquotedSource name value) = .error error := by
  have noQuote : '"' ∉ (unquotedSource name value).toList := by
    have notInName : '"' ∉ name.toList := fun isIn => by cases isName.isNamePart _ isIn
    simp [unquotedSource, notInName, unquoted.noQuote]
  have reported : (Token.scan (unquotedSource name value)).errors ≠ [] := by
    rw [Ne, Token.scan_errors_eq_nil_iff noQuote]
    intro begins
    apply stray
    intro char isIn
    rw [← Token.not_beginsNoToken_iff (unquoted.inside char isIn)]
    apply begins
    simp [unquotedSource, isIn]
  rw [Template.compile, if_neg (by rwa [List.isEmpty_iff])]
  exact ⟨_, rfl⟩

/-! ## All values without quotes -/

theorem renderSource_of_beginsWithWord (isName : IsIdentifier name)
    (unquoted : Token.IsUnquoted value) (begins : Token.BeginsWithWord value) (context : Context)
    (registry : Registry) :
    renderSource (unquotedSource name value) context registry =
      .ok ("<a " ++ name ++ "=\"" ++ Token.leadingWord value ++ "\"" ++ Token.behindWord value ++
        "></a>") := by
  rcases unquoted.exists_areValue begins.parts with ⟨first, others, areValue⟩
  rcases areValue.of_isIdentifier begins.word with ⟨isWord, isLeading, isBehind⟩
  have rendered := render_unquotedTemplate name first others context registry
  rw [isBehind, String.ofList_toList, String.toList_inj.mp isLeading] at rendered
  exact renderSource_eq_ok (compile_unquotedSource isName areValue isWord) rendered

theorem exists_compile_eq_error (isName : IsIdentifier name) (unquoted : Token.IsUnquoted value)
    (otherwise : ¬ Token.BeginsWithWord value) :
    ∃ error, Template.compile (unquotedSource name value) = .error error := by
  by_cases parts : ∀ char ∈ value.toList, Token.isValuePart char = true
  · rcases unquoted.exists_areValue parts with ⟨first, others, areValue⟩
    apply exists_compile_eq_error_of_noWord isName areValue
    intro isWord
    exact otherwise ⟨parts, areValue.isIdentifier parts isWord⟩
  · exact exists_compile_eq_error_of_stray isName unquoted parts

/-- A value without marks is its first word. -/
theorem Token.leadingWord_eq_self (noMarks : ∀ mark ∈ valueMarks, mark ∉ value.toList) :
    leadingWord value = value ∧ behindWord value = "" := by
  have whole : ∀ char ∈ value.toList, (!valueMarks.contains char) = true := by
    intro char isIn
    rw [Bool.not_eq_true', ← Bool.not_eq_true, List.contains_iff_mem]
    exact fun isMark => noMarks char isMark isIn
  rw [leadingWord, behindWord, List.takeWhile_eq_self_iff.mpr whole,
    List.dropWhile_eq_nil_iff.mpr whole]
  exact ⟨String.ofList_toList, String.ofList_nil⟩

/-- A value without quotes is either no value, or its first word is the value and the rest of it, up
to the end of the tag, is text of the tag.  So without a slash and without a number sign it is taken
whole or not at all. -/
theorem renderSource_unquotedSource
    (oneToken : Token.scan name = { tokens := [identifier name, Token.atEnd 1], errors := [] })
    (unquoted : Token.IsUnquoted value) :
    (Token.BeginsWithWord value → ∀ context registry,
      renderSource (unquotedSource name value) context registry =
        .ok ("<a " ++ name ++ "=\"" ++ Token.leadingWord value ++ "\"" ++ Token.behindWord value ++
          "></a>")) ∧
      (¬ Token.BeginsWithWord value →
        ∃ error, Template.compile (unquotedSource name value) = .error error) ∧
      ((∀ mark ∈ Token.valueMarks, mark ∉ value.toList) →
        (∃ error, Template.compile (unquotedSource name value) = .error error) ∨
          ∀ context registry, renderSource (unquotedSource name value) context registry =
            .ok ("<a " ++ name ++ "=\"" ++ value ++ "\"></a>")) := by
  have isName : IsIdentifier name := Token.isIdentifier_iff_scan.mpr oneToken
  refine ⟨renderSource_of_beginsWithWord isName unquoted, exists_compile_eq_error isName unquoted,
    ?_⟩
  intro noMarks
  by_cases begins : Token.BeginsWithWord value
  · right
    intro context registry
    rcases Token.leadingWord_eq_self noMarks with ⟨isLeading, isBehind⟩
    rw [renderSource_of_beginsWithWord isName unquoted begins, isLeading, isBehind,
      String.append_empty, String.append_assoc]
    rfl
  · exact .inl (exists_compile_eq_error isName unquoted begins)

/-- A path without quotes is taken apart: only its first word is the value. -/
theorem renderSource_unquotedSource_path :
    Token.scan "n" = { tokens := [identifier "n", Token.atEnd 1], errors := [] } ∧
      "foo/bar" ≠ "" ∧
      (∀ char ∈ "foo/bar".toList, char.isWhitespace = false ∧
        char ∉ "\"'`<>={}".toList) ∧
      "foo/bar".toList.getLast? ≠ some '/' ∧
      (¬ ∃ error, Template.compile (unquotedSource "n" "foo/bar") = .error error) ∧
      renderSource (unquotedSource "n" "foo/bar") {} Registry.empty =
        .ok "<a n=\"foo\"/bar></a>" ∧
      "<a n=\"foo\"/bar></a>" ≠ "<a n=\"" ++ "foo/bar" ++ "\"></a>" := by
  have isName : IsIdentifier "n" := by decide
  have unquoted : Token.IsUnquoted "foo/bar" := by decide
  have begins : Token.BeginsWithWord "foo/bar" := by decide
  have rendered := renderSource_of_beginsWithWord isName unquoted begins {} Registry.empty
  refine ⟨Token.isIdentifier_iff_scan.mp isName, unquoted.nonempty, by simp, unquoted.last, ?_,
    rendered, by decide⟩
  intro ⟨error, fails⟩
  rw [renderSource, fails] at rendered
  cases rendered

/-- Of a value of several words and marks the first word is taken; a value that begins with a digit
is no value. -/
theorem renderSource_unquotedSource_words :
    Token.scan "é@1" = { tokens := [identifier "é@1", Token.atEnd 1], errors := [] } ∧
      (Token.IsUnquoted "go-1/if#2" ∧
        renderSource (unquotedSource "é@1" "go-1/if#2") {} Registry.empty =
          .ok "<a é@1=\"go-1\"/if#2></a>") ∧
      Token.IsUnquoted "1x" ∧
        ∃ error, Template.compile (unquotedSource "é@1" "1x") = .error error := by
  have isName : IsIdentifier "é@1" := by decide
  have oneToken := Token.isIdentifier_iff_scan.mp isName
  have unquoted : Token.IsUnquoted "go-1/if#2" := by decide
  have begins : Token.BeginsWithWord "go-1/if#2" := by decide
  have unquotedDigit : Token.IsUnquoted "1x" := by decide
  have otherwise : ¬ Token.BeginsWithWord "1x" := by decide
  exact ⟨oneToken,
    ⟨unquoted, (renderSource_unquotedSource oneToken unquoted).1 begins {} Registry.empty⟩,
    unquotedDigit, (renderSource_unquotedSource oneToken unquotedDigit).2.1 otherwise⟩

end Stencil
