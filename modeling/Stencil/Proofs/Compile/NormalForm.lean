import Stencil.Proofs.Print.RoundTrip

/-!
# The normal form of templates

Not every list of statements comes from a source.  In a template that was compiled all text that
stands together is one statement and none is empty, attributes stand where they belong, text in
quotes has both its quotes, and every name is a word of the source.  This holds at every depth.
-/

namespace Stencil

open Token (Kind IsLexeme isNameStart isNamePart)
open Parse (Position)

/-- A text that a name may have: a word that is not reserved. -/
structure Token.IsIdentifier (text : String) : Prop where
  word : ∃ first rest, text.toList = first :: rest ∧ isNameStart first = true ∧
    ∀ char ∈ rest, isNamePart char = true
  notReserved : text ∉ ["if", "else", "each"]

open Token (IsIdentifier)

/-- Whether a text is a word, reserved or not. -/
def Token.isWord : List Char → Bool
  | [] => false
  | first :: rest => isNameStart first && rest.all isNamePart

theorem Token.isIdentifier_iff {text : String} :
    IsIdentifier text ↔ isWord text.toList = true ∧ text ∉ ["if", "else", "each"] := by
  constructor
  · rintro ⟨⟨first, rest, split, begins, parts⟩, notReserved⟩
    rw [split, isWord, begins, List.all_eq_true.mpr parts]
    exact ⟨rfl, notReserved⟩
  · rintro ⟨word, notReserved⟩
    refine ⟨?_, notReserved⟩
    cases split : text.toList with
    | nil =>
        rw [split] at word
        cases word
    | cons first rest =>
        rw [split, isWord, Bool.and_eq_true, List.all_eq_true] at word
        exact ⟨first, rest, rfl, word⟩

instance (text : String) : Decidable (IsIdentifier text) :=
  decidable_of_iff _ Token.isIdentifier_iff.symm

theorem Token.IsLexeme.isIdentifier {token : Token} (isLexeme : IsLexeme token)
    (isName : token.kind = .identifier) : IsIdentifier token.lexeme := by
  cases isLexeme with
  | intro region fits =>
      rw [FitsIn, isName] at fits
      constructor
      · exact fits.word_of_identifier.2
      · intro isReserved
        have reserved : ∀ word ∈ ["if", "else", "each"], Kind.ofWord word.toList ≠ .identifier := by
          decide
        exact reserved _ isReserved fits.word_of_identifier.1

theorem Token.IsLexeme.lexeme_ne_empty {token : Token} (isLexeme : IsLexeme token) :
    token.lexeme ≠ "" := by
  cases isLexeme with
  | intro region fits =>
      intro isEmpty
      apply fits.text_ne_nil
      rw [isEmpty]
      rfl

theorem isIdentifier_capturedName : IsIdentifier Attribute.capturedName := by
  decide

/-- Text between quotes with the quotes, which are two characters even if there is only text. -/
inductive IsEnclosed : List Statement → Prop where
  | text (inside : String) : IsEnclosed [.literal ("\"" ++ inside ++ "\"")]
  | statements (front : String) (middle : List Statement) (back : String) :
      IsEnclosed (.literal ("\"" ++ front) :: (middle ++ [.literal (back ++ "\"")]))

mutual

/-- A statement in normal form, at a position in which attributes may stand or not. -/
def Statement.IsNormal (position : Position) : Statement → Prop
  | .literal text => text ≠ ""
  | .tag name attributes content =>
    IsIdentifier name ∧ AreNormal .attributes attributes ∧ AreNormal .content content
  | .emptyTag name attributes => IsIdentifier name ∧ AreNormal .attributes attributes
  | .interpolation path => IsIdentifier path
  | .assignment given => position = .attributes ∧ given.IsWritten ∧ given.IsNormal
  | .quoted body => IsEnclosed body ∧ AreNormal .content body
  | .ifThen condition body => IsIdentifier condition ∧ AreNormal .content body
  | .ifThenElse condition body alternative =>
    IsIdentifier condition ∧ AreNormal .content body ∧ AreNormal .content alternative
  | .each collection item body =>
    IsIdentifier collection ∧ IsIdentifier item ∧ AreNormal .content body
  | .call name given => IsIdentifier name ∧ AreNormalArguments given

/-- An attribute in normal form.  What a call encloses has a name of its own. -/
def Attribute.IsNormal : Attribute → Prop
  | .bare name value => IsIdentifier name ∧ IsIdentifier value
  | .quoted name body => IsIdentifier name ∧ AreNormal .content body
  | .captured name body =>
    IsIdentifier name ∧ name = Attribute.capturedName ∧ AreNormal .content body

/-- Statements in normal form, of which no two that stand together are text. -/
def AreNormal (position : Position) : List Statement → Prop
  | [] => True
  | statement :: rest =>
    statement.IsNormal position ∧ (statement.IsText → ∀ next ∈ rest.head?, ¬ next.IsText) ∧
      AreNormal position rest

/-- Attributes of a call in normal form, of which only the last one may be what it encloses. -/
def AreNormalArguments : List Attribute → Prop
  | [] => True
  | given :: rest =>
    given.IsNormal ∧ (rest ≠ [] → given.IsWritten) ∧ AreNormalArguments rest

end

variable {position : Position} {statements rest : List Statement}

theorem AreNormal.forall_mem (normal : AreNormal position statements) :
    ∀ statement ∈ statements, statement.IsNormal position := by
  induction statements with
  | nil => simp
  | cons statement rest ih =>
      rw [List.forall_mem_cons]
      exact ⟨normal.1, ih normal.2.2⟩

theorem AreNormal.joinTo {statement : Statement} (isNormal : statement.IsNormal position)
    (normal : AreNormal position rest) : AreNormal position (statement.joinTo rest) := by
  unfold Statement.joinTo
  split
  next text next others =>
    refine ⟨?_, fun _ => normal.2.1 ⟨next, rfl⟩, normal.2.2⟩
    intro isEmpty
    exact isNormal (String.append_eq_empty_iff.mp isEmpty).1
  next notBoth =>
    refine ⟨isNormal, ?_, normal⟩
    rintro ⟨text, rfl⟩ next isNext ⟨more, rfl⟩
    rcases List.head?_eq_some_iff.mp isNext with ⟨others, rfl⟩
    exact notBoth text more others rfl rfl

/-- Joining text keeps texts apart from each other and makes none empty. -/
theorem areNormal_joinLiterals
    (normal : ∀ statement ∈ statements, statement.IsNormal position) :
    AreNormal position (joinLiterals statements) := by
  induction statements with
  | nil => trivial
  | cons statement rest ih =>
      rw [List.forall_mem_cons] at normal
      exact (ih normal.2).joinTo normal.1

/-- A list that ends with a text that ends with a quote. -/
def EndsWithQuote (statements : List Statement) : Prop :=
  ∃ front text, statements = front ++ [.literal (text ++ "\"")]

theorem EndsWithQuote.joinTo (statement : Statement) (ends : EndsWithQuote rest) :
    EndsWithQuote (statement.joinTo rest) := by
  rcases ends with ⟨front, last, rfl⟩
  cases statement with
  | literal text =>
      cases front with
      | nil => exact ⟨[], text ++ last, by simp [Statement.joinTo, String.append_assoc]⟩
      | cons first front =>
          cases first with
          | literal next => exact ⟨.literal (text ++ next) :: front, last, rfl⟩
          | _ => exact ⟨.literal text :: _ :: front, last, rfl⟩
  | _ => exact ⟨_ :: front, last, rfl⟩

theorem endsWithQuote_joinLiterals (statements : List Statement) :
    EndsWithQuote (joinLiterals (statements ++ [.literal "\""])) := by
  induction statements with
  | nil => exact ⟨[], "", by simp [joinLiterals, Statement.joinTo]⟩
  | cons statement rest ih => exact ih.joinTo statement

theorem EndsWithQuote.isEnclosed (ends : EndsWithQuote rest) :
    IsEnclosed ((Statement.literal "\"").joinTo rest) := by
  rcases ends with ⟨front, last, rfl⟩
  cases front with
  | nil =>
      have joined : (Statement.literal "\"").joinTo ([] ++ [.literal (last ++ "\"")]) =
          [.literal ("\"" ++ last ++ "\"")] := by
        simp [Statement.joinTo, String.append_assoc]
      rw [joined]
      exact .text last
  | cons first front =>
      cases first with
      | literal next => exact .statements next front last
      | _ => exact .statements "" (_ :: front) last

/-- Text with a quote in front of it and one behind it is enclosed after all text is joined. -/
theorem isEnclosed_joinLiterals (body : List Statement) :
    IsEnclosed (joinLiterals (.literal "\"" :: body ++ [.literal "\""])) :=
  (endsWithQuote_joinLiterals body).isEnclosed

variable {given : List Attribute}

theorem areNormalArguments_of_written
    (normal : ∀ entry ∈ given, entry.IsWritten ∧ entry.IsNormal) : AreNormalArguments given := by
  induction given with
  | nil => trivial
  | cons entry rest ih =>
      rw [List.forall_mem_cons] at normal
      exact ⟨normal.1.2, fun _ => normal.1.1, ih normal.2⟩

/-- What a call encloses comes after the attributes that are written. -/
theorem areNormalArguments_append_captured {body : List Statement}
    (normal : ∀ entry ∈ given, entry.IsWritten ∧ entry.IsNormal)
    (bodyNormal : AreNormal .content body) :
    AreNormalArguments (given ++ [.captured Attribute.capturedName body]) := by
  induction given with
  | nil =>
      exact ⟨⟨isIdentifier_capturedName, rfl, bodyNormal⟩, fun others => absurd rfl others, trivial⟩
  | cons entry rest ih =>
      rw [List.forall_mem_cons] at normal
      exact ⟨normal.1.2, fun _ => normal.1.1, ih normal.2⟩

/-! ## What the grammar derives -/

namespace Grammar

variable {matchNames : Bool} {levels : Nat} {tokens : List Token}

/-- What a phrase is read as is in normal form, apart from text that is not joined yet. -/
def Phrase.IsNormal : Phrase → Prop
  | .statement position read => read.IsNormal position
  | .list place read => ∀ statement ∈ read, statement.IsNormal place.position
  | .attribute read => read.IsWritten ∧ read.IsNormal
  | .arguments read => ∀ entry ∈ read, entry.IsWritten ∧ entry.IsNormal

theorem Encloses.isIdentifier {opening : Kind} {name : Token}
    (encloses : Encloses opening .identifier name tokens)
    (lexemes : ∀ token ∈ tokens, IsLexeme token) : IsIdentifier name.lexeme := by
  cases encloses with
  | intro _ _ named => exact (lexemes name (by simp)).isIdentifier named

/-- Lexemes derive statements in normal form: names come from identifiers, text from lexemes that
are not empty, and all text in a list is joined. -/
theorem Derives.isNormal {phrase : Phrase} (derived : Derives matchNames levels phrase tokens)
    (lexemes : ∀ token ∈ tokens, IsLexeme token) : phrase.IsNormal := by
  induction derived with
  | nil => simp [Phrase.IsNormal]
  | cons _ _ _ _ one more =>
      rw [List.forall_mem_append] at lexemes
      exact List.forall_mem_cons.mpr ⟨one lexemes.1, more lexemes.2⟩
  | literal => exact (lexemes _ (by simp)).lexeme_ne_empty
  | interpolation encloses => exact encloses.isIdentifier lexemes
  | assignment _ given => exact ⟨rfl, given lexemes⟩
  | quoted _ _ _ body =>
      simp only [List.forall_mem_cons, List.forall_mem_append] at lexemes
      have joined := areNormal_joinLiterals (body lexemes.2.1)
      refine ⟨isEnclosed_joinLiterals _, areNormal_joinLiterals ?_⟩
      simp only [List.cons_append, List.forall_mem_cons, List.forall_mem_append]
      exact ⟨by simp [Statement.IsNormal], joined.forall_mem, by simp [Statement.IsNormal]⟩
  | emptyTag _ isName _ _ given =>
      simp only [List.forall_mem_cons, List.forall_mem_append] at lexemes
      rcases lexemes with ⟨_, name, attributes, _⟩
      exact ⟨name.isIdentifier isName, areNormal_joinLiterals (given attributes)⟩
  | tag _ isName _ _ _ _ _ _ _ given body =>
      simp only [List.forall_mem_cons, List.forall_mem_append] at lexemes
      rcases lexemes with ⟨_, name, attributes, _, content, _⟩
      exact ⟨name.isIdentifier isName, areNormal_joinLiterals (given attributes),
        areNormal_joinLiterals (body content)⟩
  | ifThen _ isName _ _ _ body =>
      simp only [List.forall_mem_append, List.forall_mem_cons] at lexemes
      rcases lexemes with ⟨_, name, ⟨_, content⟩, _⟩
      exact ⟨name.isIdentifier isName, areNormal_joinLiterals (body content)⟩
  | ifThenElse _ isName _ _ _ _ _ body other =>
      simp only [List.forall_mem_append, List.forall_mem_cons] at lexemes
      rcases lexemes with ⟨_, name, ⟨⟨⟨_, content⟩, _⟩, otherwise⟩, _⟩
      exact ⟨name.isIdentifier isName, areNormal_joinLiterals (body content),
        areNormal_joinLiterals (other otherwise)⟩
  | each _ isCollection _ isItem _ _ _ body =>
      simp only [List.forall_mem_append, List.forall_mem_cons] at lexemes
      rcases lexemes with ⟨_, collection, _, item, ⟨_, content⟩, _⟩
      exact ⟨collection.isIdentifier isCollection, item.isIdentifier isItem,
        areNormal_joinLiterals (body content)⟩
  | call _ isName _ given =>
      simp only [List.forall_mem_append, List.forall_mem_cons] at lexemes
      rcases lexemes with ⟨_, name, arguments⟩
      exact ⟨name.isIdentifier isName, areNormalArguments_of_written (given arguments)⟩
  | slot _ isName _ _ _ _ given body =>
      simp only [List.forall_mem_append, List.forall_mem_cons] at lexemes
      rcases lexemes with ⟨_, name, ⟨arguments, content⟩, _⟩
      exact ⟨name.isIdentifier isName, areNormalArguments_append_captured (given arguments)
        (areNormal_joinLiterals (body content))⟩
  | bare isName isSign isValue =>
      simp only [List.forall_mem_cons] at lexemes
      exact ⟨(Derives.bare isName isSign isValue : Derives matchNames 1 _ _).isWritten,
        lexemes.1.isIdentifier isName, lexemes.2.2.1.isIdentifier isValue⟩
  | quotedValue isName isSign isOpened inside isClosed body =>
      simp only [List.forall_mem_cons, List.forall_mem_append] at lexemes
      rcases lexemes with ⟨name, _, _, content, _⟩
      exact ⟨(Derives.quotedValue isName isSign isOpened inside isClosed).isWritten,
        name.isIdentifier isName, areNormal_joinLiterals (body content)⟩
  | argumentsEnd => simp [Phrase.IsNormal]
  | argumentsCons _ _ _ one more =>
      simp only [List.forall_mem_append] at lexemes
      exact List.forall_mem_cons.mpr ⟨one lexemes.1.2, more lexemes.2⟩

end Grammar

/-- A template that was compiled from a source is in normal form. -/
theorem Template.areNormal_of_compile {source : String} {options : CompileOptions}
    {template : Template} (compiled : Template.compile source options = .ok template) :
    AreNormal .content template := by
  rcases compile_eq_ok_iff.mp compiled with ⟨tokens, body, scans, _, derived, rfl⟩
  exact areNormal_joinLiterals (derived.isNormal scans.forall_fitsIn)

/-- A source with text that is joined inside quotes and around them, and with a call that encloses
something. -/
def mixedSource : String :=
  r#"<a b=c>d "e{{f}} "</a>{{#> g h="i"}}""{{/g}}"#

def mixedTokens : List Token :=
  [(.less, "<", none), (.identifier, "a", none), (.blank, " ", none), (.identifier, "b", none),
    (.equal, "=", none), (.identifier, "c", none), (.greater, ">", none),
    (.identifier, "d", none), (.blank, " ", none), (.quote, "\"", none),
    (.string, "e", some (.text "e")), (.mustacheOpen, r"{{", none),
    (.identifier, "f", none), (.mustacheClose, r"}}", none),
    (.string, " ", some (.text " ")), (.quote, "\"", none), (.tagClose, "</", none),
    (.identifier, "a", none), (.greater, ">", none), (.blockOpen, r"{{#", none),
    (.greater, ">", none), (.blank, " ", none), (.identifier, "g", none), (.blank, " ", none),
    (.identifier, "h", none), (.equal, "=", none), (.quote, "\"", none),
    (.string, "i", some (.text "i")), (.quote, "\"", none),
    (.mustacheClose, r"}}", none), (.quote, "\"", none), (.quote, "\"", none),
    (.blockClose, r"{{/", none), (.identifier, "g", none),
    (.mustacheClose, r"}}", none), (.endMark, "", none)].map fun entry =>
      { kind := entry.1, lexeme := entry.2.1, literal? := entry.2.2, line := 1 }

def mixedTemplate : Template :=
  [.tag "a" [.literal " ", .assignment (.bare "b" "c")]
      [.literal "d ", .quoted [.literal "\"e", .interpolation "f", .literal " \""]],
    .call "g" [.quoted "h" [.literal "i"], .captured "children" [.quoted [.literal "\"\""]]]]

theorem Template.areNormal_of_compile_mixedTemplate :
    Template.compile mixedSource = .ok mixedTemplate ∧ AreNormal .content mixedTemplate := by
  have clean : (Token.scan mixedSource).errors = [] := by decide +kernel
  have found : (Token.scan mixedSource).tokens = mixedTokens := by decide +kernel
  have compiled : Template.compile mixedSource = .ok mixedTemplate := by
    rw [compile_eq_ok, found]
    exact ⟨clean, rfl⟩
  exact ⟨compiled, areNormal_of_compile compiled⟩

end Stencil
