import Stencil.Proofs.Grammar.Lists
import Stencil.Proofs.Print.Source
import Stencil.Proofs.Scan.Replacement

/-!
# Bringing tokens into canonical form

The tokens of a phrase can be replaced, where they stand, by tokens that are the same phrase and
whose text is its canonical source.  Space inside braces goes or becomes one blank, closing tags get
the names of their opening tags, and everything else stays.
-/

namespace Stencil.Grammar

open Token (Kind Joins IsLexeme Replaces gap words)
open Parse (Position)

def Phrase.source : Phrase → String
  | .statement _ read => read.source
  | .list _ read => sourceAll read
  | .attribute read => read.source
  | .arguments read => (argumentsSource read).1 ++ r"}}"

/-- The kinds of the tokens after which attributes of a call may stand. -/
def beforeArguments : List Kind := .quote :: .greater :: words

/-- New tokens may stand in place of the old ones that are a phrase.  Attributes of a call stand
after a word or a quote. -/
def MayReplace (phrase : Phrase) (old new : List Token) : Prop :=
  match phrase with
  | .arguments _ =>
    ∀ before : Token, before.kind ∈ beforeArguments → Replaces (before :: old) (before :: new)
  | _ => Replaces old new

/-- The tokens of a phrase can be brought into canonical form. -/
def Canonical (matchNames : Bool) (levels : Nat) (phrase : Phrase) (tokens : List Token) : Prop :=
  ∃ new, Derives matchNames levels phrase new ∧ Token.source new = phrase.source.toList ∧
    MayReplace phrase tokens new

variable {matchNames : Bool} {levels : Nat} {tokens rest closing : List Token} {name : Token}

/-- The space before two closing braces goes. -/
theorem canonical_closes (closes : Closes closing)
    (lexemes : ∀ token ∈ closing, IsLexeme token) :
    ∃ new, Closes new ∧ Token.source new = ['}', '}'] ∧
      ∀ before : Token, before.kind ∈ beforeArguments →
        Replaces (before :: closing) (before :: new) := by
  cases closes with
  | @intro space brace isSpace isBrace =>
      have isLexeme := lexemes brace (by simp)
      have braceText : brace.lexeme.toList = ['}', '}'] := isLexeme.spelled isBrace rfl
      refine ⟨[brace], @Closes.intro [] brace (by simp [IsSpace]) isBrace, by simp [braceText], ?_⟩
      intro before isBefore
      apply Replaces.dropSpace isSpace
      exact Token.joins_apart (by simp [isBrace]) isLexeme isBefore

/-- The space around a word between braces goes. -/
theorem canonical_encloses {opening word : Kind} {spelling : List Char}
    (encloses : Encloses opening word name tokens) (opens : opening ∈ [.mustacheOpen, .blockClose])
    (isWord : word ∈ words) (only : opening.spelling? = some spelling)
    (lexemes : ∀ token ∈ tokens, IsLexeme token) :
    ∃ new, Encloses opening word name new ∧
      Token.source new = spelling ++ name.lexeme.toList ++ ['}', '}'] ∧
      Replaces tokens new := by
  cases encloses with
  | @intro first space closing opened isSpace named closes =>
      simp only [List.forall_mem_cons, List.forall_mem_append] at lexemes
      rcases lexemes with ⟨firstLexeme, _, nameLexeme, closingLexemes⟩
      rcases canonical_closes closes closingLexemes with ⟨newClosing, newCloses, text, closed⟩
      have firstText : first.lexeme.toList = spelling := firstLexeme.spelled opened only
      have nameIsWord : name.kind ∈ words := named ▸ isWord
      have joins : Joins first name := by
        apply Token.joins_word nameIsWord nameLexeme
        rw [opened]
        revert opens
        cases opening <;> decide
      have before : name.kind ∈ beforeArguments :=
        List.mem_cons_of_mem _ (List.mem_cons_of_mem _ nameIsWord)
      refine ⟨first :: name :: newClosing, ?_, by simp [firstText, text], ?_⟩
      · exact @Encloses.intro _ _ _ first [] newClosing opened (by simp [IsSpace]) named newCloses
      · exact (Replaces.dropSpace isSpace joins).trans ((closed name before).cons first)

theorem Encloses.spelled {opening word : Kind} {spelling : List Char}
    (encloses : Encloses opening word name tokens) (lexemes : ∀ token ∈ tokens, IsLexeme token)
    (only : word.spelling? = some spelling) : name.lexeme.toList = spelling := by
  cases encloses with
  | intro _ _ named => exact (lexemes name (by simp)).spelled named only

/-- The blank after the mark and the word that begin a block becomes a single one. -/
theorem canonical_opening {one two : Kind} {opened : List Token} {spelling word : List Char}
    (has : HasKinds [one, two, .blank] opened) (isBefore : two ∈ beforeArguments)
    (only : one.spelling? = some spelling) (onlyWord : two.spelling? = some word)
    (lexemes : ∀ token ∈ opened, IsLexeme token) (named : name.kind = .identifier)
    (nameLexeme : IsLexeme name) :
    ∃ new, HasKinds [one, two, .blank] new ∧ Token.source new = spelling ++ word ++ [' '] ∧
      ∀ rest rest', Replaces (name :: rest) (name :: rest') →
        Replaces (opened ++ name :: rest) (new ++ name :: rest') := by
  rcases has.three with ⟨first, second, blank, rfl, isFirst, isSecond, isBlank⟩
  simp only [List.forall_mem_cons] at lexemes
  have firstText : first.lexeme.toList = spelling := lexemes.1.spelled isFirst only
  have secondText : second.lexeme.toList = word := lexemes.2.1.spelled isSecond onlyWord
  refine ⟨[first, second, gap], by simp [HasKinds, isFirst, isSecond, gap],
    by simp [firstText, secondText, gap], ?_⟩
  intro rest rest' replaces
  have spaced : Replaces (second :: blank :: name :: rest) (second :: gap :: name :: rest) := by
    apply @Replaces.spaceToGap _ _ _ [blank] _ (by simp [named, words]) nameLexeme
    · rw [isSecond]
      exact isBefore
    · simp [IsSpace, isBlank, Kind.isSpace]
  exact (spaced.trans ((replaces.cons gap).cons second)).cons first

/-- Only a single token and the beginning of what follows it matter. -/
theorem Apart.of_same {position : Position} {old new back back' : List Token}
    (apart : Apart position old back) (single : ∀ token, new = [token] → old = [token])
    (head : back'.head? = back.head?) : Apart position new back' := by
  intro inTag word alone isName next isNext
  rw [head] at isNext
  exact apart inTag word (single word alone) isName next isNext

theorem canonical_nil {place : Place} : Canonical matchNames levels (.list place []) [] :=
  ⟨[], .nil, by simp [Phrase.source, sourceAll], .refl []⟩

theorem canonical_cons {place : Place} {statement : Statement} {more : List Statement}
    {first : Token} {front back : List Token} (notEnd : first.kind ∉ place.ends)
    (one : Canonical matchNames levels (.statement place.position statement) (first :: front))
    (apart : Apart place.position (first :: front) back)
    (rest : Canonical matchNames levels (.list place more) back) :
    Canonical matchNames levels (.list place (statement :: more)) (first :: front ++ back) := by
  rcases one with ⟨new, derived, text, replaces⟩
  rcases rest with ⟨newBack, derivedBack, textBack, replacesBack⟩
  change Replaces _ _ at replaces replacesBack
  -- The first token is kept, so it still does not end the list.
  cases new with
  | nil => cases replaces.head
  | cons newFirst newFront =>
      have sameFirst : newFirst = first := Option.some.inj replaces.head
      subst sameFirst
      refine ⟨newFirst :: newFront ++ newBack, ?_, ?_, replaces.append replacesBack⟩
      · exact .cons notEnd derived (apart.of_same replaces.single replacesBack.head) derivedBack
      · rw [Token.source_append, text, textBack]
        simp [Phrase.source, sourceAll]

variable {position : Position} {opened closed : Token} {inside attributes : List Token}
variable {given body alternative : List Statement}

theorem canonical_quoted (isOpened : opened.kind = .quote) (openedLexeme : IsLexeme opened)
    (isClosed : closed.kind = .quote) (closedLexeme : IsLexeme closed)
    (content : Canonical matchNames levels (.list .quotes body) inside) :
    Canonical matchNames (levels + 1)
      (.statement position
        (.quoted (joinLiterals (.literal "\"" :: joinLiterals body ++ [.literal "\""]))))
      (opened :: (inside ++ [closed])) := by
  rcases content with ⟨new, derived, text, replaces⟩
  have openText : opened.lexeme.toList = ['"'] := openedLexeme.spelled isOpened rfl
  have closeText : closed.lexeme.toList = ['"'] := closedLexeme.spelled isClosed rfl
  refine ⟨opened :: (new ++ [closed]), .quoted isOpened derived isClosed, ?_, ?_⟩
  · simp [text, openText, closeText, Phrase.source, Statement.source, sourceAll,
      sourceAll_joinLiterals, sourceAll_append]
  · exact (replaces.append (.refl [closed])).cons opened

theorem canonical_emptyTag (isOpened : opened.kind = .less) (openedLexeme : IsLexeme opened)
    (isName : name.kind = .identifier)
    (within : Canonical matchNames levels (.list .opening given) attributes)
    (isClosed : closed.kind = .selfClose) (closedLexeme : IsLexeme closed) :
    Canonical matchNames (levels + 1)
      (.statement position (.emptyTag name.lexeme (joinLiterals given)))
      (opened :: name :: (attributes ++ [closed])) := by
  rcases within with ⟨new, derived, text, replaces⟩
  have openText : opened.lexeme.toList = ['<'] := openedLexeme.spelled isOpened rfl
  have closeText : closed.lexeme.toList = ['/', '>'] := closedLexeme.spelled isClosed rfl
  refine ⟨opened :: name :: (new ++ [closed]), .emptyTag isOpened isName derived isClosed, ?_, ?_⟩
  · simp [text, openText, closeText, Phrase.source, Statement.source, sourceAll_joinLiterals]
  · exact ((replaces.append (.refl [closed])).cons name).cons opened

theorem replaces_closingName {closing finish : Token} (isName : name.kind = .identifier)
    (nameLexeme : IsLexeme name) (isClosed : closed.kind = .tagClose)
    (isClosing : closing.kind = .identifier) (isFinish : finish.kind = .greater)
    (finishLexeme : IsLexeme finish) :
    Replaces [closed, closing, finish] [closed, name, finish] := by
  have nameIsWord : name.kind ∈ words := by simp [isName, words]
  apply Replaces.renameWord (by simp [isClosing, words]) (by rw [isName, isClosing]) nameLexeme
  · exact Token.joins_word nameIsWord nameLexeme (by simp [isClosed])
  · exact Token.joins_apart (by simp [isFinish]) finishLexeme (by simp [isName, words])

/-- A closing tag gets the name of its opening tag. -/
theorem canonical_tag {ended closing finish : Token} (isOpened : opened.kind = .less)
    (openedLexeme : IsLexeme opened) (isName : name.kind = .identifier)
    (nameLexeme : IsLexeme name)
    (within : Canonical matchNames levels (.list .opening given) attributes)
    (isEnd : ended.kind = .greater) (endedLexeme : IsLexeme ended)
    (content : Canonical matchNames levels (.list .content body) inside)
    (isClosed : closed.kind = .tagClose) (closedLexeme : IsLexeme closed)
    (isClosing : closing.kind = .identifier) (isFinish : finish.kind = .greater)
    (finishLexeme : IsLexeme finish) :
    Canonical matchNames (levels + 1)
      (.statement position (.tag name.lexeme (joinLiterals given) (joinLiterals body)))
      (opened :: name :: (attributes ++ ended :: (inside ++ [closed, closing, finish]))) := by
  rcases within with ⟨new, derived, text, replaces⟩
  rcases content with ⟨newInside, derivedInside, textInside, replacesInside⟩
  have openText : opened.lexeme.toList = ['<'] := openedLexeme.spelled isOpened rfl
  have endText : ended.lexeme.toList = ['>'] := endedLexeme.spelled isEnd rfl
  have closeText : closed.lexeme.toList = ['<', '/'] := closedLexeme.spelled isClosed rfl
  have finishText : finish.lexeme.toList = ['>'] := finishLexeme.spelled isFinish rfl
  have renamed : Replaces [closed, closing, finish] [closed, name, finish] :=
    replaces_closingName isName nameLexeme isClosed isClosing isFinish finishLexeme
  refine ⟨opened :: name :: (new ++ ended :: (newInside ++ [closed, name, finish])), ?_, ?_, ?_⟩
  · apply Derives.tag isOpened isName derived isEnd derivedInside isClosed isName _ isFinish
    intro _
    rfl
  · simp [text, textInside, openText, endText, closeText, finishText, Phrase.source,
      Statement.source, sourceAll_joinLiterals]
  · exact ((replaces.append ((replacesInside.append renamed).cons ended)).cons name).cons opened

variable {opening closes finish : List Token} {condition word : Token}

theorem canonical_interpolation (encloses : Encloses .mustacheOpen .identifier name tokens)
    (lexemes : ∀ token ∈ tokens, IsLexeme token) :
    Canonical matchNames (levels + 1) (.statement position (.interpolation name.lexeme))
      tokens := by
  rcases canonical_encloses encloses (by decide) (by decide) rfl lexemes with
    ⟨new, newEncloses, text, replaces⟩
  refine ⟨new, .interpolation newEncloses, ?_, replaces⟩
  simp [text, Phrase.source, Statement.source]

theorem canonical_ifThen (opened : HasKinds [.blockOpen, .ifWord, .blank] opening)
    (isName : condition.kind = .identifier) (closed : Closes closes)
    (content : Canonical matchNames levels (.list .text body) inside)
    (ends : Encloses .blockClose .ifWord word finish)
    (lexemes : ∀ token ∈ opening ++ condition :: (closes ++ finish), IsLexeme token) :
    Canonical matchNames (levels + 1)
      (.statement position (.ifThen condition.lexeme (joinLiterals body)))
      (opening ++ condition :: (closes ++ inside ++ finish)) := by
  simp only [List.forall_mem_append, List.forall_mem_cons] at lexemes
  rcases lexemes with ⟨openingLexemes, nameLexeme, closesLexemes, finishLexemes⟩
  rcases canonical_opening opened (by decide) rfl rfl openingLexemes isName nameLexeme with
    ⟨newOpening, newOpened, openText, replacesOpening⟩
  rcases canonical_closes closed closesLexemes with
    ⟨newCloses, newClosed, closeText, replacesCloses⟩
  rcases content with ⟨newInside, derived, text, replacesInside⟩
  rcases canonical_encloses ends (by decide) (by decide) rfl finishLexemes with
    ⟨newFinish, newEnds, finishText, replacesFinish⟩
  have wordText : word.lexeme.toList = ['i', 'f'] := ends.spelled finishLexemes rfl
  refine ⟨newOpening ++ condition :: (newCloses ++ newInside ++ newFinish), ?_, ?_, ?_⟩
  · exact .ifThen newOpened isName newClosed derived newEnds
  · simp [openText, closeText, text, finishText, wordText, Phrase.source, Statement.source,
      sourceAll_joinLiterals]
  · have after := ((replacesCloses condition (by simp [isName, beforeArguments, words])).append
      replacesInside).append replacesFinish
    exact replacesOpening _ _ after

theorem canonical_ifThenElse {middle : Token} {between otherwise : List Token}
    (opened : HasKinds [.blockOpen, .ifWord, .blank] opening)
    (isName : condition.kind = .identifier) (closed : Closes closes)
    (content : Canonical matchNames levels (.list .text body) inside)
    (isElse : Encloses .mustacheOpen .elseWord middle between)
    (other : Canonical matchNames levels (.list .text alternative) otherwise)
    (ends : Encloses .blockClose .ifWord word finish)
    (lexemes : ∀ token ∈ opening ++ condition :: (closes ++ between ++ finish), IsLexeme token) :
    Canonical matchNames (levels + 1)
      (.statement position
        (.ifThenElse condition.lexeme (joinLiterals body) (joinLiterals alternative)))
      (opening ++ condition :: (closes ++ inside ++ between ++ otherwise ++ finish)) := by
  simp only [List.forall_mem_append, List.forall_mem_cons] at lexemes
  rcases lexemes with
    ⟨openingLexemes, nameLexeme, ⟨closesLexemes, betweenLexemes⟩, finishLexemes⟩
  rcases canonical_opening opened (by decide) rfl rfl openingLexemes isName nameLexeme with
    ⟨newOpening, newOpened, openText, replacesOpening⟩
  rcases canonical_closes closed closesLexemes with
    ⟨newCloses, newClosed, closeText, replacesCloses⟩
  rcases content with ⟨newInside, derived, text, replacesInside⟩
  rcases canonical_encloses isElse (by decide) (by decide) rfl betweenLexemes with
    ⟨newBetween, newElse, elseText, replacesBetween⟩
  have middleText : middle.lexeme.toList = ['e', 'l', 's', 'e'] :=
    isElse.spelled betweenLexemes rfl
  rcases other with ⟨newOther, derivedOther, otherText, replacesOther⟩
  rcases canonical_encloses ends (by decide) (by decide) rfl finishLexemes with
    ⟨newFinish, newEnds, finishText, replacesFinish⟩
  have wordText : word.lexeme.toList = ['i', 'f'] := ends.spelled finishLexemes rfl
  refine ⟨newOpening ++
    condition :: (newCloses ++ newInside ++ newBetween ++ newOther ++ newFinish), ?_, ?_, ?_⟩
  · exact .ifThenElse newOpened isName newClosed derived newElse derivedOther newEnds
  · simp [openText, closeText, text, elseText, middleText, otherText, finishText, wordText,
      Phrase.source, Statement.source, sourceAll_joinLiterals]
  · have after := ((((replacesCloses condition (by simp [isName, beforeArguments, words])).append
      replacesInside).append replacesBetween).append replacesOther).append replacesFinish
    exact replacesOpening _ _ after

theorem canonical_each {collection blank item : Token}
    (opened : HasKinds [.blockOpen, .eachWord, .blank] opening)
    (isCollection : collection.kind = .identifier) (isBlank : blank.kind = .blank)
    (isItem : item.kind = .identifier) (closed : Closes closes)
    (content : Canonical matchNames levels (.list .text body) inside)
    (ends : Encloses .blockClose .eachWord word finish)
    (lexemes : ∀ token ∈ opening ++ collection :: item :: (closes ++ finish), IsLexeme token) :
    Canonical matchNames (levels + 1)
      (.statement position (.each collection.lexeme item.lexeme (joinLiterals body)))
      (opening ++ collection :: blank :: item :: (closes ++ inside ++ finish)) := by
  simp only [List.forall_mem_append, List.forall_mem_cons] at lexemes
  rcases lexemes with ⟨openingLexemes, nameLexeme, itemLexeme, closesLexemes, finishLexemes⟩
  rcases canonical_opening opened (by decide) rfl rfl openingLexemes isCollection nameLexeme with
    ⟨newOpening, newOpened, openText, replacesOpening⟩
  rcases canonical_closes closed closesLexemes with
    ⟨newCloses, newClosed, closeText, replacesCloses⟩
  rcases content with ⟨newInside, derived, text, replacesInside⟩
  rcases canonical_encloses ends (by decide) (by decide) rfl finishLexemes with
    ⟨newFinish, newEnds, finishText, replacesFinish⟩
  have wordText : word.lexeme.toList = ['e', 'a', 'c', 'h'] := ends.spelled finishLexemes rfl
  refine ⟨newOpening ++ collection :: gap :: item :: (newCloses ++ newInside ++ newFinish),
    ?_, ?_, ?_⟩
  · exact .each newOpened isCollection rfl isItem newClosed derived newEnds
  · simp [openText, closeText, text, finishText, wordText, gap, Phrase.source, Statement.source,
      sourceAll_joinLiterals]
  · have afterItem := ((replacesCloses item (by simp [isItem, beforeArguments, words])).append
      replacesInside).append replacesFinish
    have afterCollection : Replaces (collection :: blank :: item :: (closes ++ inside ++ finish))
        (collection :: gap :: item :: (closes ++ inside ++ finish)) := by
      apply @Replaces.spaceToGap _ _ _ [blank] _ (by simp [isItem, words]) itemLexeme
      · simp [isCollection, words]
      · simp [IsSpace, isBlank, Kind.isSpace]
    exact replacesOpening _ _ (afterCollection.trans ((afterItem.cons gap).cons collection))

variable {front back arguments : List Token} {one : Attribute} {more entries : List Attribute}

theorem canonical_bare {sign value : Token} (isName : name.kind = .identifier)
    (isSign : sign.kind = .equal) (signLexeme : IsLexeme sign)
    (isValue : value.kind = .identifier) :
    Canonical matchNames (levels + 1) (.attribute (.bare name.lexeme value.lexeme))
      [name, sign, value] := by
  have signText : sign.lexeme.toList = ['='] := signLexeme.spelled isSign rfl
  refine ⟨[name, sign, value], .bare isName isSign isValue, ?_, .refl _⟩
  simp [signText, Phrase.source, Attribute.source]

theorem canonical_quotedValue {sign : Token} (isName : name.kind = .identifier)
    (isSign : sign.kind = .equal) (signLexeme : IsLexeme sign) (isOpened : opened.kind = .quote)
    (openedLexeme : IsLexeme opened)
    (content : Canonical matchNames levels (.list .quotes body) inside)
    (isClosed : closed.kind = .quote) (closedLexeme : IsLexeme closed) :
    Canonical matchNames (levels + 1) (.attribute (.quoted name.lexeme (joinLiterals body)))
      (name :: sign :: opened :: (inside ++ [closed])) := by
  rcases content with ⟨new, derived, text, replaces⟩
  have signText : sign.lexeme.toList = ['='] := signLexeme.spelled isSign rfl
  have openText : opened.lexeme.toList = ['"'] := openedLexeme.spelled isOpened rfl
  have closeText : closed.lexeme.toList = ['"'] := closedLexeme.spelled isClosed rfl
  refine ⟨name :: sign :: opened :: (new ++ [closed]),
    .quotedValue isName isSign isOpened derived isClosed, ?_, ?_⟩
  · simp [text, signText, openText, closeText, Phrase.source, Attribute.source,
      sourceAll_joinLiterals]
  · exact (((replaces.append (.refl [closed])).cons opened).cons sign).cons name

theorem Derives.isWritten (derived : Derives matchNames levels (.attribute one) tokens) :
    one.IsWritten := by
  cases derived with
  | bare | quotedValue =>
      intro name body same
      cases same

/-- More attributes may stand after an attribute. -/
theorem Derives.attribute_ends (derived : Derives matchNames levels (.attribute one) tokens) :
    ∃ init last, tokens = init ++ [last] ∧ last.kind ∈ beforeArguments := by
  cases derived with
  | @bare _ name sign value _ _ isValue =>
      exact ⟨[name, sign], value, rfl, by simp [isValue, beforeArguments, words]⟩
  | @quotedValue _ _ name sign opened closed inside _ _ _ _ isClosed =>
      exact ⟨name :: sign :: opened :: inside, closed, rfl, by simp [isClosed, beforeArguments]⟩

theorem Derives.areWritten (derived : Derives matchNames levels (.arguments entries) tokens) :
    ∀ entry ∈ entries, entry.IsWritten := by
  induction entries generalizing tokens with
  | nil => simp
  | cons one more ih =>
      cases derived with
      | argumentsCons _ derivedOne derivedMore =>
          rw [List.forall_mem_cons]
          exact ⟨derivedOne.isWritten, ih derivedMore⟩

theorem canonical_argumentsEnd (closes : Closes tokens)
    (lexemes : ∀ token ∈ tokens, IsLexeme token) :
    Canonical matchNames levels (.arguments []) tokens := by
  rcases canonical_closes closes lexemes with ⟨new, newCloses, text, replaces⟩
  refine ⟨new, .argumentsEnd newCloses, ?_, replaces⟩
  simp [text, Phrase.source, argumentsSource]

/-- An attribute of a call gets one blank before it. -/
theorem canonical_argumentsCons {written : Bool} {depth : Nat} {space : List Token}
    (isSpace : IsSpace space) (derived : Derives written depth (.attribute one) front)
    (lexemes : ∀ token ∈ front, IsLexeme token)
    (first : Canonical matchNames levels (.attribute one) front)
    (others : Canonical matchNames levels (.arguments more) back) :
    Canonical matchNames levels (.arguments (one :: more)) (space ++ front ++ back) := by
  rcases first with ⟨newFront, derivedFront, text, replaces⟩
  rcases others with ⟨newBack, derivedBack, textBack, replacesBack⟩
  change Replaces front newFront at replaces
  refine ⟨[gap] ++ newFront ++ newBack, ?_, ?_, ?_⟩
  · exact .argumentsCons (by simp [IsSpace, gap, Kind.isSpace]) derivedFront derivedBack
  · simp [text, textBack, gap, Phrase.source, argumentsSource_cons derived.isWritten]
  · intro before isBefore
    rcases derived.attribute_begins with ⟨name, sign, rest, split, isName⟩
    rcases derived.attribute_ends with ⟨init, last, splitLast, isLast⟩
    have spaced : Replaces (before :: (space ++ front ++ back))
        (before :: gap :: (front ++ back)) := by
      rw [split, List.append_assoc]
      exact Replaces.spaceToGap isSpace (by simp [isName, words]) (lexemes name (by simp [split]))
        isBefore
    -- What follows goes first, while the last token of this attribute is still there to hold it.
    have behind : Replaces (front ++ back) (front ++ newBack) := by
      rw [splitLast, List.append_assoc, List.append_assoc]
      exact (Replaces.refl init).append (replacesBack last isLast)
    have within : Replaces (front ++ newBack) (newFront ++ newBack) :=
      replaces.append (.refl newBack)
    exact spaced.trans (((behind.trans within).cons gap).cons before)

theorem canonical_call (opened : HasKinds [.mustacheOpen, .greater, .blank] opening)
    (isName : name.kind = .identifier) (nameLexeme : IsLexeme name)
    (lexemes : ∀ token ∈ opening, IsLexeme token)
    (given : Canonical matchNames levels (.arguments entries) arguments) :
    Canonical matchNames (levels + 1) (.statement position (.call name.lexeme entries))
      (opening ++ name :: arguments) := by
  rcases canonical_opening opened (by decide) rfl rfl lexemes isName nameLexeme with
    ⟨newOpening, newOpened, openText, replacesOpening⟩
  rcases given with ⟨new, derived, text, replaces⟩
  refine ⟨newOpening ++ name :: new, .call newOpened isName derived, ?_, ?_⟩
  · simp [openText, text, Phrase.source, Statement.source_call derived.areWritten]
  · have after := replaces name (by simp [isName, beforeArguments, words])
    exact replacesOpening _ _ after

theorem canonical_slot {closing : Token}
    (opened : HasKinds [.blockOpen, .greater, .blank] opening) (isName : name.kind = .identifier)
    (given : Canonical matchNames levels (.arguments entries) arguments)
    (content : Canonical matchNames levels (.list .text body) inside)
    (ends : Encloses .blockClose .identifier closing finish)
    (same : closing.lexeme = name.lexeme)
    (lexemes : ∀ token ∈ opening ++ name :: finish, IsLexeme token) :
    Canonical matchNames (levels + 1)
      (.statement position
        (.call name.lexeme (entries ++ [.captured Attribute.capturedName (joinLiterals body)])))
      (opening ++ name :: (arguments ++ inside ++ finish)) := by
  simp only [List.forall_mem_append, List.forall_mem_cons] at lexemes
  rcases lexemes with ⟨openingLexemes, nameLexeme, finishLexemes⟩
  rcases canonical_opening opened (by decide) rfl rfl openingLexemes isName nameLexeme with
    ⟨newOpening, newOpened, openText, replacesOpening⟩
  rcases given with ⟨new, derived, text, replaces⟩
  rcases content with ⟨newInside, derivedInside, textInside, replacesInside⟩
  rcases canonical_encloses ends (by decide) (by decide) rfl finishLexemes with
    ⟨newFinish, newEnds, finishText, replacesFinish⟩
  refine ⟨newOpening ++ name :: (new ++ newInside ++ newFinish), ?_, ?_, ?_⟩
  · exact .slot newOpened isName derived derivedInside newEnds same
  · simp [openText, text, textInside, finishText, same, Phrase.source,
      Statement.source_call_captured derived.areWritten, sourceAll_joinLiterals]
  · have after := ((replaces name (by simp [isName, beforeArguments, words])).append
      replacesInside).append replacesFinish
    exact replacesOpening _ _ after

/-! ## All phrases -/

/-- The tokens of a phrase can be brought into canonical form, at the same depth and whether or not
closing tags have to repeat the names of their opening tags. -/
theorem Derives.canonical {written : Bool} {phrase : Phrase}
    (derived : Derives written levels phrase tokens)
    (lexemes : ∀ token ∈ tokens, IsLexeme token) (matchNames : Bool) :
    Canonical matchNames levels phrase tokens := by
  induction derived with
  | nil => exact canonical_nil
  | cons notEnd _ apart _ one more =>
      rw [List.forall_mem_append] at lexemes
      exact canonical_cons notEnd (one lexemes.1) apart (more lexemes.2)
  | literal other => exact ⟨_, .literal other, by simp [Phrase.source, Statement.source], .refl _⟩
  | interpolation encloses => exact canonical_interpolation encloses lexemes
  | assignment _ given =>
      rcases given lexemes with ⟨new, derived, text, replaces⟩
      exact ⟨new, .assignment derived, by simpa [Phrase.source, Statement.source] using text,
        replaces⟩
  | quoted isOpened _ isClosed body =>
      simp only [List.forall_mem_cons, List.forall_mem_append] at lexemes
      exact canonical_quoted isOpened lexemes.1 isClosed lexemes.2.2.1 (body lexemes.2.1)
  | emptyTag isOpened isName _ isClosed given =>
      simp only [List.forall_mem_cons, List.forall_mem_append] at lexemes
      rcases lexemes with ⟨openedLexeme, _, within, closedLexeme, _⟩
      exact canonical_emptyTag isOpened openedLexeme isName (given within) isClosed closedLexeme
  | tag isOpened isName _ isEnd _ isClosed isClosing _ isFinish given body =>
      simp only [List.forall_mem_cons, List.forall_mem_append] at lexemes
      rcases lexemes with ⟨openedLexeme, nameLexeme, within, endedLexeme, content, closedLexeme, _,
        finishLexeme, _⟩
      exact canonical_tag isOpened openedLexeme isName nameLexeme (given within) isEnd endedLexeme
        (body content) isClosed closedLexeme isClosing isFinish finishLexeme
  | ifThen opened isName closes _ ends body =>
      simp only [List.forall_mem_append, List.forall_mem_cons] at lexemes
      rcases lexemes with ⟨opening, name, ⟨closing, content⟩, finish⟩
      apply canonical_ifThen opened isName closes (body content) ends
      simp only [List.forall_mem_append, List.forall_mem_cons]
      exact ⟨opening, name, closing, finish⟩
  | ifThenElse opened isName closes _ isElse _ ends body other =>
      simp only [List.forall_mem_append, List.forall_mem_cons] at lexemes
      rcases lexemes with
        ⟨opening, name, ⟨⟨⟨closing, content⟩, between⟩, otherwise⟩, finish⟩
      apply canonical_ifThenElse opened isName closes (body content) isElse (other otherwise) ends
      simp only [List.forall_mem_append, List.forall_mem_cons]
      exact ⟨opening, name, ⟨closing, between⟩, finish⟩
  | each opened isName isBlank isItem closes _ ends body =>
      simp only [List.forall_mem_append, List.forall_mem_cons] at lexemes
      rcases lexemes with ⟨opening, name, _, item, ⟨closing, content⟩, finish⟩
      apply canonical_each opened isName isBlank isItem closes (body content) ends
      simp only [List.forall_mem_append, List.forall_mem_cons]
      exact ⟨opening, name, item, closing, finish⟩
  | call opened isName _ given =>
      simp only [List.forall_mem_append, List.forall_mem_cons] at lexemes
      rcases lexemes with ⟨opening, name, arguments⟩
      exact canonical_call opened isName name opening (given arguments)
  | slot opened isName _ _ ends same given body =>
      simp only [List.forall_mem_append, List.forall_mem_cons] at lexemes
      rcases lexemes with ⟨opening, name, ⟨arguments, content⟩, finish⟩
      apply canonical_slot opened isName (given arguments) (body content) ends same
      simp only [List.forall_mem_append, List.forall_mem_cons]
      exact ⟨opening, name, finish⟩
  | bare isName isSign isValue =>
      simp only [List.forall_mem_cons] at lexemes
      exact canonical_bare isName isSign lexemes.2.1 isValue
  | quotedValue isName isSign isOpened _ isClosed body =>
      simp only [List.forall_mem_cons, List.forall_mem_append] at lexemes
      rcases lexemes with ⟨_, sign, opened, content, closed, _⟩
      exact canonical_quotedValue isName isSign sign isOpened opened (body content) isClosed closed
  | argumentsEnd closes => exact canonical_argumentsEnd closes lexemes
  | argumentsCons isSpace derivedOne _ one more =>
      simp only [List.forall_mem_append] at lexemes
      exact canonical_argumentsCons isSpace derivedOne lexemes.1.2 (one lexemes.1.2)
        (more lexemes.2)

end Stencil.Grammar
