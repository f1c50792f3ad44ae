import Stencil.Proofs.Render.Static

/-!
# Rendered static text is rendered to itself

Rendering static text changes two things: bare words that are values of attributes get quotes, and
closing tags get the names of their opening tags.  Both can be done to the tokens of the source in
place.  The new tokens are what a scan finds in the rendered text, they derive a template in which
no bare word is left, and that template renders to the text again.  Text in quotes lies one level
deeper than a bare word, so one more level may be needed.
-/

namespace Stencil

open Grammar
open Token (IsLexeme)
open Parse (Position)

namespace Token

variable {region final : Region} {tokens old new front front' back back' : List Token}

theorem Region.after_ne_interpolated {kind : Kind} (static : kind ∉ codeKinds)
    (outside : region ≠ .interpolated) : region.after kind ≠ .interpolated := by
  revert static outside
  cases region <;> cases kind <;> decide

/-- Static tokens do not lead into an interpolation. -/
theorem Scans.ne_interpolated (static : ∀ token ∈ tokens, token.kind ∉ codeKinds)
    (outside : region ≠ .interpolated) (scans : Scans region tokens final) :
    final ≠ .interpolated := by
  induction tokens generalizing region with
  | nil =>
      cases scans
      exact outside
  | cons token rest ih =>
      rw [List.forall_mem_cons] at static
      exact ih static.2 (Region.after_ne_interpolated static.1 outside) scans.2.2

/-- New static tokens may stand wherever a scan finds the old ones outside interpolations.  Unlike
with `Replaces`, the last token may be another one, as long as it ends in front of at least the same
tokens. -/
structure Restates (old new : List Token) : Prop where
  static : ∀ token ∈ new, token.kind ∉ codeKinds
  scans : ∀ region final, region ≠ .interpolated → Scans region old final →
    final ≠ .interpolated ∧ Scans region new final
  head : new.head? = old.head?
  last : ∀ next, (∀ token ∈ old.getLast?, Joins token next) →
    ∀ token ∈ new.getLast?, Joins token next
  /-- A single token is only ever kept. -/
  single : ∀ token, new = [token] → old = [token]

namespace Restates

theorem of_replaces (oldStatic : ∀ token ∈ old, token.kind ∉ codeKinds)
    (static : ∀ token ∈ new, token.kind ∉ codeKinds) (replaces : Replaces old new) :
    Restates old new where
  static := static
  scans := by
    intro region final outside scans
    exact ⟨scans.ne_interpolated oldStatic outside, replaces.scans _ _ scans⟩
  head := replaces.head
  last := by
    intro next joins
    rw [replaces.last]
    exact joins
  single := replaces.single

theorem refl (tokens : List Token) (static : ∀ token ∈ tokens, token.kind ∉ codeKinds) :
    Restates tokens tokens :=
  of_replaces static static (.refl tokens)

/-- Two lists next to each other may be restated one by one. -/
theorem append (first : Restates front front') (second : Restates back back') :
    Restates (front ++ back) (front' ++ back') where
  static := by
    rw [List.forall_mem_append]
    exact ⟨first.static, second.static⟩
  scans := by
    intro region final outside scans
    rcases scans_append.mp scans with ⟨middle, scansFront, scansBack, joins⟩
    rcases first.scans _ _ outside scansFront with ⟨outsideMiddle, newFront⟩
    rcases second.scans _ _ outsideMiddle scansBack with ⟨outsideFinal, newBack⟩
    refine ⟨outsideFinal, scans_append.mpr ⟨middle, newFront, newBack, ?_⟩⟩
    intro token isLast next isNext
    rw [second.head] at isNext
    exact first.last next (fun before isBefore => joins before isBefore next isNext) token isLast
  head := by
    rw [List.head?_append, List.head?_append, first.head, second.head]
  last := by
    intro next joins
    -- Lists that begin alike are empty together.
    have sameHead := second.head
    cases back with
    | nil =>
        rw [List.head?_eq_none_iff.mp sameHead, List.append_nil]
        rw [List.append_nil] at joins
        exact first.last next joins
    | cons token rest =>
        rcases List.head?_eq_some_iff.mp sameHead with ⟨rest', rfl⟩
        rw [List.getLast?_append_cons] at joins ⊢
        exact second.last next joins
  single := by
    intro token same
    exact eq_singleton_of_append first.head second.head first.single second.single same

theorem cons {token : Token} (static : token.kind ∉ codeKinds) (restates : Restates back back') :
    Restates (token :: back) (token :: back') :=
  (refl [token] (by simpa using static)).append restates

theorem enclosed {opened closed : Token} (restates : Restates old new)
    (staticOpened : opened.kind ∉ codeKinds) (staticClosed : closed.kind ∉ codeKinds) :
    Restates (opened :: (old ++ [closed])) (opened :: (new ++ [closed])) :=
  (restates.append (refl [closed] (by simpa using staticClosed))).cons staticOpened

end Restates

/-- A quote that is added. -/
def quoteMark : Token :=
  { kind := .quote, lexeme := "\"", line := 1 }

def inQuotes (word : Token) : Token :=
  { kind := .string, lexeme := word.lexeme, line := 1 }

theorem quoteMark_fitsIn : FitsIn region quoteMark :=
  Fits.mark (by decide) fun _ => rfl

theorem quoteMark_joins (next : Token) : Joins quoteMark next := by
  intro char _
  rfl

/-- The parts of a word do not end the text inside quotes. -/
theorem cutString_append_of_parts {text following : List Char}
    (parts : ∀ char ∈ text, isNamePart char = true)
    (ends : following = [] ∨ endsString following = true) :
    cutString (text ++ following) = (text, following) := by
  induction text with
  | nil => exact cutString_eq_nil.mpr ends
  | cons first text ih =>
      rw [List.forall_mem_cons] at parts
      rw [List.cons_append, cutString_cons_eq]
      refine ⟨?_, ih parts.2⟩
      have notMark := not_mem_markStarts_of_isNamePart parts.1
      unfold endsString
      split <;> simp_all [markStarts]

/-- A bare word in quotes is text that a scan finds between two quotes. -/
theorem scans_inQuotes {word : Token} (fits : FitsIn region word)
    (isWord : word.kind = .identifier) :
    Scans .plain [quoteMark, word.inQuotes, quoteMark] .plain := by
  have nonempty : word.lexeme.toList ≠ [] := fits.text_ne_nil
  have parts : ∀ char ∈ word.lexeme.toList, isNamePart char = true := by
    rw [FitsIn, isWord] at fits
    rcases fits.word_of_identifier with ⟨_, first, rest, split, begins, parts⟩
    rw [split, List.forall_mem_cons]
    exact ⟨isNamePart_of_isNameStart begins, parts⟩
  have whole : cutString word.lexeme.toList = (word.lexeme.toList, []) := by
    have cut := cutString_append_of_parts parts (.inl rfl)
    rwa [List.append_nil] at cut
  have joins : Joins word.inQuotes quoteMark := cutString_append_of_parts parts (.inr rfl)
  have textFits : FitsIn .quoted word.inQuotes := Fits.string rfl nonempty whole
  refine ⟨quoteMark_fitsIn, ?_, textFits, ?_, quoteMark_fitsIn, ?_, rfl⟩
  · intro next _
    exact quoteMark_joins next
  · intro next isNext
    cases isNext
    exact joins
  · intro next _
    exact quoteMark_joins next

/-- The bare word after the equals sign of an attribute may get quotes. -/
theorem Restates.bareWord {name sign value : Token} (isName : name.kind = .identifier)
    (isSign : sign.kind = .equal) (isValue : value.kind = .identifier) :
    Restates [name, sign, value] [name, sign, quoteMark, value.inQuotes, quoteMark] where
  static := by simp [isName, isSign, quoteMark, inQuotes, codeKinds]
  scans := by
    intro region final outside scans
    rcases scans with ⟨nameFits, nameJoins, signFits, _, valueFits, _, same⟩
    have plain : region = .plain := by
      have unquoted : region ≠ .quoted := nameFits.outside (by rw [isName]; decide)
      cases region with
      | plain => rfl
      | quoted => exact absurd rfl unquoted
      | interpolated => exact absurd rfl outside
    subst plain
    have signJoins : Joins sign quoteMark := by
      rw [Joins, isSign]
      intro char _
      rfl
    have quoted := scans_inQuotes valueFits isValue
    rw [isName] at signFits same
    rw [isSign, isValue] at same
    subst same
    refine ⟨by decide, nameFits, nameJoins, ?_⟩
    rw [isName]
    refine ⟨signFits, ?_, ?_⟩
    · intro next isNext
      cases isNext
      exact signJoins
    · rw [isSign]
      exact quoted
  head := rfl
  last := by
    intro next _ token isLast
    cases isLast
    exact quoteMark_joins next
  single := by simp

end Token

/-! ## Phrases with quotes -/

open Token (Restates inQuotes)

/-- With one more level, the second way to render yields what the first one does with at least the
given number. -/
def RendersAlike (levels : Nat) (render newRender : Nat → Except Halt String) : Prop :=
  ∀ enough, levels ≤ enough → newRender (enough + 1) = render enough

/-- A new phrase stands for an old one in static text: it has no bare words, and one level deeper it
renders to the same text.  The attributes of a call are no part of static text. -/
inductive Grammar.Phrase.Quotes (levels : Nat) : Phrase → Phrase → Prop where
  | statement {position : Position} {old new : Statement} :
      new.hasBare = false →
      (∀ registry callee? scope, RendersAlike levels (old.render registry callee? scope)
        (new.render registry callee? scope)) →
      Quotes levels (.statement position old) (.statement position new)
  | list {place : Place} {old new : List Statement} :
      hasBareAll new = false →
      (∀ registry callee? scope, RendersAlike levels (renderAll registry callee? old scope)
        (renderAll registry callee? new scope)) →
      Quotes levels (.list place old) (.list place new)
  | given {old new : Attribute} :
      new.hasBare = false →
      (∀ registry callee? scope, RendersAlike levels (old.render registry callee? scope)
        (new.render registry callee? scope)) →
      Quotes levels (.attribute old) (.attribute new)
  | arguments {old new : List Attribute} : Quotes levels (.arguments old) (.arguments new)

/-- The bare words in the tokens of a phrase can get quotes, and its closing tags the names of their
opening tags. -/
def Quotable (levels : Nat) (phrase : Phrase) (tokens : List Token) : Prop :=
  ∃ newPhrase new, phrase.Quotes levels newPhrase ∧ Derives true (levels + 1) newPhrase new ∧
    Restates tokens new

variable {registry : Registry} {callee? : Option Callee} {scope : Scope} {levels : Nat}
variable {position : Position} {place : Place} {tokens inside attributes : List Token}
variable {given body : List Statement} {opened name closed : Token}

/-- The statements inside a construct are rendered one level deeper, their text joined. -/
theorem RendersAlike.descend {newBody : List Statement} {enough : Nat}
    (alike : RendersAlike levels (renderAll registry callee? body scope)
      (renderAll registry callee? newBody scope)) (fits : levels + 1 ≤ enough) :
    (Stencil.descend (enough + 1) fun inner =>
        renderAll registry callee? (joinLiterals newBody) scope inner) =
      Stencil.descend enough fun inner =>
        renderAll registry callee? (joinLiterals body) scope inner := by
  rcases exists_fewer_of_succ_le fits with ⟨inner, rfl, further⟩
  simp only [Stencil.descend, renderAll_joinLiterals]
  exact alike inner further

theorem quotable_cons {statement : Statement} {more : List Statement} {first : Token}
    {front back : List Token} (notEnd : first.kind ∉ place.ends)
    (one : Quotable levels (.statement place.position statement) (first :: front))
    (apart : Apart place.position (first :: front) back)
    (rest : Quotable levels (.list place more) back) :
    Quotable levels (.list place (statement :: more)) (first :: front ++ back) := by
  rcases one with ⟨_, newFront, ⟨noBare, alike⟩, derived, restates⟩
  rcases rest with ⟨_, newBack, quotes, derivedMore, restatesMore⟩
  -- The first token is kept, so it still does not end the list.
  rcases List.head?_eq_some_iff.mp restates.head with ⟨newRest, rfl⟩
  have newApart := apart.of_same restates.single restatesMore.head
  cases quotes with
  | list noBareMore alikeMore =>
      refine ⟨_, _, .list ?_ ?_, .cons notEnd derived newApart derivedMore,
        restates.append restatesMore⟩
      · rw [hasBareAll, noBare, noBareMore]
        rfl
      · intro registry callee? scope enough fits
        rw [renderAll_cons, renderAll_cons, alike registry callee? scope enough fits,
          alikeMore registry callee? scope enough fits]

theorem quotable_quoted (isOpened : opened.kind = .quote)
    (content : Quotable levels (.list .quotes body) inside) (isClosed : closed.kind = .quote) :
    Quotable (levels + 1)
      (.statement position
        (.quoted (joinLiterals (.literal "\"" :: joinLiterals body ++ [.literal "\""]))))
      (opened :: (inside ++ [closed])) := by
  rcases content with ⟨_, new, quotes, derived, restates⟩
  cases quotes with
  | list noBare alike =>
      refine ⟨_, _, .statement ?_ ?_, .quoted isOpened derived isClosed,
        restates.enclosed (by simp [isOpened, codeKinds]) (by simp [isClosed, codeKinds])⟩
      · simp [Statement.hasBare, hasBareAll_joinLiterals, hasBareAll_append, hasBareAll, noBare]
      · intro registry callee? scope enough fits
        rw [Statement.render, Statement.render]
        apply RendersAlike.descend _ fits
        intro inner further
        simp only [List.cons_append, renderAll_cons, renderAll_append, renderAll_joinLiterals,
          alike registry callee? scope inner further]
        rfl

theorem quotable_emptyTag (isOpened : opened.kind = .less) (isName : name.kind = .identifier)
    (within : Quotable levels (.list .opening given) attributes)
    (isClosed : closed.kind = .selfClose) :
    Quotable (levels + 1) (.statement position (.emptyTag name.lexeme (joinLiterals given)))
      (opened :: name :: (attributes ++ [closed])) := by
  rcases within with ⟨_, new, quotes, derived, restates⟩
  have whole : Restates (opened :: name :: (attributes ++ [closed]))
      (opened :: name :: (new ++ [closed])) := by
    apply (restates.enclosed _ _).cons
    · simp [isOpened, codeKinds]
    · simp [isName, codeKinds]
    · simp [isClosed, codeKinds]
  cases quotes with
  | list noBare alike =>
      refine ⟨_, _, .statement ?_ ?_, .emptyTag isOpened isName derived isClosed, whole⟩
      · rw [Statement.hasBare, hasBareAll_joinLiterals, noBare]
      · intro registry callee? scope enough fits
        rw [Statement.render, Statement.render, (alike registry callee? scope).descend fits]

/-- A closing tag gets the name of its opening tag. -/
theorem quotable_tag {ended closing finish : Token} (isOpened : opened.kind = .less)
    (isName : name.kind = .identifier) (nameLexeme : IsLexeme name)
    (within : Quotable levels (.list .opening given) attributes) (isEnd : ended.kind = .greater)
    (content : Quotable levels (.list .content body) inside) (isClosed : closed.kind = .tagClose)
    (isClosing : closing.kind = .identifier) (isFinish : finish.kind = .greater)
    (finishLexeme : IsLexeme finish) :
    Quotable (levels + 1)
      (.statement position (.tag name.lexeme (joinLiterals given) (joinLiterals body)))
      (opened :: name :: (attributes ++ ended :: (inside ++ [closed, closing, finish]))) := by
  rcases within with ⟨_, new, quotes, derived, restates⟩
  rcases content with ⟨_, newInside, quotesInside, derivedInside, restatesInside⟩
  have whole : Restates
      (opened :: name :: (attributes ++ ended :: (inside ++ [closed, closing, finish])))
      (opened :: name :: (new ++ ended :: (newInside ++ [closed, name, finish]))) := by
    have renamed : Restates [closed, closing, finish] [closed, name, finish] := by
      apply Restates.of_replaces
      · simp [isClosed, isClosing, isFinish, codeKinds]
      · simp [isClosed, isName, isFinish, codeKinds]
      · exact replaces_closingName isName nameLexeme isClosed isClosing isFinish finishLexeme
    have ends : ended.kind ∉ codeKinds := by simp [isEnd, codeKinds]
    exact ((restates.append ((restatesInside.append renamed).cons ends)).cons
      (by simp [isName, codeKinds])).cons (by simp [isOpened, codeKinds])
  cases quotes with
  | list noBare alike =>
      cases quotesInside with
      | list noBareInside alikeInside =>
          refine ⟨_, _, .statement ?_ ?_, .tag isOpened isName derived isEnd derivedInside isClosed
            isName (fun _ => rfl) isFinish, whole⟩
          · rw [Statement.hasBare, hasBareAll_joinLiterals, hasBareAll_joinLiterals, noBare,
              noBareInside]
            rfl
          · intro registry callee? scope enough fits
            rw [Statement.render, Statement.render, (alike registry callee? scope).descend fits,
              (alikeInside registry callee? scope).descend fits]

theorem quotable_bare {sign value : Token} (isName : name.kind = .identifier)
    (isSign : sign.kind = .equal) (isValue : value.kind = .identifier) :
    Quotable (levels + 1) (.attribute (.bare name.lexeme value.lexeme)) [name, sign, value] := by
  have text : Derives true (levels + 1) (.list .quotes [.literal value.lexeme])
      [value.inQuotes] := by
    apply @Derives.cons _ _ .quotes _ _ value.inQuotes [] []
    · simp [inQuotes, Place.ends]
    · exact @Derives.literal _ _ _ value.inQuotes (by simp [inQuotes, reserved])
    · simp [Apart]
    · exact .nil
  refine ⟨_, _, .given ?_ ?_, .quotedValue isName isSign rfl text rfl,
    .bareWord isName isSign isValue⟩
  · rfl
  · intro registry callee? scope enough fits
    rcases exists_fewer_of_succ_le fits with ⟨inner, rfl, further⟩
    simp only [Attribute.render, descend, renderAll_joinLiterals, renderAll_cons]
    rw [renderAll, thenText_empty]
    rfl

theorem quotable_quotedValue {sign : Token} (isName : name.kind = .identifier)
    (isSign : sign.kind = .equal) (isOpened : opened.kind = .quote)
    (content : Quotable levels (.list .quotes body) inside) (isClosed : closed.kind = .quote) :
    Quotable (levels + 1) (.attribute (.quoted name.lexeme (joinLiterals body)))
      (name :: sign :: opened :: (inside ++ [closed])) := by
  rcases content with ⟨_, new, quotes, derived, restates⟩
  have whole : Restates (name :: sign :: opened :: (inside ++ [closed]))
      (name :: sign :: opened :: (new ++ [closed])) := by
    apply ((restates.enclosed _ _).cons _).cons
    · simp [isName, codeKinds]
    · simp [isSign, codeKinds]
    · simp [isOpened, codeKinds]
    · simp [isClosed, codeKinds]
  cases quotes with
  | list noBare alike =>
      refine ⟨_, _, .given ?_ ?_, .quotedValue isName isSign isOpened derived isClosed, whole⟩
      · rw [Attribute.hasBare, hasBareAll_joinLiterals, noBare]
      · intro registry callee? scope enough fits
        rw [Attribute.render, Attribute.render, (alike registry callee? scope).descend fits]

/-- Static tokens can get their quotes and names, whatever phrase they are. -/
theorem Grammar.Derives.quotable {matchNames : Bool} {phrase : Phrase}
    (derived : Derives matchNames levels phrase tokens)
    (static : ∀ token ∈ tokens, IsLexeme token ∧ token.kind ∉ codeKinds) :
    Quotable levels phrase tokens := by
  induction derived with
  | nil => exact ⟨_, _, .list rfl fun _ _ _ _ _ => rfl, .nil, .refl _ (by simp)⟩
  | cons notEnd _ apart _ one rest =>
      rw [List.forall_mem_append] at static
      exact quotable_cons notEnd (one static.1) apart (rest static.2)
  | literal other =>
      rw [List.forall_mem_singleton] at static
      exact ⟨_, _, .statement rfl fun _ _ _ _ _ => rfl, .literal other,
        .refl _ (by simpa using static.2)⟩
  | interpolation encloses =>
      cases encloses with
      | intro isOpened => simp [isOpened, codeKinds] at static
  | assignment _ one =>
      rcases one static with ⟨_, new, quotes, derived, restates⟩
      cases quotes with
      | given noBare alike =>
          exact ⟨_, new, @Phrase.Quotes.statement _ _ _ (.assignment _) noBare alike,
            .assignment derived, restates⟩
  | quoted isOpened _ isClosed content =>
      simp only [List.forall_mem_cons, List.forall_mem_append] at static
      exact quotable_quoted isOpened (content static.2.1) isClosed
  | emptyTag isOpened isName _ isClosed within =>
      simp only [List.forall_mem_cons, List.forall_mem_append] at static
      exact quotable_emptyTag isOpened isName (within static.2.2.1) isClosed
  | tag isOpened isName _ isEnd _ isClosed isClosing _ isFinish within content =>
      simp only [List.forall_mem_cons, List.forall_mem_append] at static
      rcases static with ⟨_, named, given, _, body, _, _, finishes, _⟩
      exact quotable_tag isOpened isName named.1 (within given) isEnd (content body) isClosed
        isClosing isFinish finishes.1
  | bare isName isSign isValue => exact quotable_bare isName isSign isValue
  | quotedValue isName isSign isOpened _ isClosed content =>
      simp only [List.forall_mem_cons, List.forall_mem_append] at static
      exact quotable_quotedValue isName isSign isOpened (content static.2.2.2.1) isClosed
  | argumentsEnd closes =>
      exact ⟨.arguments [], _, .arguments, .argumentsEnd closes,
        .refl _ fun token member => (static token member).2⟩
  | argumentsCons isSpace _ _ one rest =>
      simp only [List.forall_mem_append] at static
      rcases one static.1.2 with ⟨_, newFront, quotes, derived, restates⟩
      rcases rest static.2 with ⟨_, newBack, quotesMore, derivedMore, restatesMore⟩
      cases quotes with
      | given =>
          cases quotesMore with
          | arguments =>
              exact ⟨_, _, .arguments, .argumentsCons isSpace derived derivedMore,
                ((Restates.refl _ fun token member => (static.1.1 token member).2).append
                  restates).append restatesMore⟩
  | ifThen opened | ifThenElse opened | each opened | call opened | slot opened =>
      rcases opened.three with ⟨first, _, _, rfl, isFirst, _⟩
      simp [isFirst, codeKinds] at static

/-! ## Whole templates -/

variable {source text : String} {options : CompileOptions} {template : Template}
variable {registry : Registry} {context : Context} {limits : RenderLimits}

theorem Template.render_eq_ok_of_renderAll
    (rendered : ∀ callee?,
      renderAll registry callee? body [context.bindings] limits.nesting = .ok text) :
    Template.render (joinLiterals body) context registry limits = .ok text := by
  rcases exists_renderIn_eq registry limits.calls with ⟨callee?, renderIn_eq⟩
  rw [Template.render, mapError_eq_ok, renderIn_eq, descend, renderAll_joinLiterals]
  exact rendered callee?

/-- Static text without bare words is rendered to its source. -/
theorem Grammar.Derives.renderAll_eq (derived : Derives true levels (.list place body) tokens)
    (static : ∀ token ∈ tokens, IsLexeme token ∧ token.kind ∉ codeKinds)
    (noBare : hasBareAll body = false) (whole : Token.source tokens = text.toList)
    (registry : Registry) (callee? : Option Callee) (scope : Scope) {enough : Nat}
    (fits : levels ≤ enough) : renderAll registry callee? body scope enough = .ok text := by
  rcases derived.kept registry callee? scope static enough fits with ⟨rendered, isRendered, keeps⟩
  have same : rendered = text := by
    rw [← String.toList_inj, keeps.whole noBare, whole]
  rw [isRendered, same]

/-- Rendered static text is a fixed point.  If a source without tokens that begin or end an
interpolation, a call or a block is compiled, with closing tags that repeat the names of their
opening tags or not, then its template renders to one text in every context.  That text is scanned
without problems and compiled with one more level, now with closing tags that do repeat the names,
and the template renders to the text again. -/
theorem Template.exists_render_fixed
    (static : ∀ token ∈ (Token.scan source).tokens, token.kind ∉ codeKinds)
    (compiled : Template.compile source options = .ok template) :
    ∃ text again,
      (∀ context registry limits, options.maxNesting ≤ RenderLimits.nesting limits →
        template.render context registry limits = .ok text) ∧
      (Token.scan text).errors = [] ∧
      Template.compile text ⟨true, options.maxNesting + 1⟩ = .ok again ∧
      ∀ context registry limits, options.maxNesting + 1 ≤ RenderLimits.nesting limits →
        again.render context registry limits = .ok text := by
  rw [compile_eq_ok, parse_eq_ok] at compiled
  rcases compiled with ⟨clean, body, derived, rfl⟩
  rcases Token.exists_scans_of_scan clean with ⟨tokens, found, scans, _⟩
  rw [found, beforeEnd_append scans.kind_ne_endMark rfl] at derived
  rw [found, List.forall_mem_append] at static
  have lexemes : ∀ token ∈ tokens, IsLexeme token ∧ token.kind ∉ codeKinds := by
    intro token member
    exact ⟨scans.forall_fitsIn token member, static.1 token member⟩
  rcases derived.quotable lexemes with ⟨_, new, quotes, newDerived, restates⟩
  have newScans := (restates.scans _ _ (by decide) scans).2
  have newLexemes : ∀ token ∈ new, IsLexeme token ∧ token.kind ∉ codeKinds := by
    intro token member
    exact ⟨newScans.forall_fitsIn token member, restates.static token member⟩
  have isText : ∃ text : String, Token.source new = text.toList :=
    ⟨String.ofList (Token.source new), String.toList_ofList.symm⟩
  rcases isText with ⟨text, whole⟩
  cases quotes with
  | @list _ _ newBody noBare alike =>
      have renders := newDerived.renderAll_eq newLexemes noBare whole
      refine ⟨text, joinLiterals newBody, ?_, ?_, ?_, ?_⟩
      · intro context registry limits fits
        apply render_eq_ok_of_renderAll
        intro callee?
        rw [← alike registry callee? [context.bindings] limits.nesting fits]
        exact renders registry callee? _ (Nat.succ_le_succ fits)
      · rw [Token.scan_eq_of_scans newScans whole]
      · exact compile_eq_ok_iff.mpr ⟨new, newBody, newScans, whole, newDerived, rfl⟩
      · intro context registry limits fits
        apply render_eq_ok_of_renderAll
        intro callee?
        exact renders registry callee? _ fits

/-- Bare words in front of a quote, an equals sign and the end of a tag, and a closing tag with
another name. -/
def bareSource : String :=
  "<p a=b\"c\" d=e=f><br g=h/></q>"

def bareTokens : List Token :=
  [(.less, "<", none), (.identifier, "p", none), (.blank, " ", none), (.identifier, "a", none),
    (.equal, "=", none), (.identifier, "b", none), (.quote, "\"", none),
    (.string, "c", some (.text "c")), (.quote, "\"", none), (.blank, " ", none),
    (.identifier, "d", none), (.equal, "=", none), (.identifier, "e", none), (.equal, "=", none),
    (.identifier, "f", none), (.greater, ">", none), (.less, "<", none), (.identifier, "br", none),
    (.blank, " ", none), (.identifier, "g", none), (.equal, "=", none), (.identifier, "h", none),
    (.selfClose, "/>", none), (.tagClose, "</", none), (.identifier, "q", none),
    (.greater, ">", none), (.endMark, "", none)].map fun entry =>
      { kind := entry.1, lexeme := entry.2.1, literal? := entry.2.2, line := 1 }

def bareTemplate : Template :=
  [.tag "p" [.literal " ", .assignment (.bare "a" "b"), .quoted [.literal "\"c\""], .literal " ",
      .assignment (.bare "d" "e"), .literal "=f"]
    [.emptyTag "br" [.literal " ", .assignment (.bare "g" "h")]]]

/-- The text that is rendered from it, and that is rendered to itself. -/
def bareText : String :=
  "<p a=\"b\"\"c\" d=\"e\"=f><br g=\"h\"/></p>"

theorem Template.exists_render_fixed_bareTemplate :
    (∀ token ∈ (Token.scan bareSource).tokens, token.kind ∉ codeKinds) ∧
      Template.compile bareSource ⟨false, 3⟩ = .ok bareTemplate ∧
      (∀ context registry limits, 3 ≤ RenderLimits.nesting limits →
        bareTemplate.render context registry limits = .ok bareText) ∧
      (Token.scan bareText).errors = [] ∧
      ∃ again, Template.compile bareText ⟨true, 4⟩ = .ok again ∧
        ∀ context registry limits, 4 ≤ RenderLimits.nesting limits →
          again.render context registry limits = .ok bareText := by
  have clean : (Token.scan bareSource).errors = [] := by decide +kernel
  have found : (Token.scan bareSource).tokens = bareTokens := by decide +kernel
  have static : ∀ token ∈ (Token.scan bareSource).tokens, token.kind ∉ codeKinds := by
    rw [found]
    decide
  have compiled : Template.compile bareSource ⟨false, 3⟩ = .ok bareTemplate := by
    rw [compile_eq_ok, found]
    exact ⟨clean, rfl⟩
  rcases exists_render_fixed static compiled with ⟨text, again, renders, textClean, fixed⟩
  have isText : text = bareText := by
    have rendered : bareTemplate.render {} {} ⟨0, 3⟩ = .ok bareText := by decide +kernel
    rw [renders {} {} ⟨0, 3⟩ (by decide)] at rendered
    exact Except.ok.inj rendered
  subst isText
  exact ⟨static, compiled, renders, textClean, again, fixed⟩

end Stencil
