import Stencil.Proofs.Reading.Likeness

/-!
# Whole templates follow each other

Every construct is read by steps that follow each other, so its readers follow each other if those
of the statements inside it do.  Statements are tied together by induction on the levels that are
left, in one of two ways: with equally many levels on both sides, or with more levels on the second
side if running out of levels is excused.
-/

namespace Stencil.Likeness

open Stencil.Parser
open Token (Kind)
open Parse (Position StatementParser)

variable {like : Likeness} {bound : Nat} {tokens tokens' : List Token}
variable {statement statement' : Token → Parser Statement}

theorem exists_getLast?_alike {first first' : Token} (one : like.token first first')
    (alike : List.Forall₂ like.token tokens tokens') :
    ∃ last last', (first :: tokens).getLast? = some last ∧
      (first' :: tokens').getLast? = some last' ∧ like.token last last' := by
  induction alike generalizing first first' with
  | nil => exact ⟨first, first', rfl, rfl, one⟩
  | cons next _ ih =>
      rw [List.getLast?_cons_cons, List.getLast?_cons_cons]
      exact ih next

/-- A fault at the last token taken is at a token, since at least one was taken. -/
theorem stopAtLastTaken_outcome {first first' : Token} {cause : ParseError.Cause} {taken : Nat}
    {α β : Type} {values : α → β → Prop} (one : like.token first first')
    (alike : List.Forall₂ like.token tokens tokens') (structural : cause.Structural like.token) :
    like.Outcome values (tokens.drop taken) (tokens'.drop taken)
      (stopAtLastTaken (first :: tokens) cause (tokens.drop taken))
      (stopAtLastTaken (first' :: tokens') cause (tokens'.drop taken)) := by
  have takes : ∀ (first : Token) (tokens : List Token),
      (first :: tokens).take ((first :: tokens).length - (tokens.drop taken).length) =
        first :: tokens.take taken := by
    intro first tokens
    have count : (first :: tokens).length - (tokens.drop taken).length =
        min taken tokens.length + 1 := by
      simp only [List.length_cons, List.length_drop]
      omega
    rw [count, List.take_succ_cons, List.take_eq_take_iff.mpr]
    rw [Nat.min_assoc, Nat.min_self]
  rcases exists_getLast?_alike one (List.forall₂_take taken alike) with
    ⟨last, last', isLast, isLast', related⟩
  simp only [stopAtLastTaken, takes, isLast, isLast']
  exact .fault (like.atToken related structural)

theorem attributesUpTo_succ {limit : Nat} :
    attributesUpTo statement (limit + 1) tokens =
      match dropSpace tokens with
      | [] => .ok ([], [])
      | first :: rest =>
        if first.kind = .mustacheClose then .ok ([], first :: rest)
        else (statement first >>= fun read =>
          match read with
          | .assignment given => attributesUpTo statement limit >>= fun more => pure (given :: more)
          | _ => stopAtLastTaken (first :: rest) (.expected .argument)) rest := by
  rw [attributesUpTo, skipSpace_get_bind]
  change (nextUnless (startsWith .mustacheClose) (dropSpace tokens) >>= _) = _
  cases dropSpace tokens with
  | nil => rfl
  | cons first rest =>
      by_cases closes : first.kind = .mustacheClose
      · simp only [nextUnless, startsWith_cons, closes]
        rfl
      · simp only [nextUnless, startsWith_cons, closes]
        rfl

theorem attributesUpTo_follows (inside : like.Inside bound statement statement') (limit : Nat) :
    like.Follows bound Eq (attributesUpTo statement limit) (attributesUpTo statement' limit) := by
  induction limit with
  | zero => exact .pure rfl
  | succ limit ih =>
      intro tokens tokens' alike short
      rcases exists_dropSpace_eq_drop alike with ⟨skipped, within, dropped, dropped'⟩
      rw [attributesUpTo_succ, attributesUpTo_succ, dropped, dropped']
      apply Outcome.of_drop within
      have alikeRest := List.forall₂_drop skipped alike
      have shortRest : (tokens.drop skipped).length ≤ bound := by
        rw [List.length_drop]
        omega
      revert alikeRest shortRest
      generalize tokens.drop skipped = tokens, tokens'.drop skipped = tokens'
      intro alike short
      cases alike with
      | nil => exact .ok 0 (Nat.zero_le _) rfl rfl rfl
      | @cons first first' rest rest' one others =>
          simp only [like.kind_eq one]
          by_cases closes : first.kind = .mustacheClose
          · simp only [if_pos closes]
            exact .ok 0 (Nat.zero_le _) rfl rfl rfl
          · simp only [if_neg closes]
            have within : 1 ≤ (first :: rest).length := by simp
            apply Outcome.of_drop within
            apply (inside first first' rest.length one short rest rest' others (Nat.le_refl _)).bind
            rintro taken read _ _ rfl
            cases read with
            | assignment given =>
                have continues : like.Follows bound Eq
                    (attributesUpTo statement limit >>= fun more => pure (given :: more))
                    (attributesUpTo statement' limit >>= fun more => pure (given :: more)) := by
                  apply ih.bind
                  rintro more _ rfl
                  exact .pure rfl
                exact continues.after others (Nat.le_of_lt short) taken
            | _ => exact stopAtLastTaken_outcome one others (.expected .argument)

theorem attributes_follows (inside : like.Inside bound statement statement') :
    like.Follows bound Eq (attributes statement) (attributes statement') := by
  intro tokens tokens' alike short
  have follows := attributesUpTo_follows inside tokens.length tokens tokens' alike short
  change like.Outcome Eq tokens tokens' _ (attributesUpTo statement' tokens'.length tokens')
  rw [← alike.length_eq]
  exact follows

/-- The statements inside a construct are read in ways that follow each other in every position. -/
def Within (like : Likeness) (bound : Nat) (inner inner' : StatementParser) : Prop :=
  ∀ position, like.Inside bound (inner position) (inner' position)

variable {inner inner' : StatementParser}

theorem stringBody_follows (within : like.Within bound inner inner') :
    like.Follows bound Eq (Parse.stringBody inner) (Parse.stringBody inner') := by
  apply (sequence_follows (within .content) (startsWith_seesAlike .quote)).bind
  rintro body _ rfl
  apply (expect_follows .quote .stringEnd).andThen
  exact .pure rfl

theorem quotedText_follows (within : like.Within bound inner inner') :
    like.Follows bound Eq (Parse.quotedText inner) (Parse.quotedText inner') := by
  apply (stringBody_follows within).bind
  rintro body _ rfl
  exact .pure rfl

theorem attributeValue_follows (within : like.Within bound inner inner') (name : String) :
    like.Follows bound Eq (Parse.attributeValue inner name) (Parse.attributeValue inner' name) := by
  apply (accept_follows .quote).bind
  rintro isQuoted _ rfl
  cases isQuoted with
  | true =>
      apply (stringBody_follows within).bind
      rintro body _ rfl
      exact .pure rfl
  | false =>
      apply (expect_follows .identifier .attributeValue).bind
      intro word word' both
      rw [like.lexeme_eq both.1]
      exact .pure rfl

def matchName (matchNames : Bool) (opened closing : Token) : Parser Unit :=
  require (!matchNames || closing.lexeme = opened.lexeme) closing
    (.tagMismatch opened.lexeme closing.lexeme)

/-- One way to check the names in closing tags follows another one. -/
def NamesFollow (like : Likeness) (matchNames matchNames' : Bool) : Prop :=
  ∀ (bound : Nat) (opened opened' closing closing' : Token),
    like.Both .identifier opened opened' → like.Both .identifier closing closing' →
    like.Follows bound Eq (matchName matchNames opened closing)
      (matchName matchNames' opened' closing')

theorem namesFollow_self (matchNames : Bool) : like.NamesFollow matchNames matchNames := by
  intro bound opened opened' closing closing' isName isClosing
  unfold matchName
  rw [like.lexeme_eq isName.1, like.lexeme_eq isClosing.1]
  exact require_follows isClosing.1
    (.tagMismatch isName.1 isName.2 isClosing.1 isClosing.2)

theorem tag_follows {matchNames matchNames' : Bool} (within : like.Within bound inner inner')
    (names : like.NamesFollow matchNames matchNames') :
    like.Follows bound Eq (Parse.tag inner matchNames) (Parse.tag inner' matchNames') := by
  apply (expect_follows .identifier .tagName).bind
  intro name name' isName
  have seesEnd : like.SeesAlike
      fun tokens => startsWith .greater tokens || startsWith .selfClose tokens :=
    (startsWith_seesAlike .greater).or (startsWith_seesAlike .selfClose)
  apply (sequence_follows (within .attributes) seesEnd).bind
  rintro given _ rfl
  apply (accept_follows .selfClose).bind
  rintro isEmpty _ rfl
  cases isEmpty with
  | true =>
      rw [like.lexeme_eq isName.1]
      exact .pure rfl
  | false =>
      apply (expect_follows .greater .tagEnd).andThen
      apply (sequence_follows (within .content) (startsWith_seesAlike .tagClose)).bind
      rintro content _ rfl
      apply (expect_follows .tagClose .closingTag).andThen
      apply (expect_follows .identifier .closingTagName).bind
      intro closing closing' isClosing
      apply (names bound name name' closing closing' isName isClosing).andThen
      apply (expect_follows .greater .closingTagEnd).andThen
      rw [like.lexeme_eq isName.1]
      exact .pure rfl

theorem interpolation_follows :
    like.Follows bound Eq Parse.interpolation Parse.interpolation := by
  apply skipSpace_follows.andThen
  apply (expect_follows .identifier .variableName).bind
  intro path path' isPath
  rw [like.lexeme_eq isPath.1]
  apply skipSpace_follows.andThen
  apply (expect_follows .mustacheClose .variableEnd).andThen
  exact .pure rfl

theorem call_follows (within : like.Within bound inner inner') :
    like.Follows bound Eq (Parse.call inner) (Parse.call inner') := by
  apply (expect_follows .blank .callSpace).andThen
  apply (expect_follows .identifier .callName).bind
  intro name name' isName
  rw [like.lexeme_eq isName.1]
  apply (attributes_follows (within .attributes)).bind
  rintro given _ rfl
  apply (expect_follows .mustacheClose .callEnd).andThen
  exact .pure rfl

theorem slot_follows (within : like.Within bound inner inner') :
    like.Follows bound Eq (Parse.slot inner) (Parse.slot inner') := by
  apply (expect_follows .blank .slotSpace).andThen
  apply (expect_follows .identifier .slotName).bind
  intro name name' isName
  rw [like.lexeme_eq isName.1]
  apply (attributes_follows (within .attributes)).bind
  rintro given _ rfl
  apply (expect_follows .mustacheClose .slotOpeningEnd).andThen
  apply (sequence_follows (within .content) (startsWith_seesAlike .blockClose)).bind
  rintro body _ rfl
  apply (expect_follows .blockClose .slotClosing).andThen
  apply skipSpace_follows.andThen
  apply (expect_follows .identifier .slotClosingName).bind
  intro closing closing' isClosing
  rw [like.lexeme_eq isClosing.1]
  have mismatch : ParseError.Cause.Structural like.token
      (.slotMismatch name.lexeme closing.lexeme) :=
    .slotMismatch isName.1 isName.2 isClosing.1 isClosing.2
  apply (require_follows isClosing.1 mismatch).andThen
  apply skipSpace_follows.andThen
  apply (expect_follows .mustacheClose .slotClosingEnd).andThen
  exact .pure rfl

theorem each_follows (within : like.Within bound inner inner') :
    like.Follows bound Eq (Parse.each inner) (Parse.each inner') := by
  apply (expect_follows .blank .eachSpace).andThen
  apply (expect_follows .identifier .eachCollection).bind
  intro collection collection' isCollection
  apply (expect_follows .blank .eachSeparator).andThen
  apply (expect_follows .identifier .eachItem).bind
  intro item item' isItem
  rw [like.lexeme_eq isCollection.1, like.lexeme_eq isItem.1]
  apply skipSpace_follows.andThen
  apply (expect_follows .mustacheClose .eachOpeningEnd).andThen
  apply (sequence_follows (within .content) (startsWith_seesAlike .blockClose)).bind
  rintro body _ rfl
  apply (expect_follows .blockClose .eachClosing).andThen
  apply skipSpace_follows.andThen
  apply (expect_follows .eachWord .eachClosingWord).andThen
  apply skipSpace_follows.andThen
  apply (expect_follows .mustacheClose .eachClosingEnd).andThen
  exact .pure rfl

theorem conditionalEnd_follows :
    like.Follows bound Eq Parse.conditionalEnd Parse.conditionalEnd := by
  apply (expect_follows .blockClose .ifClosing).andThen
  apply skipSpace_follows.andThen
  apply (expect_follows .ifWord .ifClosingWord).andThen
  apply skipSpace_follows.andThen
  apply (expect_follows .mustacheClose .ifClosingEnd).andThen
  exact .pure rfl

theorem conditional_follows (within : like.Within bound inner inner') :
    like.Follows bound Eq (Parse.conditional inner) (Parse.conditional inner') := by
  apply (expect_follows .blank .ifSpace).andThen
  apply (expect_follows .identifier .ifCondition).bind
  intro condition condition' isCondition
  rw [like.lexeme_eq isCondition.1]
  apply skipSpace_follows.andThen
  apply (expect_follows .mustacheClose .ifOpeningEnd).andThen
  have seesEnd : like.SeesAlike
      fun tokens => startsWith .blockClose tokens || (afterElse? tokens).isSome :=
    (startsWith_seesAlike .blockClose).or afterElse?_seesAlike
  apply (sequence_follows (within .content) seesEnd).bind
  rintro body _ rfl
  apply acceptElse_follows.bind
  rintro hasElse _ rfl
  cases hasElse with
  | true =>
      apply (sequence_follows (within .content) (startsWith_seesAlike .blockClose)).bind
      rintro alternative _ rfl
      apply conditionalEnd_follows.andThen
      exact .pure rfl
  | false =>
      apply conditionalEnd_follows.andThen
      exact .pure rfl

theorem form_follows {first first' : Token} {matchNames matchNames' : Bool}
    (within : like.Within bound inner inner') (names : like.NamesFollow matchNames matchNames')
    (one : like.token first first') (position : Position) :
    like.Follows bound Eq (Parse.form matchNames inner position first)
      (Parse.form matchNames' inner' position first') := by
  have sameKind := like.kind_eq one
  have sameLexeme := like.lexeme_eq one
  unfold Parse.form
  rw [sameKind, sameLexeme]
  cases first.kind with
  | blockOpen =>
      apply (accept_follows .greater).bind
      rintro isSlot _ rfl
      cases isSlot with
      | true => exact slot_follows within
      | false =>
          apply (accept_follows .eachWord).bind
          rintro isEach _ rfl
          cases isEach with
          | true => exact each_follows within
          | false =>
              apply (accept_follows .ifWord).bind
              rintro isIf _ rfl
              cases isIf with
              | true => exact conditional_follows within
              | false => exact stopAt_follows one .unknownBlock
  | mustacheOpen =>
      apply (accept_follows .greater).bind
      rintro isCall _ rfl
      cases isCall with
      | true => exact call_follows within
      | false => exact interpolation_follows
  | identifier =>
      cases position with
      | content => exact .pure rfl
      | attributes =>
          apply (accept_follows .equal).bind
          rintro isAttribute _ rfl
          cases isAttribute with
          | true =>
              apply (attributeValue_follows within first.lexeme).bind
              rintro given _ rfl
              exact .pure rfl
          | false => exact .pure rfl
  | less => exact tag_follows within names
  | quote => exact quotedText_follows within
  | blockClose => exact stopAt_follows one .strayClosing
  | _ => exact .pure rfl

/-- Statements with some levels left follow statements with some extra levels left, wherever no
level left follows the extra levels left.  On the way to a place without levels left, each level
takes a token. -/
theorem statement_within {matchNames matchNames' : Bool}
    (names : like.NamesFollow matchNames matchNames') (levels extra : Nat)
    (atLimit : ∀ fewer, fewer + levels ≤ bound →
      like.Within fewer (Parse.statement matchNames 0) (Parse.statement matchNames' extra)) :
    like.Within bound (Parse.statement matchNames levels)
      (Parse.statement matchNames' (levels + extra)) := by
  induction levels generalizing bound with
  | zero =>
      rw [Nat.zero_add]
      exact atLimit bound (Nat.le_refl _)
  | succ levels ih =>
      intro position first first' fewer one short
      rw [Nat.succ_add]
      apply form_follows _ names one
      apply ih
      intro fewest fits
      apply atLimit
      omega

/-- If running out of levels leads to faults that are alike, then statements follow each other with
equally many levels left. -/
theorem statement_within_self {matchNames matchNames' : Bool}
    (names : like.NamesFollow matchNames matchNames') (levels : Nat)
    (atLimit : ∀ first first', like.token first first' →
      like.fault ⟨some first, .nestedTooDeeply⟩ ⟨some first', .nestedTooDeeply⟩) :
    like.Within bound (Parse.statement matchNames levels)
      (Parse.statement matchNames' levels) := by
  apply statement_within names levels 0
  intro _ _ _ first first' _ one _ _ _ _ _
  exact .fault (atLimit first first' one)

/-- If running out of levels is excused, then statements follow each other with more levels left on
the other side. -/
theorem statement_within_add (matchNames : Bool) (levels extra : Nat)
    (excuses : ∀ first, like.excused ⟨some first, .nestedTooDeeply⟩) :
    like.Within bound (Parse.statement matchNames levels)
      (Parse.statement matchNames (levels + extra)) := by
  apply statement_within (namesFollow_self matchNames) levels extra
  intro _ _ _ first first' _ _ _ _ _ _ _
  exact .excused (excuses first)

/-- As many levels as there are tokens never run out. -/
theorem statement_within_length (matchNames : Bool) (levels : Nat) :
    like.Within levels (Parse.statement matchNames levels) (Parse.statement matchNames levels) := by
  apply statement_within (namesFollow_self matchNames) levels 0
  intro fewer fits _ _ _ fewest _ short
  omega

/-! ## Whole templates -/

/-- What is known of two readings of whole templates that follow each other. -/
theorem parse_follows (options options' : CompileOptions)
    (within : like.Within bound (Parse.statement options.matchTagNames options.maxNesting)
      (Parse.statement options'.matchTagNames options'.maxNesting))
    (alike : List.Forall₂ like.token (Token.beforeEnd tokens) (Token.beforeEnd tokens'))
    (short : (Token.beforeEnd tokens).length ≤ bound) :
    (∃ template, Template.parse tokens options = .ok template ∧
        Template.parse tokens' options' = .ok template) ∨
      (∃ fault fault', like.fault fault fault' ∧
        Template.parse tokens options = .error (fault.toError (Token.endLine tokens)) ∧
        Template.parse tokens' options' = .error (fault'.toError (Token.endLine tokens'))) ∨
      ∃ fault, like.excused fault ∧
        Template.parse tokens options = .error (fault.toError (Token.endLine tokens)) := by
  have sees : like.SeesAlike fun _ => false := by
    intro _ _ _
    rfl
  have outcome := sequence_follows (within .content) sees _ _ alike short
  change like.Outcome Eq _ _ (Parse.template options (Token.beforeEnd tokens))
    (Parse.template options' (Token.beforeEnd tokens')) at outcome
  unfold Template.parse
  revert outcome
  generalize Parse.template options (Token.beforeEnd tokens) = taken
  generalize Parse.template options' (Token.beforeEnd tokens') = taken'
  intro outcome
  cases outcome with
  | @ok template template' _ _ _ _ same _ _ =>
      subst same
      exact .inl ⟨template, rfl, rfl⟩
  | @fault fault fault' related => exact .inr (.inl ⟨fault, fault', related, rfl, rfl⟩)
  | @excused fault _ isExcused => exact .inr (.inr ⟨fault, isExcused, rfl⟩)

/-- Every token equals itself, and something is known of the tokens and of the faults. -/
def self (holds : Token → Prop) (property : Fault → Prop)
    (atToken : ∀ {token : Token} {cause : ParseError.Cause}, holds token →
      cause.Structural (fun first second => first = second ∧ holds first) →
      property ⟨some token, cause⟩)
    (atEnd : ∀ what : Expectation, property ⟨none, .expected what⟩) : Likeness where
  token first second := first = second ∧ holds first
  fault first second := first = second ∧ property first
  excused _ := False
  kind_eq same := by rw [same.1]
  lexeme_eq same := by rw [same.1]
  atToken same structural := by
    rcases same with ⟨rfl, isKnown⟩
    exact ⟨rfl, atToken isKnown structural⟩
  atEnd what := ⟨rfl, atEnd what⟩

/-- What is known of the faults that may arise at tokens of which something is known, is known of
the fault at which a reading of such tokens stops. -/
theorem exists_fault_of_parse {holds : Token → Prop} {property : Fault → Prop}
    {options : CompileOptions} {error : ParseError}
    (known : ∀ token ∈ Token.beforeEnd tokens, holds token)
    (atToken : ∀ {token : Token} {cause : ParseError.Cause}, holds token →
      cause.Structural (fun first second => first = second ∧ holds first) →
      property ⟨some token, cause⟩)
    (atLimit : ∀ {token : Token}, holds token → property ⟨some token, .nestedTooDeeply⟩)
    (atEnd : ∀ what : Expectation, property ⟨none, .expected what⟩)
    (stopped : Template.parse tokens options = .error error) :
    ∃ fault : Fault, property fault ∧ error = fault.toError (Token.endLine tokens) := by
  have within : (self holds property atToken atEnd).Within (Token.beforeEnd tokens).length
      (Parse.statement options.matchTagNames options.maxNesting)
      (Parse.statement options.matchTagNames options.maxNesting) := by
    apply statement_within_self (namesFollow_self _)
    rintro first _ ⟨rfl, isKnown⟩
    exact ⟨rfl, atLimit isKnown⟩
  have same : List.Forall₂ (self holds property atToken atEnd).token (Token.beforeEnd tokens)
      (Token.beforeEnd tokens) :=
    List.forall₂_same.mpr fun token isIn => ⟨rfl, known token isIn⟩
  rcases parse_follows options options within same (Nat.le_refl _) with
    ⟨template, read, _⟩ | ⟨fault, _, isFault, failed, _⟩ | ⟨_, impossible, _⟩
  · rw [read] at stopped
    cases stopped
  · rw [failed] at stopped
    cases stopped
    exact ⟨fault, isFault.2, rfl⟩
  · exact absurd impossible not_false

end Stencil.Likeness
