import Stencil.Proofs.Cursor.Loops

/-!
# What a cursor does in forms

Every form is read by steps, looks ahead and loops that mirror those of the parser, so the readers
of forms mirror its parsers if those of the statements inside do.  The reader tries one form after
the other, where the parser decides by the first token and sometimes the second one.
-/

namespace Stencil.Cursor.Source

open Stencil.Parser
open Token (Kind)
open Parse (Position StatementParser)

variable {source : Source} {depth : Nat} {rest others : List Token} {first : Token}
variable {reader : StatementReader} {inner : StatementParser}

theorem seeEnd_body {kind : Kind} (other : kind ≠ .endMark) :
    source.SeeEnd depth [isAtEnd, check kind] (startsWith kind) := by
  intro rest
  have sees : source.Reads depth (noneOf [isAtEnd, check kind]) rest
      (.ok (!rest.isEmpty && (!startsWith kind rest && true), rest)) :=
    noneOf_cons isAtEnd_sees (noneOf_cons (check_sees other) .pure)
  rwa [Bool.and_true, ← Bool.not_or] at sees

theorem seeEnd_content {kind : Kind} (other : kind ≠ .endMark) :
    source.SeeEnd depth [check kind, isAtEnd] (startsWith kind) := by
  intro rest
  have sees : source.Reads depth (noneOf [check kind, isAtEnd]) rest
      (.ok (!startsWith kind rest && (!rest.isEmpty && true), rest)) :=
    noneOf_cons (check_sees other) (noneOf_cons isAtEnd_sees .pure)
  rwa [Bool.and_true, ← Bool.not_or, Bool.or_comm] at sees

theorem seeEnd_tag : source.SeeEnd depth [check .greater, check .selfClose, isAtEnd]
    fun tokens => startsWith .greater tokens || startsWith .selfClose tokens := by
  intro rest
  have sees : source.Reads depth (noneOf [check .greater, check .selfClose, isAtEnd]) rest
      (.ok (!startsWith .greater rest && (!startsWith .selfClose rest && (!rest.isEmpty && true)),
        rest)) :=
    noneOf_cons (check_sees (by decide)) (noneOf_cons (check_sees (by decide))
      (noneOf_cons isAtEnd_sees .pure))
  rwa [Bool.and_true, ← Bool.not_or, ← Bool.not_or, ← Bool.or_assoc, Bool.or_comm] at sees

theorem seeEnd_branch : source.SeeEnd depth [isAtEnd, check .blockClose, seeElse]
    fun tokens => startsWith .blockClose tokens || (afterElse? tokens).isSome := by
  intro rest
  have sees : source.Reads depth (noneOf [isAtEnd, check .blockClose, seeElse]) rest
      (.ok (!rest.isEmpty && (!startsWith .blockClose rest && (!(afterElse? rest).isSome && true)),
        rest)) :=
    noneOf_cons isAtEnd_sees (noneOf_cons (check_sees (by decide))
      (noneOf_cons seeElse_reads .pure))
  rwa [Bool.and_true, ← Bool.not_or, ← Bool.not_or] at sees

theorem seeEnd_template : source.SeeEnd depth [isAtEnd] fun _ => false := by
  intro rest
  have sees : source.Reads depth (noneOf [isAtEnd]) rest (.ok (!rest.isEmpty && true, rest)) :=
    noneOf_cons isAtEnd_sees .pure
  rwa [Bool.and_true, ← Bool.or_false rest.isEmpty] at sees

/-- The statements inside a form are read as a parser reads them, in every position. -/
def ServesAll (source : Source) (depth : Nat) (reader : StatementReader)
    (inner : StatementParser) : Prop :=
  ∀ position, source.Serves depth (reader position) (inner position)

theorem stringBody_follows (serves : source.ServesAll depth reader inner) :
    source.Follows depth (stringBody reader) (Parse.stringBody inner) := by
  apply (statements_follows (serves .content) (seeEnd_body (by decide))).bind
  intro body
  apply (consume_follows .quote .stringEnd).andThen
  exact .pure

theorem quotedText_follows (serves : source.ServesAll depth reader inner) :
    source.Follows depth (quotedText reader) (Parse.quotedText inner) := by
  apply (stringBody_follows serves).bind
  intro body
  have joined : joinLiterals (.literal "\"" :: body ++ [.literal "\""]) =
      Template.push (body.foldl Template.push [.literal "\""]) (.literal "\"") := by
    rw [← pushAll_eq_joinLiterals, pushAll, List.foldl_append]
    rfl
  rw [joined]
  exact .pure

theorem attributeValue_follows (serves : source.ServesAll depth reader inner) (name : String) :
    source.Follows depth (attributeValue reader name) (Parse.attributeValue inner name) := by
  apply (eat_follows .quote).bind
  intro isQuoted
  cases isQuoted with
  | true =>
      apply (stringBody_follows serves).bind
      intro body
      exact .pure
  | false =>
      apply (consume_follows .identifier .attributeValue).bind
      intro word
      exact .pure

theorem tag_follows (serves : source.ServesAll depth reader inner) :
    source.Follows depth (tag reader) (Parse.tag inner source.options.matchTagNames) := by
  apply (consume_follows .identifier .tagName).bind
  intro name
  apply (statements_follows (serves .attributes) seeEnd_tag).bind
  intro given
  apply (eat_follows .selfClose).bind
  intro isEmpty
  cases isEmpty with
  | true => exact .pure
  | false =>
      apply (consume_follows .greater .tagEnd).andThen
      apply (statements_follows (serves .content) (seeEnd_content (by decide))).bind
      intro content
      apply (consume_follows .tagClose .closingTag).andThen
      apply consume_demand_follows
      intro closing
      apply (consume_follows .greater .closingTagEnd).andThen
      exact .pure

theorem interpolation_follows : source.Follows depth interpolation Parse.interpolation := by
  apply skipSpace_follows.andThen
  apply (consume_follows .identifier .variableName).bind
  intro path
  apply skipSpace_follows.andThen
  apply (consume_follows .mustacheClose .variableEnd).andThen
  exact .pure

theorem call_follows (serves : source.ServesAll depth reader inner) :
    source.Follows depth (call reader) (Parse.call inner) := by
  apply (consume_follows .blank .callSpace).andThen
  apply (consume_follows .identifier .callName).bind
  intro name
  apply (attributes_follows (serves .attributes)).bind
  intro given
  apply (consume_follows .mustacheClose .callEnd).andThen
  exact .pure

theorem slot_follows (serves : source.ServesAll depth reader inner) :
    source.Follows depth (slot reader) (Parse.slot inner) := by
  apply (consume_follows .blank .slotSpace).andThen
  apply (consume_follows .identifier .slotName).bind
  intro name
  apply (attributes_follows (serves .attributes)).bind
  intro given
  apply (consume_follows .mustacheClose .slotOpeningEnd).andThen
  apply (statements_follows (serves .content) (seeEnd_body (by decide))).bind
  intro body
  apply (consume_follows .blockClose .slotClosing).andThen
  apply skipSpace_follows.andThen
  apply consume_demand_follows
  intro closing
  apply skipSpace_follows.andThen
  apply (consume_follows .mustacheClose .slotClosingEnd).andThen
  exact .pure

theorem each_follows (serves : source.ServesAll depth reader inner) :
    source.Follows depth (each reader) (Parse.each inner) := by
  apply (consume_follows .blank .eachSpace).andThen
  apply (consume_follows .identifier .eachCollection).bind
  intro collection
  apply (consume_follows .blank .eachSeparator).andThen
  apply (consume_follows .identifier .eachItem).bind
  intro item
  apply skipSpace_follows.andThen
  apply (consume_follows .mustacheClose .eachOpeningEnd).andThen
  apply (statements_follows (serves .content) (seeEnd_body (by decide))).bind
  intro body
  apply (consume_follows .blockClose .eachClosing).andThen
  apply skipSpace_follows.andThen
  apply (consume_follows .eachWord .eachClosingWord).andThen
  apply skipSpace_follows.andThen
  apply (consume_follows .mustacheClose .eachClosingEnd).andThen
  exact .pure

theorem conditionalEnd_follows :
    source.Follows depth conditionalEnd Parse.conditionalEnd := by
  apply (consume_follows .blockClose .ifClosing).andThen
  apply skipSpace_follows.andThen
  apply (consume_follows .ifWord .ifClosingWord).andThen
  apply skipSpace_follows.andThen
  apply (consume_follows .mustacheClose .ifClosingEnd).andThen
  exact .pure

theorem conditional_follows (serves : source.ServesAll depth reader inner) :
    source.Follows depth (conditional reader) (Parse.conditional inner) := by
  apply (consume_follows .blank .ifSpace).andThen
  apply (consume_follows .identifier .ifCondition).bind
  intro condition
  apply skipSpace_follows.andThen
  apply (consume_follows .mustacheClose .ifOpeningEnd).andThen
  apply (statements_follows (serves .content) seeEnd_branch).bind
  intro body
  apply eatElse_follows.bind
  intro hasElse
  cases hasElse with
  | true =>
      apply (statements_follows (serves .content) (seeEnd_body (by decide))).bind
      intro alternative
      apply conditionalEnd_follows.andThen
      exact .pure
  | false =>
      apply conditionalEnd_follows.andThen
      exact .pure

variable {chosen missed : Reader Statement} {outcome : Except Fault (Statement × List Token)}

/-- A form that another token begins is not chosen. -/
theorem Reads.skip {kind : Kind} {kinds : List Kind} (other : first.kind ≠ kind)
    (reads : source.Reads depth missed (first :: others) outcome) :
    source.Reads depth
      (eatSequence (kind :: kinds) >>= fun isThere => if isThere then chosen else missed)
      (first :: others) outcome := by
  have nothing : afterEach? (kind :: kinds) (first :: others) = none := by
    simp [afterEach?, take?, other]
  have missing : source.Reads depth (eatSequence (kind :: kinds)) (first :: others) _ :=
    eatSequence_reads (kind :: kinds)
  rw [nothing] at missing
  exact missing.before reads

theorem afterEach?_cons_self (kinds : List Kind) :
    afterEach? (first.kind :: kinds) (first :: others) = afterEach? kinds others := by
  simp [afterEach?, take?]

theorem afterEach?_singleton (kind : Kind) :
    afterEach? [kind] rest = (take? kind rest).map Prod.snd := by
  unfold afterEach?
  cases take? kind rest <;> rfl

theorem eatSequence_one {kind : Kind} (isKind : first.kind = kind) :
    source.Reads depth (eatSequence [kind]) (first :: others) (.ok (true, others)) := by
  subst isKind
  have eats : source.Reads depth (eatSequence [first.kind]) (first :: others) _ :=
    eatSequence_reads [first.kind]
  rw [afterEach?_cons_self] at eats
  exact eats

/-- A form that the token begins together with the next one is chosen if that is there. -/
theorem Reads.choose {kind second : Kind} {parser further : Parser Statement}
    (isKind : first.kind = kind) (follows : source.Follows depth chosen parser)
    (reads : source.Reads depth missed (first :: others) (further others)) :
    source.Reads depth
      (eatSequence [kind, second] >>= fun isThere => if isThere then chosen else missed)
      (first :: others)
      ((accept second >>= fun isThere => if isThere then parser else further) others) := by
  subst isKind
  have eats : source.Reads depth (eatSequence [first.kind, second]) (first :: others) _ :=
    eatSequence_reads [first.kind, second]
  rw [afterEach?_cons_self, afterEach?_singleton] at eats
  change source.Reads depth _ _ ((accept second others) >>= fun taken =>
    (if taken.1 then parser else further) taken.2)
  cases taken : take? second others with
  | none =>
      simp only [taken] at eats
      simp only [accept, taken]
      exact eats.before reads
  | some next =>
      simp only [taken] at eats
      simp only [accept, taken]
      exact eats.before (follows next.2)

theorem take_missing {kind : Kind} (other : first.kind ≠ kind) :
    source.Reads depth (take kind) (first :: others) (.ok (none, first :: others)) := by
  have missing : startsWith kind (first :: others) = false := by simpa using other
  exact peek_reads.before ((eat_missing missing).before .pure)

theorem take_there :
    source.Reads depth (take first.kind) (first :: others) (.ok (some first.lexeme, others)) :=
  peek_reads.before (eat_there.before .pure)

theorem attributeName_missing {position : Position} (other : first.kind ≠ .identifier) :
    source.Reads depth (attributeName position) (first :: others)
      (.ok (none, first :: others)) := by
  cases position with
  | content => exact .pure
  | attributes => exact attempt_reads ((take_missing other).before .pure)

/-- A word in a tag or a call is the name of an attribute if an equals sign follows. -/
theorem attributeName_reads (isName : first.kind = .identifier) :
    source.Reads depth (attributeName .attributes) (first :: others)
      (match take? .equal others with
        | some taken => .ok (some first.lexeme, taken.2)
        | none => .ok (none, first :: others)) := by
  have takes : source.Reads depth (take .identifier) (first :: others)
      (.ok (some first.lexeme, others)) := isName ▸ take_there
  have eats : source.Reads depth (eat .equal) others (accept .equal others) :=
    eat_follows .equal others
  cases taken : take? .equal others with
  | none =>
      simp only [accept, taken] at eats
      exact attempt_reads (takes.before (eats.before .pure))
  | some next =>
      simp only [accept, taken] at eats
      exact attempt_reads (takes.before (eats.before .pure))

/-! ## Statements -/

/-- The parser of the forms that one token begins. -/
def plain (matchNames : Bool) (inner : StatementParser) (first : Token) : Parser Statement :=
  match first.kind with
  | .less => Parse.tag inner matchNames
  | .quote => Parse.quotedText inner
  | .mustacheOpen => Parse.interpolation
  | .blockOpen => stopAt first .unknownBlock
  | .blockClose => stopAt first .strayClosing
  | _ => pure (.literal first.lexeme)

theorem check_cons (kind : Kind) :
    source.Reads depth (check kind) (first :: others)
      (.ok (decide (first.kind = kind), first :: others)) :=
  check_reads kind

theorem plainForm_reads (serves : source.ServesAll depth reader inner) :
    source.Reads depth (plainForm reader) (first :: others)
      (plain source.options.matchTagNames inner first others) := by
  unfold plainForm plain
  cases isKind : first.kind with
  | less => exact (eatSequence_one isKind).before (tag_follows serves others)
  | quote =>
      apply Reads.skip (by simp [isKind])
      exact (eatSequence_one isKind).before (quotedText_follows serves others)
  | mustacheOpen =>
      apply Reads.skip (by simp [isKind])
      apply Reads.skip (by simp [isKind])
      exact (eatSequence_one isKind).before (interpolation_follows others)
  | blockOpen =>
      apply Reads.skip (by simp [isKind])
      apply Reads.skip (by simp [isKind])
      apply Reads.skip (by simp [isKind])
      apply (check_cons .blockOpen).before
      rw [isKind]
      exact stopHere_reads .unknownBlock
  | blockClose =>
      apply Reads.skip (by simp [isKind])
      apply Reads.skip (by simp [isKind])
      apply Reads.skip (by simp [isKind])
      apply (check_cons .blockOpen).before
      rw [isKind]
      apply (check_cons .blockClose).before
      rw [isKind]
      exact stopHere_reads .strayClosing
  | _ =>
      apply Reads.skip (by simp [isKind])
      apply Reads.skip (by simp [isKind])
      apply Reads.skip (by simp [isKind])
      apply (check_cons .blockOpen).before
      rw [isKind]
      apply (check_cons .blockClose).before
      rw [isKind]
      exact advance_reads.before .pure

theorem attributeOrPlainForm_of_other (serves : source.ServesAll depth reader inner)
    (other : first.kind ≠ .identifier) (position : Position) :
    source.Reads depth (attributeOrPlainForm reader position) (first :: others)
      (plain source.options.matchTagNames inner first others) :=
  (attributeName_missing other).before (plainForm_reads serves)

theorem attributeOrPlainForm_of_name (serves : source.ServesAll depth reader inner)
    (isName : first.kind = .identifier) (position : Position) :
    source.Reads depth (attributeOrPlainForm reader position) (first :: others)
      (Parse.form source.options.matchTagNames inner position first others) := by
  have text : source.Reads depth (plainForm reader) (first :: others)
      (.ok (.literal first.lexeme, others)) := by
    have plainly : source.Reads depth (plainForm reader) (first :: others) _ :=
      plainForm_reads serves
    simp only [plain, isName] at plainly
    exact plainly
  simp only [Parse.form, isName]
  cases position with
  | content => exact Reads.before .pure text
  | attributes =>
      have names : source.Reads depth (attributeName .attributes) (first :: others) _ :=
        attributeName_reads isName
      change source.Reads depth (attributeOrPlainForm reader .attributes) (first :: others)
        (accept .equal others >>= fun taken =>
          (if taken.1 then Parse.attributeValue inner first.lexeme >>= fun given =>
            pure (Statement.assignment given) else pure (Statement.literal first.lexeme)) taken.2)
      cases taken : take? .equal others with
      | none =>
          simp only [accept, taken] at names ⊢
          exact names.before text
      | some next =>
          simp only [accept, taken] at names ⊢
          have assigns : source.Follows depth
              (attributeValue reader first.lexeme >>= fun given => pure (.assignment given))
              (Parse.attributeValue inner first.lexeme >>= fun given =>
                pure (Statement.assignment given)) :=
            (attributeValue_follows serves first.lexeme).bind fun _ => .pure
          exact names.before (assigns next.2)

/-- What does not open a block or an interpolation is of none of the forms that two tokens begin. -/
theorem form_of_other {position : Position} (notBlock : first.kind ≠ .blockOpen)
    (notMustache : first.kind ≠ .mustacheOpen)
    (reads : source.Reads depth (attributeOrPlainForm reader position) (first :: others) outcome) :
    source.Reads depth (form reader position) (first :: others) outcome :=
  .skip notBlock (.skip notBlock (.skip notBlock (.skip notMustache reads)))

theorem form_reads (serves : source.ServesAll depth reader inner) (position : Position) :
    source.Reads depth (form reader position) (first :: others)
      (Parse.form source.options.matchTagNames inner position first others) := by
  have unnamed : first.kind ≠ .identifier → source.Reads depth
      (attributeOrPlainForm reader position) (first :: others)
      (plain source.options.matchTagNames inner first others) :=
    fun other => attributeOrPlainForm_of_other serves other position
  cases isKind : first.kind with
  | blockOpen =>
      unfold form
      simp only [Parse.form, isKind]
      apply Reads.choose isKind (slot_follows serves)
      apply Reads.choose isKind (each_follows serves)
      apply Reads.choose isKind (conditional_follows serves)
      apply Reads.skip (by simp [isKind])
      simpa only [plain, isKind] using unnamed (by simp [isKind])
  | mustacheOpen =>
      unfold form
      simp only [Parse.form, isKind]
      apply Reads.skip (by simp [isKind])
      apply Reads.skip (by simp [isKind])
      apply Reads.skip (by simp [isKind])
      apply Reads.choose isKind (call_follows serves)
      simpa only [plain, isKind] using unnamed (by simp [isKind])
  | identifier =>
      apply form_of_other (by simp [isKind]) (by simp [isKind])
      exact attributeOrPlainForm_of_name serves isKind position
  | _ =>
      apply form_of_other (by simp [isKind]) (by simp [isKind])
      simp only [Parse.form, isKind]
      simpa only [plain, isKind] using unnamed (by simp [isKind])

end Stencil.Cursor.Source
