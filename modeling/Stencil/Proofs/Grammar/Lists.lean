import Stencil.Proofs.Grammar.Steps

/-!
# Reading a template is deriving it

A reader of statements and the grammar are tied together level by level.  Suppose that the
statements one level below are read exactly as the grammar derives them.  Then so are lists of
them, because no statement begins with a token that ends its list; so are the attributes of a call;
and so is every construct that holds such lists.
-/

namespace Stencil.Grammar

open Token (Kind)
open Parse (Position StatementParser)
open Stencil.Parser

variable {matchNames : Bool} {levels : Nat} {inner : StatementParser}

theorem hasKinds_cons {kind : Kind} {kinds : List Kind} {tokens : List Token} :
    HasKinds (kind :: kinds) tokens ↔
      ∃ token rest, tokens = token :: rest ∧ token.kind = kind ∧ HasKinds kinds rest := by
  simp only [HasKinds, List.map_eq_cons_iff]

theorem hasKinds_nil {tokens : List Token} : HasKinds [] tokens ↔ tokens = [] := by
  simp [HasKinds]

theorem HasKinds.three {one two three : Kind} {tokens : List Token}
    (has : HasKinds [one, two, three] tokens) :
    ∃ first second third, tokens = [first, second, third] ∧ first.kind = one ∧ second.kind = two ∧
      third.kind = three := by
  simp only [hasKinds_cons, hasKinds_nil] at has
  rcases has with ⟨first, _, rfl, isOne, second, _, rfl, isTwo, third, _, rfl, isThree, rfl⟩
  exact ⟨first, second, third, rfl, isOne, isTwo, isThree⟩

/-- The second token that counts after two opening braces is not the word of the mark between two
branches. -/
def NotElse (following : List Token) : Prop :=
  ∃ space word more, following = space ++ word :: more ∧ IsSpace space ∧
    word.kind.isSpace = false ∧ word.kind ≠ .elseWord

theorem Derives.begins {position : Position} {read : Statement} {tokens : List Token}
    (derived : Derives matchNames levels (.statement position read) tokens) :
    ∃ first front, tokens = first :: front ∧ first.kind ≠ .blockClose ∧
      (first.kind = .mustacheOpen → NotElse front) := by
  cases derived with
  | literal other =>
      refine ⟨_, _, rfl, ?_, ?_⟩
      · intro closes
        simp [closes, reserved] at other
      · intro opens
        simp [opens, reserved] at other
  | interpolation enclosed =>
      rcases enclosed with ⟨opened, space, named, closed⟩
      refine ⟨_, _, rfl, by simp [opened], ?_⟩
      intro _
      exact ⟨_, _, _, rfl, space, by simp [named, Kind.isSpace], by simp [named]⟩
  | assignment derived =>
      cases derived with
      | bare named => exact ⟨_, _, rfl, by simp [named], by simp [named]⟩
      | quotedValue named => exact ⟨_, _, rfl, by simp [named], by simp [named]⟩
  | quoted opened => exact ⟨_, _, rfl, by simp [opened], by simp [opened]⟩
  | call opened =>
      rcases opened.three with ⟨first, second, third, rfl, opens, greater, _⟩
      refine ⟨_, _, rfl, by simp [opens], ?_⟩
      intro _
      exact ⟨[], second, _, rfl, by simp [IsSpace], by simp [greater, Kind.isSpace],
        by simp [greater]⟩
  | emptyTag opened | tag opened => exact ⟨_, _, rfl, by simp [opened], by simp [opened]⟩
  | ifThen opened | ifThenElse opened | each opened | slot opened =>
      rw [hasKinds_cons] at opened
      rcases opened with ⟨first, front, rfl, opens, _⟩
      exact ⟨_, _, rfl, by simp [opens], by simp [opens]⟩

theorem Apart.of_append {position : Position} {statement back rest : List Token}
    (apart : Apart position statement (back ++ rest)) : Apart position statement back := by
  intro inTag word alone named next member
  apply apart inTag word alone named next
  rw [List.head?_append, Option.mem_def.mp member]
  rfl

theorem Apart.append {position : Position} {statement back rest : List Token}
    (apart : Apart position statement back)
    (ended : position = .attributes → ∀ next ∈ rest.head?, next.kind ≠ .equal) :
    Apart position statement (back ++ rest) := by
  intro inTag word alone named next member
  cases back with
  | nil => exact ended inTag next member
  | cons first others => exact apart inTag word alone named next member

theorem apart_of_kind_ne {position : Position} {first : Token} {front following : List Token}
    (other : first.kind ≠ .identifier) : Apart position (first :: front) following := by
  intro _ word alone named
  cases alone
  exact absurd named other

theorem Derives.list_nil {place : Place} {read : List Statement}
    (derived : Derives matchNames levels (.list place read) []) : read = [] := by
  cases derived
  rfl

/-- The reader takes exactly the statements that the grammar derives with the given number of
levels, and any tokens may follow that stand apart from the statement. -/
def Reads (matchNames : Bool) (levels : Nat) (inner : StatementParser) : Prop :=
  ∀ position first tokens read rest,
    inner position first tokens = .ok (read, rest) ↔
      ∃ front, tokens = front ++ rest ∧
        Derives matchNames levels (.statement position read) (first :: front) ∧
        Apart position (first :: front) rest

/-- A look at the tokens ahead that ends the lists of a place, and only them. -/
structure Stops (place : Place) (position : Position) (stop : List Token → Bool) : Prop where
  position_eq : place.position = position
  /-- A list goes on only where none of its ends stands. -/
  goesOn : ∀ {first : Token} {rest : List Token},
    stop (first :: rest) = false → first.kind ∉ place.ends
  /-- A statement of the list is no end. -/
  stands : ∀ {matchNames : Bool} {levels : Nat} {read : Statement} {first : Token}
    {front rest : List Token},
    first.kind ∉ place.ends →
    Derives matchNames levels (.statement position read) (first :: front) →
    stop (first :: (front ++ rest)) = false
  /-- An end is no equals sign where attributes are read. -/
  apart : ∀ {rest : List Token}, position = .attributes → stop rest = true →
    ∀ next ∈ rest.head?, next.kind ≠ .equal

/-- Every statement takes a token, so a bound of one statement for each token is enough. -/
theorem statementsUpTo_eq_ok {place : Place} {position : Position} {stop : List Token → Bool}
    (reads : Reads matchNames levels inner) (stops : Stops place position stop) {bound : Nat}
    {tokens rest : List Token} {read : List Statement} (enough : tokens.length ≤ bound) :
    statementsUpTo stop (inner position) bound tokens = .ok (read, rest) ↔
      ∃ front, tokens = front ++ rest ∧ Derives matchNames levels (.list place read) front ∧
        (rest = [] ∨ stop rest = true) := by
  have atEnd : ∀ bound read, statementsUpTo stop (inner position) bound [] = .ok (read, rest) ↔
      ∃ front, [] = front ++ rest ∧ Derives matchNames levels (.list place read) front ∧
        (rest = [] ∨ stop rest = true) := by
    intro bound read
    rw [statementsUpTo_nil]
    constructor
    · intro ended
      cases ended
      exact ⟨[], rfl, .nil, .inl rfl⟩
    · intro ⟨front, split, derived, _⟩
      rcases List.append_eq_nil_iff.mp split.symm with ⟨rfl, rfl⟩
      rw [derived.list_nil]
  -- On the bound, since what is left after a statement is no part of the tokens at hand.
  induction bound generalizing tokens read with
  | zero =>
      obtain rfl := List.length_eq_zero_iff.mp (Nat.le_zero.mp enough)
      exact atEnd 0 read
  | succ bound ih =>
      cases tokens with
      | nil => exact atEnd (bound + 1) read
      | cons first others =>
          rw [statementsUpTo_cons_eq_ok]
          constructor
          · intro assumed
            rcases assumed with ⟨ended, rfl, rfl⟩ | ⟨goesOn, one, more, middle, taken, others, rfl⟩
            · exact ⟨[], rfl, .nil, .inr ended⟩
            · rcases (reads ..).mp taken with ⟨front, rfl, derived, apart⟩
              have shorter : middle.length ≤ bound := by
                simp only [List.length_cons, List.length_append] at enough
                omega
              rcases (ih shorter).mp others with ⟨back, rfl, derivedMore, ended⟩
              have derivedAll : Derives matchNames levels (.list place (one :: more))
                  (first :: front ++ back) := by
                refine .cons (stops.goesOn goesOn) ?_ ?_ derivedMore
                · rw [stops.position_eq]
                  exact derived
                · rw [stops.position_eq]
                  exact apart.of_append
              exact ⟨first :: front ++ back, by simp, derivedAll, ended⟩
          · intro ⟨front, split, derived, ended⟩
            cases derived with
            | nil =>
                rw [List.nil_append] at split
                rw [← split] at ended ⊢
                exact .inl ⟨by simpa using ended, rfl, rfl⟩
            | @cons _ _ one more start front back notEnd derivedOne apart derivedMore =>
                rw [stops.position_eq] at derivedOne apart
                simp only [List.cons_append, List.append_assoc, List.cons.injEq] at split
                rcases split with ⟨rfl, rfl⟩
                have apartAll : Apart position (first :: front) (back ++ rest) := by
                  apply apart.append
                  intro inTag
                  rcases ended with rfl | ended
                  · simp
                  · exact stops.apart inTag ended
                have shorter : (back ++ rest).length ≤ bound := by
                  simp only [List.length_cons, List.length_append] at enough ⊢
                  omega
                refine .inr ⟨stops.stands notEnd derivedOne, one, more, back ++ rest, ?_, ?_, rfl⟩
                · exact (reads ..).mpr ⟨front, rfl, derivedOne, apartAll⟩
                · exact (ih shorter).mpr ⟨back, rfl, derivedMore, ended⟩

theorem sequence_bind_eq_ok {β : Type} {place : Place} {position : Position}
    {stop : List Token → Bool} (reads : Reads matchNames levels inner)
    (stops : Stops place position stop) {next : List Statement → Parser β}
    {tokens : List Token} {outcome : β × List Token} :
    (sequence stop (inner position) >>= next) tokens = .ok outcome ↔
      ∃ read front rest, tokens = front ++ rest ∧
        Derives matchNames levels (.list place read) front ∧
        (rest = [] ∨ stop rest = true) ∧ next (joinLiterals read) rest = .ok outcome := by
  have unfolded : (sequence stop (inner position) >>= next) tokens =
      (statementsUpTo stop (inner position) tokens.length >>= fun read => next (joinLiterals read))
        tokens := by
    change ((statementsUpTo stop (inner position) tokens.length >>=
      fun read => pure (joinLiterals read)) >>= next) tokens = _
    rw [bind_assoc]
    rfl
  rw [unfolded, bind_eq_ok]
  simp only [statementsUpTo_eq_ok reads stops (Nat.le_refl _)]
  constructor
  · intro ⟨read, rest, ⟨front, split, derived, ended⟩, goesOn⟩
    exact ⟨read, front, rest, split, derived, ended, goesOn⟩
  · intro ⟨read, front, rest, split, derived, ended, goesOn⟩
    exact ⟨read, rest, ⟨front, split, derived, ended⟩, goesOn⟩

theorem afterElse?_eq_none {first : Token} {front rest : List Token}
    (notElse : first.kind = .mustacheOpen → NotElse front) :
    afterElse? (first :: (front ++ rest)) = none := by
  by_cases opens : first.kind = .mustacheOpen
  · rcases notElse opens with ⟨space, word, more, rfl, isSpace, notSpace, notWord⟩
    have dropped : dropSpace (space ++ word :: (more ++ rest)) = word :: (more ++ rest) :=
      dropSpace_append isSpace notSpace
    simp [afterElse?, take?, opens, dropped, notWord]
  · simp [afterElse?, take?, opens]

theorem stops_template : Stops .text .content fun _ => false where
  position_eq := rfl
  goesOn _ := by simp [Place.ends]
  stands _ _ := rfl
  apart := by simp

theorem stops_block : Stops .text .content (startsWith .blockClose) where
  position_eq := rfl
  goesOn _ := by simp [Place.ends]
  stands _ derived := by
    rcases derived.begins with ⟨_, _, same, notClose, _⟩
    cases same
    simpa using notClose
  apart := by simp

/-- The first branch of a conditional may also end at the mark between the branches. -/
theorem stops_branch :
    Stops .text .content
      fun tokens => startsWith .blockClose tokens || (afterElse? tokens).isSome where
  position_eq := rfl
  goesOn _ := by simp [Place.ends]
  stands _ derived := by
    rcases derived.begins with ⟨first, front, same, notClose, notElse⟩
    cases same
    rw [startsWith_cons, decide_eq_false notClose, Bool.false_or, afterElse?_eq_none notElse]
    rfl
  apart := by simp

theorem stops_quotes : Stops .quotes .content (startsWith .quote) where
  position_eq := rfl
  goesOn := by simp [Place.ends]
  stands notEnd _ := by simpa [Place.ends] using notEnd
  apart := by simp

theorem stops_content : Stops .content .content (startsWith .tagClose) where
  position_eq := rfl
  goesOn := by simp [Place.ends]
  stands notEnd _ := by simpa [Place.ends] using notEnd
  apart := by simp

theorem stops_opening :
    Stops .opening .attributes
      fun tokens => startsWith .greater tokens || startsWith .selfClose tokens where
  position_eq := rfl
  goesOn := by simp [Place.ends]
  stands notEnd _ := by simpa [Place.ends] using notEnd
  apart _ ended := by
    simp only [Bool.or_eq_true, startsWith_eq_true] at ended
    rcases ended with ⟨token, others, rfl, kind⟩ | ⟨token, others, rfl, kind⟩
    · simp [kind]
    · simp [kind]

/-! ## The attributes of a call -/

theorem Derives.arguments_ends {given : List Attribute} {tokens : List Token}
    (derived : Derives matchNames levels (.arguments given) tokens) :
    ∃ front brace, tokens = front ++ [brace] ∧ brace.kind = .mustacheClose := by
  induction given generalizing tokens with
  | nil =>
      cases derived with
      | argumentsEnd closes =>
          rcases closes with ⟨_, closed⟩
          exact ⟨_, _, rfl, closed⟩
  | cons given more ih =>
      cases derived with
      | @argumentsCons _ _ _ space front back _ _ derivedMore =>
          rcases ih derivedMore with ⟨middle, brace, rfl, closed⟩
          exact ⟨space ++ front ++ middle, brace, by simp, closed⟩

theorem Derives.attribute_begins {given : Attribute} {tokens : List Token}
    (derived : Derives matchNames levels (.attribute given) tokens) :
    ∃ name sign rest, tokens = name :: sign :: rest ∧ name.kind = .identifier := by
  cases derived with
  | bare named => exact ⟨_, _, _, rfl, named⟩
  | quotedValue named => exact ⟨_, _, _, rfl, named⟩

theorem attributesUpTo_eq_ok (reads : Reads matchNames levels inner) {bound : Nat}
    {tokens rest : List Token} {brace : Token} {given : List Attribute}
    (enough : tokens.length ≤ bound) (closed : brace.kind = .mustacheClose) :
    attributesUpTo (inner .attributes) bound tokens = .ok (given, brace :: rest) ↔
      ∃ front, tokens = front ++ brace :: rest ∧
        Derives matchNames levels (.arguments given) (front ++ [brace]) := by
  induction bound generalizing tokens given with
  | zero =>
      obtain rfl := List.length_eq_zero_iff.mp (Nat.le_zero.mp enough)
      constructor
      · intro ended
        cases ended
      · intro ⟨front, split, _⟩
        simp at split
  | succ bound ih =>
      rw [attributesUpTo_succ_eq_ok]
      constructor
      · rcases exists_dropSpace tokens with ⟨space, split, isSpace⟩
        intro assumed
        rcases assumed with ⟨_, rfl, atBrace⟩ | ⟨first, others, one, more, middle, dropped, _,
          taken, readMore, rfl⟩
        · rw [← atBrace] at split
          exact ⟨space, split, .argumentsEnd (.intro isSpace closed)⟩
        · rcases (reads ..).mp taken with ⟨front, rfl, derived, _⟩
          rw [dropped] at split
          have shorter : middle.length ≤ bound := by
            rw [split] at enough
            simp only [List.length_cons, List.length_append] at enough
            omega
          rcases (ih shorter).mp readMore with ⟨back, rfl, derivedMore⟩
          cases derived with
          | assignment derivedOne =>
              have derivedAll := Derives.argumentsCons isSpace derivedOne derivedMore
              refine ⟨space ++ (first :: front) ++ back, by simp [split], ?_⟩
              simpa using derivedAll
      · intro assumed
        rcases assumed with ⟨front, rfl, derived⟩
        generalize whole : front ++ [brace] = taken at derived
        cases derived with
        | argumentsEnd closes =>
            rcases closes with ⟨isSpace, _⟩
            rcases List.append_singleton_inj.mp whole with ⟨rfl, rfl⟩
            have dropped : dropSpace (_ ++ brace :: rest) = brace :: rest :=
              dropSpace_append isSpace (by rw [closed]; rfl)
            exact .inl ⟨by simp [dropped, closed], rfl, dropped.symm⟩
        | @argumentsCons _ one more space part back isSpace derivedOne derivedMore =>
            rcases derivedMore.arguments_ends with ⟨middle, last, rfl, _⟩
            rcases derivedOne.attribute_begins with ⟨name, sign, others, rfl, named⟩
            rw [← List.append_assoc] at whole
            rcases List.append_singleton_inj.mp whole with ⟨rfl, rfl⟩
            have dropped :
                dropSpace (space ++ name :: (sign :: others ++ middle ++ brace :: rest)) =
                name :: (sign :: others ++ middle ++ brace :: rest) :=
              dropSpace_append isSpace (by rw [named]; rfl)
            have split : space ++ name :: sign :: others ++ middle ++ brace :: rest =
                space ++ name :: (sign :: others ++ middle ++ brace :: rest) := by simp
            have shorter : (middle ++ brace :: rest).length ≤ bound := by
              simp only [List.length_cons, List.length_append] at enough ⊢
              omega
            rw [split, dropped]
            refine .inr
              ⟨name, _, one, more, middle ++ brace :: rest, rfl, by simp [named], ?_, ?_, rfl⟩
            · refine (reads ..).mpr ⟨sign :: others, by simp, .assignment derivedOne, ?_⟩
              intro _ word alone
              cases alone
            · exact (ih shorter).mpr ⟨middle, rfl, derivedMore⟩

theorem attributes_bind_eq_ok {β : Type} (reads : Reads matchNames levels inner)
    {what : Expectation} {next : List Attribute → Parser β} {tokens : List Token}
    {outcome : β × List Token} :
    (attributes (inner .attributes) >>= fun given => expect .mustacheClose what >>= fun _ =>
        next given) tokens = .ok outcome ↔
      ∃ given front rest, tokens = front ++ rest ∧
        Derives matchNames levels (.arguments given) front ∧ next given rest = .ok outcome := by
  have unfolded : (attributes (inner .attributes) >>= fun given =>
        expect .mustacheClose what >>= fun _ => next given) tokens =
      (attributesUpTo (inner .attributes) tokens.length >>= fun given =>
        expect .mustacheClose what >>= fun _ => next given) tokens := rfl
  rw [unfolded, bind_eq_ok]
  simp only [expect_bind_eq_ok]
  constructor
  · intro assumed
    rcases assumed with ⟨given, _, read, brace, rest, rfl, closed, goesOn⟩
    rcases (attributesUpTo_eq_ok reads (Nat.le_refl _) closed).mp read with ⟨front, split, derived⟩
    exact ⟨given, front ++ [brace], rest, by simp [split], derived, goesOn⟩
  · intro assumed
    rcases assumed with ⟨given, taken, rest, rfl, derived, goesOn⟩
    rcases derived.arguments_ends with ⟨front, brace, rfl, closed⟩
    refine ⟨given, brace :: rest, ?_, brace, rest, rfl, closed, goesOn⟩
    exact (attributesUpTo_eq_ok reads (Nat.le_refl _) closed).mpr ⟨front, by simp, derived⟩

end Stencil.Grammar
