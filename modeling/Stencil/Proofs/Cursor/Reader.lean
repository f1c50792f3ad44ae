import Stencil.Proofs.Render.TextRuns
import Stencil.Template.Parse

/-!
# Reading with a cursor

A reader need not take tokens off a list.  It can leave the list as it is and move a cursor over
it, count in how many statements it is, and look ahead by going on and then putting the cursor back.
The list is completed with a mark for the end of the source, which the cursor is not to pass.

Nothing in the readers below keeps them in bounds but the tests they make on their way.  They break
where they would look at a token that is not there, leave a statement they are not in, or go round a
loop more often than there are tokens.  On their way they keep a record of their steps, from which
one can see how each step left the cursor and the count: every look at a token, every move of the
cursor, forth or back, and every statement is part of a step in the record.
-/

namespace Stencil

/-- The tokens, with a mark for the end of the source on the last line unless they end with one. -/
def Token.completed (tokens : List Token) : List Token :=
  match tokens.getLast? with
  | none => [Token.atEnd 1]
  | some last =>
    if last.kind = .endMark then tokens else tokens ++ [Token.atEnd last.line]

/-- The place of the first mark for the end of the source. -/
def Token.endPlace (tokens : List Token) : Nat :=
  tokens.findIdx fun token => token.kind == .endMark

namespace Cursor

open Token (Kind)
open Parse (Position)

/-- Where a reader is: before which token, and in how many statements. -/
structure Place where
  cursor : Nat
  depth : Nat
  deriving DecidableEq, Repr

/-- What a reader does. -/
inductive Step where
  /-- Look at the token at the cursor. -/
  | look
  /-- Look at the token before the cursor. -/
  | lookBack
  /-- Move over a token of the given kind if one is there. -/
  | eat (kind : Kind)
  /-- Move over any token. -/
  | advance
  /-- Try some steps, and come back if they fail. -/
  | attempt
  /-- Try to move over tokens of the given kinds. -/
  | eatSequence (kinds : List Kind)
  /-- Try to move over the mark between the branches of a conditional. -/
  | eatElse
  /-- See whether that mark is there. -/
  | seeElse
  /-- Move over a token of the given kind, or stop. -/
  | consume (kind : Kind)
  /-- Read a statement. -/
  | statement (position : Position)
  deriving DecidableEq, Repr

/-- A step with the places it began and ended at, and whether it found what it was for. -/
structure Record where
  step : Step
  before : Place
  after : Place
  succeeded : Bool
  deriving DecidableEq, Repr

/-- Where a reader is, and what it did on the way. -/
structure State extends Place where
  records : List Record
  deriving DecidableEq, Repr

def start : State :=
  ⟨⟨0, 0⟩, []⟩

/-- The tokens to read, and how. -/
structure Input where
  tokens : List Token
  options : CompileOptions

/-- A computation that moves the cursor.  It yields a value, stops with an error, or breaks. -/
def Reader (α : Type) : Type :=
  Input → State → Option (Except ParseError α × State)

variable {α : Type}

instance : Monad Reader where
  pure value := fun _ state => some (.ok value, state)
  bind reader next := fun input state =>
    match reader input state with
    | none => none
    | some (.error error, after) => some (.error error, after)
    | some (.ok value, after) => next value input after

/-- A loop that goes on for too long. -/
def broken : Reader α :=
  fun _ _ => none

def stop (error : ParseError) : Reader α :=
  fun _ state => some (.error error, state)

def getInput : Reader Input :=
  fun input state => some (.ok input, state)

def getState : Reader State :=
  fun _ state => some (.ok state, state)

/-- How often a loop may go round. -/
def rounds : Reader Nat := do
  return (← getInput).tokens.length

def moveTo (cursor : Nat) : Reader Unit :=
  fun _ state => some (.ok (), { state with cursor })

/-- The token at a place, which has to be there. -/
def tokenAt (place : Nat) : Reader Token := fun input state => do
  let token ← input.tokens[place]?
  return (.ok token, state)

/-- Whether a step found what it was for: it does not if it stops. -/
def isFound (found : α → Bool) : Except ParseError α → Bool
  | .ok value => found value
  | .error _ => false

/-- Keep a record of a step, also if it stops. -/
def recorded (step : Step) (found : α → Bool) (reader : Reader α) : Reader α :=
  fun input state => do
    let (outcome, after) ← reader input state
    let record := ⟨step, state.toPlace, after.toPlace, isFound found outcome⟩
    return (outcome, { after with records := after.records ++ [record] })

/-- Read something inside a statement, and leave the statement however the reading ends. -/
def inside (reader : Reader α) : Reader α := fun input state => do
  let (outcome, after) ← reader input { state with depth := state.depth + 1 }
  -- A count of zero could not be taken back.
  if after.depth = 0 then
    none
  else
    return (outcome, { after with depth := after.depth - 1 })

/-- The token at the cursor, or the last token if the cursor is behind it. -/
def peek : Reader Token := recorded .look (fun _ => true) do
  let last := (← getInput).tokens.length - 1
  tokenAt (min (← getState).cursor last)

/-- The token before the cursor, or the first one if the cursor is at it. -/
def previous : Reader Token := recorded .lookBack (fun _ => true) do
  tokenAt ((← getState).cursor - 1)

def moveOn : Reader Unit := do
  moveTo ((← getState).cursor + 1)

def check (kind : Kind) : Reader Bool := do
  return (← peek).kind = kind

def isAtEnd : Reader Bool :=
  check .endMark

/-- Move over a token of the given kind, which has to be another than the mark for the end, and say
whether one was there. -/
def eat (kind : Kind) : Reader Bool := recorded (.eat kind) id do
  if kind = .endMark then
    return false
  else if ← check kind then
    moveOn
    return true
  else
    return false

/-- Move over a token of the given kind, and give its text. -/
def take (kind : Kind) : Reader (Option String) := do
  let text := (← peek).lexeme
  if ← eat kind then
    return some text
  else
    return none

/-- Move over the next token unless it is the mark for the end. -/
def advance : Reader Token := recorded .advance (fun _ => true) do
  if ← isAtEnd then
    previous
  else
    moveOn
    previous

def errorAt (token : Token) (cause : ParseError.Cause) : ParseError :=
  ⟨token.line, if token.kind = .endMark then .sourceEnd else .token token.lexeme, cause⟩

/-- Stop at the token at the cursor. -/
def stopHere (cause : ParseError.Cause) : Reader α := do
  stop (errorAt (← peek) cause)

/-- Stop at the token before the cursor. -/
def stopBehind (cause : ParseError.Cause) : Reader α := do
  stop (errorAt (← previous) cause)

/-- Go on only if a condition holds, else stop at the token before the cursor. -/
def demand (condition : Bool) (cause : ParseError.Cause) : Reader Unit :=
  if condition then pure () else stopBehind cause

/-- Move over a token of the given kind, or stop at the token that is there instead. -/
def consume (kind : Kind) (what : Expectation) : Reader Token :=
  recorded (.consume kind) (fun _ => true) do
    if ← eat kind then
      previous
    else
      stopHere (.expected what)

/-- Put the cursor back if nothing was found. -/
def orBack (checkpoint : Nat) : Option α → Reader (Option α)
  | some value => return some value
  | none => do
    moveTo checkpoint
    return none

/-- Try some steps.  If they fail in the end, the cursor is put back to where they began. -/
def attempt (reader : Reader (Option α)) : Reader (Option α) :=
  recorded .attempt Option.isSome do
    let checkpoint := (← getState).cursor
    let found ← reader
    orBack checkpoint found

/-- Move over tokens of the given kinds as far as they are there; fail unless all are. -/
def eatEach : List Kind → Reader (Option Unit)
  | [] => return some ()
  | kind :: kinds => do
    if ← eat kind then
      eatEach kinds
    else
      return none

/-- Move over tokens of the given kinds if all are there. -/
def eatSequence (kinds : List Kind) : Reader Bool := recorded (.eatSequence kinds) id do
  let found ← attempt (eatEach kinds)
  return found.isSome

def skipSpaceWithin : Nat → Reader Unit
  | 0 => broken
  | bound + 1 => do
    if ← eat .blank then
      skipSpaceWithin bound
    else if ← eat .newline then
      skipSpaceWithin bound
    else
      return ()

def skipSpace : Reader Unit := do
  skipSpaceWithin (← rounds)

/-- Move over the mark between the branches of a conditional if it is there. -/
def eatElse : Reader Bool := recorded .eatElse id do
  let found ← attempt do
    if ← eat .mustacheOpen then
      skipSpace
      if ← eat .elseWord then
        skipSpace
        if ← eat .mustacheClose then
          return some ()
        else
          return none
      else
        return none
    else
      return none
  return found.isSome

/-- Whether the mark between the branches of a conditional is there. -/
def seeElse : Reader Bool := recorded .seeElse (fun _ => true) do
  let checkpoint := (← getState).cursor
  let found ← eatElse
  moveTo checkpoint
  return found

/-- Whether no look finds what it is for.  They are made in turn up to the first that does. -/
def noneOf : List (Reader Bool) → Reader Bool
  | [] => return true
  | look :: looks => do
    if ← look then
      return false
    else
      noneOf looks

/-- Read statements while no look finds what it is for, each put behind those before it. -/
def statementsWithin (ends : List (Reader Bool)) (statement : Reader Statement) :
    Nat → List Statement → Reader (List Statement)
  | 0, _ => broken
  | bound + 1, read => do
    if ← noneOf ends then
      let one ← statement
      statementsWithin ends statement bound (Template.push read one)
    else
      return read

/-- Read a list of statements up to where a look finds what it is for. -/
def statements (ends : List (Reader Bool)) (statement : Reader Statement) :
    Reader (List Statement) := do
  statementsWithin ends statement (← rounds) []

/-- Read a statement that has to be an attribute, or stop at its last token. -/
def assignment (statement : Reader Statement) : Reader Attribute := do
  match ← statement with
  | .assignment one => return one
  | _ => stopBehind (.expected .argument)

/-- Read attributes with space around them, each put behind those before it. -/
def attributesWithin (statement : Reader Statement) :
    Nat → List Attribute → Reader (List Attribute)
  | 0, _ => broken
  | bound + 1, given => do
    skipSpace
    if ← noneOf [check .mustacheClose, isAtEnd] then
      let one ← assignment statement
      attributesWithin statement bound (given ++ [one])
    else
      return given

def attributes (statement : Reader Statement) : Reader (List Attribute) := do
  attributesWithin statement (← rounds) []

/-! ## Forms -/

/-- A way to read the statement at the cursor, in a given position. -/
abbrev StatementReader := Position → Reader Statement

def stringBody (inner : StatementReader) : Reader (List Statement) := do
  let body ← statements [isAtEnd, check .quote] (inner .content)
  let _ ← consume .quote .stringEnd
  return body

def quotedText (inner : StatementReader) : Reader Statement := do
  let body ← stringBody inner
  return .quoted (Template.push (body.foldl Template.push [.literal "\""]) (.literal "\""))

def attributeValue (inner : StatementReader) (name : String) : Reader Attribute := do
  if ← eat .quote then
    let body ← stringBody inner
    return .quoted name body
  else
    let word ← consume .identifier .attributeValue
    return .bare name word.lexeme

def tag (inner : StatementReader) : Reader Statement := do
  let name ← consume .identifier .tagName
  let given ← statements [check .greater, check .selfClose, isAtEnd] (inner .attributes)
  if ← eat .selfClose then
    return .emptyTag name.lexeme given
  else
    let _ ← consume .greater .tagEnd
    let content ← statements [check .tagClose, isAtEnd] (inner .content)
    let _ ← consume .tagClose .closingTag
    let matchNames := (← getInput).options.matchTagNames
    let closing ← consume .identifier .closingTagName
    demand (!matchNames || closing.lexeme = name.lexeme) (.tagMismatch name.lexeme closing.lexeme)
    let _ ← consume .greater .closingTagEnd
    return .tag name.lexeme given content

def interpolation : Reader Statement := do
  skipSpace
  let path ← consume .identifier .variableName
  skipSpace
  let _ ← consume .mustacheClose .variableEnd
  return .interpolation path.lexeme

def call (inner : StatementReader) : Reader Statement := do
  let _ ← consume .blank .callSpace
  let name ← consume .identifier .callName
  let given ← attributes (inner .attributes)
  let _ ← consume .mustacheClose .callEnd
  return .call name.lexeme given

def slot (inner : StatementReader) : Reader Statement := do
  let _ ← consume .blank .slotSpace
  let name ← consume .identifier .slotName
  let given ← attributes (inner .attributes)
  let _ ← consume .mustacheClose .slotOpeningEnd
  let body ← statements [isAtEnd, check .blockClose] (inner .content)
  let _ ← consume .blockClose .slotClosing
  skipSpace
  let closing ← consume .identifier .slotClosingName
  demand (closing.lexeme = name.lexeme) (.slotMismatch name.lexeme closing.lexeme)
  skipSpace
  let _ ← consume .mustacheClose .slotClosingEnd
  return .call name.lexeme (given ++ [.captured Attribute.capturedName body])

def each (inner : StatementReader) : Reader Statement := do
  let _ ← consume .blank .eachSpace
  let collection ← consume .identifier .eachCollection
  let _ ← consume .blank .eachSeparator
  let item ← consume .identifier .eachItem
  skipSpace
  let _ ← consume .mustacheClose .eachOpeningEnd
  let body ← statements [isAtEnd, check .blockClose] (inner .content)
  let _ ← consume .blockClose .eachClosing
  skipSpace
  let _ ← consume .eachWord .eachClosingWord
  skipSpace
  let _ ← consume .mustacheClose .eachClosingEnd
  return .each collection.lexeme item.lexeme body

def conditionalEnd : Reader Unit := do
  let _ ← consume .blockClose .ifClosing
  skipSpace
  let _ ← consume .ifWord .ifClosingWord
  skipSpace
  let _ ← consume .mustacheClose .ifClosingEnd

def conditional (inner : StatementReader) : Reader Statement := do
  let _ ← consume .blank .ifSpace
  let condition ← consume .identifier .ifCondition
  skipSpace
  let _ ← consume .mustacheClose .ifOpeningEnd
  let body ← statements [isAtEnd, check .blockClose, seeElse] (inner .content)
  if ← eatElse then
    let alternative ← statements [isAtEnd, check .blockClose] (inner .content)
    conditionalEnd
    return .ifThenElse condition.lexeme body alternative
  else
    conditionalEnd
    return .ifThen condition.lexeme body

/-- The name in front of an equals sign, in a position where the two begin an attribute. -/
def attributeName (position : Position) : Reader (Option String) :=
  if position = .attributes then
    attempt do
      match ← take .identifier with
      | none => return none
      | some name =>
        if ← eat .equal then
          return some name
        else
          return none
  else
    return none

/-- The statement at the cursor if it is of a form that one token begins.  What begins no form is
text. -/
def plainForm (inner : StatementReader) : Reader Statement := do
  if ← eatSequence [.less] then
    tag inner
  else if ← eatSequence [.quote] then
    quotedText inner
  else if ← eatSequence [.mustacheOpen] then
    interpolation
  else if ← check .blockOpen then
    stopHere .unknownBlock
  else if ← check .blockClose then
    stopHere .strayClosing
  else
    return .literal (← advance).lexeme

/-- The statement at the cursor if it is an attribute, or of a form that one token begins. -/
def attributeOrPlainForm (inner : StatementReader) (position : Position) : Reader Statement := do
  match ← attributeName position with
  | some name => return .assignment (← attributeValue inner name)
  | none => plainForm inner

/-- The statement at the cursor.  The forms are tried in turn. -/
def form (inner : StatementReader) (position : Position) : Reader Statement := do
  if ← eatSequence [.blockOpen, .greater] then
    slot inner
  else if ← eatSequence [.blockOpen, .eachWord] then
    each inner
  else if ← eatSequence [.blockOpen, .ifWord] then
    conditional inner
  else if ← eatSequence [.mustacheOpen, .greater] then
    call inner
  else
    attributeOrPlainForm inner position

/-- The statement at the cursor, in at most so many statements fewer than the given number. -/
def statement : Nat → StatementReader
  | 0, _ => broken
  | levels + 1, position => recorded (.statement position) (fun _ => true) do
    if (← getState).depth ≥ (← getInput).options.maxNesting then
      stopHere .nestedTooDeeply
    else
      inside (form (statement levels) position)

/-- The statements up to the mark for the end. -/
def template (levels : Nat) : Reader Template :=
  statements [isAtEnd] (statement levels .content)

/-- Read a template with a cursor that starts at the first token.  Statements are read at most one
level deeper than may lie inside each other, which is where reading stops. -/
def run (tokens : List Token) (options : CompileOptions) :
    Option (Except ParseError Template × State) :=
  template (options.maxNesting + 1) ⟨Token.completed tokens, options⟩ start

end Cursor

end Stencil
