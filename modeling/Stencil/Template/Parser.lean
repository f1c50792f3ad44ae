import Stencil.Template.Basic
import Stencil.Template.ParseError
import Stencil.Token.Basic

/-!
# Steps of reading a template

A parser takes tokens from the front of a list, and either yields a result with the tokens it left,
or stops with a fault.  The list holds no mark for the end of the source; a fault at the end is one
without a token.

Lists of statements are read by `Parser.sequence`, whose bound is the number of tokens at hand:
every statement takes at least its first token, so the bound is never what ends a list.
-/

namespace Stencil

/-- Why and at which token reading stops; no token stands for the end of the source. -/
structure Fault where
  token? : Option Token
  cause : ParseError.Cause
  deriving DecidableEq, Repr

/-- The error that reports a fault, given the line on which the source ends. -/
def Fault.toError (fault : Fault) (endLine : Nat) : ParseError :=
  match fault.token? with
  | some token => ⟨token.line, .token token.lexeme, fault.cause⟩
  | none => ⟨endLine, .sourceEnd, fault.cause⟩

/-- A computation that takes tokens from the front of a list. -/
abbrev Parser (α : Type) := StateT (List Token) (Except Fault) α

namespace Parser

open Token (Kind)

/-- The token of the given kind at the front, and what follows it. -/
def take? (kind : Kind) : List Token → Option (Token × List Token)
  | [] => none
  | token :: rest => if token.kind = kind then some (token, rest) else none

/-- Whether a token of the given kind is at the front. -/
def startsWith (kind : Kind) (tokens : List Token) : Bool :=
  (take? kind tokens).isSome

/-- The tokens without the blanks and line feeds at the front. -/
def dropSpace (tokens : List Token) : List Token :=
  tokens.dropWhile fun token => token.kind.isSpace

/-- What follows the mark between the branches of a conditional, if that mark is at the front. -/
def afterElse? (tokens : List Token) : Option (List Token) := do
  let (_, rest) ← take? .mustacheOpen tokens
  let (_, rest) ← take? .elseWord (dropSpace rest)
  let (_, rest) ← take? .mustacheClose (dropSpace rest)
  return rest

def stopAt {α : Type} (token : Token) (cause : ParseError.Cause) : Parser α :=
  fun _ => .error ⟨some token, cause⟩

/-- Take a token of the given kind, or stop at the token that is there instead. -/
def expect (kind : Kind) (what : Expectation) : Parser Token := fun tokens =>
  match take? kind tokens with
  | some taken => .ok taken
  | none => .error ⟨tokens.head?, .expected what⟩

/-- Take a token of the given kind if one is at the front, and say whether one was. -/
def accept (kind : Kind) : Parser Bool := fun tokens =>
  match take? kind tokens with
  | some (_, rest) => .ok (true, rest)
  | none => .ok (false, tokens)

/-- Take the mark between the branches of a conditional if it is at the front, and say whether it
was. -/
def acceptElse : Parser Bool := fun tokens =>
  match afterElse? tokens with
  | some rest => .ok (true, rest)
  | none => .ok (false, tokens)

/-- Take all blanks and line feeds at the front. -/
def skipSpace : Parser Unit := fun tokens =>
  .ok ((), dropSpace tokens)

/-- Go on only if a condition holds, else stop at a token. -/
def require (condition : Bool) (token : Token) (cause : ParseError.Cause) : Parser Unit :=
  if condition then pure () else stopAt token cause

/-- Stop at the last token that was taken since the given tokens were at hand. -/
def stopAtLastTaken {α : Type} (before : List Token) (cause : ParseError.Cause) : Parser α :=
  fun after =>
    let taken := before.take (before.length - after.length)
    .error ⟨taken.getLast?, cause⟩

/-- Take the next token, unless the tokens have ended or meet the stop. -/
def nextUnless (stop : List Token → Bool) : Parser (Option Token) := fun tokens =>
  match tokens with
  | [] => .ok (none, [])
  | first :: rest =>
    if stop (first :: rest) then .ok (none, first :: rest) else .ok (some first, rest)

/-- Read statements, at most as many as the bound, until the tokens end or meet the stop.  A
statement is read from its first token and the tokens after it. -/
def statementsUpTo (stop : List Token → Bool) (statement : Token → Parser Statement) :
    Nat → Parser (List Statement)
  | 0 => return []
  | bound + 1 => do
    match ← nextUnless stop with
    | none => return []
    | some first =>
      let one ← statement first
      let more ← statementsUpTo stop statement bound
      return one :: more

/-- Read a list of statements, its text joined, until the tokens end or meet the stop. -/
def sequence (stop : List Token → Bool) (statement : Token → Parser Statement) :
    Parser (List Statement) := do
  let tokens ← get
  let statements ← statementsUpTo stop statement tokens.length
  return joinLiterals statements

/-- Read attributes with space around them, at most as many as the bound, until the tokens end or
meet two closing braces.  A statement that is no attribute is a fault at its last token. -/
def attributesUpTo (statement : Token → Parser Statement) : Nat → Parser (List Attribute)
  | 0 => return []
  | bound + 1 => do
    skipSpace
    let before ← get
    match ← nextUnless (startsWith .mustacheClose) with
    | none => return []
    | some first =>
      match ← statement first with
      | .assignment given =>
        let more ← attributesUpTo statement bound
        return given :: more
      | _ => stopAtLastTaken before (.expected .argument)

def attributes (statement : Token → Parser Statement) : Parser (List Attribute) := do
  let tokens ← get
  attributesUpTo statement tokens.length

end Parser

end Stencil
