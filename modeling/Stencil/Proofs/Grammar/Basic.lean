import Stencil.Template.Parse

/-!
# The grammar of templates

Which lists of tokens are templates, said without a parser.  A production lists the tokens of a
construct from first to last; a construct that holds statements holds a list of them, and a list
ends where a token stands that ends lists of its kind.

Productions count the statements that lie inside each other, so that a derivation also says how
deep a template is nested.  Ignoring the count gives the language of all templates.
-/

namespace Stencil.Grammar

open Token (Kind)
open Parse (Position)

/-- Tokens with the given kinds, one for each. -/
def HasKinds (kinds : List Kind) (tokens : List Token) : Prop :=
  tokens.map Token.kind = kinds

/-- Tokens that only separate others, possibly none. -/
def IsSpace (tokens : List Token) : Prop :=
  ∀ token ∈ tokens, token.kind.isSpace = true

/-- Two closing braces, with space before them. -/
inductive Closes : List Token → Prop where
  | intro {space : List Token} {brace : Token} :
      IsSpace space → brace.kind = .mustacheClose → Closes (space ++ [brace])

/-- A word between an opening token and two closing braces, with space on both sides of the word. -/
inductive Encloses (opening word : Kind) (name : Token) : List Token → Prop where
  | intro {first : Token} {space closing : List Token} :
      first.kind = opening → IsSpace space → name.kind = word → Closes closing →
      Encloses opening word name (first :: (space ++ name :: closing))

/-- The lists of statements that differ in what ends them and in what may stand in them. -/
inductive Place where
  /-- A whole template, or what a block encloses. -/
  | text
  /-- Between quotes. -/
  | quotes
  /-- Between an opening and a closing tag. -/
  | content
  /-- In a tag, after its name. -/
  | opening
  deriving DecidableEq, Repr

namespace Place

/-- The kinds of tokens that end a list, and therefore begin no statement of it. -/
def ends : Place → List Kind
  | .text => []
  | .quotes => [.quote]
  | .content => [.tagClose]
  | .opening => [.greater, .selfClose]

/-- Whether a word with an equals sign is an attribute in the list. -/
def position : Place → Position
  | .opening => .attributes
  | _ => .content

end Place

/-- The kinds of tokens that begin a construct or end a block.  All others stand for their text. -/
def reserved : List Kind :=
  [.blockOpen, .blockClose, .mustacheOpen, .less, .quote]

/-- A statement may be followed by the given tokens.  Where attributes are read, a word that stands
for its text has no equals sign after it. -/
def Apart (position : Position) (statement following : List Token) : Prop :=
  position = .attributes → ∀ word, statement = [word] → word.kind = .identifier →
    ∀ next ∈ following.head?, next.kind ≠ .equal

/-- What a run of tokens may be read as. -/
inductive Phrase where
  | statement (position : Position) (read : Statement)
  /-- The statements of a list before neighbouring text is joined. -/
  | list (place : Place) (read : List Statement)
  | attribute (read : Attribute)
  /-- The attributes of a call together with the braces that close it. -/
  | arguments (read : List Attribute)

/-- The tokens are a phrase in which at most the given number of statements lie inside each other.
If names are matched, a closing tag repeats the name of its opening tag. -/
inductive Derives (matchNames : Bool) : Nat → Phrase → List Token → Prop where
  | nil {levels : Nat} {place : Place} : Derives matchNames levels (.list place []) []
  | cons {levels : Nat} {place : Place} {statement : Statement} {more : List Statement}
      {first : Token} {front back : List Token} :
      first.kind ∉ place.ends →
      Derives matchNames levels (.statement place.position statement) (first :: front) →
      Apart place.position (first :: front) back →
      Derives matchNames levels (.list place more) back →
      Derives matchNames levels (.list place (statement :: more)) (first :: front ++ back)
  | literal {levels : Nat} {position : Position} {token : Token} :
      token.kind ∉ reserved →
      Derives matchNames (levels + 1) (.statement position (.literal token.lexeme)) [token]
  | interpolation {levels : Nat} {position : Position} {path : Token} {tokens : List Token} :
      Encloses .mustacheOpen .identifier path tokens →
      Derives matchNames (levels + 1) (.statement position (.interpolation path.lexeme)) tokens
  | assignment {levels : Nat} {given : Attribute} {tokens : List Token} :
      Derives matchNames levels (.attribute given) tokens →
      Derives matchNames levels (.statement .attributes (.assignment given)) tokens
  | quoted {levels : Nat} {position : Position} {body : List Statement} {opened closed : Token}
      {inside : List Token} :
      opened.kind = .quote →
      Derives matchNames levels (.list .quotes body) inside →
      closed.kind = .quote →
      Derives matchNames (levels + 1)
        (.statement position
          (.quoted (joinLiterals (.literal "\"" :: joinLiterals body ++ [.literal "\""]))))
        (opened :: (inside ++ [closed]))
  | emptyTag {levels : Nat} {position : Position} {given : List Statement}
      {opened name closed : Token} {attributes : List Token} :
      opened.kind = .less →
      name.kind = .identifier →
      Derives matchNames levels (.list .opening given) attributes →
      closed.kind = .selfClose →
      Derives matchNames (levels + 1)
        (.statement position (.emptyTag name.lexeme (joinLiterals given)))
        (opened :: name :: (attributes ++ [closed]))
  | tag {levels : Nat} {position : Position} {given body : List Statement}
      {opened name ended closed closing finish : Token} {attributes inside : List Token} :
      opened.kind = .less →
      name.kind = .identifier →
      Derives matchNames levels (.list .opening given) attributes →
      ended.kind = .greater →
      Derives matchNames levels (.list .content body) inside →
      closed.kind = .tagClose →
      closing.kind = .identifier →
      (matchNames = true → closing.lexeme = name.lexeme) →
      finish.kind = .greater →
      Derives matchNames (levels + 1)
        (.statement position (.tag name.lexeme (joinLiterals given) (joinLiterals body)))
        (opened :: name :: (attributes ++ ended :: (inside ++ [closed, closing, finish])))
  | ifThen {levels : Nat} {position : Position} {body : List Statement} {condition word : Token}
      {opened closed inside finish : List Token} :
      HasKinds [.blockOpen, .ifWord, .blank] opened →
      condition.kind = .identifier →
      Closes closed →
      Derives matchNames levels (.list .text body) inside →
      Encloses .blockClose .ifWord word finish →
      Derives matchNames (levels + 1)
        (.statement position (.ifThen condition.lexeme (joinLiterals body)))
        (opened ++ condition :: (closed ++ inside ++ finish))
  | ifThenElse {levels : Nat} {position : Position} {body alternative : List Statement}
      {condition middle word : Token} {opened closed inside between otherwise finish : List Token} :
      HasKinds [.blockOpen, .ifWord, .blank] opened →
      condition.kind = .identifier →
      Closes closed →
      Derives matchNames levels (.list .text body) inside →
      Encloses .mustacheOpen .elseWord middle between →
      Derives matchNames levels (.list .text alternative) otherwise →
      Encloses .blockClose .ifWord word finish →
      Derives matchNames (levels + 1)
        (.statement position
          (.ifThenElse condition.lexeme (joinLiterals body) (joinLiterals alternative)))
        (opened ++ condition :: (closed ++ inside ++ between ++ otherwise ++ finish))
  | each {levels : Nat} {position : Position} {body : List Statement}
      {collection blank item word : Token} {opened closed inside finish : List Token} :
      HasKinds [.blockOpen, .eachWord, .blank] opened →
      collection.kind = .identifier →
      blank.kind = .blank →
      item.kind = .identifier →
      Closes closed →
      Derives matchNames levels (.list .text body) inside →
      Encloses .blockClose .eachWord word finish →
      Derives matchNames (levels + 1)
        (.statement position (.each collection.lexeme item.lexeme (joinLiterals body)))
        (opened ++ collection :: blank :: item :: (closed ++ inside ++ finish))
  | call {levels : Nat} {position : Position} {given : List Attribute} {name : Token}
      {opened arguments : List Token} :
      HasKinds [.mustacheOpen, .greater, .blank] opened →
      name.kind = .identifier →
      Derives matchNames levels (.arguments given) arguments →
      Derives matchNames (levels + 1) (.statement position (.call name.lexeme given))
        (opened ++ name :: arguments)
  | slot {levels : Nat} {position : Position} {given : List Attribute} {body : List Statement}
      {name closing : Token} {opened arguments inside finish : List Token} :
      HasKinds [.blockOpen, .greater, .blank] opened →
      name.kind = .identifier →
      Derives matchNames levels (.arguments given) arguments →
      Derives matchNames levels (.list .text body) inside →
      Encloses .blockClose .identifier closing finish →
      closing.lexeme = name.lexeme →
      Derives matchNames (levels + 1)
        (.statement position
          (.call name.lexeme (given ++ [.captured Attribute.capturedName (joinLiterals body)])))
        (opened ++ name :: (arguments ++ inside ++ finish))
  | bare {levels : Nat} {name sign value : Token} :
      name.kind = .identifier → sign.kind = .equal → value.kind = .identifier →
      Derives matchNames (levels + 1) (.attribute (.bare name.lexeme value.lexeme))
        [name, sign, value]
  | quotedValue {levels : Nat} {body : List Statement} {name sign opened closed : Token}
      {inside : List Token} :
      name.kind = .identifier → sign.kind = .equal → opened.kind = .quote →
      Derives matchNames levels (.list .quotes body) inside →
      closed.kind = .quote →
      Derives matchNames (levels + 1) (.attribute (.quoted name.lexeme (joinLiterals body)))
        (name :: sign :: opened :: (inside ++ [closed]))
  | argumentsEnd {levels : Nat} {tokens : List Token} :
      Closes tokens → Derives matchNames levels (.arguments []) tokens
  | argumentsCons {levels : Nat} {given : Attribute} {more : List Attribute}
      {space front back : List Token} :
      IsSpace space →
      Derives matchNames levels (.attribute given) front →
      Derives matchNames levels (.arguments more) back →
      Derives matchNames levels (.arguments (given :: more)) (space ++ front ++ back)

/-- The tokens are a template, nested however deep. -/
def IsTemplate (matchNames : Bool) (tokens : List Token) (template : Template) : Prop :=
  ∃ levels body, Derives matchNames levels (.list .text body) tokens ∧ template = joinLiterals body

end Stencil.Grammar
