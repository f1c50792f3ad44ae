/-!
# Templates

A template is a list of statements.  Statements contain lists of statements in turn: the content of
a tag, the branches of a conditional, the body of a loop, the text between quotes, and the arguments
of a partial.

Text that stands next to other text in one list is one statement: `joinLiterals` brings a list into
that form.
-/

namespace Stencil

mutual

/-- One part of a template. -/
inductive Statement where
  /-- Text that stands for itself. -/
  | literal (text : String)
  /-- A tag with content. -/
  | tag (name : String) (attributes content : List Statement)
  /-- A tag without content. -/
  | emptyTag (name : String) (attributes : List Statement)
  /-- The text of the value at a dotted path. -/
  | interpolation (path : String)
  | assignment (given : Attribute)
  /-- Text in quotes, the quotes included, which may contain interpolations. -/
  | quoted (body : List Statement)
  /-- A conditional without an alternative. -/
  | ifThen (condition : String) (body : List Statement)
  /-- A conditional with an alternative. -/
  | ifThenElse (condition : String) (body alternative : List Statement)
  /-- The body once for every item of a collection, bound to a name of its own. -/
  | each (collection item : String) (body : List Statement)
  /-- Another template, with the attributes as its bindings. -/
  | call (name : String) (arguments : List Attribute)

/-- A name and what is given for it. -/
inductive Attribute where
  /-- A word: in a tag it stands for itself, in a call it is a path in the context. -/
  | bare (name value : String)
  /-- Text in quotes, which may contain interpolations. -/
  | quoted (name : String) (body : List Statement)
  /-- What a call encloses. -/
  | captured (name : String) (body : List Statement)

end

/-- The name under which what a call encloses is bound. -/
def Attribute.capturedName : String :=
  "children"

def Attribute.name : Attribute → String
  | .bare name _ => name
  | .quoted name _ => name
  | .captured name _ => name

/-- A compiled template. -/
abbrev Template := List Statement

/-- Put a statement in front of a list; text joins text that the list begins with. -/
def Statement.joinTo (statement : Statement) (statements : List Statement) : List Statement :=
  match statement, statements with
  | .literal text, .literal next :: rest => .literal (text ++ next) :: rest
  | _, _ => statement :: statements

/-- Join all text that stands next to other text in the list. -/
def joinLiterals (statements : List Statement) : List Statement :=
  statements.foldr Statement.joinTo []

end Stencil
