import Stencil.Proofs.Grammar.Basic

/-!
# Parse trees

A parse tree is a statement with all of its tokens.  Its tokens from first to last are its *yield*,
and leaving out the tokens that only mark gives the statement it reads as.  A tree is valid if the
tokens at each of its nodes are those that a production asks for.  Whatever the grammar derives has
a valid tree.
-/

namespace Stencil.Grammar

open Token (Kind)
open Parse (Position)

mutual

/-- A statement with its tokens. -/
inductive Tree where
  | literal (token : Token)
  | interpolation (path : Token) (whole : List Token)
  | assignment (given : AttributeTree)
  | quoted (opened : Token) (body : List Tree) (closed : Token)
  | emptyTag (opened name : Token) (attributes : List Tree) (closed : Token)
  | tag (opened name : Token) (attributes : List Tree) (ended : Token) (content : List Tree)
      (closed closing finish : Token)
  | ifThen (opened : List Token) (condition : Token) (closed : List Token) (body : List Tree)
      (finish : List Token)
  | ifThenElse (opened : List Token) (condition : Token) (closed : List Token) (body : List Tree)
      (between : List Token) (alternative : List Tree) (finish : List Token)
  | each (opened : List Token) (collection blank item : Token) (closed : List Token)
      (body : List Tree) (finish : List Token)
  | call (opened : List Token) (name : Token) (arguments : ArgumentTrees)
  | slot (opened : List Token) (name : Token) (arguments : ArgumentTrees) (body : List Tree)
      (finish : List Token)

/-- An attribute with its tokens. -/
inductive AttributeTree where
  | bare (name sign value : Token)
  | quoted (name sign opened : Token) (body : List Tree) (closed : Token)

/-- The attributes of a call with their tokens, the space between them and the braces that close the
call. -/
inductive ArgumentTrees where
  | ended (closed : List Token)
  | given (space : List Token) (first : AttributeTree) (rest : ArgumentTrees)

end

mutual

/-- The tokens of a tree from first to last. -/
def Tree.yield : Tree → List Token
  | .literal token => [token]
  | .interpolation _ whole => whole
  | .assignment given => given.yield
  | .quoted opened body closed => opened :: (yieldAll body ++ [closed])
  | .emptyTag opened name attributes closed => opened :: name :: (yieldAll attributes ++ [closed])
  | .tag opened name attributes ended content closed closing finish =>
    opened :: name ::
      (yieldAll attributes ++ ended :: (yieldAll content ++ [closed, closing, finish]))
  | .ifThen opened condition closed body finish =>
    opened ++ condition :: (closed ++ yieldAll body ++ finish)
  | .ifThenElse opened condition closed body between alternative finish =>
    opened ++ condition :: (closed ++ yieldAll body ++ between ++ yieldAll alternative ++ finish)
  | .each opened collection blank item closed body finish =>
    opened ++ collection :: blank :: item :: (closed ++ yieldAll body ++ finish)
  | .call opened name arguments => opened ++ name :: arguments.yield
  | .slot opened name arguments body finish =>
    opened ++ name :: (arguments.yield ++ yieldAll body ++ finish)

/-- The tokens of an attribute from first to last. -/
def AttributeTree.yield : AttributeTree → List Token
  | .bare name sign value => [name, sign, value]
  | .quoted name sign opened body closed => name :: sign :: opened :: (yieldAll body ++ [closed])

/-- The tokens of the attributes of a call from first to last. -/
def ArgumentTrees.yield : ArgumentTrees → List Token
  | .ended closed => closed
  | .given space first rest => space ++ first.yield ++ rest.yield

/-- The tokens of a list of trees from first to last. -/
def yieldAll : List Tree → List Token
  | [] => []
  | tree :: rest => tree.yield ++ yieldAll rest

end

mutual

def Tree.read : Tree → Statement
  | .literal token => .literal token.lexeme
  | .interpolation path _ => .interpolation path.lexeme
  | .assignment given => .assignment given.read
  | .quoted _ body _ =>
    .quoted (joinLiterals (.literal "\"" :: joinLiterals (readAll body) ++ [.literal "\""]))
  | .emptyTag _ name attributes _ => .emptyTag name.lexeme (joinLiterals (readAll attributes))
  | .tag _ name attributes _ content _ _ _ =>
    .tag name.lexeme (joinLiterals (readAll attributes)) (joinLiterals (readAll content))
  | .ifThen _ condition _ body _ => .ifThen condition.lexeme (joinLiterals (readAll body))
  | .ifThenElse _ condition _ body _ alternative _ =>
    .ifThenElse condition.lexeme (joinLiterals (readAll body)) (joinLiterals (readAll alternative))
  | .each _ collection _ item _ body _ =>
    .each collection.lexeme item.lexeme (joinLiterals (readAll body))
  | .call _ name arguments => .call name.lexeme arguments.read
  | .slot _ name arguments body _ =>
    .call name.lexeme
      (arguments.read ++ [.captured Attribute.capturedName (joinLiterals (readAll body))])

def AttributeTree.read : AttributeTree → Attribute
  | .bare name _ value => .bare name.lexeme value.lexeme
  | .quoted name _ _ body _ => .quoted name.lexeme (joinLiterals (readAll body))

/-- The attributes of a call that trees read as. -/
def ArgumentTrees.read : ArgumentTrees → List Attribute
  | .ended _ => []
  | .given _ first rest => first.read :: rest.read

/-- The statements that a list of trees reads as, before neighbouring text is joined. -/
def readAll : List Tree → List Statement
  | [] => []
  | tree :: rest => tree.read :: readAll rest

end

mutual

/-- The tokens at each node of a tree are those that a production asks for.  If names are matched, a
closing tag repeats the name of its opening tag. -/
def Tree.IsValid (matchNames : Bool) (position : Position) : Tree → Prop
  | .literal token => token.kind ∉ reserved
  | .interpolation path whole => Encloses .mustacheOpen .identifier path whole
  | .assignment given => position = .attributes ∧ given.IsValid matchNames
  | .quoted opened body closed =>
    opened.kind = .quote ∧ AreValid matchNames .quotes body ∧ closed.kind = .quote
  | .emptyTag opened name attributes closed =>
    opened.kind = .less ∧ name.kind = .identifier ∧ AreValid matchNames .opening attributes ∧
      closed.kind = .selfClose
  | .tag opened name attributes ended content closed closing finish =>
    opened.kind = .less ∧ name.kind = .identifier ∧ AreValid matchNames .opening attributes ∧
      ended.kind = .greater ∧ AreValid matchNames .content content ∧ closed.kind = .tagClose ∧
      closing.kind = .identifier ∧ (matchNames = true → closing.lexeme = name.lexeme) ∧
      finish.kind = .greater
  | .ifThen opened condition closed body finish =>
    HasKinds [.blockOpen, .ifWord, .blank] opened ∧ condition.kind = .identifier ∧ Closes closed ∧
      AreValid matchNames .text body ∧ ∃ word, Encloses .blockClose .ifWord word finish
  | .ifThenElse opened condition closed body between alternative finish =>
    HasKinds [.blockOpen, .ifWord, .blank] opened ∧ condition.kind = .identifier ∧ Closes closed ∧
      AreValid matchNames .text body ∧
      (∃ middle, Encloses .mustacheOpen .elseWord middle between) ∧
      AreValid matchNames .text alternative ∧ ∃ word, Encloses .blockClose .ifWord word finish
  | .each opened collection blank item closed body finish =>
    HasKinds [.blockOpen, .eachWord, .blank] opened ∧ collection.kind = .identifier ∧
      blank.kind = .blank ∧ item.kind = .identifier ∧ Closes closed ∧
      AreValid matchNames .text body ∧ ∃ word, Encloses .blockClose .eachWord word finish
  | .call opened name arguments =>
    HasKinds [.mustacheOpen, .greater, .blank] opened ∧ name.kind = .identifier ∧
      arguments.IsValid matchNames
  | .slot opened name arguments body finish =>
    HasKinds [.blockOpen, .greater, .blank] opened ∧ name.kind = .identifier ∧
      arguments.IsValid matchNames ∧ AreValid matchNames .text body ∧
      ∃ closing, Encloses .blockClose .identifier closing finish ∧ closing.lexeme = name.lexeme

/-- The tokens of an attribute are those that a production asks for. -/
def AttributeTree.IsValid (matchNames : Bool) : AttributeTree → Prop
  | .bare name sign value =>
    name.kind = .identifier ∧ sign.kind = .equal ∧ value.kind = .identifier
  | .quoted name sign opened body closed =>
    name.kind = .identifier ∧ sign.kind = .equal ∧ opened.kind = .quote ∧
      AreValid matchNames .quotes body ∧ closed.kind = .quote

/-- The tokens of the attributes of a call are those that a production asks for. -/
def ArgumentTrees.IsValid (matchNames : Bool) : ArgumentTrees → Prop
  | .ended closed => Closes closed
  | .given space first rest =>
    IsSpace space ∧ first.IsValid matchNames ∧ rest.IsValid matchNames

/-- A list of valid trees in a place, none of which begins with a token that ends lists there. -/
def AreValid (matchNames : Bool) (place : Place) : List Tree → Prop
  | [] => True
  | tree :: rest =>
    (∀ first ∈ tree.yield.head?, first.kind ∉ place.ends) ∧
      tree.IsValid matchNames place.position ∧ Apart place.position tree.yield (yieldAll rest) ∧
      AreValid matchNames place rest

end

/-- A phrase has a valid tree with the given tokens. -/
def Phrase.HasTree (matchNames : Bool) (tokens : List Token) : Phrase → Prop
  | .statement position read =>
    ∃ tree : Tree, tree.IsValid matchNames position ∧ tree.yield = tokens ∧ tree.read = read
  | .list place read =>
    ∃ trees, AreValid matchNames place trees ∧ yieldAll trees = tokens ∧ readAll trees = read
  | .attribute read =>
    ∃ tree : AttributeTree, tree.IsValid matchNames ∧ tree.yield = tokens ∧ tree.read = read
  | .arguments read =>
    ∃ trees : ArgumentTrees, trees.IsValid matchNames ∧ trees.yield = tokens ∧ trees.read = read

/-- Whatever the grammar derives has a valid tree. -/
theorem Derives.hasTree {matchNames : Bool} {levels : Nat} {phrase : Phrase} {tokens : List Token}
    (derived : Derives matchNames levels phrase tokens) : phrase.HasTree matchNames tokens := by
  induction derived with
  | nil => exact ⟨[], trivial, rfl, rfl⟩
  | cons notEnd _ apart _ one more =>
      rcases one with ⟨tree, isValid, yields, rfl⟩
      rcases more with ⟨trees, areValid, rfl, rfl⟩
      rw [← yields] at apart
      refine ⟨tree :: trees, ⟨?_, isValid, apart, areValid⟩, by rw [yieldAll, yields], rfl⟩
      rw [yields]
      intro first isFirst
      cases isFirst
      exact notEnd
  | literal other => exact ⟨.literal _, other, rfl, rfl⟩
  | interpolation encloses => exact ⟨.interpolation _ _, encloses, rfl, rfl⟩
  | assignment _ given =>
      rcases given with ⟨tree, isValid, rfl, rfl⟩
      exact ⟨.assignment tree, ⟨rfl, isValid⟩, rfl, rfl⟩
  | quoted isOpened _ isClosed body =>
      rcases body with ⟨trees, areValid, rfl, rfl⟩
      exact ⟨.quoted _ trees _, ⟨isOpened, areValid, isClosed⟩, rfl, rfl⟩
  | emptyTag isOpened isName _ isClosed given =>
      rcases given with ⟨trees, areValid, rfl, rfl⟩
      exact ⟨.emptyTag _ _ trees _, ⟨isOpened, isName, areValid, isClosed⟩, rfl, rfl⟩
  | tag isOpened isName _ isEnd _ isClosed isClosing same isFinish given body =>
      rcases given with ⟨attributes, areValid, rfl, rfl⟩
      rcases body with ⟨content, contentValid, rfl, rfl⟩
      exact ⟨.tag _ _ attributes _ content _ _ _, ⟨isOpened, isName, areValid, isEnd, contentValid,
        isClosed, isClosing, same, isFinish⟩, rfl, rfl⟩
  | ifThen opens isName closes _ finishes body =>
      rcases body with ⟨trees, areValid, rfl, rfl⟩
      exact ⟨.ifThen _ _ _ trees _, ⟨opens, isName, closes, areValid, _, finishes⟩, rfl, rfl⟩
  | ifThenElse opens isName closes _ between _ finishes body other =>
      rcases body with ⟨trees, areValid, rfl, rfl⟩
      rcases other with ⟨alternative, otherValid, rfl, rfl⟩
      exact ⟨.ifThenElse _ _ _ trees _ alternative _,
        ⟨opens, isName, closes, areValid, ⟨_, between⟩, otherValid, _, finishes⟩, rfl, rfl⟩
  | each opens isCollection isBlank isItem closes _ finishes body =>
      rcases body with ⟨trees, areValid, rfl, rfl⟩
      exact ⟨.each _ _ _ _ _ trees _,
        ⟨opens, isCollection, isBlank, isItem, closes, areValid, _, finishes⟩, rfl, rfl⟩
  | call opens isName _ given =>
      rcases given with ⟨arguments, isValid, rfl, rfl⟩
      exact ⟨.call _ _ arguments, ⟨opens, isName, isValid⟩, rfl, rfl⟩
  | slot opens isName _ _ finishes same given body =>
      rcases given with ⟨arguments, isValid, rfl, rfl⟩
      rcases body with ⟨trees, areValid, rfl, rfl⟩
      exact ⟨.slot _ _ arguments trees _,
        ⟨opens, isName, isValid, areValid, _, finishes, same⟩, rfl, rfl⟩
  | bare isName isSign isValue => exact ⟨.bare _ _ _, ⟨isName, isSign, isValue⟩, rfl, rfl⟩
  | quotedValue isName isSign isOpened _ isClosed body =>
      rcases body with ⟨trees, areValid, rfl, rfl⟩
      exact ⟨.quoted _ _ _ trees _, ⟨isName, isSign, isOpened, areValid, isClosed⟩, rfl, rfl⟩
  | argumentsEnd closes => exact ⟨.ended _, closes, rfl, rfl⟩
  | argumentsCons isSpace _ _ one more =>
      rcases one with ⟨first, isValid, rfl, rfl⟩
      rcases more with ⟨rest, restValid, rfl, rfl⟩
      exact ⟨.given _ first rest, ⟨isSpace, isValid, restValid⟩, rfl, rfl⟩

end Stencil.Grammar
