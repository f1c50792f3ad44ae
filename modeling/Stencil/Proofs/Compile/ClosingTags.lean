import Stencil.Proofs.Grammar.Trees
import Stencil.Proofs.Print.RoundTrip

/-!
# Closing tags

A less-than sign and a slash begin a closing tag between the tags of a pair, and are text everywhere
else.  In a parse tree each such mark has its place: it closes the innermost pair of tags it stands
in, or it is text in some other list.
-/

namespace Stencil

open Grammar
open Token (Kind)

/-- What a mark that may begin a closing tag stands for. -/
inductive Closing where
  /-- The end of the tag of the given name, with the name that the closing tag repeats. -/
  | pair (name mark closing : Token)
  /-- Text in a list. -/
  | text (place : Place) (mark : Token)

namespace Closing

def mark : Closing → Token
  | .pair _ mark _ => mark
  | .text _ mark => mark

/-- A closing tag has the name of its opening tag, and no mark is text directly between two tags. -/
def Fits : Closing → Prop
  | .pair name _ closing => closing.lexeme = name.lexeme
  | .text place _ => place ≠ .content

end Closing

namespace Grammar

mutual

/-- What the marks in a tree stand for, in the order of the marks. -/
def Tree.closings (place : Place) : Tree → List Closing
  | .literal token => if token.kind = .tagClose then [.text place token] else []
  | .interpolation _ _ => []
  | .assignment given => given.closings
  | .quoted _ body _ => closingsAll .quotes body
  | .emptyTag _ _ attributes _ => closingsAll .opening attributes
  | .tag _ name attributes _ content closed closing _ =>
    closingsAll .opening attributes ++ (closingsAll .content content ++ [.pair name closed closing])
  | .ifThen _ _ _ body _ => closingsAll .text body
  | .ifThenElse _ _ _ body _ alternative _ =>
    closingsAll .text body ++ closingsAll .text alternative
  | .each _ _ _ _ _ body _ => closingsAll .text body
  | .call _ _ arguments => arguments.closings
  | .slot _ _ arguments body _ => arguments.closings ++ closingsAll .text body

/-- What the marks in an attribute stand for. -/
def AttributeTree.closings : AttributeTree → List Closing
  | .bare _ _ _ => []
  | .quoted _ _ _ body _ => closingsAll .quotes body

/-- What the marks in the attributes of a call stand for. -/
def ArgumentTrees.closings : ArgumentTrees → List Closing
  | .ended _ => []
  | .given _ first rest => first.closings ++ rest.closings

/-- What the marks in a list of trees stand for. -/
def closingsAll (place : Place) : List Tree → List Closing
  | [] => []
  | tree :: rest => tree.closings place ++ closingsAll place rest

end

/-- The marks among some tokens that may begin closing tags. -/
def closingMarks (tokens : List Token) : List Token :=
  tokens.filter fun token => token.kind = .tagClose

/-- None of the tokens is such a mark. -/
def Unmarked (tokens : List Token) : Prop :=
  ∀ token ∈ tokens, token.kind ≠ .tagClose

theorem unmarked_singleton {kind : Kind} {token : Token} (isKind : token.kind = kind)
    (other : kind ≠ .tagClose) : Unmarked [token] := by
  rwa [Unmarked, List.forall_mem_singleton, isKind]

theorem HasKinds.unmarked {kinds : List Kind} {tokens : List Token} (has : HasKinds kinds tokens)
    (other : .tagClose ∉ kinds) : Unmarked tokens := by
  intro token isToken isMark
  apply other
  rw [← has, ← isMark]
  exact List.mem_map_of_mem isToken

theorem IsSpace.unmarked {tokens : List Token} (isSpace : IsSpace tokens) : Unmarked tokens := by
  intro token isToken isMark
  have space := isSpace token isToken
  rw [isMark] at space
  cases space

theorem Closes.unmarked {tokens : List Token} (closes : Closes tokens) : Unmarked tokens := by
  cases closes with
  | intro isSpace isBrace =>
      rw [Unmarked, List.forall_mem_append, List.forall_mem_singleton]
      exact ⟨isSpace.unmarked, by simp [isBrace]⟩

theorem Encloses.unmarked {opening word : Kind} {name : Token} {tokens : List Token}
    (encloses : Encloses opening word name tokens)
    (others : opening ≠ .tagClose ∧ word ≠ .tagClose) : Unmarked tokens := by
  cases encloses with
  | intro isOpening isSpace isWord closes =>
      rw [Unmarked, List.forall_mem_cons, List.forall_mem_append, List.forall_mem_cons, isOpening,
        isWord]
      exact ⟨others.1, isSpace.unmarked, others.2, closes.unmarked⟩

/-- The marks among the tokens stand for the given things, one each, and all of these fit. -/
structure Accounts (tokens : List Token) (closings : List Closing) : Prop where
  marks : closings.map Closing.mark = closingMarks tokens
  fit : ∀ closing ∈ closings, closing.Fits

namespace Accounts

variable {token : Token} {tokens front back : List Token}
variable {closings frontClosings backClosings : List Closing}

theorem of_unmarked (unmarked : Unmarked tokens) : Accounts tokens [] where
  marks := by
    rw [closingMarks, List.filter_eq_nil_iff.mpr]
    · rfl
    · simpa [Unmarked] using unmarked
  fit := by simp

theorem append (first : Accounts front frontClosings) (second : Accounts back backClosings) :
    Accounts (front ++ back) (frontClosings ++ backClosings) where
  marks := by
    rw [List.map_append, first.marks, second.marks, closingMarks, closingMarks, closingMarks,
      List.filter_append]
  fit := by
    rw [List.forall_mem_append]
    exact ⟨first.fit, second.fit⟩

theorem prepend (accounts : Accounts back closings) (unmarked : Unmarked front) :
    Accounts (front ++ back) closings :=
  (of_unmarked unmarked).append accounts

theorem cons {kind : Kind} (accounts : Accounts tokens closings) (isKind : token.kind = kind)
    (other : kind ≠ .tagClose) : Accounts (token :: tokens) closings :=
  accounts.prepend (unmarked_singleton isKind other)

theorem thenUnmarked (accounts : Accounts front closings) (unmarked : Unmarked back) :
    Accounts (front ++ back) closings := by
  have whole := accounts.append (of_unmarked unmarked)
  rwa [List.append_nil] at whole

end Accounts

mutual

theorem Tree.accounts {place : Place} (tree : Tree)
    (notEnd : ∀ first ∈ tree.yield.head?, first.kind ∉ place.ends)
    (isValid : tree.IsValid true place.position) :
    Accounts tree.yield (tree.closings place) := by
  cases tree with
  | literal token =>
      by_cases isMark : token.kind = .tagClose
      · have outside : place ≠ .content := by
          rintro rfl
          apply notEnd token rfl
          rw [isMark]
          decide
        rw [Tree.closings, if_pos isMark, Tree.yield]
        exact ⟨by simp [closingMarks, isMark, Closing.mark], by simpa [Closing.Fits] using outside⟩
      · rw [Tree.closings, if_neg isMark, Tree.yield]
        exact .of_unmarked (by simpa [Unmarked] using isMark)
  | interpolation path whole => exact .of_unmarked (isValid.unmarked (by decide))
  | assignment given => exact given.accounts isValid.2
  | quoted opened body closed =>
      rcases isValid with ⟨isOpened, bodyValid, isClosed⟩
      have inside := (accountsAll body bodyValid).thenUnmarked
        (unmarked_singleton isClosed (by decide))
      exact inside.cons isOpened (by decide)
  | emptyTag opened name attributes closed =>
      rcases isValid with ⟨isOpened, isName, attributesValid, isClosed⟩
      have inside := (accountsAll attributes attributesValid).thenUnmarked
        (unmarked_singleton isClosed (by decide))
      exact (inside.cons isName (by decide)).cons isOpened (by decide)
  | tag opened name attributes ended content closed closing finish =>
      rcases isValid with ⟨isOpened, isName, attributesValid, isEnd, contentValid, isClosed,
        isClosing, same, isFinish⟩
      have pair : Accounts [closed, closing, finish] [.pair name closed closing] := by
        refine ⟨?_, by simpa [Closing.Fits] using same⟩
        simp [closingMarks, isClosed, isClosing, isFinish, Closing.mark]
      have inside := ((accountsAll content contentValid).append pair).cons isEnd (by decide)
      have behind := (accountsAll attributes attributesValid).append inside
      exact (behind.cons isName (by decide)).cons isOpened (by decide)
  | ifThen opened condition closed body finish =>
      rcases isValid with ⟨opens, isCondition, closes, bodyValid, word, finishes⟩
      have inside := (accountsAll body bodyValid).prepend closes.unmarked
      have behind := inside.thenUnmarked (finishes.unmarked (by decide))
      exact (behind.cons isCondition (by decide)).prepend (opens.unmarked (by decide))
  | ifThenElse opened condition closed body between alternative finish =>
      rcases isValid with ⟨opens, isCondition, closes, bodyValid, ⟨middle, isBetween⟩, otherValid,
        word, finishes⟩
      have inside := (accountsAll body bodyValid).prepend closes.unmarked
      have both := (inside.thenUnmarked (isBetween.unmarked (by decide))).append
        (accountsAll alternative otherValid)
      have behind := both.thenUnmarked (finishes.unmarked (by decide))
      exact (behind.cons isCondition (by decide)).prepend (opens.unmarked (by decide))
  | each opened collection blank item closed body finish =>
      rcases isValid with ⟨opens, isCollection, isBlank, isItem, closes, bodyValid, word, finishes⟩
      have inside := (accountsAll body bodyValid).prepend closes.unmarked
      have behind := inside.thenUnmarked (finishes.unmarked (by decide))
      have named := (behind.cons isItem (by decide)).cons isBlank (by decide)
      exact (named.cons isCollection (by decide)).prepend (opens.unmarked (by decide))
  | call opened name arguments =>
      rcases isValid with ⟨opens, isName, argumentsValid⟩
      have behind := arguments.accounts argumentsValid
      exact (behind.cons isName (by decide)).prepend (opens.unmarked (by decide))
  | slot opened name arguments body finish =>
      rcases isValid with ⟨opens, isName, argumentsValid, bodyValid, closing, finishes, _⟩
      have inside := (arguments.accounts argumentsValid).append (accountsAll body bodyValid)
      have behind := inside.thenUnmarked (finishes.unmarked (by decide))
      exact (behind.cons isName (by decide)).prepend (opens.unmarked (by decide))

theorem AttributeTree.accounts (tree : AttributeTree) (isValid : tree.IsValid true) :
    Accounts tree.yield tree.closings := by
  cases tree with
  | bare name sign value =>
      rcases isValid with ⟨isName, isSign, isValue⟩
      apply Accounts.of_unmarked
      simp [Unmarked, AttributeTree.yield, isName, isSign, isValue]
  | quoted name sign opened body closed =>
      rcases isValid with ⟨isName, isSign, isOpened, bodyValid, isClosed⟩
      have inside := (accountsAll body bodyValid).thenUnmarked
        (unmarked_singleton isClosed (by decide))
      have behind := (inside.cons isOpened (by decide)).cons isSign (by decide)
      exact behind.cons isName (by decide)

theorem ArgumentTrees.accounts (trees : ArgumentTrees) (isValid : trees.IsValid true) :
    Accounts trees.yield trees.closings := by
  cases trees with
  | ended closed => exact .of_unmarked isValid.unmarked
  | given space first rest =>
      rcases isValid with ⟨isSpace, firstValid, restValid⟩
      exact ((first.accounts firstValid).prepend isSpace.unmarked).append (rest.accounts restValid)

theorem accountsAll {place : Place} (trees : List Tree) (areValid : AreValid true place trees) :
    Accounts (yieldAll trees) (closingsAll place trees) := by
  cases trees with
  | nil => exact .of_unmarked (by simp [Unmarked, yieldAll])
  | cons tree rest =>
      rcases areValid with ⟨notEnd, isValid, _, restValid⟩
      exact (tree.accounts notEnd isValid).append (accountsAll rest restValid)

end

end Grammar

/-! ## Compiled sources -/

/-- In a source that is compiled with closing tags that have to repeat the names of their opening
tags, each mark that may begin a closing tag stands for one thing in the parse tree of the template:
it closes a pair of tags of the same name, or it is text in a list that is not directly between two
tags. -/
theorem Template.exists_trees_of_compile {source : String} {levels : Nat} {template : Template}
    (compiled : Template.compile source ⟨true, levels⟩ = .ok template) :
    ∃ trees,
      AreValid true .text trees ∧
      yieldAll trees ++ [Token.atEnd (Token.lastLine source.toList)] = (Token.scan source).tokens ∧
      joinLiterals (readAll trees) = template ∧
      (closingsAll .text trees).map Closing.mark = closingMarks (Token.scan source).tokens ∧
      ∀ closing ∈ closingsAll .text trees, closing.Fits := by
  rw [compile_eq_ok, parse_eq_ok] at compiled
  rcases compiled with ⟨clean, body, derived, rfl⟩
  rcases Token.exists_scans_of_scan clean with ⟨tokens, found, scans, whole⟩
  rw [found, beforeEnd_append scans.kind_ne_endMark rfl] at derived
  rcases derived.hasTree with ⟨trees, areValid, yields, rfl⟩
  have accounts := accountsAll trees areValid
  have isEnd : (Token.atEnd (Token.lastLine source.toList)).kind = .endMark := rfl
  refine ⟨trees, areValid, by rw [yields, found], rfl, ?_, accounts.fit⟩
  rw [found, ← yields]
  exact (accounts.thenUnmarked (unmarked_singleton isEnd (by decide))).marks

/-- The mark that may begin a closing tag, on the first line. -/
def closingMark : Token :=
  { kind := .tagClose, lexeme := "</", line := 1 }

/-- A closing tag of no tag is text, and the template has no tags. -/
theorem Template.compile_closingTag_alone :
    Template.compile "</b>" ⟨true, 256⟩ = .ok [.literal "</b>"] ∧
      closingMarks (Token.scan "</b>").tokens = [closingMark] := by
  have clean : (Token.scan "</b>").errors = [] := by decide +kernel
  have found : (Token.scan "</b>").tokens = [closingMark, ⟨.identifier, "b", none, 1⟩,
      ⟨.greater, ">", none, 1⟩, Token.atEnd 1] := by decide +kernel
  rw [compile_eq_ok, found]
  exact ⟨⟨clean, rfl⟩, rfl⟩

/-- Two pairs of tags inside each other, with a mark among the attributes of the outer one and a
closing tag of no tag behind it. -/
def pairsSource : String :=
  "<a </d><b></b></a></c>"

def pairsTemplate : Template :=
  [.tag "a" [.literal " </d"] [.tag "b" [] []], .literal "</c>"]

theorem Template.exists_trees_of_compile_pairsTemplate :
    Template.compile pairsSource ⟨true, 2⟩ = .ok pairsTemplate ∧
      ∃ trees, joinLiterals (readAll trees) = pairsTemplate ∧
        (closingsAll .text trees).map Closing.mark = List.replicate 4 closingMark ∧
        ∀ closing ∈ closingsAll .text trees, closing.Fits := by
  have clean : (Token.scan pairsSource).errors = [] := by decide +kernel
  have found : (Token.scan pairsSource).tokens =
      [(.less, "<"), (.identifier, "a"), (.blank, " "), (.tagClose, "</"), (.identifier, "d"),
        (.greater, ">"), (.less, "<"), (.identifier, "b"), (.greater, ">"), (.tagClose, "</"),
        (.identifier, "b"), (.greater, ">"), (.tagClose, "</"), (.identifier, "a"),
        (.greater, ">"), (.tagClose, "</"), (.identifier, "c"), (.greater, ">"),
        (.endMark, "")].map fun entry => { kind := entry.1, lexeme := entry.2, line := 1 } := by
    decide +kernel
  have compiled : Template.compile pairsSource ⟨true, 2⟩ = .ok pairsTemplate := by
    rw [compile_eq_ok, found]
    exact ⟨clean, rfl⟩
  rcases exists_trees_of_compile compiled with ⟨trees, _, _, reads, marks, fit⟩
  rw [found] at marks
  exact ⟨compiled, trees, reads, marks, fit⟩

end Stencil
