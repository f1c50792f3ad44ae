import Stencil.Proofs.Print.RoundTrip
import Stencil.Proofs.Render.Lists

/-!
# Rendering static text

A source without braces that open an interpolation or a block is static: its template consists of
tags, attributes and text.  Where closing tags repeat the names of their opening tags, such a
template renders to its source, except that a bare word that is the value of an attribute gets
quotes.
-/

namespace Stencil

open Grammar
open Token (Kind IsLexeme)
open Parse (Position)

mutual

/-- Whether an attribute whose value is a bare word stands somewhere in a statement. -/
def Statement.hasBare : Statement → Bool
  | .literal _ => false
  | .tag _ attributes content => hasBareAll attributes || hasBareAll content
  | .emptyTag _ attributes => hasBareAll attributes
  | .interpolation _ => false
  | .assignment given => given.hasBare
  | .quoted body => hasBareAll body
  | .ifThen _ body => hasBareAll body
  | .ifThenElse _ body alternative => hasBareAll body || hasBareAll alternative
  | .each _ _ body => hasBareAll body
  | .call _ given => hasBareArguments given

/-- Whether an attribute is or contains one whose value is a bare word. -/
def Attribute.hasBare : Attribute → Bool
  | .bare _ _ => true
  | .quoted _ body => hasBareAll body
  | .captured _ body => hasBareAll body

/-- Whether an attribute whose value is a bare word stands somewhere in a list. -/
def hasBareAll : List Statement → Bool
  | [] => false
  | statement :: rest => statement.hasBare || hasBareAll rest

/-- Whether an attribute whose value is a bare word stands somewhere in the attributes of a call. -/
def hasBareArguments : List Attribute → Bool
  | [] => false
  | given :: rest => given.hasBare || hasBareArguments rest

end

theorem hasBareAll_append (front back : List Statement) :
    hasBareAll (front ++ back) = (hasBareAll front || hasBareAll back) := by
  induction front with
  | nil => rfl
  | cons statement front ih =>
      rw [List.cons_append, hasBareAll, hasBareAll, ih, Bool.or_assoc]

theorem hasBareAll_ignoresJoining : IgnoresJoining hasBareAll where
  merge _ _ _ := rfl
  cons := by
    intro statement rest rest' same
    rw [hasBareAll, hasBareAll, same]

/-- Joining neighbouring text does not change which attributes there are. -/
theorem hasBareAll_joinLiterals (statements : List Statement) :
    hasBareAll (joinLiterals statements) = hasBareAll statements :=
  hasBareAll_ignoresJoining.joinLiterals statements

def withoutQuotes (text : List Char) : List Char :=
  text.filter fun char => char != '"'

@[simp] theorem withoutQuotes_append (front back : List Char) :
    withoutQuotes (front ++ back) = withoutQuotes front ++ withoutQuotes back :=
  List.filter_append front back

/-- A text is that of some tokens apart from quotes, and entirely if no attribute among them has a
bare word for its value. -/
structure Keeps (hasBare : Bool) (tokens : List Token) (text : String) : Prop where
  unquoted : withoutQuotes text.toList = withoutQuotes (Token.source tokens)
  whole : hasBare = false → text.toList = Token.source tokens

theorem Keeps.of_eq {hasBare : Bool} {tokens : List Token} {text : String}
    (same : text.toList = Token.source tokens) : Keeps hasBare tokens text :=
  ⟨congrArg withoutQuotes same, fun _ => same⟩

theorem Keeps.append {hasBare : Bool} {front back : List Token} {text more : String}
    (keeps : Keeps hasBare front text) (keepsMore : Keeps hasBare back more) :
    Keeps hasBare (front ++ back) (text ++ more) where
  unquoted := by
    rw [String.toList_append, withoutQuotes_append, keeps.unquoted, keepsMore.unquoted,
      Token.source_append, withoutQuotes_append]
  whole none := by
    rw [String.toList_append, keeps.whole none, keepsMore.whole none, Token.source_append]

/-- Other attributes may have bare words for their values as well. -/
theorem Keeps.mono {hasBare further : Bool} {tokens : List Token} {text : String}
    (keeps : Keeps hasBare tokens text) (includes : further = false → hasBare = false) :
    Keeps further tokens text :=
  ⟨keeps.unquoted, fun none => keeps.whole (includes none)⟩

/-! ## Rendering what is derived -/

/-- With at least the given number of levels, rendering yields a text that keeps that of the
tokens. -/
def Rendered (levels : Nat) (hasBare : Bool) (tokens : List Token)
    (render : Nat → Except Halt String) : Prop :=
  ∀ enough, levels ≤ enough → ∃ text, render enough = .ok text ∧ Keeps hasBare tokens text

/-- One level deeper, one more level is needed. -/
theorem Rendered.descend {levels : Nat} {hasBare : Bool} {tokens : List Token}
    {render : Nat → Except Halt String} (rendered : Rendered levels hasBare tokens render) :
    Rendered (levels + 1) hasBare tokens fun enough => Stencil.descend enough render := by
  intro enough fits
  rcases exists_fewer_of_succ_le fits with ⟨inner, rfl, further⟩
  exact rendered inner further

variable {registry : Registry} {callee? : Option Callee} {scope : Scope} {levels : Nat}
variable {position : Position} {place : Place} {tokens inside attributes : List Token}
variable {given body : List Statement} {opened name closed : Token}

/-- What is rendered for a phrase keeps the text of the tokens.  The attributes of a call are no
part of static text. -/
def Grammar.Phrase.Kept (registry : Registry) (callee? : Option Callee) (scope : Scope)
    (levels : Nat) (tokens : List Token) : Phrase → Prop
  | .statement _ read =>
    Rendered levels read.hasBare tokens (read.render registry callee? scope)
  | .list _ read =>
    Rendered levels (hasBareAll read) tokens (renderAll registry callee? read scope)
  | .attribute read =>
    Rendered levels read.hasBare tokens (read.render registry callee? scope)
  | .arguments _ => True

/-- The statements inside a construct are rendered one level deeper, their text joined. -/
theorem Grammar.Phrase.Kept.descend
    (content : Phrase.Kept registry callee? scope levels tokens (.list place body)) :
    Rendered (levels + 1) (hasBareAll body) tokens fun enough =>
      Stencil.descend enough fun inner =>
        renderAll registry callee? (joinLiterals body) scope inner := by
  simp only [renderAll_joinLiterals]
  exact Rendered.descend content

theorem kept_cons {statement : Statement} {more : List Statement} {front back : List Token}
    (one : Phrase.Kept registry callee? scope levels front (.statement position statement))
    (rest : Phrase.Kept registry callee? scope levels back (.list place more)) :
    Phrase.Kept registry callee? scope levels (front ++ back)
      (.list place (statement :: more)) := by
  intro enough fits
  rcases one enough fits with ⟨text, rendered, keeps⟩
  rcases rest enough fits with ⟨next, renderedMore, keepsMore⟩
  refine ⟨text ++ next, ?_, ?_⟩
  · rw [renderAll_cons, rendered, renderedMore]
    rfl
  · apply Keeps.append
    · apply keeps.mono
      intro none
      exact (Bool.or_eq_false_iff.mp none).1
    · apply keepsMore.mono
      intro none
      exact (Bool.or_eq_false_iff.mp none).2

theorem kept_quoted (openText : opened.lexeme.toList = ['"'])
    (content : Phrase.Kept registry callee? scope levels inside (.list .quotes body))
    (closeText : closed.lexeme.toList = ['"']) :
    Phrase.Kept registry callee? scope (levels + 1) (opened :: (inside ++ [closed]))
      (.statement position
        (.quoted (joinLiterals (.literal "\"" :: joinLiterals body ++ [.literal "\""])))) := by
  intro enough fits
  rcases exists_fewer_of_succ_le fits with ⟨inner, rfl, further⟩
  rcases content inner further with ⟨text, rendered, keeps⟩
  refine ⟨"\"" ++ (text ++ "\""), ?_, ?_⟩
  · simp only [Statement.render, descend, renderAll_joinLiterals, renderAll_append, renderAll_cons,
      List.cons_append, rendered]
    rfl
  · simp only [Statement.hasBare, hasBareAll_joinLiterals, hasBareAll_append, hasBareAll,
      List.cons_append, Bool.false_or, Bool.or_false]
    have opens : Keeps (hasBareAll body) [opened] "\"" := .of_eq (by simp [openText])
    have closes : Keeps (hasBareAll body) [closed] "\"" := .of_eq (by simp [closeText])
    exact opens.append (keeps.append closes)

theorem kept_emptyTag (openText : opened.lexeme.toList = ['<'])
    (within : Phrase.Kept registry callee? scope levels attributes (.list .opening given))
    (closeText : closed.lexeme.toList = ['/', '>']) :
    Phrase.Kept registry callee? scope (levels + 1) (opened :: name :: (attributes ++ [closed]))
      (.statement position (.emptyTag name.lexeme (joinLiterals given))) := by
  intro enough fits
  rcases within.descend enough fits with ⟨text, rendered, keeps⟩
  refine ⟨"<" ++ name.lexeme ++ text ++ "/>", ?_, ?_⟩
  · simp only [Statement.render, rendered]
    rfl
  · simp only [Statement.hasBare, hasBareAll_joinLiterals]
    have opens : Keeps (hasBareAll given) [opened, name] ("<" ++ name.lexeme) :=
      .of_eq (by simp [openText])
    have closes : Keeps (hasBareAll given) [closed] "/>" := .of_eq (by simp [closeText])
    exact (opens.append keeps).append closes

theorem kept_tag {ended closing finish : Token} (openText : opened.lexeme.toList = ['<'])
    (within : Phrase.Kept registry callee? scope levels attributes (.list .opening given))
    (endText : ended.lexeme.toList = ['>'])
    (content : Phrase.Kept registry callee? scope levels inside (.list .content body))
    (closeText : closed.lexeme.toList = ['<', '/']) (sameName : closing.lexeme = name.lexeme)
    (finishText : finish.lexeme.toList = ['>']) :
    Phrase.Kept registry callee? scope (levels + 1)
      (opened :: name :: (attributes ++ ended :: (inside ++ [closed, closing, finish])))
      (.statement position (.tag name.lexeme (joinLiterals given) (joinLiterals body))) := by
  intro enough fits
  rcases within.descend enough fits with ⟨text, rendered, keeps⟩
  rcases content.descend enough fits with ⟨next, renderedNext, keepsNext⟩
  refine ⟨"<" ++ name.lexeme ++ text ++ ">" ++ next ++ "</" ++ name.lexeme ++ ">", ?_, ?_⟩
  · simp only [Statement.render, rendered, renderedNext]
    rfl
  · simp only [Statement.hasBare, hasBareAll_joinLiterals]
    have opens : Keeps (hasBareAll given || hasBareAll body) [opened, name] ("<" ++ name.lexeme) :=
      .of_eq (by simp [openText])
    have ends : Keeps (hasBareAll given || hasBareAll body) [ended] ">" :=
      .of_eq (by simp [endText])
    have closes : Keeps (hasBareAll given || hasBareAll body) [closed] "</" :=
      .of_eq (by simp [closeText])
    have again : Keeps (hasBareAll given || hasBareAll body) [closing] name.lexeme :=
      .of_eq (by simp [sameName])
    have finishes : Keeps (hasBareAll given || hasBareAll body) [finish] ">" :=
      .of_eq (by simp [finishText])
    have keepsGiven : Keeps (hasBareAll given || hasBareAll body) attributes text :=
      keeps.mono fun none => (Bool.or_eq_false_iff.mp none).1
    have keepsBody : Keeps (hasBareAll given || hasBareAll body) inside next :=
      keepsNext.mono fun none => (Bool.or_eq_false_iff.mp none).2
    have whole := (((((opens.append keepsGiven).append ends).append keepsBody).append
      closes).append again).append finishes
    simpa only [List.cons_append, List.nil_append, List.append_assoc] using whole

theorem kept_bare {sign value : Token} (signText : sign.lexeme.toList = ['=']) :
    Phrase.Kept registry callee? scope levels [name, sign, value]
      (.attribute (.bare name.lexeme value.lexeme)) := by
  intro enough fits
  refine ⟨_, rfl, ?_, ?_⟩
  · simp [withoutQuotes, signText]
  · intro impossible
    cases impossible

theorem kept_quotedValue {sign : Token} (signText : sign.lexeme.toList = ['='])
    (openText : opened.lexeme.toList = ['"'])
    (content : Phrase.Kept registry callee? scope levels inside (.list .quotes body))
    (closeText : closed.lexeme.toList = ['"']) :
    Phrase.Kept registry callee? scope (levels + 1)
      (name :: sign :: opened :: (inside ++ [closed]))
      (.attribute (.quoted name.lexeme (joinLiterals body))) := by
  intro enough fits
  rcases content.descend enough fits with ⟨text, rendered, keeps⟩
  refine ⟨name.lexeme ++ "=\"" ++ text ++ "\"", ?_, ?_⟩
  · simp only [Attribute.render, rendered]
    rfl
  · simp only [Attribute.hasBare, hasBareAll_joinLiterals]
    have opens : Keeps (hasBareAll body) [name, sign, opened] (name.lexeme ++ "=\"") :=
      .of_eq (by simp [signText, openText])
    have closes : Keeps (hasBareAll body) [closed] "\"" := .of_eq (by simp [closeText])
    exact (opens.append keeps).append closes

/-- The kinds of tokens that interpolations, calls and blocks begin or end with. -/
def codeKinds : List Kind :=
  [.mustacheOpen, .blockOpen, .blockClose]

/-- Rendering what static tokens derive keeps their text.  Only closing tags that repeat the names
of their opening tags are derived, so the names may be taken from the opening tags. -/
theorem Grammar.Derives.kept (registry : Registry) (callee? : Option Callee) (scope : Scope)
    {phrase : Phrase} (derived : Derives true levels phrase tokens)
    (static : ∀ token ∈ tokens, IsLexeme token ∧ token.kind ∉ codeKinds) :
    phrase.Kept registry callee? scope levels tokens := by
  induction derived with
  | nil =>
      intro enough _
      exact ⟨"", rfl, .of_eq rfl⟩
  | cons _ _ _ _ one rest =>
      rw [List.forall_mem_append] at static
      exact kept_cons (one static.1) (rest static.2)
  | @literal _ _ token =>
      intro enough _
      exact ⟨token.lexeme, rfl, .of_eq (by simp)⟩
  | interpolation encloses =>
      cases encloses with
      | intro isOpened =>
          simp [isOpened, codeKinds] at static
  | assignment _ one => exact one static
  | quoted isOpened _ isClosed content =>
      simp only [List.forall_mem_cons, List.forall_mem_append] at static
      exact kept_quoted (static.1.1.spelled isOpened rfl) (content static.2.1)
        (static.2.2.1.1.spelled isClosed rfl)
  | emptyTag isOpened _ _ isClosed within =>
      simp only [List.forall_mem_cons, List.forall_mem_append] at static
      exact kept_emptyTag (static.1.1.spelled isOpened rfl) (within static.2.2.1)
        (static.2.2.2.1.1.spelled isClosed rfl)
  | tag isOpened _ _ isEnd _ isClosed _ same isFinish within content =>
      simp only [List.forall_mem_cons, List.forall_mem_append] at static
      rcases static with ⟨opens, _, given, ends, body, closes, _, finishes, _⟩
      exact kept_tag (opens.1.spelled isOpened rfl) (within given) (ends.1.spelled isEnd rfl)
        (content body) (closes.1.spelled isClosed rfl) (same rfl) (finishes.1.spelled isFinish rfl)
  | bare _ isSign =>
      simp only [List.forall_mem_cons] at static
      exact kept_bare (static.2.1.1.spelled isSign rfl)
  | quotedValue _ isSign isOpened _ isClosed content =>
      simp only [List.forall_mem_cons, List.forall_mem_append] at static
      rcases static with ⟨_, sign, opens, inside, closes, _⟩
      exact kept_quotedValue (sign.1.spelled isSign rfl) (opens.1.spelled isOpened rfl)
        (content inside) (closes.1.spelled isClosed rfl)
  | argumentsEnd | argumentsCons => trivial
  | ifThen opened | ifThenElse opened | each opened | call opened | slot opened =>
      rcases opened.three with ⟨first, _, _, rfl, isFirst, _⟩
      simp [isFirst, codeKinds] at static

/-- A source without tokens that begin or end an interpolation, a call or a block is preserved.  If
it is compiled with closing tags that have to repeat the names of their opening tags, then rendering
the template in any context yields the source apart from quotes, and the source itself unless some
attribute has a bare word for its value. -/
theorem Template.exists_render_static {source : String} {levels : Nat} {template : Template}
    (static : ∀ token ∈ (Token.scan source).tokens, token.kind ∉ codeKinds)
    (compiled : Template.compile source ⟨true, levels⟩ = .ok template) (context : Context)
    (registry : Registry) (limits : RenderLimits) (enough : levels ≤ limits.nesting) :
    ∃ text, template.render context registry limits = .ok text ∧
      withoutQuotes text.toList = withoutQuotes source.toList ∧
      (hasBareAll template = false → text = source) := by
  rw [compile_eq_ok, parse_eq_ok] at compiled
  rcases compiled with ⟨clean, body, derived, rfl⟩
  rcases Token.exists_scans_of_scan clean with ⟨tokens, found, scans, whole⟩
  rw [found, beforeEnd_append scans.kind_ne_endMark rfl] at derived
  rw [found, List.forall_mem_append] at static
  have lexemes : ∀ token ∈ tokens, IsLexeme token ∧ token.kind ∉ codeKinds := by
    intro token member
    exact ⟨scans.forall_fitsIn token member, static.1 token member⟩
  rcases exists_renderIn_eq registry limits.calls with ⟨callee?, renderIn_eq⟩
  have kept := (derived.kept registry callee? [context.bindings] lexemes).descend
  rcases kept (limits.nesting + 1) (Nat.succ_le_succ enough) with ⟨text, rendered, keeps⟩
  rw [hasBareAll_joinLiterals]
  refine ⟨text, mapError_eq_ok.mpr ((renderIn_eq _ _ _).trans rendered), ?_, ?_⟩
  · rw [keeps.unquoted, whole]
  · intro noBare
    rw [← String.toList_inj, keeps.whole noBare, whole]

def staticSource : String :=
  "<p a=\"b\" c=d>\"e\" <br/></p>"

def staticTokens : List Token :=
  [(.less, "<", none), (.identifier, "p", none), (.blank, " ", none), (.identifier, "a", none),
    (.equal, "=", none), (.quote, "\"", none), (.string, "b", some (.text "b")),
    (.quote, "\"", none), (.blank, " ", none), (.identifier, "c", none), (.equal, "=", none),
    (.identifier, "d", none), (.greater, ">", none), (.quote, "\"", none),
    (.string, "e", some (.text "e")), (.quote, "\"", none), (.blank, " ", none),
    (.less, "<", none), (.identifier, "br", none), (.selfClose, "/>", none),
    (.tagClose, "</", none), (.identifier, "p", none), (.greater, ">", none),
    (.endMark, "", none)].map fun entry =>
      { kind := entry.1, lexeme := entry.2.1, literal? := entry.2.2, line := 1 }

def staticTemplate : Template :=
  [.tag "p" [.literal " ", .assignment (.quoted "a" [.literal "b"]), .literal " ",
      .assignment (.bare "c" "d")]
    [.quoted [.literal "\"e\""], .literal " ", .emptyTag "br" []]]

theorem Template.exists_render_static_staticTemplate :
    (∀ token ∈ (Token.scan staticSource).tokens, token.kind ∉ codeKinds) ∧
      Template.compile staticSource ⟨true, 3⟩ = .ok staticTemplate ∧ 3 ≤ 3 ∧
      ∃ text, staticTemplate.render {} {} ⟨0, 3⟩ = .ok text ∧
        withoutQuotes text.toList = withoutQuotes staticSource.toList ∧
        (hasBareAll staticTemplate = false → text = staticSource) := by
  have clean : (Token.scan staticSource).errors = [] := by decide +kernel
  have found : (Token.scan staticSource).tokens = staticTokens := by decide +kernel
  have static : ∀ token ∈ (Token.scan staticSource).tokens, token.kind ∉ codeKinds := by
    rw [found]
    decide
  have compiled : Template.compile staticSource ⟨true, 3⟩ = .ok staticTemplate := by
    rw [compile_eq_ok, found]
    exact ⟨clean, rfl⟩
  exact ⟨static, compiled, Nat.le_refl 3,
    exists_render_static static compiled {} {} ⟨0, 3⟩ (Nat.le_refl 3)⟩

/-- Only the bare word gets quotes. -/
example : staticTemplate.render {} {} ⟨0, 3⟩ = .ok "<p a=\"b\" c=\"d\">\"e\" <br/></p>" := by
  decide +kernel

end Stencil
