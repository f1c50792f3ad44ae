import Stencil.Proofs.Render.Interpolation
import Stencil.Proofs.Render.Substitution

/-!
# Reading a binding under its own name

A loop and a call bind a name, and an interpolation in them reads it.  The binder takes the name
whole, while the interpolation takes its path apart at the points: a name without a point is read as
it was bound, and a name with a point is not found, so that its path is looked up around the binder.
-/

namespace Stencil

open Grammar
open Parse (Position)
open Token (Kind fixed identifier enclosed gap Scans Joins IsIdentifier HasBraces)

variable {name text : String} {context : Context} {registry : Registry}

/-- What an interpolation of a name yields where the name alone is bound. -/
theorem Scope.textAt_cons_singleton (name : String) (value : Value) (scope : Scope) :
    Scope.textAt ([(name, value)] :: scope) name =
      if '.' ∈ name.toList then scope.textAt name else value.text := by
  split
  next dotted =>
    apply Scope.textAt_congr
    rcases Path.names_eq_root_cons name with ⟨rest, names⟩
    have noPoint : '.' ∉ (Path.root name).toList := by
      apply Path.not_mem_of_mem_names
      rw [names]
      exact List.mem_cons_self
    have different : name ≠ Path.root name := fun same => noPoint (same ▸ dotted)
    simp [Scope.get?, Bindings.get?, different]
  next plain =>
    simp [Scope.textAt, Scope.lookup?, Path.names_eq_singleton plain, Scope.get?, Bindings.get?,
      Value.follow?]

/-- The source of a loop over `xs` that shows its items. -/
def loopSource (name : String) : String :=
  r"{{#each xs " ++ name ++ r"}}{{" ++ name ++ r"}}{{/each}}"

def loopTokens (name : String) : List Token :=
  [fixed .blockOpen, fixed .eachWord, gap, identifier "xs", gap, identifier name,
    fixed .mustacheClose, fixed .mustacheOpen, identifier name, fixed .mustacheClose,
    fixed .blockClose, fixed .eachWord, fixed .mustacheClose]

theorem isIdentifier_xs : IsIdentifier "xs" := by
  decide

theorem scans_loopTokens (isName : IsIdentifier name) :
    Scans .plain (loopTokens name) .plain := by
  apply Token.scans_of_isChain
  · simp only [loopTokens, List.forall_mem_cons]
    simp (disch := decide) [Token.fixed_staysPlain, Token.gap_staysPlain,
      isIdentifier_xs.staysPlain, isName.staysPlain]
  · simp only [loopTokens, List.isChain_cons_cons]
    exact ⟨Token.fixed_joins (by decide), Token.fixed_joins (by decide),
      isIdentifier_xs.joins (by decide), Token.identifier_joins _ rfl, isName.joins (by decide),
      Token.identifier_joins _ rfl, Token.fixed_joins (by decide), isName.joins (by decide),
      Token.identifier_joins _ rfl, Token.fixed_joins (by decide), Token.fixed_joins (by decide),
      Token.fixed_joins (by decide), .singleton _⟩

theorem source_loopTokens (name : String) :
    Token.source (loopTokens name) = (loopSource name).toList := by
  simp [loopTokens, loopSource, fixed, Kind.spelling?, Token.marks, gap, identifier]

def loopTemplate (name : String) : Template :=
  [.each "xs" name [.interpolation name]]

theorem closes_directly : Closes [fixed .mustacheClose] :=
  @Closes.intro [] (fixed .mustacheClose) (by simp [IsSpace]) rfl

theorem encloses_directly (opening : Kind) {word : Kind} {name : Token} (named : name.kind = word) :
    Encloses opening word name [fixed opening, name, fixed .mustacheClose] :=
  @Encloses.intro _ _ _ (fixed opening) [] _ rfl (by simp [IsSpace]) named closes_directly

theorem derives_interpolation (matchNames : Bool) (levels : Nat) (place : Place) (path : String)
    (notEnd : .mustacheOpen ∉ place.ends) :
    Derives matchNames (levels + 1) (.list place [.interpolation path])
      [fixed .mustacheOpen, identifier path, fixed .mustacheClose] :=
  have named : (identifier path).kind = .identifier := rfl
  .singleton notEnd (.interpolation (encloses_directly .mustacheOpen named))

theorem compile_loopSource (isName : IsIdentifier name) :
    Template.compile (loopSource name) = .ok (loopTemplate name) := by
  apply Template.compile_eq_ok_iff.mpr
  refine ⟨loopTokens name, loopTemplate name, scans_loopTokens isName, source_loopTokens name, ?_,
    rfl⟩
  have opens : HasKinds [.blockOpen, .eachWord, .blank] [fixed .blockOpen, fixed .eachWord, gap] :=
    rfl
  have collection : (identifier "xs").kind = .identifier := rfl
  have blank : gap.kind = .blank := rfl
  have item : (identifier name).kind = .identifier := rfl
  have body := derives_interpolation false 254 .text name (by decide)
  have word : (fixed .eachWord).kind = .eachWord := rfl
  have derived : Derives false 256 (.statement .content _) _ :=
    .each opens collection blank item closes_directly body (encloses_directly .blockClose word)
  exact .singleton (by decide) derived

theorem render_loopTemplate {values : List Value}
    (isList : context.get? "xs" = some (.array values)) (name : String) (registry : Registry) :
    (loopTemplate name).render context registry =
      .ok (String.join (values.map fun value =>
        if '.' ∈ name.toList then Scope.textAt [context.bindings] name else value.text)) := by
  have items : Scope.itemsAt? [context.bindings] "xs" = some values := by
    have found : Bindings.get? context.bindings "xs" = some (.array values) := isList
    have single : Path.names "xs" = ["xs"] := Path.names_eq_singleton (by decide)
    simp [Scope.itemsAt?, Scope.lookup?, single, Scope.get?, found, Value.follow?, Value.items?]
  apply Template.render_singleton
  intro callee?
  have round : ∀ value, (descend 512 fun inner => renderAll registry callee? [.interpolation name]
      ([(name, value)] :: [context.bindings]) inner) =
        pure (if '.' ∈ name.toList then Scope.textAt [context.bindings] name else value.text) := by
    intro value
    rw [descend, renderAll_singleton, Statement.render, Scope.textAt_cons_singleton]
    rfl
  rw [Statement.render, items]
  simp only [round, List.mapM_pure]
  rfl

theorem renderSource_loopSource (isName : IsIdentifier name) {values : List Value}
    (isList : context.get? "xs" = some (.array values)) (registry : Registry) :
    renderSource (loopSource name) context registry =
      .ok (String.join (values.map fun value =>
        if '.' ∈ name.toList then Scope.textAt [context.bindings] name else value.text)) :=
  renderSource_eq_ok (compile_loopSource isName) (render_loopTemplate isList name registry)

/-- The source of a call of `P` that gives a text for a name. -/
def callSource (name text : String) : String :=
  r"{{> P " ++ name ++ "=\"" ++ text ++ r#""}}"#

/-- The tokens of that source in front of the text in quotes. -/
def callTokens (name : String) : List Token :=
  [fixed .mustacheOpen, fixed .greater, gap, identifier "P", gap, identifier name, fixed .equal]

theorem isIdentifier_P : IsIdentifier "P" := by
  decide

theorem scans_callTokens (isName : IsIdentifier name) :
    Scans .plain (callTokens name) .plain := by
  apply Token.scans_of_isChain
  · simp only [callTokens, List.forall_mem_cons]
    simp (disch := decide) [Token.fixed_staysPlain, Token.gap_staysPlain,
      isIdentifier_P.staysPlain, isName.staysPlain]
  · simp only [callTokens, List.isChain_cons_cons]
    exact ⟨Token.fixed_joins (by decide), Token.fixed_joins (by decide),
      isIdentifier_P.joins (by decide), Token.identifier_joins _ rfl, isName.joins (by decide),
      Token.identifier_joins _ rfl, .singleton _⟩

def enclosedBody (text : String) : List Statement :=
  (enclosed text).map fun token => .literal token.lexeme

theorem derives_enclosedBody (matchNames : Bool) (levels : Nat) (text : String) :
    Derives matchNames (levels + 1) (.list .quotes (enclosedBody text)) (enclosed text) := by
  unfold enclosedBody enclosed
  split
  next => exact .nil
  next =>
    have notEnd : Kind.string ∉ Place.quotes.ends := by decide
    have notReserved : Kind.string ∉ reserved := by decide
    exact .singleton notEnd (.literal notReserved)

theorem renderAll_enclosedBody {callee? : Option Callee} {scope : Scope} {levels : Nat}
    (text : String) : renderAll registry callee? (enclosedBody text) scope levels = .ok text := by
  unfold enclosedBody enclosed
  split
  next isEmpty => rw [isEmpty, List.map_nil, renderAll]
  next => rw [List.map_singleton, renderAll_singleton, Statement.render]

theorem scans_callSource (isName : IsIdentifier name) (noQuote : '"' ∉ text.toList)
    (noBraces : ¬ HasBraces text.toList) :
    Scans .plain (callTokens name ++
      fixed .quote :: (enclosed text ++ [fixed .quote, fixed .mustacheClose])) .plain := by
  have closes : Scans .plain [fixed .mustacheClose] .plain :=
    ⟨Token.fixed_fitsIn (by decide) rfl, by simp, rfl⟩
  rw [Token.scans_append]
  refine ⟨.plain, scans_callTokens isName, Token.scans_enclosed noQuote noBraces closes, ?_⟩
  intro token isLast next isNext
  cases isLast
  cases isNext
  exact Token.fixed_joins (by decide)

theorem compile_callSource (isName : IsIdentifier name) (noQuote : '"' ∉ text.toList)
    (noBraces : ¬ HasBraces text.toList) :
    Template.compile (callSource name text) =
      .ok [.call "P" [.quoted name (joinLiterals (enclosedBody text))]] := by
  apply Template.compile_eq_ok_iff.mpr
  refine ⟨_, [.call "P" [.quoted name (joinLiterals (enclosedBody text))]],
    scans_callSource isName noQuote noBraces, ?_, ?_, rfl⟩
  · simp [callTokens, callSource, fixed, Kind.spelling?, Token.marks, gap, identifier]
  · have opens : HasKinds [.mustacheOpen, .greater, .blank]
        [fixed .mustacheOpen, fixed .greater, gap] := rfl
    have callee : (identifier "P").kind = .identifier := rfl
    have space : IsSpace [gap] := by simp [IsSpace, gap, Kind.isSpace]
    have named : (identifier name).kind = .identifier := rfl
    have sign : (fixed .equal).kind = .equal := rfl
    have quote : (fixed .quote).kind = .quote := rfl
    have given : Derives false 255 (.attribute (.quoted name _)) _ :=
      .quotedValue named sign quote (derives_enclosedBody false 253 text) quote
    have derived : Derives false 256 (.statement .content (.call "P" _)) _ :=
      .call opens callee (.argumentsCons space given (.argumentsEnd closes_directly))
    have tokens : callTokens name ++
        fixed .quote :: (enclosed text ++ [fixed .quote, fixed .mustacheClose]) =
          callTokens name ++ fixed .quote :: (enclosed text ++ [fixed .quote]) ++
            [fixed .mustacheClose] := by simp
    rw [tokens]
    exact .singleton (by decide) derived

/-- A call renders what it calls with the text bound to the name. -/
theorem render_call_quoted (registered : registry.get? "P" = some [.interpolation name])
    (text : String) (context : Context) :
    Template.render [.call "P" [.quoted name (joinLiterals (enclosedBody text))]] context registry =
      .ok (if '.' ∈ name.toList then Scope.textAt [context.bindings] name else text) := by
  rw [Template.render, mapError_eq_ok]
  apply (Template.renderIn_call_eq_ok_iff registered _ _).mpr
  refine ⟨[(name, .string text)], ?_, ?_⟩
  · rw [bindAll, Attribute.bind, descend, renderAll_joinLiterals, renderAll_enclosedBody]
    rfl
  · rcases Template.exists_renderIn_eq registry 63 with ⟨callee?, renderIn_eq⟩
    rw [renderIn_eq, descend, renderAll_singleton, Statement.render]
    exact congrArg Except.ok (Scope.textAt_cons_singleton name (.string text) [context.bindings])

/-- Whatever a loop or a call binds to a name without a point is read under that name.  A name with
a point is bound too, but a path is looked up in its place, and that path is the one around the loop
or the call. -/
theorem renderSource_binder
    (oneToken : Token.scan name = { tokens := [identifier name, Token.atEnd 1], errors := [] }) :
    (∀ context registry values, Context.get? context "xs" = some (.array values) →
      renderSource (loopSource name) context registry =
        .ok (String.join (values.map fun value =>
          if '.' ∈ name.toList then Scope.textAt [context.bindings] name else value.text))) ∧
      ∀ context registry text, '"' ∉ text.toList → ¬ HasBraces text.toList →
        ∃ registered,
          Registry.register registry "P" (interpolationSource "" name "") = .ok registered ∧
          renderSource (callSource name text) context registered =
            .ok (if '.' ∈ name.toList then Scope.textAt [context.bindings] name else text) := by
  have isName : IsIdentifier name := Token.isIdentifier_iff_scan.mpr oneToken
  constructor
  · intro context registry values isList
    exact renderSource_loopSource isName isList registry
  · intro context registry text noQuote noBraces
    have compiled : Template.compile (interpolationSource "" name "") = .ok [.interpolation name] :=
      Template.compile_interpolation isName (by simp) (by simp)
    refine ⟨registry.insert "P" [.interpolation name], ?_, ?_⟩
    · rw [Registry.register, compiled]
      rfl
    · exact renderSource_eq_ok (compile_callSource isName noQuote noBraces)
        (render_call_quoted (Registry.get?_insert_self _ _ _) text context)

def listContext : Context :=
  Context.empty.set "xs" (.array [.string "v"])

theorem isIdentifier_dotted : IsIdentifier "a.b" := by
  decide

/-- What a loop binds to a name with a point is not read under that name. -/
theorem renderSource_loopSource_dotted :
    Token.scan "a.b" = { tokens := [identifier "a.b", Token.atEnd 1], errors := [] } ∧
      listContext.get? "xs" = some (.array [.string "v"]) ∧
      renderSource (loopSource "a.b") listContext Registry.empty = .ok "" ∧
      "" ≠ String.join ([Value.string "v"].map Value.text) := by
  have isList : listContext.get? "xs" = some (.array [.string "v"]) := rfl
  have rendered := renderSource_loopSource isIdentifier_dotted isList Registry.empty
  exact ⟨Token.isIdentifier_iff_scan.mp isIdentifier_dotted, isList, rendered, by decide⟩

/-- A name that is no word is read under that name. -/
theorem renderSource_binder_listContext :
    Token.scan "é@1" = { tokens := [identifier "é@1", Token.atEnd 1], errors := [] } ∧
      renderSource (loopSource "é@1") listContext Registry.empty = .ok "v" ∧
      ∃ registered,
        Registry.empty.register "P" (interpolationSource "" "é@1" "") = .ok registered ∧
          renderSource (callSource "é@1" "a {b}\n") listContext registered =
            .ok "a {b}\n" := by
  have isName : IsIdentifier "é@1" := {
    word := ⟨'é', ['@', '1'], rfl, by decide, List.all_eq_true.mp rfl⟩
    notReserved := by decide }
  have oneToken := Token.isIdentifier_iff_scan.mp isName
  rcases renderSource_binder oneToken with ⟨loops, calls⟩
  refine ⟨oneToken, loops listContext Registry.empty _ rfl, ?_⟩
  rcases calls listContext Registry.empty "a {b}\n" (by decide) (by decide) with
    ⟨registered, isRegistered, rendered⟩
  exact ⟨registered, isRegistered, rendered⟩

end Stencil
