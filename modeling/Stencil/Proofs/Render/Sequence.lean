import Stencil.Proofs.Render.Buffer

/-!
# Rendering statement by statement

A template is rendered from front to back, and each statement is rendered as if it stood alone: its
text is put behind the text that is there already, and the first statement that fails is where the
rendering stops.  A statement leaves nothing behind for the next one but its text.
-/

namespace Stencil

variable {registry : Registry} {context : Context} {limits : RenderLimits}

theorem Template.render_append_eq (front back : Template) :
    Template.render (front ++ back) context registry limits = do
      let text ← front.render context registry limits
      let more ← back.render context registry limits
      return text ++ more := by
  rw [render_eq_renderOnto, renderOnto_append, ← render_eq_renderOnto]
  simp only [renderOnto_eq]
  cases front.render context registry limits with
  | error failure => rfl
  | ok text => cases back.render context registry limits <;> rfl

/-- Rendering two templates one after the other yields both texts, or the failure of the first one
that fails.  In one buffer, the second template is rendered behind what the first one has left
there, whatever text is there already.  Every list of statements appends the same text to every
buffer, with the same result, also where it stops. -/
theorem Template.render_append (context : Context) (registry : Registry) (limits : RenderLimits) :
    (∀ (front back : Template) text more,
        front.render context registry limits = .ok text →
        back.render context registry limits = .ok more →
        Template.render (front ++ back) context registry limits = .ok (text ++ more)) ∧
      (∀ (front back : Template) failure,
        front.render context registry limits = .error failure →
        Template.render (front ++ back) context registry limits = .error failure) ∧
      (∀ (front back : Template) text failure,
        front.render context registry limits = .ok text →
        back.render context registry limits = .error failure →
        Template.render (front ++ back) context registry limits = .error failure) ∧
      (∀ (template : Template) written,
        template.renderOnto context registry limits written =
          (template.render context registry limits).map fun text => written ++ text) ∧
      (∀ (front back : Template) written,
        Template.renderOnto (front ++ back) context registry limits written = (do
          let text ← front.renderOnto context registry limits written
          back.renderOnto context registry limits text)) ∧
      ∀ statements scope frame, ∃ result text, ∀ buffer,
        Buffer.renderInto registry limits statements scope frame buffer =
          (result, buffer ++ text) := by
  refine ⟨?_, ?_, ?_, renderOnto_eq, renderOnto_append, Buffer.exists_yields_renderInto⟩
  · intro front back text more rendered renderedMore
    rw [render_append_eq, rendered, renderedMore]
    rfl
  · intro front back failure failed
    rw [render_append_eq, failed]
    rfl
  · intro front back text failure rendered failed
    rw [render_append_eq, rendered, failed]
    rfl

def headTemplate : Template :=
  [.tag "h1" [] [.interpolation "title"], .call "rule" []]

def rowsTemplate : Template :=
  [.each "rows" "row" [.tag "li" [] [.interpolation "row"]]]

def ruleRegistry : Registry :=
  Registry.empty.insert "rule" [.literal "<hr/>"]

def rowsContext : Context :=
  (Context.empty.set "title" (.string "T")).set "rows" (.array [.string "1", .string "2"])

/-- With rows, both texts stand one after the other, also behind text that is written already.
Without rows, the loop fails in both orders. -/
theorem Template.render_append_rowsTemplate :
    Template.render (headTemplate ++ rowsTemplate) rowsContext ruleRegistry =
        .ok "<h1>T</h1><hr/><li>1</li><li>2</li>" ∧
      Template.render (headTemplate ++ rowsTemplate) Context.empty ruleRegistry =
        .error (.notIterable "rows") ∧
      Template.render (rowsTemplate ++ headTemplate) Context.empty ruleRegistry =
        .error (.notIterable "rows") ∧
      rowsTemplate.renderOnto rowsContext ruleRegistry {} "<ul>" =
        .ok "<ul><li>1</li><li>2</li>" := by
  have head : headTemplate.render rowsContext ruleRegistry = .ok "<h1>T</h1><hr/>" := rfl
  have rows : rowsTemplate.render rowsContext ruleRegistry = .ok "<li>1</li><li>2</li>" := rfl
  have emptyHead : headTemplate.render Context.empty ruleRegistry = .ok "<h1></h1><hr/>" := rfl
  have noRows : rowsTemplate.render Context.empty ruleRegistry = .error (.notIterable "rows") := rfl
  rcases render_append rowsContext ruleRegistry {} with ⟨both, _, _, onto, _, _⟩
  rcases render_append Context.empty ruleRegistry {} with ⟨_, first, second, _, _, _⟩
  refine ⟨both _ _ _ _ head rows, second _ _ _ _ emptyHead noRows, first _ _ _ noRows, ?_⟩
  rw [onto, rows]
  rfl

end Stencil
