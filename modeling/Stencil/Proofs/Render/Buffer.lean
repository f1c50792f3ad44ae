import Stencil.Proofs.Render.Lists

/-!
# Rendering into a buffer

A renderer need not put texts together.  It can write each piece of text to the end of one buffer
as soon as it has it, count in how many calls and statements it is on the way, and stop in the
middle of a text that is half written.  Only what a call binds is rendered into a buffer of its own.

Every construct only appends to the buffer, and what it appends does not depend on what is there
already, also if it stops.  So the buffer holds the text that `Template.render` yields.
-/

namespace Stencil

namespace Buffer

variable {α β : Type}

/-- A computation that writes to a buffer.  It yields a value or stops with a failure, and leaves
the buffer behind in both cases. -/
def Writer (α : Type) : Type :=
  String → Except RenderError α × String

/-- Go on behind a computation, unless it stops. -/
def Writer.bind (run : Writer α) (next : α → Writer β) : Writer β := fun buffer =>
  match run buffer with
  | (.error failure, after) => (.error failure, after)
  | (.ok value, after) => next value after

instance : Monad Writer where
  pure value := fun buffer => (.ok value, buffer)
  bind := Writer.bind

def write (text : String) : Writer Unit :=
  fun buffer => (.ok (), buffer ++ text)

def stop (failure : RenderError) : Writer α :=
  fun buffer => (.error failure, buffer)

/-- The buffer that a computation leaves behind, unless it stops. -/
def filled (run : Writer Unit) (buffer : String) : Except RenderError String :=
  match run buffer with
  | (.ok (), after) => .ok after
  | (.error failure, _) => .error failure

/-- The text that a computation writes to a buffer of its own. -/
def apart (run : Writer Unit) : Writer String :=
  fun buffer => (filled run "", buffer)

/-- Where a renderer is: in how many calls, and in how many statements, also across calls. -/
structure Frame where
  calls : Nat := 0
  nesting : Nat := 0

def Frame.nested (frame : Frame) : Frame :=
  { frame with nesting := frame.nesting + 1 }

def Frame.intoCall (frame : Frame) : Frame :=
  { calls := frame.calls + 1, nesting := frame.nesting + 1 }

theorem Frame.sub_intoCall_lt {frame : Frame} {limit : Nat} (isLeft : ¬ limit ≤ frame.calls) :
    limit - frame.intoCall.calls < limit - frame.calls := by
  simp only [intoCall]
  omega

mutual

/-- Write the text of a list of statements, unless it is in too many statements. -/
def renderInto (registry : Registry) (limits : RenderLimits) (statements : List Statement)
    (scope : Scope) (frame : Frame) : Writer Unit :=
  if limits.nesting < frame.nesting then stop (.nestingTooDeep limits.nesting)
  else writeAll registry limits statements scope frame
termination_by (limits.calls - frame.calls, sizeOf statements, 1)

def writeAll (registry : Registry) (limits : RenderLimits) (statements : List Statement)
    (scope : Scope) (frame : Frame) : Writer Unit :=
  match statements with
  | [] => pure ()
  | statement :: rest => do
    writeStatement registry limits statement scope frame
    writeAll registry limits rest scope frame
termination_by (limits.calls - frame.calls, sizeOf statements, 0)

def writeStatement (registry : Registry) (limits : RenderLimits) (statement : Statement)
    (scope : Scope) (frame : Frame) : Writer Unit :=
  match statement with
  | .literal text => write text
  | .interpolation path =>
    match scope.lookup? path with
    | some value => write value.text
    | none => pure ()
  | .quoted body => renderInto registry limits body scope frame.nested
  | .assignment given => writeAttribute registry limits given scope frame.nested
  | .tag name attributes content => do
    write "<"
    write name
    renderInto registry limits attributes scope frame.nested
    write ">"
    renderInto registry limits content scope frame.nested
    write "</"
    write name
    write ">"
  | .emptyTag name attributes => do
    write "<"
    write name
    renderInto registry limits attributes scope frame.nested
    write "/>"
  | .ifThen condition body =>
    if scope.holds condition then renderInto registry limits body scope frame.nested
    else pure ()
  | .ifThenElse condition body alternative =>
    if scope.holds condition then renderInto registry limits body scope frame.nested
    else renderInto registry limits alternative scope frame.nested
  | .each collection item body =>
    match scope.itemsAt? collection with
    | none => stop (.notIterable collection)
    | some values =>
      values.forM fun value =>
        renderInto registry limits body ([(item, value)] :: scope) frame.nested
  | .call name given =>
    match registry.get? name with
    | none => pure ()
    | some template =>
      if limits.calls ≤ frame.calls then stop (.callTooDeep name limits.calls)
      else do
        let locals ← bindInto registry limits given scope frame []
        renderInto registry limits template (locals :: scope) frame.intoCall
termination_by (limits.calls - frame.calls, sizeOf statement, 0)
decreasing_by
  all_goals first
    | decreasing_tactic
    | exact Prod.Lex.left _ _ (Frame.sub_intoCall_lt ‹_›)

def writeAttribute (registry : Registry) (limits : RenderLimits) (given : Attribute)
    (scope : Scope) (frame : Frame) : Writer Unit :=
  match given with
  | .bare name value => do
    write name
    write "=\""
    write value
    write "\""
  | .quoted name body => do
    write name
    write "=\""
    renderInto registry limits body scope frame
    write "\""
  | .captured name body => do
    write name
    write "=\""
    renderInto registry limits body scope frame
    write "\""
termination_by (limits.calls - frame.calls, sizeOf given, 0)

/-- The value that an attribute of a call stands for. -/
def valueOf (registry : Registry) (limits : RenderLimits) (given : Attribute) (scope : Scope)
    (frame : Frame) : Writer Value :=
  match given with
  | .bare _ path => pure ((scope.lookup? path).getD .null)
  | .quoted _ body => do
    return .string (← apart (renderInto registry limits body scope frame.nested))
  | .captured _ body => do
    return .string (← apart (renderInto registry limits body scope frame.nested))
termination_by (limits.calls - frame.calls, sizeOf given, 0)

/-- Add the bindings that the attributes of a call make, one after the other. -/
def bindInto (registry : Registry) (limits : RenderLimits) (arguments : List Attribute)
    (scope : Scope) (frame : Frame) (locals : Bindings Value) : Writer (Bindings Value) :=
  match arguments with
  | [] => pure locals
  | given :: rest => do
    let value ← valueOf registry limits given scope frame
    bindInto registry limits rest scope frame (locals.set given.name value)
termination_by (limits.calls - frame.calls, sizeOf arguments, 0)

end

/-! ## What is appended -/

variable {registry : Registry} {limits : RenderLimits} {scope : Scope} {frame : Frame}

/-- The computation has the given result, and appends the given text to every buffer. -/
def Writer.Yields (run : Writer α) (result : Except RenderError α) (text : String) : Prop :=
  ∀ buffer, run buffer = (result, buffer ++ text)

theorem Writer.Yields.bind_ok {run : Writer α} {next : α → Writer β} {value : α}
    {result : Except RenderError β} {text more : String} (first : run.Yields (.ok value) text)
    (second : (next value).Yields result more) :
    Writer.Yields (run >>= next) result (text ++ more) := by
  intro buffer
  change Writer.bind run next buffer = _
  rw [Writer.bind, first buffer, ← String.append_assoc]
  exact second (buffer ++ text)

theorem Writer.Yields.bind_error {run : Writer α} {failure : RenderError} {text : String}
    (stops : run.Yields (.error failure) text) (next : α → Writer β) :
    Writer.Yields (run >>= next) (.error failure) text := by
  intro buffer
  change Writer.bind run next buffer = _
  rw [Writer.bind, stops buffer]

theorem yields_pure (value : α) : Writer.Yields (pure value) (.ok value) "" := by
  intro buffer
  rw [String.append_empty]
  rfl

theorem yields_write (text : String) : (write text).Yields (.ok ()) text :=
  fun _ => rfl

theorem yields_stop (failure : RenderError) :
    Writer.Yields (stop failure : Writer α) (.error failure) "" := by
  intro buffer
  rw [String.append_empty]
  rfl

/-- The computation appends a text and has the outcome that goes with it: if the text is not all of
it, the computation stops. -/
inductive Writes (limits : RenderLimits) (run : Writer Unit) : Except Halt String → Prop where
  | done {text : String} : run.Yields (.ok ()) text → Writes limits run (.ok text)
  | stopped {halt : Halt} {text : String} :
      run.Yields (.error (halt.toError limits)) text → Writes limits run (.error halt)

namespace Writes

variable {first second : Writer Unit} {front back : Except Halt String}

theorem nothing : Writes limits (pure ()) (.ok "") :=
  .done (yields_pure ())

theorem text (text : String) : Writes limits (write text) (.ok text) :=
  .done (yields_write text)

theorem halt (halt : Halt) : Writes limits (stop (halt.toError limits)) (.error halt) :=
  .stopped (yields_stop _)

/-- What is done after something else is written behind it. -/
theorem andThen (writes : Writes limits first front) (next : Writes limits second back) :
    Writes limits (do first; second) (thenText front back) := by
  cases writes with
  | stopped stops => exact .stopped (stops.bind_error _)
  | done writes =>
      cases next with
      | done next => exact .done (writes.bind_ok next)
      | stopped stops => exact .stopped (writes.bind_ok stops)

theorem forM {step : Value → Writer Unit} {outcome : Value → Except Halt String}
    (each : ∀ value, Writes limits (step value) (outcome value)) (values : List Value) :
    Writes limits (values.forM step) (do return String.join (← values.mapM outcome)) := by
  induction values with
  | nil => exact nothing
  | cons value rest ih =>
      rw [join_mapM_cons]
      exact (each value).andThen ih

/-- What is done after a computation that writes nothing. -/
theorem behind {run : Writer α} {next : α → Writer Unit} {value : α}
    (finds : run.Yields (.ok value) "") (writes : Writes limits (next value) back) :
    Writes limits (run >>= next) back := by
  cases writes with
  | done writes =>
      have both := finds.bind_ok writes
      rw [String.empty_append] at both
      exact .done both
  | stopped stops => exact .stopped (finds.bind_ok stops)

end Writes

/-- The computation writes nothing and has the given outcome. -/
def Finds (limits : RenderLimits) (run : Writer α) (outcome : Except Halt α) : Prop :=
  run.Yields (outcome.mapError (Halt.toError limits)) ""

theorem Finds.bind {run : Writer α} {next : α → Writer β} {outcome : Except Halt α}
    {further : α → Except Halt β} (first : Finds limits run outcome)
    (second : ∀ value, Finds limits (next value) (further value)) :
    Finds limits (run >>= next) (outcome >>= further) := by
  cases outcome with
  | error halt => exact first.bind_error _
  | ok value => exact first.bind_ok (second value)

theorem Finds.value (value : α) : Finds limits (pure value) (.ok value) :=
  yields_pure value

/-- What is written to a buffer of its own is the text of it. -/
theorem Writes.apart {run : Writer Unit} {outcome : Except Halt String}
    (writes : Writes limits run outcome) : Finds limits (apart run) outcome := by
  intro buffer
  rw [Buffer.apart, filled, String.append_empty]
  cases writes with
  | done writes =>
      rw [writes "", String.empty_append]
      rfl
  | stopped stops =>
      rw [stops ""]
      rfl

theorem map_snd_eq (name : String) (text : Except Halt String) :
    (do return (name, Value.string (← text))).map Prod.snd =
      text >>= fun text => .ok (.string text) := by
  cases text <;> rfl

theorem name_of_bind {callee? : Option Callee} {given : Attribute} {levels : Nat}
    {binding : String × Value} (bound : given.bind registry callee? scope levels = .ok binding) :
    binding.1 = given.name := by
  cases given with
  | bare name path =>
      cases bound
      rfl
  | quoted name body | captured name body =>
      rw [Attribute.bind] at bound
      cases rendered : descend levels fun inner => renderAll registry callee? body scope inner with
      | error halt =>
          rw [rendered] at bound
          cases bound
      | ok text =>
          rw [rendered] at bound
          cases bound
          rfl

def setAll (locals : Bindings Value) (entries : List (String × Value)) : Bindings Value :=
  entries.foldl (fun bindings entry => bindings.set entry.1 entry.2) locals

theorem map_setAll_bindAll_cons {callee? : Option Callee} (given : Attribute)
    (rest : List Attribute) (levels : Nat) (locals : Bindings Value) :
    (bindAll registry callee? (given :: rest) scope levels).map (setAll locals) =
      (given.bind registry callee? scope levels).map Prod.snd >>= fun value =>
        (bindAll registry callee? rest scope levels).map
          (setAll (locals.set given.name value)) := by
  rw [bindAll]
  cases bound : given.bind registry callee? scope levels with
  | error halt => rfl
  | ok binding =>
      rw [← name_of_bind bound]
      cases bindAll registry callee? rest scope levels <;> rfl

/-- A callee for a renderer that is in so many calls, or none if it may go into no other. -/
inductive Serves (registry : Registry) (limits : RenderLimits) (calls : Nat) :
    Option Callee → Prop where
  | none : limits.calls ≤ calls → Serves registry limits calls none
  | some {callee : Callee} : calls < limits.calls →
      (∀ template scope (frame : Frame) levels, frame.calls = calls + 1 →
        levels + frame.nesting = limits.nesting + 1 →
        Writes limits (renderInto registry limits template scope frame)
          (callee template scope levels)) →
      Serves registry limits calls (some callee)

variable {callee? : Option Callee}

mutual

/-- A renderer in a frame writes what is rendered with as many levels as the limit leaves. -/
theorem renderInto_writes (statements : List Statement) (scope : Scope) (frame : Frame)
    {levels : Nat} (serves : Serves registry limits frame.calls callee?)
    (isLeft : levels + frame.nesting = limits.nesting + 1) :
    Writes limits (renderInto registry limits statements scope frame)
      (descend levels fun inner => renderAll registry callee? statements scope inner) := by
  rw [renderInto]
  cases levels with
  | zero =>
      rw [if_pos (by omega)]
      exact .halt .nestingTooDeep
  | succ inner =>
      rw [if_neg (by omega)]
      exact writeAll_writes statements scope frame serves (by omega)

theorem writeAll_writes (statements : List Statement) (scope : Scope) (frame : Frame) {levels : Nat}
    (serves : Serves registry limits frame.calls callee?)
    (isLeft : levels + frame.nesting = limits.nesting) :
    Writes limits (writeAll registry limits statements scope frame)
      (renderAll registry callee? statements scope levels) := by
  cases statements with
  | nil =>
      rw [writeAll, renderAll]
      exact .nothing
  | cons statement rest =>
      rw [writeAll, renderAll_cons]
      exact (writeStatement_writes statement scope frame serves isLeft).andThen
        (writeAll_writes rest scope frame serves isLeft)

theorem writeStatement_writes (statement : Statement) (scope : Scope) (frame : Frame) {levels : Nat}
    (serves : Serves registry limits frame.calls callee?)
    (isLeft : levels + frame.nesting = limits.nesting) :
    Writes limits (writeStatement registry limits statement scope frame)
      (statement.render registry callee? scope levels) := by
  have isLeftInside : levels + frame.nested.nesting = limits.nesting + 1 :=
    congrArg (· + 1) isLeft
  cases statement with
  | literal text =>
      rw [writeStatement, Statement.render]
      exact .text text
  | interpolation path =>
      rw [writeStatement, Statement.render, Scope.textAt]
      cases scope.lookup? path with
      | none => exact .nothing
      | some value => exact .text value.text
  | quoted body =>
      rw [writeStatement, Statement.render]
      exact renderInto_writes body scope frame.nested serves isLeftInside
  | assignment given =>
      rw [writeStatement, Statement.render]
      exact writeAttribute_writes given scope frame.nested serves isLeftInside
  | tag name attributes content =>
      have opens := renderInto_writes attributes scope frame.nested serves isLeftInside
      have holds := renderInto_writes content scope frame.nested serves isLeftInside
      simp only [writeStatement, Statement.render, tag_eq, ok_append, thenText_assoc]
      exact .andThen (.text "<") <| .andThen (.text name) <| opens.andThen <|
        .andThen (.text ">") <| holds.andThen <| .andThen (.text "</") <|
          .andThen (.text name) (.text ">")
  | emptyTag name attributes =>
      have opens := renderInto_writes attributes scope frame.nested serves isLeftInside
      simp only [writeStatement, Statement.render, between_eq, ok_append, thenText_assoc]
      exact .andThen (.text "<") <| .andThen (.text name) <| opens.andThen (.text "/>")
  | ifThen condition body =>
      rw [writeStatement, Statement.render]
      split
      · exact renderInto_writes body scope frame.nested serves isLeftInside
      · exact .nothing
  | ifThenElse condition body alternative =>
      rw [writeStatement, Statement.render]
      split
      · exact renderInto_writes body scope frame.nested serves isLeftInside
      · exact renderInto_writes alternative scope frame.nested serves isLeftInside
  | each collection item body =>
      rw [writeStatement, Statement.render]
      cases scope.itemsAt? collection with
      | none => exact .halt (.notIterable collection)
      | some values =>
          apply Writes.forM
          intro value
          exact renderInto_writes body _ frame.nested serves isLeftInside
  | call name given =>
      rw [writeStatement, Statement.render]
      cases registry.get? name with
      | none => exact .nothing
      | some template =>
          have binds := bindInto_finds given scope frame [] serves isLeft
          cases serves with
          | none isFull =>
              simp only [if_pos isFull]
              exact .halt (.callTooDeep name)
          | some isLess follows =>
              simp only [if_neg (Nat.not_le.mpr isLess)]
              cases bound : Stencil.bindAll registry _ given scope levels with
              | error halt =>
                  rw [bound] at binds
                  exact .stopped (binds.bind_error _)
              | ok bindings =>
                  rw [bound] at binds
                  exact .behind binds (follows template _ frame.intoCall levels rfl isLeftInside)

theorem writeAttribute_writes (given : Attribute) (scope : Scope) (frame : Frame) {levels : Nat}
    (serves : Serves registry limits frame.calls callee?)
    (isLeft : levels + frame.nesting = limits.nesting + 1) :
    Writes limits (writeAttribute registry limits given scope frame)
      (given.render registry callee? scope levels) := by
  cases given with
  | bare name value =>
      simp only [writeAttribute, Attribute.render, ok_append, thenText_assoc]
      exact .andThen (.text name) <| .andThen (.text "=\"") <| .andThen (.text value) (.text "\"")
  | quoted name body | captured name body =>
      have writes := renderInto_writes body scope frame serves isLeft
      simp only [writeAttribute, Attribute.render, between_eq, ok_append, thenText_assoc]
      exact .andThen (.text name) <| .andThen (.text "=\"") <| writes.andThen (.text "\"")

theorem valueOf_finds (given : Attribute) (scope : Scope) (frame : Frame) {levels : Nat}
    (serves : Serves registry limits frame.calls callee?)
    (isLeft : levels + frame.nesting = limits.nesting) :
    Finds limits (valueOf registry limits given scope frame)
      ((given.bind registry callee? scope levels).map Prod.snd) := by
  have isLeftInside : levels + frame.nested.nesting = limits.nesting + 1 :=
    congrArg (· + 1) isLeft
  cases given with
  | bare name path =>
      rw [valueOf]
      exact .value _
  | quoted name body | captured name body =>
      have finds := (renderInto_writes body scope frame.nested serves isLeftInside).apart
      rw [valueOf, Attribute.bind, map_snd_eq]
      exact finds.bind fun text => .value (Value.string text)

theorem bindInto_finds (arguments : List Attribute) (scope : Scope) (frame : Frame) {levels : Nat}
    (locals : Bindings Value) (serves : Serves registry limits frame.calls callee?)
    (isLeft : levels + frame.nesting = limits.nesting) :
    Finds limits (bindInto registry limits arguments scope frame locals)
      ((bindAll registry callee? arguments scope levels).map (setAll locals)) := by
  cases arguments with
  | nil =>
      rw [bindInto]
      exact .value locals
  | cons given rest =>
      rw [bindInto, map_setAll_bindAll_cons]
      apply (valueOf_finds given scope frame serves isLeft).bind
      intro value
      exact bindInto_finds rest scope frame _ serves isLeft

end

/-- What is rendered with the calls and levels that the limits leave is what is written. -/
theorem renderIn_writes (left : Nat) (template : Template) (scope : Scope) (frame : Frame)
    {levels : Nat} (callsLeft : left + frame.calls = limits.calls)
    (isLeft : levels + frame.nesting = limits.nesting + 1) :
    Writes limits (renderInto registry limits template scope frame)
      (template.renderIn registry left scope levels) := by
  induction left generalizing template scope frame levels with
  | zero => exact renderInto_writes template scope frame (.none (by omega)) isLeft
  | succ fewer ih =>
      apply renderInto_writes template scope frame (.some (by omega) _) isLeft
      intro called inside further levels isFurther isLeft
      exact ih called inside further (by omega) isLeft

theorem Writes.exists_yields {run : Writer Unit} {outcome : Except Halt String}
    (writes : Writes limits run outcome) : ∃ result text, run.Yields result text := by
  cases writes with
  | done writes => exact ⟨_, _, writes⟩
  | stopped stops => exact ⟨_, _, stops⟩

/-- Whatever is rendered, wherever, has the same result and appends the same text in front of which
other text it may be. -/
theorem exists_yields_renderInto (statements : List Statement) (scope : Scope) (frame : Frame) :
    ∃ result text, (renderInto registry limits statements scope frame).Yields result text := by
  by_cases tooDeep : limits.nesting < frame.nesting
  · rw [renderInto, if_pos tooDeep]
    exact ⟨_, _, yields_stop _⟩
  have isLeft : limits.nesting + 1 - frame.nesting + frame.nesting = limits.nesting + 1 := by omega
  by_cases isFull : limits.calls ≤ frame.calls
  · exact (renderInto_writes statements scope frame (.none isFull) isLeft).exists_yields
  · have callsLeft : limits.calls - frame.calls + frame.calls = limits.calls := by omega
    exact (renderIn_writes _ statements scope frame callsLeft isLeft).exists_yields

theorem Writes.filled_eq {run : Writer Unit} {outcome : Except Halt String}
    (writes : Writes limits run outcome) (buffer : String) :
    filled run buffer =
      (outcome.mapError (Halt.toError limits)).map fun text => buffer ++ text := by
  cases writes with
  | done writes =>
      rw [filled, writes buffer]
      rfl
  | stopped stops =>
      rw [filled, stops buffer]
      rfl

/-! ## One after the other -/

theorem bind_assoc {γ : Type} (run : Writer α) (next : α → Writer β) (last : β → Writer γ) :
    run >>= next >>= last = run >>= fun value => next value >>= last := by
  funext buffer
  change Writer.bind (Writer.bind run next) last buffer =
    Writer.bind run (fun value => Writer.bind (next value) last) buffer
  simp only [Writer.bind]
  rcases run buffer with ⟨result, after⟩
  cases result <;> rfl

theorem writeAll_append (front back : List Statement) (scope : Scope) (frame : Frame) :
    writeAll registry limits (front ++ back) scope frame = (do
      writeAll registry limits front scope frame
      writeAll registry limits back scope frame) := by
  induction front with
  | nil =>
      rw [List.nil_append, writeAll]
      rfl
  | cons statement front ih =>
      rw [List.cons_append, writeAll, writeAll, ih, bind_assoc]

/-- Two lists one after the other are written one after the other, to the same buffer. -/
theorem renderInto_append (front back : List Statement) (scope : Scope) (frame : Frame) :
    renderInto registry limits (front ++ back) scope frame = (do
      renderInto registry limits front scope frame
      renderInto registry limits back scope frame) := by
  simp only [renderInto]
  split
  · rfl
  · exact writeAll_append front back scope frame

theorem filled_bind (first second : Writer Unit) (buffer : String) :
    filled (do first; second) buffer = (do
      let text ← filled first buffer
      filled second text) := by
  change filled (Writer.bind first fun _ => second) buffer = _
  simp only [filled, Writer.bind]
  rcases first buffer with ⟨result, after⟩
  cases result <;> rfl

end Buffer

variable {registry : Registry} {context : Context} {limits : RenderLimits}

/-- Render a template into a buffer that holds some text already. -/
def Template.renderOnto (template : Template) (context : Context) (registry : Registry)
    (limits : RenderLimits) (written : String) : Except RenderError String :=
  Buffer.filled (Buffer.renderInto registry limits template [context.bindings] {}) written

/-- The buffer holds the text that a rendering yields, behind the text that was there. -/
theorem Template.renderOnto_eq (template : Template) (written : String) :
    template.renderOnto context registry limits written =
      (template.render context registry limits).map fun text => written ++ text :=
  Buffer.Writes.filled_eq (Buffer.renderIn_writes limits.calls template [context.bindings] {}
    (Nat.add_zero _) (Nat.add_zero _)) written

theorem Template.render_eq_renderOnto (template : Template) :
    template.render context registry limits =
      template.renderOnto context registry limits "" := by
  rw [renderOnto_eq]
  cases template.render context registry limits with
  | error failure => rfl
  | ok text =>
      change Except.ok text = Except.ok ("" ++ text)
      rw [String.empty_append]

/-- Where a loop fails, what is in front of it is written already. -/
example : Buffer.renderInto Registry.empty {} [.literal "a", .each "b" "c" []] [] {} "<" =
    (.error (.notIterable "b"), "<a") := by
  simp only [Buffer.renderInto, Buffer.writeAll, Buffer.writeStatement]
  rfl

theorem Template.renderOnto_append (front back : Template) (written : String) :
    Template.renderOnto (front ++ back) context registry limits written = (do
      let text ← front.renderOnto context registry limits written
      back.renderOnto context registry limits text) := by
  rw [renderOnto, Buffer.renderInto_append, Buffer.filled_bind]
  rfl

end Stencil
