import Stencil.Proofs.Render.Comparison
import Stencil.Proofs.Render.Inlining

/-!
# JSON data as values

JSON data has members at paths and a text of its own, said without values.  The value that the data
stands for has the same members and the same text.
-/

namespace Stencil

namespace Json

/-- The member of an object under a name; the last one of a name counts.  Nothing else has
members. -/
def member? (json : Json) (name : String) : Option Json :=
  match json with
  | .object members => members.reverse.lookup name
  | _ => none

/-- What the names of a path lead to, from object to object. -/
def at? (json : Json) (names : List String) : Option Json :=
  match names with
  | [] => some json
  | name :: rest => (json.member? name).bind fun member => member.at? rest

mutual

/-- The text of JSON data.  The texts of the items of an array are separated by commas; null and
objects have no text. -/
def text : Json → String
  | .null => ""
  | .bool value => if value then "true" else "false"
  | .whole value => Number.text (Float.ofInt value)
  | .decimal value => Number.text value
  | .string value => value
  | .array items => ",".intercalate (texts items)
  | .object _ => ""

def texts : List Json → List String
  | [] => []
  | item :: rest => item.text :: texts rest

end

end Json

/-- The last value given for a name counts. -/
theorem Bindings.get?_ofList (entries : List (String × Value)) (name : String) :
    (Bindings.ofList entries).get? name = entries.reverse.lookup name := by
  have found := Context.empty.get?_setAll entries name
  rw [Context.get?, Context.bindings_setAll] at found
  simpa [Context.empty, Context.get?, Bindings.get?, Environment.extend, Bindings.ofList]
    using found

namespace Value

theorem ofJsonMembers_eq_map (members : List (String × Json)) :
    ofJsonMembers members = members.map fun member => (member.1, ofJson member.2) := by
  induction members with
  | nil => rfl
  | cons member rest ih =>
      rw [ofJsonMembers, ih, List.map_cons]

theorem lookup_map_ofJson (members : List (String × Json)) (name : String) :
    (members.map fun member => (member.1, ofJson member.2)).lookup name =
      (members.lookup name).map ofJson := by
  induction members with
  | nil => rfl
  | cons member rest ih =>
      rw [List.map_cons, List.lookup_cons, List.lookup_cons, ih]
      cases name == member.1 <;> rfl

/-- The entries of a value that stands for JSON data are the values of the members. -/
theorem entries?_ofJson_get? (json : Json) (name : String) :
    ((ofJson json).entries?.bind fun entries => Bindings.get? entries name) =
      (json.member? name).map ofJson := by
  cases json with
  | object members =>
      rw [ofJson, entries?, Option.bind_some, Bindings.get?_ofList, ofJsonMembers_eq_map,
        ← List.map_reverse, lookup_map_ofJson, Json.member?]
  | _ => rfl

theorem follow?_ofJson (json : Json) (names : List String) :
    (ofJson json).follow? names = (json.at? names).map ofJson := by
  induction names generalizing json with
  | nil => rfl
  | cons name rest ih =>
      calc (ofJson json).follow? (name :: rest)
          = ((ofJson json).entries?.bind fun entries => Bindings.get? entries name).bind
              fun inner => inner.follow? rest := by
            rw [follow?, Option.bind_assoc]
            rfl
        _ = (json.member? name).bind fun member => (ofJson member).follow? rest := by
            rw [entries?_ofJson_get?, Option.bind_map]
            rfl
        _ = (json.at? (name :: rest)).map ofJson := by
            simp only [ih, Json.at?, Option.map_bind]
            rfl

mutual

theorem text_ofJson (json : Json) : (ofJson json).text = json.text := by
  cases json with
  | array items => rw [ofJson, text, texts_ofJsonItems items, Json.text]
  | _ => rfl

theorem texts_ofJsonItems (items : List Json) : texts (ofJsonItems items) = Json.texts items := by
  cases items with
  | nil => rfl
  | cons item rest => rw [ofJsonItems, texts, text_ofJson item, texts_ofJsonItems rest, Json.texts]

end

end Value

namespace Path

/-- The names of a path with points between them are the path. -/
theorem intercalate_names (path : String) : ".".intercalate (names path) = path := by
  have same : String.toList ∘ String.ofList = id := funext fun _ => String.toList_ofList
  rw [← String.toList_inj, String.toList_intercalate, names, List.map_map, same, List.map_id]
  exact List.intercalate_splitOn '.'

theorem not_mem_of_mem_splitOn {separator : Char} {text piece : List Char}
    (isPiece : piece ∈ text.splitOn separator) : separator ∉ piece := by
  induction text generalizing piece with
  | nil =>
      rw [List.splitOn_nil, List.mem_singleton] at isPiece
      simp [isPiece]
  | cons first rest ih =>
      rw [List.splitOn_cons_eq_if_modifyHead] at isPiece
      split at isPiece
      next =>
        rcases List.mem_cons.mp isPiece with rfl | inRest
        · simp
        · exact ih inRest
      next other =>
        cases found : rest.splitOn separator with
        | nil => exact absurd found (List.splitOn_ne_nil separator rest)
        | cons head pieces =>
            rw [found] at ih
            rw [found, List.modifyHead_cons] at isPiece
            rcases List.mem_cons.mp isPiece with rfl | inRest
            · rw [List.mem_cons, not_or]
              exact ⟨fun same => other (by simp [same]), ih List.mem_cons_self⟩
            · exact ih (List.mem_cons_of_mem head inRest)

theorem not_mem_of_mem_names {path name : String} (isName : name ∈ names path) :
    '.' ∉ name.toList := by
  rcases List.mem_map.mp isName with ⟨piece, isPiece, rfl⟩
  rw [String.toList_ofList]
  exact not_mem_of_mem_splitOn isPiece

end Path

/-- In the context of JSON data a path leads to what its names lead to in the data. -/
theorem Context.textAt_ofJson? {json : Json} {context : Context}
    (isContext : Context.ofJson? json = some context) (path : String) :
    Scope.textAt [context.bindings] path =
      ((json.at? (Path.names path)).map Json.text).getD "" := by
  rcases Option.map_eq_some_iff.mp isContext with ⟨entries, hasEntries, rfl⟩
  have led : Scope.lookup? [entries] path = (Value.ofJson json).follow? (Path.names path) := by
    rcases Path.names_eq_root_cons path with ⟨rest, names⟩
    rw [Scope.lookup?, names, Value.follow?, hasEntries]
    cases found : Bindings.get? entries (Path.root path) <;> simp [Scope.get?, found]
  rw [Scope.textAt, led, Value.follow?_ofJson, Option.map_map]
  have same : Value.text ∘ Value.ofJson = Json.text := funext Value.text_ofJson
  rw [same]

end Stencil
