import Stencil.Data.Bindings
import Stencil.Data.Json
import Stencil.Number.Text

/-!
# Values

The data that a template is rendered with.  A value has a text, which is what an interpolation of it
yields, and it counts as true or false in a conditional.  Paths lead through maps to the values in
them; lists have no paths.
-/

namespace Stencil

/-- A piece of data. -/
inductive Value where
  | null
  | bool (value : Bool)
  | number (value : Float)
  | string (value : String)
  | array (items : List Value)
  | map (entries : List (String × Value))

namespace Value

/-- A whole number, rounded once to the nearest number. -/
def ofInt (value : Int) : Value :=
  .number (Float.ofInt value)

mutual

def ofJson : Json → Value
  | .null => .null
  | .bool value => .bool value
  | .whole value => ofInt value
  | .decimal value => .number value
  | .string value => .string value
  | .array items => .array (ofJsonItems items)
  | .object members => .map (Bindings.ofList (ofJsonMembers members))

def ofJsonItems : List Json → List Value
  | [] => []
  | item :: rest => ofJson item :: ofJsonItems rest

/-- The values of the members of an object, in the order of the members. -/
def ofJsonMembers : List (String × Json) → List (String × Value)
  | [] => []
  | (name, member) :: rest => (name, ofJson member) :: ofJsonMembers rest

end

mutual

/-- The text of a value.  The texts of list items are separated by commas; null and maps have no
text. -/
def text : Value → String
  | .null => ""
  | .bool value => if value then "true" else "false"
  | .number value => Number.text value
  | .string value => value
  | .array items => ",".intercalate (texts items)
  | .map _ => ""

def texts : List Value → List String
  | [] => []
  | item :: rest => item.text :: texts rest

end

/-- Whether a conditional takes a value for true: null, zero, NaN and everything empty is false. -/
def isTruthy : Value → Bool
  | .null => false
  | .bool value => value
  | .number value =>
    match Number.read value with
    | .nan => false
    | .infinite _ => true
    | .finite _ magnitude => magnitude.significand != 0
  | .string value => !value.isEmpty
  | .array items => !items.isEmpty
  | .map entries => !entries.isEmpty

mutual

/-- Whether two values are equal.  Numbers are compared as numbers: the two zeros are equal, and NaN
is equal to nothing. -/
def isSame : Value → Value → Bool
  | .null, .null => true
  | .bool left, .bool right => left == right
  | .number left, .number right => left == right
  | .string left, .string right => left == right
  | .array left, .array right => areSame left right
  | .map left, .map right => left.length == right.length && entriesAgree left right
  | _, _ => false

def areSame : List Value → List Value → Bool
  | [], [] => true
  | left :: lefts, right :: rights => left.isSame right && areSame lefts rights
  | _, _ => false

/-- Whether each entry has an equal value under its name in the other map. -/
def entriesAgree : List (String × Value) → List (String × Value) → Bool
  | [], _ => true
  | (name, left) :: rest, rights =>
    match Bindings.get? rights name with
    | some right => left.isSame right && entriesAgree rest rights
    | none => false

end

instance : BEq Value := ⟨isSame⟩

def items? : Value → Option (List Value)
  | .array items => some items
  | _ => none

def entries? : Value → Option (Bindings Value)
  | .map entries => some entries
  | _ => none

/-- The value that a path of names leads to, from map to map. -/
def follow? (value : Value) : List String → Option Value
  | [] => some value
  | name :: rest => do
    let entries ← value.entries?
    let inner ← entries.get? name
    inner.follow? rest

end Value

end Stencil
