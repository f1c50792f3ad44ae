/-!
# JSON data

Data as it arrives from outside.  Whole numbers and numbers with a fraction or an exponent are told
apart; an object lists its members in the order in which they were written, and the last member of a
name counts.
-/

namespace Stencil

/-- A JSON value. -/
inductive Json where
  | null
  | bool (value : Bool)
  | whole (value : Int)
  | decimal (value : Float)
  | string (value : String)
  | array (items : List Json)
  | object (members : List (String × Json))

end Stencil
