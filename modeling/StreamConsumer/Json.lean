/-!
# JSON values

A value of a JSON document, whatever text it was read from.
-/

namespace StreamConsumer

/-- A JSON value; a number is `mantissa / 10 ^ scale`. -/
inductive Json where
  | null
  | bool (value : Bool)
  | number (mantissa : Int) (scale : Nat)
  | string (text : String)
  | array (items : List Json)
  | object (members : List (String × Json))
  deriving Inhabited

end StreamConsumer
