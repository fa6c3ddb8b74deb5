import StreamConsumer.Json
import StreamConsumer.Start.Mode
import StreamConsumer.Text.Decimal

/-!
# Start modes in JSON

The name of a mode in JSON follows from its label by a rule (`screamingSnake`).  A mode is written as the string of that
name.  It is read from the string, from an object whose only key is the name and whose value is null, and from its index.
A name is judged before the value beside it.
-/

namespace StreamConsumer

open Text

/-- A label in capitals, with an underscore before each of its capital letters but the first character. -/
def screamingSnake : List Char → List Char
  | [] => []
  | first :: rest => first.toUpper :: rest.flatMap fun c => if c.isUpper then ['_', c] else [c.toUpper]

/-- The name of the mode in JSON. -/
def StartMode.jsonName (mode : StartMode) : String := String.ofList (screamingSnake mode.label.toList)

/-- Why a value is no start mode. -/
inductive DecodeError where
  | unknownName (name : String)
  | unknownIndex (index : Nat)
  /-- Neither a string nor an object of one name and null, or an index below zero. -/
  | wrongShape
  deriving DecidableEq

namespace DecodeError

/-- The names of all modes, as the messages list them. -/
def expectedNames : String :=
  String.intercalate ", " (StartMode.all.map fun m => "`" ++ m.jsonName ++ "`")

/-- What the error tells; nothing more is known of a value of the wrong shape. -/
def message? : DecodeError → Option String
  | unknownName name => some ("unknown variant `" ++ name ++ "`, expected one of " ++ expectedNames)
  | unknownIndex index =>
    some ("invalid value: integer `" ++ String.ofList (digits index) ++ "`, expected variant index 0 <= i < "
      ++ String.ofList (digits StartMode.all.length))
  | wrongShape => none

end DecodeError

namespace StartMode

def toJson (mode : StartMode) : Json := .string mode.jsonName

/-- The mode with this name, as a part of a JSON value. -/
def ofJsonName (name : String) : Except DecodeError StartMode :=
  match all.find? fun m => m.jsonName == name with
  | some mode => .ok mode
  | none => .error (.unknownName name)

def ofJson : Json → Except DecodeError StartMode
  | .string name => ofJsonName name
  | .object [(name, value)] =>
    match ofJsonName name, value with
    | .error e, _ => .error e
    | .ok mode, .null => .ok mode
    | .ok _, _ => .error .wrongShape
  | _ => .error .wrongShape

def ofIndex : Int → Except DecodeError StartMode
  | 0 => .ok trimHorizon
  | 1 => .ok latest
  | 2 => .ok atSequenceNumber
  | 3 => .ok afterSequenceNumber
  | 4 => .ok atTimestamp
  | .ofNat index => .error (.unknownIndex index)
  | .negSucc _ => .error .wrongShape

end StartMode

end StreamConsumer
