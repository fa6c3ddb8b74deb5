import StreamConsumer.Generator.Basic
import StreamConsumer.Start.Position

/-!
# Generated start options

Start modes, sequence numbers of 1 to 56 decimal digits, and instants in whole seconds of the years 2015 to 2034.
-/

namespace StreamConsumer

/-- The number of whole seconds after 1970 that reach the instant. -/
def Instant.secondsUp (t : Instant) : Nat := (if t.nanos = 0 then t.secs else t.secs + 1).toNat

theorem Instant.secondsUp_le_iff (t : Instant) (n : Nat) :
    t.secondsUp ≤ n ↔ t.secs < n ∨ t.secs = n ∧ t.nanos = 0 := by
  unfold secondsUp
  split <;> omega

/-- The length of a sequence number, and the digits from which it takes as many as it needs. -/
inductive SequenceDraw where
  | length
  | digit (position : Fin 56)
  deriving DecidableEq

namespace Generator

def startMode : Generator Unit StartMode where
  range _ := { lo := 0, hi := 4 }
  value draws := StartMode.all[(draws ()).toNat]?.getD .trimHorizon

/-- No sequence number begins with a zero. -/
def sequenceNumber : Generator SequenceDraw String where
  range
    | .length => { lo := 1, hi := 56 }
    | .digit position => if position = 0 then { lo := 1, hi := 9 } else { lo := 0, hi := 9 }
  value draws :=
    let digits := (List.finRange 56).map fun position => Nat.digitChar (draws (.digit position)).toNat
    String.ofList (digits.take (draws .length).toNat)

def timestamp : Generator Unit Instant where
  range _ := { lo := 1420070400, hi := 2051222399 }
  value draws := (Instant.ofParts? (draws ()).toNat 0).getD Instant.epoch

end Generator

namespace Quantity

def startModeIndex : Quantity Generator.startMode Nat := { measure := StartMode.index, draw := (), reach := id }

def sequenceNumberLength : Quantity Generator.sequenceNumber Nat :=
  { measure := String.length, draw := .length, reach := id }

def timestamp : Quantity Generator.timestamp Instant := { measure := id, draw := (), reach := Instant.secondsUp }

end Quantity

end StreamConsumer
