import StreamConsumer.Start.Mode
import StreamConsumer.Time.Text

/-!
# Start positions

The place in the stream where reading starts.  A checkpoint settles it; without one the start options do, and a mode whose
companion value is missing falls back to the oldest record (`StartOptions.position`).  An empty checkpoint or sequence
number counts as missing.
-/

namespace StreamConsumer

open Text

inductive StartPosition where
  | trimHorizon
  | latest
  | atSequenceNumber (number : String)
  | afterSequenceNumber (number : String)
  | atTimestamp (instant : Instant)
  deriving DecidableEq

/-- The options that choose a start position.  Values that the mode does not need are kept. -/
structure StartOptions where
  mode : StartMode
  timestamp : Option Instant
  sequenceNumber : Option String
  deriving DecidableEq

namespace StartPosition

def mode : StartPosition → StartMode
  | trimHorizon => .trimHorizon
  | latest => .latest
  | atSequenceNumber _ => .atSequenceNumber
  | afterSequenceNumber _ => .afterSequenceNumber
  | atTimestamp _ => .atTimestamp

def sequenceNumber? : StartPosition → Option String
  | atSequenceNumber number | afterSequenceNumber number => some number
  | trimHorizon | latest | atTimestamp _ => none

def timestamp? : StartPosition → Option Instant
  | atTimestamp instant => some instant
  | trimHorizon | latest | atSequenceNumber _ | afterSequenceNumber _ => none

/-- The options that say no more than this position. -/
def options (p : StartPosition) : StartOptions :=
  { mode := p.mode, timestamp := p.timestamp?, sequenceNumber := p.sequenceNumber? }

def form (p : StartPosition) : Form :=
  match p with
  | trimHorizon | latest => .name p.mode.label
  | atSequenceNumber number | afterSequenceNumber number => .wrapped p.mode.label (.quoted number)
  | atTimestamp instant => .wrapped p.mode.label (.word instant.text)

end StartPosition

/-- A text that is present and not empty. -/
def filled? (text : Option String) : Option String := text.filter fun s => s ≠ ""

theorem filled?_eq_some_iff {text : Option String} {s : String} : filled? text = some s ↔ text = some s ∧ s ≠ "" := by
  simp [filled?, Option.filter_eq_some_iff]

namespace StartOptions

/-- The position that the mode asks for, if its companion value is there. -/
def requested? (o : StartOptions) : Option StartPosition :=
  match o.mode with
  | .trimHorizon => some .trimHorizon
  | .latest => some .latest
  | .atSequenceNumber => (filled? o.sequenceNumber).map .atSequenceNumber
  | .afterSequenceNumber => (filled? o.sequenceNumber).map .afterSequenceNumber
  | .atTimestamp => o.timestamp.map .atTimestamp

/-- Where reading starts: behind the checkpoint, else where the options ask for, else at the oldest record. -/
def position (o : StartOptions) (checkpoint : Option String) : StartPosition :=
  match filled? checkpoint with
  | some number => .afterSequenceNumber number
  | none => o.requested?.getD .trimHorizon

end StartOptions

end StreamConsumer
