import StreamConsumer.Error

/-!
# Start modes

How a consumer chooses the place in the stream where it starts to read a shard that has no checkpoint.  Two modes need a
sequence number beside them, one needs an instant.
-/

namespace StreamConsumer

inductive StartMode where
  /-- The oldest record that is still kept. -/
  | trimHorizon
  /-- Records that arrive from now on. -/
  | latest
  | atSequenceNumber
  | afterSequenceNumber
  | atTimestamp
  deriving DecidableEq

namespace StartMode

/-- The modes in the order of their indexes. -/
def all : List StartMode := [trimHorizon, latest, atSequenceNumber, afterSequenceNumber, atTimestamp]

theorem mem_all (m : StartMode) : m ∈ all := by cases m <;> simp [all]

/-- The name that is written and read. -/
def name : StartMode → String
  | trimHorizon => "TRIM_HORIZON"
  | latest => "LATEST"
  | atSequenceNumber => "AT_SEQUENCE_NUMBER"
  | afterSequenceNumber => "AFTER_SEQUENCE_NUMBER"
  | atTimestamp => "AT_TIMESTAMP"

/-- The name in text for inspection, which also names the start position of this mode. -/
def label : StartMode → String
  | trimHorizon => "TrimHorizon"
  | latest => "Latest"
  | atSequenceNumber => "AtSequenceNumber"
  | afterSequenceNumber => "AfterSequenceNumber"
  | atTimestamp => "AtTimestamp"

/-- The name, also where more room is asked for: it is never filled up. -/
def display (mode : StartMode) (_width : Nat) : String := mode.name

def index : StartMode → Nat
  | trimHorizon => 0
  | latest => 1
  | atSequenceNumber => 2
  | afterSequenceNumber => 3
  | atTimestamp => 4

theorem getElem?_all_index (m : StartMode) : all[m.index]? = some m := by cases m <;> rfl

def requiresSequenceNumber : StartMode → Bool
  | atSequenceNumber | afterSequenceNumber => true
  | trimHorizon | latest | atTimestamp => false

def requiresTimestamp : StartMode → Bool
  | atTimestamp => true
  | trimHorizon | latest | atSequenceNumber | afterSequenceNumber => false

/-! ### Reading a name -/

/-- The mode with exactly this name. -/
def ofName? (text : String) : Option StartMode := all.find? fun m => m.name == text

def parse (text : String) : Except ConfigError StartMode :=
  match ofName? text with
  | some mode => .ok mode
  | none => .error (.unknownStartMode text)

/-! ### Sets of modes -/

/-- For each mode in turn, whether it is neither among `seen` nor earlier in the list. -/
def newcomers (seen : List StartMode) : List StartMode → List Bool
  | [] => []
  | mode :: rest => (!seen.contains mode) :: newcomers (mode :: seen) rest

/-- The modes that occur in a list, each once, in the order of their indexes. -/
def members (modes : List StartMode) : List StartMode := all.filter modes.contains

end StartMode

end StreamConsumer
