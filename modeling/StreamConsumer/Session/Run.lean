import StreamConsumer.Config.Form
import StreamConsumer.Config.Same
import StreamConsumer.Config.Validate
import StreamConsumer.Session.Step

/-!
# Sessions

The configurations and sinks that have names, and what the sinks remember.  `Session.perform` is one step: its answer
and the session after it.  Sinks are shared, never copied: every name and every configuration that holds a sink sees the
same memory.  Steps are complete calls, so between them no lock is held.
-/

namespace StreamConsumer

structure Session where
  configs : Table String Config
  stats : Table String StatsSink
  loggers : Table String LogSink
  store : SinkStore
  /-- The number of the sinks that are made next. -/
  nextId : Nat

namespace Session

def empty : Session :=
  { configs := Table.empty, stats := Table.empty, loggers := Table.empty, store := SinkStore.empty, nextId := 0 }

/-! ### Making -/

/-- Name a configuration. -/
def bind (s : Session) (target : String) (c : Config) : Session := { s with configs := s.configs.insert target c }

def make (origin : Origin) (id : Nat) : Config :=
  match origin with
  | .standard => .standard id
  | .testing => .testing id

def create (s : Session) (origin : Origin) (target : String) : Answer × Session :=
  let c := make origin s.nextId
  (.state c, { s.bind target c with nextId := s.nextId + 1 })

def createRecording (s : Session) (sinks target : String) : Answer × Session :=
  let c := Config.recording s.nextId
  let pair := RecordingSinks.numbered s.nextId
  (.recording c ((s.store.recordingForm [] pair).text false),
    { s.bind target c with
      stats := s.stats.insert sinks pair.stats
      loggers := s.loggers.insert sinks pair.logger
      nextId := s.nextId + 1 })

/-- Name what becomes of a named configuration. -/
def derive (s : Session) (source target : String) (f : Config → Config) : Answer × Session :=
  match s.configs.find? source with
  | none => (.unbound, s)
  | some c => (.state (f c), s.bind target (f c))

def makeStats (s : Session) (kind : StatsKind) (name : String) : Answer × Session :=
  let sink : StatsSink := { kind, id := s.nextId }
  (.text ((s.store.statsForm sink).text false),
    { s with stats := s.stats.insert name sink, nextId := s.nextId + 1 })

def makeLogger (s : Session) (kind : LogKind) (name : String) : Answer × Session :=
  let sink : LogSink := { kind, id := s.nextId }
  (.text ((s.store.logForm [] sink).text false),
    { s with loggers := s.loggers.insert name sink, nextId := s.nextId + 1 })

/-- The sink of this name; no name is no sink. -/
def sink? {α : Type} (sinks : Table String α) : Option String → Option (Option α)
  | none => some none
  | some name => (sinks.find? name).map some

def attachStats (s : Session) (source target : String) (name : Option String) : Answer × Session :=
  match sink? s.stats name with
  | none => (.unbound, s)
  | some sink => s.derive source target fun c => c.apply (.stats sink)

def attachLogger (s : Session) (source target : String) (name : Option String) : Answer × Session :=
  match sink? s.loggers name with
  | none => (.unbound, s)
  | some sink => s.derive source target fun c => c.apply (.logger sink)

/-! ### Reading -/

/-- What is learned from a named configuration. -/
def read (s : Session) (source : String) (f : Config → Answer) : Answer :=
  match s.configs.find? source with
  | none => .unbound
  | some c => f c

def takeStats (s : Session) (source name : String) : Answer × Session :=
  match s.configs.find? source with
  | none => (.unbound, s)
  | some c =>
    match c.stats with
    | none => (.noSink, s)
    | some sink => (.sink (s.stats.keysWhere (· = sink)), { s with stats := s.stats.insert name sink })

def takeLogger (s : Session) (source name : String) : Answer × Session :=
  match s.configs.find? source with
  | none => (.unbound, s)
  | some c =>
    match c.logger with
    | none => (.noSink, s)
    | some sink => (.sink (s.loggers.keysWhere (· = sink)), { s with loggers := s.loggers.insert name sink })

/-! ### Calling sinks -/

def report (s : Session) (name : String) (call : StatsCall) : Answer × Session :=
  match s.stats.find? name with
  | none => (.unbound, s)
  | some sink =>
    let store := s.store.report sink call
    (.reported (sink.kind.emissions call) (store.counts? sink), { s with store })

def log (s : Session) (name : String) (message : Message) : Answer × Session :=
  match s.loggers.find? name with
  | none => (.unbound, s)
  | some sink =>
    let (outcome, store) := s.store.log sink message
    (.logged outcome.failed outcome.emitted ((store.journal? sink).map Journal.lines), { s with store })

def describeStats (s : Session) (name : String) (onLines : Bool) : Answer :=
  match s.stats.find? name with
  | none => .unbound
  | some sink => .text ((s.store.statsForm sink).text onLines)

def describeLogger (s : Session) (name : String) (onLines : Bool) : Answer :=
  match s.loggers.find? name with
  | none => .unbound
  | some sink => .text ((s.store.logForm [] sink).text onLines)

/-! ### Steps -/

/-- The answer to a step, and the session after it. -/
def perform (s : Session) : Step → Answer × Session
  | .create origin target => s.create origin target
  | .createRecording sinks target => s.createRecording sinks target
  | .copy source target => s.derive source target id
  | .set source target setting => s.derive source target fun c => c.set setting
  | .attachStats source target sink => s.attachStats source target sink
  | .attachLogger source target sink => s.attachLogger source target sink
  | .inspect source => (s.read source .state, s)
  | .validate source => (s.read source fun c => .verdict c.validate, s)
  | .startPosition source checkpoint => (s.read source fun c => .position (c.startPosition checkpoint), s)
  | .compare first second => (s.read first fun a => s.read second fun b => .equal (a.same b), s)
  | .describe source onLines => (s.read source fun c => .text ((s.store.configForm [] c).text onLines), s)
  | .takeStats source sink => s.takeStats source sink
  | .takeLogger source sink => s.takeLogger source sink
  | .makeStats kind sink => s.makeStats kind sink
  | .makeLogger kind sink => s.makeLogger kind sink
  | .report sink call => s.report sink call
  | .log sink message => s.log sink message
  | .describeStats sink onLines => (s.describeStats sink onLines, s)
  | .describeLogger sink onLines => (s.describeLogger sink onLines, s)

/-- The answers to the steps of a run, first to last, and the session after it. -/
def run (s : Session) : List Step → List Answer × Session
  | [] => ([], s)
  | step :: rest =>
    let (answer, next) := s.perform step
    let (answers, last) := next.run rest
    (answer :: answers, last)

end Session

end StreamConsumer
