import AgentSecurityPlatform.Library.BoundedQueue
import AgentSecurityPlatform.Library.Run

namespace AgentSecurityPlatform

-- how a subscriber leaves the call; the worker's handler catches Exception only
inductive SubscriberOutcome where
  | completed
  | exception
  | baseException
  deriving DecidableEq, Repr

-- the next operation of the worker thread
inductive WorkerPoint (E : Type) where
  | readsRunning
  | readsEmpty
  | gets
  | dispatches (event : E)
  | settles (escaping : Bool)
  | stopped

inductive EmitPoint (E : Type) where
  | between
  | puts (event : E)
  | counts (event : E)

inductive ClosePoint where
  | notCalled
  | drains
  | readsAlive
  | joins
  | returned
  deriving DecidableEq, Repr

structure InMemoryTelemetryDispatcher (E : Type) where
  queue : BoundedQueue E
  droppedEventsCount : Nat := 0
  running : Bool := true
  worker : WorkerPoint E := .readsRunning

-- a thread that emits one event after the other
structure Emitter (E : Type) where
  remaining : List E
  point : EmitPoint E := .between

inductive TelemetryEffect (E : Type) where
  | handled (event : E)
  | counted (event : E)
  deriving DecidableEq, Repr

namespace TelemetryEffect

variable {E : Type}

def handledEvent : TelemetryEffect E → Option E
  | .handled e => some e
  | .counted _ => none

def countedEvent : TelemetryEffect E → Option E
  | .handled _ => none
  | .counted e => some e

end TelemetryEffect

namespace InMemoryTelemetryDispatcher

variable {E : Type}

def create (maxQueueSize : Int) : InMemoryTelemetryDispatcher E :=
  { queue := { maxsize := maxQueueSize } }

def emit (d : InMemoryTelemetryDispatcher E) (t : Emitter E) :
    InMemoryTelemetryDispatcher E × Emitter E × List (TelemetryEffect E) :=
  match t.point with
  | .between =>
    match t.remaining with
    | [] => (d, t, [])
    | e :: remaining =>
      if d.running then (d, ⟨remaining, .puts e⟩, []) else (d, ⟨remaining, .counts e⟩, [])
  | .puts e =>
    match d.queue.putNowait e with
    | some queue => ({ d with queue }, ⟨t.remaining, .between⟩, [])
    | none => (d, ⟨t.remaining, .counts e⟩, [])
  | .counts e =>
    ({ d with droppedEventsCount := d.droppedEventsCount + 1 }, ⟨t.remaining, .between⟩,
      [.counted e])

def workerLoop (d : InMemoryTelemetryDispatcher E) (outcome : SubscriberOutcome) :
    InMemoryTelemetryDispatcher E × List (TelemetryEffect E) :=
  match d.worker with
  | .readsRunning => ({ d with worker := if d.running then .gets else .readsEmpty }, [])
  | .readsEmpty => ({ d with worker := if d.queue.items.isEmpty then .stopped else .gets }, [])
  | .gets =>
    match d.queue.get with
    | none => ({ d with worker := .readsRunning }, [])
    | some (e, queue) => ({ d with queue, worker := .dispatches e }, [])
  | .dispatches e => ({ d with worker := .settles (outcome = .baseException) }, [.handled e])
  | .settles escaping =>
    match d.queue.taskDone with
    | none => ({ d with worker := .stopped }, [])
    | some queue =>
      ({ d with queue, worker := if escaping then .stopped else .readsRunning }, [])
  | .stopped => (d, [])

-- drain and join both give up at their timeout
def close (d : InMemoryTelemetryDispatcher E) (point : ClosePoint) :
    InMemoryTelemetryDispatcher E × ClosePoint :=
  match point with
  | .notCalled => ({ d with running := false }, .drains)
  | .drains => (d, .readsAlive)
  | .readsAlive =>
    match d.worker with
    | .stopped => (d, .returned)
    | _ => (d, .joins)
  | .joins => (d, .returned)
  | .returned => (d, .returned)

end InMemoryTelemetryDispatcher

structure TelemetrySystem (E : Type) where
  dispatcher : InMemoryTelemetryDispatcher E
  emitters : List (Emitter E)
  closing : ClosePoint := .notCalled

inductive TelemetryAction where
  | emit (thread : Nat)
  | work (outcome : SubscriberOutcome)
  | close
  deriving DecidableEq, Repr

namespace TelemetrySystem

variable {E : Type}

def start (maxQueueSize : Int) (emissions : List (List E)) : TelemetrySystem E :=
  { dispatcher := .create maxQueueSize
    emitters := emissions.map fun events => ⟨events, .between⟩ }

def step (s : TelemetrySystem E) :
    TelemetryAction → TelemetrySystem E × List (TelemetryEffect E)
  | .emit thread =>
    match s.emitters[thread]? with
    | none => (s, [])
    | some t =>
      let (dispatcher, t, effects) := s.dispatcher.emit t
      ({ s with dispatcher, emitters := s.emitters.set thread t }, effects)
  | .work outcome =>
    let (dispatcher, effects) := s.dispatcher.workerLoop outcome
    ({ s with dispatcher }, effects)
  | .close =>
    let (dispatcher, closing) := s.dispatcher.close s.closing
    ({ s with dispatcher, closing }, [])

def effects (s : TelemetrySystem E) (actions : List TelemetryAction) : List (TelemetryEffect E) :=
  (Run.history step s actions).flatMap Prod.snd

def handled (effects : List (TelemetryEffect E)) : List E :=
  effects.filterMap TelemetryEffect.handledEvent

def counted (effects : List (TelemetryEffect E)) : List E :=
  effects.filterMap TelemetryEffect.countedEvent

end TelemetrySystem

end AgentSecurityPlatform
