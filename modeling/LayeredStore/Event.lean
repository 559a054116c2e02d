import LayeredStore.Sha256
import LayeredStore.Base64

/-!
# `LayeredStore.Event`: events and who hears them

An event says that something was done to the chains of all tables. The
events of a database go over a bus to the handlers registered when it
was opened: for each event the handlers of its kind are called in the
order of registration, and then its line is written to the event log if
the database logs events. A handler that panics ends the bus: no one
hears of anything after that.

* `Event.logLine` is the line of an event in the event log.
* `Listeners` are who waits for events, and `Heard` is what they have
  been told: `Listeners.tell` tells them of one event, and
  `Listeners.hear` is what a list of events comes to.
-/

set_option autoImplicit false

namespace LayeredStore

/-- The kinds of events. -/
inductive EventKind where
  | pushLayer
  | commitSession
  | revokeLayer
  | popLayer
  | flush
  deriving DecidableEq, Repr

/-- What was done to the chains. -/
inductive Event where
  /-- A layer was pushed onto every table to open a unit of work. -/
  | pushLayer (seq depth : Nat)
  /-- A unit of work was committed; the digest covers its layers in all
  tables. -/
  | commitSession (seq : Nat) (digest : Digest)
  /-- The newest layer was discarded. -/
  | revokeLayer (seq depth : Nat)
  /-- The newest layer was popped, its seals verified or not. -/
  | popLayer (seq depth : Nat) (verified : Bool)
  /-- The oldest layers were moved into the roots. -/
  | flush (layers keys depth : Nat)
  deriving DecidableEq, Repr

namespace Event

/-- The kind of an event. -/
def kind : Event → EventKind
  | pushLayer .. => .pushLayer
  | commitSession .. => .commitSession
  | revokeLayer .. => .revokeLayer
  | popLayer .. => .popLayer
  | flush .. => .flush

/-- The name under which an event is logged. -/
def logName : Event → String
  | pushLayer .. => "PushLayer"
  | commitSession .. => "CommitSession"
  | revokeLayer .. => "RevokeLayer"
  | popLayer _ _ true => "PopLayer"
  | popLayer _ _ false => "FastPopLayer"
  | flush .. => "Flush"

/-- The values that follow the time on an event's line. -/
def logValues : Event → List String
  | pushLayer seq depth => [toString seq, toString depth]
  | commitSession seq digest => [toString seq, Base64.shortId digest]
  | revokeLayer seq depth => [toString seq, toString depth]
  | popLayer seq depth _ => [toString seq, toString depth]
  | flush layers keys depth => [toString layers, toString keys, toString depth]

/-- The line of an event in the event log: its name, the time given,
and its values. -/
def logLine (time : String) (event : Event) : String :=
  ", ".intercalate (event.logName :: time :: event.logValues)

end Event

/-- The seconds from the epoch to a time given in milliseconds; zero
for a time before the epoch. -/
def secondsSinceEpoch (millis : Nat) (beforeEpoch : Bool) : Nat :=
  if beforeEpoch then 0 else millis / 1000

/-- What waits for the events of one kind. -/
structure Handler where
  /-- The kind of events it is called for. -/
  kind : EventKind
  /-- Whether it panics when it is called. -/
  panics : Bool
  deriving DecidableEq, Repr

/-- Who waits for the events of a database. -/
structure Listeners where
  /-- The handlers, in the order of registration. -/
  handlers : List Handler
  /-- Whether events are written to the event log. -/
  logs : Bool
  deriving DecidableEq, Repr

/-- What the listeners have been told. -/
structure Heard where
  /-- Whether a handler has panicked. -/
  panicked : Bool
  /-- The calls made: the handler's place, and the event. -/
  calls : List (Nat × Event)
  /-- The events written to the event log. -/
  logged : List Event
  deriving DecidableEq, Repr

/-- Nothing was told yet. -/
def Heard.nothing : Heard := ⟨false, [], []⟩

namespace Listeners

/-- Whether there is anyone to tell. -/
def any (listeners : Listeners) : Bool := !listeners.handlers.isEmpty || listeners.logs

/-- Calls these handlers, the first of which has place `index`, until
one panics. -/
def call (event : Event) : (index : Nat) → List Handler → Heard → Heard
  | _, [], heard => heard
  | index, handler :: rest, heard =>
    if handler.kind ≠ event.kind then call event (index + 1) rest heard
    else if handler.panics then { heard with panicked := true }
    else call event (index + 1) rest { heard with calls := heard.calls ++ [(index, event)] }

/-- Tells everyone of an event. -/
def tell (listeners : Listeners) (heard : Heard) (event : Event) : Heard :=
  if heard.panicked then heard
  else
    let heard := call event 0 listeners.handlers heard
    if listeners.logs && !heard.panicked then { heard with logged := heard.logged ++ [event] }
    else heard

/-- What has been told once these events have arrived, in order. -/
def hear (listeners : Listeners) (events : List Event) : Heard :=
  events.foldl listeners.tell .nothing

end Listeners

end LayeredStore
