/-!
# The poller

The poller tells the reactor which of the things it watches are ready. A watch is set on a source
and reports its readiness under a token, once for each time that something happens there. Watches
on connections are one-shot: after an event such a watch is disarmed, and reports nothing, not even
an error, until it is armed again. Arming it on a source that is ready already reports that at once.

Sources on which something has happened wait in a queue in the order in which it happened. `wait`
takes sources off that queue and reports what they are ready for at that moment, so a source whose
readiness has passed in the meantime is left out.
-/

namespace FileServer

/-- What can be watched. -/
inductive Source where
  /-- The listening socket. -/
  | listener
  /-- The notifier. -/
  | notifier
  /-- The socket of a connection. -/
  | socket (number : Nat)
deriving DecidableEq, Repr

/-- The name under which a watch reports. -/
inductive Token where
  /-- Somebody wants to connect. -/
  | listener
  /-- Somebody has signalled. -/
  | notifier
  /-- The connection in the given slot is ready. -/
  | connection (key : Nat)
deriving DecidableEq, Repr

/-- What a watch waits for. -/
inductive Interest where
  /-- Something to read. -/
  | readable
  /-- Room to write. -/
  | writable
deriving DecidableEq, Repr

/-- What a source is ready for. -/
structure Readiness where
  /-- Something can be read, the end of the stream included. -/
  readable : Bool
  /-- Something can be written. -/
  writable : Bool
  /-- The source has failed. -/
  error : Bool
  /-- Both directions have ended. -/
  hangup : Bool
deriving DecidableEq, Repr

namespace Readiness

/-- Ready for nothing. -/
def none : Readiness := ⟨false, false, false, false⟩

/-- Ready for something. -/
def isSome (ready : Readiness) : Bool :=
  ready.readable || ready.writable || ready.error || ready.hangup

/-- What a watch with the given interest is told. It always hears of errors and hangups. -/
def restrict (ready : Readiness) (interest : Interest) : Readiness :=
  { ready with
    readable := ready.readable && interest == .readable
    writable := ready.writable && interest == .writable }

end Readiness

/-- One report. -/
structure Event where
  /-- The watch that reports. -/
  token : Token
  /-- What its source is ready for. -/
  ready : Readiness
deriving DecidableEq, Repr

/-- An event is an error if the source has failed or hung up, or if it names no direction. -/
def Event.isError (event : Event) : Bool :=
  event.ready.error || event.ready.hangup || (!event.ready.readable && !event.ready.writable)

/-- A watch on a source. -/
structure Watch where
  /-- What is watched. -/
  source : Source
  /-- The name under which the watch reports. -/
  token : Token
  /-- What the watch waits for. -/
  interest : Interest
  /-- Whether an event disarms the watch. -/
  oneShot : Bool
  /-- Whether the watch reports. -/
  armed : Bool
deriving DecidableEq, Repr

/-- A set of watches, and the sources on which something has happened. -/
structure Poller where
  /-- The watches, at most one on each source. -/
  watches : List Watch
  /-- The sources on which something has happened, the earliest first. -/
  pending : List Source
  /-- Whether the next requests to set a watch or to arm one are refused. -/
  refusals : List Bool
deriving DecidableEq, Repr

namespace Poller

/-- A poller without watches. -/
def empty : Poller := ⟨[], [], []⟩

/-- The watch on a source. -/
def watch? (poller : Poller) (source : Source) : Option Watch :=
  poller.watches.find? fun watch => watch.source = source

/-- Puts a source into the queue unless it waits there already. -/
def enqueue (poller : Poller) (source : Source) : Poller :=
  if source ∈ poller.pending then poller
  else { poller with pending := poller.pending ++ [source] }

/-- Something has happened on a source. It is noted if an armed watch waits for it. -/
def raise (poller : Poller) (source : Source) (happened : Readiness) : Poller :=
  match poller.watch? source with
  | none => poller
  | some watch =>
    if watch.armed && (happened.restrict watch.interest).isSome then poller.enqueue source
    else poller

/-- Sets a watch on a source that is `ready` at the moment. Gives whether that was done: it may be
refused, and it is when there is a watch already. -/
def add (poller : Poller) (source : Source) (token : Token) (interest : Interest) (oneShot : Bool)
    (ready : Readiness) : Bool × Poller :=
  let refused := poller.refusals.head?.getD false || (poller.watch? source).isSome
  let poller := { poller with refusals := poller.refusals.tail }
  if refused then (false, poller)
  else
    let watch : Watch := ⟨source, token, interest, oneShot, true⟩
    (true, { poller with watches := poller.watches ++ [watch] }.raise source ready)

/-- Arms the watch on a source that is `ready` at the moment. Gives whether that was done: it may be
refused, and it is when there is no watch. -/
def rearm (poller : Poller) (source : Source) (interest : Interest) (ready : Readiness) :
    Bool × Poller :=
  let refused := poller.refusals.head?.getD false || (poller.watch? source).isNone
  let poller := { poller with refusals := poller.refusals.tail }
  if refused then (false, poller)
  else
    let watches := poller.watches.map fun watch =>
      if watch.source = source then { watch with interest, armed := true } else watch
    (true, { poller with watches }.raise source ready)

/-- Removes the watch on a source. -/
def delete (poller : Poller) (source : Source) : Poller :=
  { poller with
    watches := poller.watches.filter fun watch => watch.source ≠ source
    pending := poller.pending.filter fun other => other ≠ source }

/-- Disarms the watch on a source if it is one-shot. -/
def disarm (poller : Poller) (source : Source) : Poller :=
  { poller with
    watches := poller.watches.map fun watch =>
      if watch.source = source && watch.oneShot then { watch with armed := false } else watch }

/-- The event that a source gives at the moment, if it gives one. -/
def eventOf (poller : Poller) (ready : Source → Readiness) (source : Source) : Option Event :=
  match poller.watch? source with
  | none => none
  | some watch =>
    let told := (ready source).restrict watch.interest
    if watch.armed && told.isSome then some ⟨watch.token, told⟩ else none

/-- Takes sources off the front of the queue until `most` events are found. -/
def collect (ready : Source → Readiness) (most : Nat) : List Source → Poller → List Event × Poller
  | [], poller => ([], { poller with pending := [] })
  | source :: rest, poller =>
    match most with
    | 0 => ([], { poller with pending := source :: rest })
    | fewer + 1 =>
      match poller.eventOf ready source with
      | none => collect ready (fewer + 1) rest poller
      | some event =>
        let (events, poller) := collect ready fewer rest (poller.disarm source)
        (event :: events, poller)

/-- The events of at most `most` sources, where `ready` says what each source is ready for. -/
def wait (poller : Poller) (most : Nat) (ready : Source → Readiness) : List Event × Poller :=
  collect ready most poller.pending poller

end Poller

end FileServer
