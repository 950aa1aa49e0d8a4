import SchedulerLink.Http.Request
import SchedulerLink.Link.Surroundings

/-!
What is done on a stage and what came of it, and views of that.

A log lists what was done, the first first. Every view keeps that order.
-/

namespace SchedulerLink

/-- What somebody did on a stage. -/
inductive Entry where
  | slept (span : Duration)
  | lookedUp (path : String) (patience : Duration)
    (answer : Except Halt (Except DiscoveryFailure (List Member)))
  | created (channel : Nat) (uri : String) (setup : ChannelSetup)
  | opened (channel : Nat) (result : Except ChannelFailure Unit)
  | closed (channel : Nat) (wasOpen : Bool)
  | adopted (channel : Nat)
  | called (channel : Nat) (sequence : Int32) (method : Method) (arguments : List Json)
    (answer : Except Halt (Except CallFailure Response))
  | posted (channel : Nat) (message : Bytes)
  | requested (request : HttpRequest)
  | printed (text : String)
  deriving Repr

abbrev Log := List Entry

namespace Log

def pauses (log : Log) : List Duration :=
  log.filterMap fun
    | .slept span => some span
    | _ => none

def lookups (log : Log) : List (String × Duration) :=
  log.filterMap fun
    | .lookedUp path patience _ => some (path, patience)
    | _ => none

def creations (log : Log) : List (String × ChannelSetup) :=
  log.filterMap fun
    | .created _ uri setup => some (uri, setup)
    | _ => none

def openings (log : Log) : List (Except ChannelFailure Unit) :=
  log.filterMap fun
    | .opened _ result => some result
    | _ => none

def closings (log : Log) : List Nat :=
  log.filterMap fun
    | .closed channel true => some channel
    | _ => none

def adoptions (log : Log) : List Nat :=
  log.filterMap fun
    | .adopted channel => some channel
    | _ => none

def calls (log : Log) : List (Method × List Json) :=
  log.filterMap fun
    | .called _ _ method arguments _ => some (method, arguments)
    | _ => none

def messages (log : Log) : List Bytes :=
  log.filterMap fun
    | .posted _ message => some message
    | _ => none

def requests (log : Log) : List HttpRequest :=
  log.filterMap fun
    | .requested request => some request
    | _ => none

def output (log : Log) : String :=
  String.join (log.filterMap fun
    | .printed text => some text
    | _ => none)

end Log

end SchedulerLink
