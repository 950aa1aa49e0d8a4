import SchedulerLink.Text.Blank

/-!
Netrc files: who logs in where.

A file is read line by line and word by word. A `machine` or `default` opens a block that collects
what follows it; the value of a `login`, `account` or `password` is the next word of the same line.
A word that starts with `#` hides the rest of its line, and a `macdef` the lines up to a blank one.
-/

namespace SchedulerLink

structure NetrcEntry where
  login : Option String := none
  account : Option String := none
  password : Option String := none
  deriving DecidableEq, Repr

structure Netrc where
  machines : List (String × NetrcEntry) := []
  default : Option NetrcEntry := none
  deriving DecidableEq, Repr

namespace Netrc

/-- Whom an open block is for. -/
inductive Scope where
  | machine (host : String)
  | default
  deriving DecidableEq, Repr

/-- The blocks that are complete and the one that is open. -/
structure State where
  closed : Netrc := {}
  current : Option (Scope × NetrcEntry) := none
  inMacro : Bool := false
  deriving DecidableEq, Repr

/-- Completes the open block. A later default block replaces an earlier one. -/
def State.close (state : State) : Netrc :=
  match state.current with
  | some (.machine host, entry) =>
    { state.closed with machines := state.closed.machines ++ [(host, entry)] }
  | some (.default, entry) => { state.closed with default := some entry }
  | none => state.closed

def State.enter (state : State) (scope : Scope) : State :=
  ⟨state.close, some (scope, {}), state.inMacro⟩

def State.record (state : State) (change : NetrcEntry → NetrcEntry) : State :=
  { state with current := state.current.map fun (scope, entry) => (scope, change entry) }

def readWords (state : State) : List String → State
  | [] => state
  | word :: rest =>
    if word = "machine" then
      match rest with
      | [] => state.enter (.machine "")
      | host :: rest => readWords (state.enter (.machine host)) rest
    else if word = "default" then readWords (state.enter .default) rest
    else if word = "login" then
      match rest with
      | [] => state.record ({ · with login := none })
      | value :: rest => readWords (state.record ({ · with login := some value })) rest
    else if word = "account" then
      match rest with
      | [] => state.record ({ · with account := none })
      | value :: rest => readWords (state.record ({ · with account := some value })) rest
    else if word = "password" then
      match rest with
      | [] => state.record ({ · with password := none })
      | value :: rest => readWords (state.record ({ · with password := some value })) rest
    else if word = "macdef" then { state with inMacro := true }
    else if word.startsWith "#" then state
    else readWords state rest

def readLine (state : State) (line : List Char) : State :=
  let words := (Text.words line).map String.ofList
  if state.inMacro then
    if words.isEmpty then { state with inMacro := false } else state
  else readWords state words

def parse (text : String) : Netrc := ((Text.lines text.toList).foldl readLine {}).close

/-- What applies to a host: the first machine of that name, ASCII case aside, or the default. -/
def entryFor (netrc : Netrc) (host : String) : Option NetrcEntry :=
  match netrc.machines.find? fun machine => machine.1.toLower = host.toLower with
  | some machine => some machine.2
  | none => netrc.default

end Netrc

end SchedulerLink
