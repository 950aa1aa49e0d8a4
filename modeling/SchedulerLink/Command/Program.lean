import SchedulerLink.Command.Failure
import SchedulerLink.Command.Listing
import SchedulerLink.Command.Usage
import SchedulerLink.Http.Channel

/-!
The program: a command line is read, the settings are loaded, and one command is done.

`Program.run` works in any monad that has what a `Desk` lists, so it runs on a machine as well as on
a stage. It writes nothing but what the command prints; how it ended is its result.
-/

namespace SchedulerLink

/-- What the program works with. -/
structure Desk (m : Type → Type) (Channel : Type) extends Clock m where
  files : FileStore m
  network : Network m
  channels : ChannelStore m Channel
  print : String → m Unit

structure Places where
  home : Option String
  settings : String
  journal : String
  deriving DecidableEq, Repr

namespace Places

def programName : String := "aurora-client"

def of (home : Option String) (settingsHome stateHome : Option String) : Option Places :=
  let chosen (given : Option String) (usual : String) : Option String :=
    (given.filter (·.startsWith "/")).or (home.map (Path.join · usual))
  match chosen settingsHome ".config", chosen stateHome ".local/state" with
  | some settings, some state =>
    some ⟨home, Path.join settings (Path.join programName "config.toml"),
      Path.join state (Path.join programName (programName ++ ".log"))⟩
  | _, _ => none

end Places

namespace Program

variable {m : Type → Type} [Monad m] {Channel : Type}

/-- What a session of the program works with. At most `fuel` rounds of any loop are made. -/
def surroundings (desk : Desk m Channel) (places : Places) (fuel : Nat) (settings : Settings) :
    Surroundings m Channel :=
  let login := Login.ofMechanism places.home
  settings.registry { desk.toClock with files := desk.files } fuel
    (desk.channels.surroundings desk.network desk.files fuel desk.toClock login)

def readArguments (place : Nat) : List String → Except CommandFailure (List Json)
  | [] => .ok []
  | text :: rest =>
    match Json.parse (Bytes.ofString text) with
    | .error fault => .error (.argument place text fault)
    | .ok value => (readArguments (place + 1) rest).map (value :: ·)

def isGood (code : ResponseCode) : Bool := code = .ok || code = .warning

def conclude {α : Type} (result : Except Halt (Except CommandFailure α)) (go : α → m Ending) :
    m Ending :=
  match result with
  | .error halt => pure (.halted halt)
  | .ok (.error failure) => pure (.failed failure)
  | .ok (.ok value) => go value

/-- Makes a call and prints the response. -/
def call (desk : Desk m Channel) (surroundings : Surroundings m Channel) (fuel : Nat)
    (settings : Settings) (cluster method : String) (arguments : List String) (repeatable : Bool) :
    m Ending :=
  match Method.ofName? method with
  | none => pure (.failed (.unknownMethod method))
  | some method =>
    match readArguments 1 arguments, settings.session Channel cluster with
    | .error failure, _ => pure (.failed failure)
    | .ok _, .error unknown => pure (.failed (.unknownCluster unknown))
    | .ok arguments, .ok session => do
      let result ← (session.invoke surroundings fuel ⟨method, arguments⟩ repeatable).run
      let response := result.map fun (response, _) => response.mapError CommandFailure.session
      conclude response fun response => do
        desk.print (Listing.response response)
        if isGood response.code then pure .done
        else pure (.failed (.answered method response.code))

def url (desk : Desk m Channel) (surroundings : Surroundings m Channel) (settings : Settings)
    (cluster : String) (raw : Bool) : m Ending :=
  match settings.session Channel cluster with
  | .error unknown => pure (.failed (.unknownCluster unknown))
  | .ok session => do
    let result ←
      if raw then (session.withLink surroundings (·.rawUrl surroundings)).run
      else (session.url surroundings).run
    conclude (result.map fun (url, _) => url.mapError CommandFailure.link) fun url => do
      desk.print (url ++ "\n")
      pure .done

def perform (desk : Desk m Channel) (places : Places) (fuel : Nat) (settings : Settings)
    (command : Command) : m Ending :=
  let surroundings := surroundings desk places fuel settings
  let print (text : String) : m Ending := do
    desk.print text
    pure .done
  match command with
  | .call cluster method arguments repeatable =>
    call desk surroundings fuel settings cluster method arguments repeatable
  | .url cluster raw => url desk surroundings settings cluster raw
  | .clusters => print (Listing.clusters settings.clusters)
  | .methods => print Listing.methods
  | .completions shell => print (Listing.completions shell)

/-- Whether a command depends on the settings. -/
def needsSettings : Command → Bool
  | .methods => false
  | .completions _ => false
  | _ => true

def run (desk : Desk m Channel) (places : Places) (fuel : Nat) (words : List String) :
    m Ending := do
  let _ ← desk.files.append places.journal s!"started; this journal is {places.journal}\n"
  match Invocation.parse words with
  | .error .misuse => pure .misused
  | .error (.help page) => do
    desk.print page.text
    pure .done
  | .ok invocation =>
    if needsSettings invocation.command then
      let loaded ← match invocation.settingsPath with
        | some path => Settings.load desk.files path
        | none => Settings.loadOrCreate desk.files places.settings
      match loaded with
      | .error failure => pure (.failed (.settings failure))
      | .ok settings => perform desk places fuel settings invocation.command
    else perform desk places fuel {} invocation.command

end Program

end SchedulerLink
