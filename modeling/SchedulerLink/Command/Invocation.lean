/-!
Command lines of the program.

Options may stand before a command and behind it, in any order with its other words; behind `--`
there are only words. The nearest settings path wins. Whatever is wrong comes out before whatever is
asked for behind it.
-/

namespace SchedulerLink

inductive Shell where
  | bash
  | elvish
  | fish
  | powershell
  | zsh
  deriving DecidableEq, Repr

namespace Shell

def all : List Shell := [.bash, .elvish, .fish, .powershell, .zsh]

def name : Shell → String
  | .bash => "bash"
  | .elvish => "elvish"
  | .fish => "fish"
  | .powershell => "powershell"
  | .zsh => "zsh"

def ofName? (name : String) : Option Shell := all.find? fun shell => shell.name = name

end Shell

inductive Command where
  | call (cluster method : String) (arguments : List String) (repeatable : Bool)
  | url (cluster : String) (raw : Bool)
  | clusters
  | methods
  | completions (shell : Shell)
  deriving DecidableEq, Repr

/-- A command and the path of the settings it is to be done with, if it is given. -/
structure Invocation where
  settingsPath : Option String
  command : Command
  deriving DecidableEq, Repr

inductive Verb where
  | call
  | url
  | clusters
  | methods
  | completions
  deriving DecidableEq, Repr

namespace Verb

def all : List Verb := [.call, .url, .clusters, .methods, .completions]

def name : Verb → String
  | .call => "call"
  | .url => "url"
  | .clusters => "clusters"
  | .methods => "methods"
  | .completions => "completions"

def ofName? (name : String) : Option Verb := all.find? fun verb => verb.name = name

def flag? : Verb → Option String
  | .call => some "--retry"
  | .url => some "--raw"
  | _ => none

def takes (verb : Verb) (words : List String) (word : String) : Bool :=
  match verb with
  | .call => true
  | .url => words.isEmpty
  | .completions => words.isEmpty && (Shell.ofName? word).isSome
  | _ => false

end Verb

inductive UsagePage where
  | program
  | command (verb : Verb)
  | help
  deriving DecidableEq, Repr

def UsagePage.flag? : UsagePage → Option String
  | .command verb => verb.flag?
  | _ => none

/-- Why a command line calls for no command. -/
inductive NoCommand where
  | help (page : UsagePage)
  | misuse
  deriving DecidableEq, Repr

namespace Invocation

structure Found where
  settingsPath : Option String := none
  flag : Bool := false
  words : List String := []
  deriving Repr

def Found.setPath (found : Found) (path : String) : Except NoCommand Found :=
  if path.isEmpty ∨ found.settingsPath.isSome then .error .misuse
  else .ok { found with settingsPath := some path }

def splitOption (word : String) : String × Option String :=
  let name := word.toList.takeWhile (· ≠ '=')
  match word.toList.drop name.length with
  | _ :: value => (String.ofList name, some (String.ofList value))
  | [] => (word, none)

/-- Whether a word is read as options. -/
def isOption (word : String) : Bool := word.startsWith "-" && word ≠ "-"

def readFlag (page : UsagePage) (found : Found) (word : String) : Except NoCommand Found :=
  if word = "--help" ∨ word.startsWith "-h" then .error (.help page)
  else if page.flag? = some word ∧ !found.flag then .ok { found with flag := true }
  else .error .misuse

def readWords (verb : Verb) (found : Found) : List String → Except NoCommand Found
  | [] => .ok found
  | word :: rest =>
    if verb.takes found.words word then
      readWords verb { found with words := found.words ++ [word] } rest
    else .error .misuse

def readArguments (verb : Verb) (found : Found) : List String → Except NoCommand Found
  | [] => .ok found
  | word :: rest =>
    if word = "--" then readWords verb found rest
    else
      match splitOption word with
      | ("--config", some path) => do readArguments verb (← found.setPath path) rest
      | ("--config", none) =>
        match rest with
        | [] => .error .misuse
        | path :: rest =>
          if isOption path then .error .misuse
          else do readArguments verb (← found.setPath path) rest
      | _ =>
        if isOption word then do readArguments verb (← readFlag (.command verb) found word) rest
        else if verb.takes found.words word then
          readArguments verb { found with words := found.words ++ [word] } rest
        else .error .misuse

def commandOf (verb : Verb) (found : Found) : Except NoCommand Command :=
  match verb, found.words with
  | .call, cluster :: method :: arguments => .ok (.call cluster method arguments found.flag)
  | .url, [cluster] => .ok (.url cluster found.flag)
  | .clusters, [] => .ok .clusters
  | .methods, [] => .ok .methods
  | .completions, [name] =>
    match Shell.ofName? name with
    | some shell => .ok (.completions shell)
    | none => .error .misuse
  | _, _ => .error .misuse

def readHelp : List String → NoCommand
  | [] => .help .program
  | ["help"] => .help .help
  | [name] =>
    match Verb.ofName? name with
    | some verb => .help (.command verb)
    | none => .misuse
  | _ => .misuse

def readFrom (found : Found) : List String → Except NoCommand Invocation
  | [] => .error .misuse
  | word :: rest =>
    match splitOption word with
    | ("--config", some path) => do readFrom (← found.setPath path) rest
    | ("--config", none) =>
      match rest with
      | [] => .error .misuse
      | path :: rest =>
        if isOption path then .error .misuse else do readFrom (← found.setPath path) rest
    | _ =>
      if isOption word then do readFrom (← readFlag .program found word) rest
      else if word = "help" then .error (readHelp rest)
      else
        match Verb.ofName? word with
        | none => .error .misuse
        | some verb => do
          let behind ← readArguments verb {} rest
          let command ← commandOf verb behind
          pure ⟨behind.settingsPath.or found.settingsPath, command⟩

/-- The command that a command line calls for. -/
def parse (words : List String) : Except NoCommand Invocation := readFrom {} words

end Invocation

end SchedulerLink
