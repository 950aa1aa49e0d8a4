import SchedulerLink.Call.Method
import SchedulerLink.Call.Response
import SchedulerLink.Cluster
import SchedulerLink.Command.Invocation
import SchedulerLink.Json.Printer

/-!
What the program prints.
-/

namespace SchedulerLink.Listing

def padded (width : Nat) (text : String) : String :=
  text ++ String.ofList (List.replicate (width - text.length) ' ')

def ofLines (lines : List String) : String := String.join (lines.map (· ++ "\n"))

def methodLine (method : Method) : String :=
  let signature := method.signature
  let optional := if 0 < signature.optional then " [+optional]" else ""
  s!"{padded 36 signature.name} {signature.required}{optional}"

def methods : String := ofLines (Method.all.map methodLine)

def row (name mode target : String) : String := s!"{padded 16 name} {padded 10 mode} {target}"

def clusterRow (cluster : Cluster) : String :=
  match cluster.registry, cluster.schedulerUri with
  | some registry, _ =>
    row cluster.name "zk" s!"{registry}:{cluster.registryPort}{cluster.registryPath}"
  | none, some uri => row cluster.name "direct" uri
  | none, none => row cluster.name "-" "-"

/-- The clusters that are known, and how their schedulers are reached. -/
def clusters (clusters : List Cluster) : String :=
  if clusters.isEmpty then "No clusters configured.\n"
  else ofLines (row "NAME" "MODE" "TARGET" :: clusters.map clusterRow)

def response (response : Response) : String :=
  let document := Json.ofFields
    [("responseCode", .str response.code.name), ("details", .arr (response.details.map .str)),
      ("result", response.result.getD .null), ("serverInfo", response.serverInfo.getD .null)]
  document.encodeIndented ++ "\n"

def completions (shell : Shell) : String :=
  let verbs := " ".intercalate (Verb.all.map Verb.name ++ ["help"])
  match shell with
  | .bash => s!"complete -W \"{verbs}\" aurora-client\n"
  | .elvish =>
    "set edit:completion:arg-completer[aurora-client] = \x7b|@words| put " ++ verbs ++ " \x7d\n"
  | .fish => s!"complete -c aurora-client -f -a \"{verbs}\"\n"
  | .powershell =>
    "Register-ArgumentCompleter -Native -CommandName aurora-client -ScriptBlock \x7b \"" ++ verbs ++
      "\" -split ' ' \x7d\n"
  | .zsh => s!"#compdef aurora-client\ncompadd {verbs}\n"

end SchedulerLink.Listing
