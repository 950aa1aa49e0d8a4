import SchedulerLink.Command.Invocation

/-!
What users are told about how the program is used.

There is a page about the program, one about each command and one about the help itself. A page says
what its subject does, gives its synopsis and lists commands, arguments and options in two columns.
-/

namespace SchedulerLink

structure UsageEntry where
  form : String
  text : String
  deriving DecidableEq, Repr

namespace Verb

def summary : Verb → String
  | .call => "Call one scheduler RPC and print the response"
  | .url => "Print the scheduler URL of a cluster"
  | .clusters => "List configured clusters"
  | .methods => "List the RPCs \x60call\x60 accepts"
  | .completions => "Print shell completions"

def arguments : Verb → List UsageEntry
  | .call =>
    [⟨"<CLUSTER>", "Cluster name from the config file"⟩,
      ⟨"<METHOD>", "RPC name, e.g. getJobs"⟩,
      ⟨"[ARGS]...", "Positional arguments, each an encoded Thrift JSON value"⟩]
  | .url => [⟨"<CLUSTER>", ""⟩]
  | .completions =>
    [⟨"<SHELL>", "[possible values: " ++ ", ".intercalate (Shell.all.map Shell.name) ++ "]"⟩]
  | _ => []

def flagText : Verb → String
  | .call => "The call is idempotent: retry it if the connection drops"
  | .url => "Print the scheduler's own address even when a proxy URL is configured"
  | _ => ""

end Verb

namespace UsagePage

def helpSummary : String := "Print this message or the help of the given subcommand(s)"

def summary : UsagePage → String
  | .program => "Issue RPCs to a leader-elected cluster scheduler"
  | .command verb => verb.summary
  | .help => helpSummary

def commands : UsagePage → List UsageEntry
  | .program => Verb.all.map (fun verb => ⟨verb.name, verb.summary⟩) ++ [⟨"help", helpSummary⟩]
  | _ => []

def arguments : UsagePage → List UsageEntry
  | .program => []
  | .command verb => verb.arguments
  | .help => [⟨"[COMMAND]...", "Print help for the subcommand(s)"⟩]

def optionsWith (own : List UsageEntry) : List UsageEntry :=
  [⟨"    --config <PATH>", "Config file to use instead of ~/.config/aurora-client/config.toml"⟩] ++
    own ++ [⟨"-h, --help", "Print help"⟩]

def options : UsagePage → List UsageEntry
  | .program => optionsWith []
  | .command verb => optionsWith (verb.flag?.toList.map fun flag => ⟨"    " ++ flag, verb.flagText⟩)
  | .help => []

def synopsis : UsagePage → List String
  | .program => ["aurora-client", "[OPTIONS]", "<COMMAND>"]
  | .command verb => ["aurora-client", verb.name, "[OPTIONS]"] ++ verb.arguments.map (·.form)
  | .help => ["aurora-client", "help"] ++ help.arguments.map (·.form)

def table? (heading : String) (entries : List UsageEntry) : Option String :=
  let width := entries.foldl (fun width entry => max width entry.form.length) 0
  let line (entry : UsageEntry) : String :=
    "  " ++ entry.form ++ String.ofList (List.replicate (width - entry.form.length) ' ') ++ "  " ++
      entry.text
  if entries.isEmpty then none else some ("\n".intercalate (heading :: entries.map line))

def text (page : UsagePage) : String :=
  let tables := [table? "Commands:" page.commands, table? "Arguments:" page.arguments,
    table? "Options:" page.options]
  let usage := "Usage: " ++ " ".intercalate page.synopsis
  "\n\n".intercalate (page.summary :: usage :: tables.filterMap id) ++ "\n"

end UsagePage

end SchedulerLink
