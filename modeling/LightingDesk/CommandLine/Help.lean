import LightingDesk.CommandLine.Arguments
/-!
The help texts of the command line.
-/

namespace LightingDesk.CommandLine

def programName : String := "actflow"

def versionText : String := s!"{programName} 0.1.0"

def padTo (width : Nat) (text : String) : String :=
  text ++ String.ofList (List.replicate (width - text.length) ' ')

/-- One line of an option list: the option, padded to the column of its description. -/
def optionLine (option description : String) : String := "  " ++ padTo 23 option ++ description

def settingsLine : String := optionLine "    --config <CONFIG>" "TOML configuration file"

def helpLine : String := optionLine "-h, --help" "Print help"

def helpSummary : String := "Print this message or the help of the given subcommand(s)"

def generalHelp : List String :=
  ["ActFlow - node-based act playback for DMX lighting", "",
    s!"Usage: {programName} [OPTIONS] <COMMAND>", "", "Commands:"] ++
    Verb.all.map (fun verb => "  " ++ padTo 10 verb.name ++ verb.summary) ++
    ["  help      " ++ helpSummary, "", "Options:", settingsLine, helpLine,
      optionLine "-V, --version" "Print version"]

def verbHelp (verb : Verb) : List String :=
  let required := match verb with
    | .play => " --act <ACT>"
    | .validate | .inspect => ""
  let own := match verb with
    | .play => [optionLine "    --act <ACT>" "Act id or name"]
    | .validate | .inspect => []
  let last := match verb with
    | .play =>
        [optionLine "    --for <SECONDS>"
          "Stop after this many seconds instead of when the act ends"]
    | .validate | .inspect => []
  [verb.summary, "", s!"Usage: {programName} {verb.name} [OPTIONS]{required} <SHOW>", "",
    "Arguments:", "  <SHOW>  ", "", "Options:"] ++ own ++ [settingsLine] ++ last ++ [helpLine]

def helpOnHelp : List String :=
  [helpSummary, "", s!"Usage: {programName} help [COMMAND]...", "", "Arguments:",
    "  [COMMAND]...  Print help for the subcommand(s)"]

def help : Topic → List String
  | .program => generalHelp
  | .verb verb => verbHelp verb
  | .help => helpOnHelp

end LightingDesk.CommandLine
