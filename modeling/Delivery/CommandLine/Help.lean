import Delivery.CommandLine.Arguments

/-!
# Help
-/

namespace Delivery.CommandLine

def versionText : String := "dispatch 0.1.0\n"

def Topic.lines : Topic → List String
  | program =>
    ["Maintain the dispatch dead-letter queue",
     "",
     "Usage: dispatch [OPTIONS] <COMMAND>",
     "",
     "Commands:",
     "  purge  Delete entries enqueued before a cutoff",
     "  serve  Run the scheduled retention purge until interrupted",
     "  stats  Show entry counts per reason",
     "  help   Print this message or the help of the given subcommand(s)",
     "",
     "Options:",
     "  -c, --config <CONFIG>  Path to the configuration file",
     "  -h, --help             Print help",
     "  -V, --version          Print version"]
  | purge =>
    ["Delete entries enqueued before a cutoff",
     "",
     "Usage: dispatch purge [OPTIONS]",
     "",
     "Options:",
     "      --older-than-days <OLDER_THAN_DAYS>  Age in days; defaults to the configured retention",
     "      --replayed-only                      Only delete entries that have already been replayed",
     "      --reason <REASON>                    Reason recorded in the log [default: \"manual purge\"]",
     "  -h, --help                               Print help"]
  | serve =>
    ["Run the scheduled retention purge until interrupted",
     "",
     "Usage: dispatch serve",
     "",
     "Options:",
     "  -h, --help  Print help"]
  | stats =>
    ["Show entry counts per reason",
     "",
     "Usage: dispatch stats",
     "",
     "Options:",
     "  -h, --help  Print help"]
  | help =>
    ["Print this message or the help of the given subcommand(s)",
     "",
     "Usage: dispatch help [COMMAND]...",
     "",
     "Arguments:",
     "  [COMMAND]...  Print help for the subcommand(s)"]

def Topic.text (t : Topic) : String := String.join (t.lines.map (· ++ "\n"))

def refusal : String :=
  "error: unusable arguments\n\nUsage: dispatch [OPTIONS] <COMMAND>\n\n" ++
    "For more information, try '--help'.\n"

end Delivery.CommandLine
