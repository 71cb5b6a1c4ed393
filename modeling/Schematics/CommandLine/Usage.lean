import Schematics.CommandLine.Outcome

namespace Schematics

namespace CommandLine

def versionText : String := "manifold 0.1.0\n"

def helpText : String :=
  "Manifold schematic toolchain

Usage: manifold [OPTIONS] <COMMAND>

Commands:
  check [OPTIONS] [DOCUMENT]  Deserialize a schematic document and report problems
  dump [OPTIONS] [DOCUMENT]   Deserialize a schematic document and list its contents
  help                        Print this message

The document defaults to `project.schematic` in `manifold.toml`.

Options:
  -q, --quiet            Suppress all output except errors
  -v, --verbose          Also print progress notes
      --color <COLOR>    Control colored output: auto, always or never [default: auto]
      --config <CONFIG>  Path to a custom `manifold.toml`, or the directory holding one
  -f, --format <FORMAT>  Output format of a command: text or json [default: text]
  -h, --help             Print help
  -V, --version          Print version
"

def Refusal.message : Refusal → String
  | .help => helpText
  | .version => versionText
  | .nothingGiven => helpText
  | .noCommand => errorLine "a command is required: check or dump"
  | .unknownCommand => errorLine "there is no such command"
  | .unknownArgument => errorLine "unexpected argument"
  | .badValue => errorLine "missing or invalid value of an option"
  | .unwantedValue => errorLine "a flag takes no value"
  | .repeated => errorLine "an option cannot be used multiple times"

def refuse (r : Refusal) : Outcome :=
  match r with
  | .help | .version => { exitCode := 0, output := r.message }
  | _ => { exitCode := 2, messages := r.message }

end CommandLine

end Schematics
