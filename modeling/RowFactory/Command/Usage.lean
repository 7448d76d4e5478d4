import RowFactory.Command.Arguments

/-! # Usage

What is shown for arguments that are no request.
-/

namespace RowFactory.Command

def programName : String := "rowsmith"

def helpText : String :=
  "\n".intercalate [s!"Usage: {programName} [-v]... COMMAND", "", "Commands:",
    "  generate [-c PATH] [--schema PATH] [--src DIR] [--out DIR] [--runtime PATH] [--no-docs]",
    "           [--no-module-index] [--dry-run]",
    "  check    [-c PATH] [--schema PATH] [--src DIR] [--out DIR] [--runtime PATH] [--no-docs]",
    "           [--no-module-index]",
    "  inspect  TABLE [--json] [-c PATH] [--schema PATH]",
    "  help     [COMMAND]"]

def versionText : String := s!"{programName} {version}"

namespace UsageFault

def isQuestion : UsageFault → Bool
  | .help | .version => true
  | _ => false

def text : UsageFault → String
  | .unknownArgument => "error: unexpected argument"
  | .invalidSubcommand => "error: unrecognized command"
  | .missingSubcommand => "error: a command is required"
  | .invalidValue => "error: an option lacks its value"
  | .missingArgument => "error: an argument is missing"
  | .conflict => "error: an option is given twice"
  | .tooManyValues => "error: an option takes no value"
  | .help | .nothingGiven => helpText
  | .version => versionText

end UsageFault

end RowFactory.Command
