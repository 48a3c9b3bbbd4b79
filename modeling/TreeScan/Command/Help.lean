import TreeScan.Command.Arguments
import TreeScan.Text.Split

/-!
# Help

The texts that a command line shows when it asks for help or for the version, or
when it is misused.
-/

namespace TreeScan.Command

/-- The name of the program. -/
def programName : String := "ferry"

/-- The name and version of the program. -/
def versionText : String := programName ++ " 0.1.0-alpha.1\n"

/-- The lines of a text, each with its line break. -/
def lined (lines : List String) : String := Text.joinStrings "\n" lines ++ "\n"

/-- The help on the general flags and on help itself. -/
def generalHelp : List String :=
  ["      --no-catch-panics  Let handler panics unwind instead of reporting them as internal errors",
   "      --no-stack-dump    Do not log the scanning stack when an internal error is reported",
   "  -h, --help             Print help"]

/-- The help on the program. -/
def programHelp : List String :=
  ["Scan compilation units with the ferry traversal engine",
   "",
   "Usage: " ++ programName ++ " [OPTIONS] <COMMAND>",
   "",
   "Commands:",
   "  outline  Print the outline of a compilation unit",
   "  imports  List static imports registered after activating each unit in order",
   "  help     Print this message or the help of the given subcommand(s)",
   "",
   "Options:"] ++ generalHelp ++
  ["  -V, --version          Print version"]

/-- The help on `outline`. -/
def outlineHelp : List String :=
  ["Print the outline of a compilation unit",
   "",
   "Usage: " ++ programName ++ " outline [OPTIONS] <FILE>",
   "",
   "Arguments:",
   "  <FILE>  Compilation unit (JSON)",
   "",
   "Options:",
   "      --compact          Inline simple method bodies on the method line"] ++ generalHelp

/-- The help on `imports`. -/
def importsHelp : List String :=
  ["List static imports registered after activating each unit in order",
   "",
   "Usage: " ++ programName ++ " imports [OPTIONS] <FILE>...",
   "",
   "Arguments:",
   "  <FILE>...  Compilation units (JSON)",
   "",
   "Options:",
   "      --reset-per-unit   Clear the registry whenever a new unit is activated"] ++ generalHelp

/-- The help on `help`. -/
def helpHelp : List String :=
  ["Print this message or the help of the given subcommand(s)",
   "",
   "Usage: " ++ programName ++ " help [COMMAND]...",
   "",
   "Arguments:",
   "  [COMMAND]...  Print help for the subcommand(s)"]

/-- The help on a topic. -/
def Topic.text : Topic → String
  | .program => lined programHelp
  | .command .outline => lined outlineHelp
  | .command .imports => lined importsHelp
  | .help => lined helpHelp

/-- What is printed for a command line that is misused. -/
def misuseText : String :=
  lined ["error: the command line cannot be understood",
    "",
    "For more information, try '--help'."]

end TreeScan.Command
