import SumGreeting.CommandLine.UsageError

/-!
# Why no run is started

The arguments of the command line may ask for the help text or the version, or be unusable.  The
first two are answered on the standard output, the last one on the error stream.

## Main definitions

* `Stop` : help, version, or a usage error.
* `Stop.text`, `Stop.exitCode` : what is shown, and the exit code of the program.
-/

namespace SumGreeting.CommandLine

/-- Why the arguments start no run. -/
inductive Stop where
  /-- The help text was asked for. -/
  | help
  /-- The version was asked for. -/
  | version
  /-- The arguments are unusable. -/
  | usage (error : UsageError)
  deriving DecidableEq

/-- The help text. -/
def helpText : String :=
  "Prints the sum of two integers and a greeting\n" ++
  "\n" ++
  "Usage: hello-sum [OPTIONS]\n" ++
  "\n" ++
  "Options:\n" ++
  "  -a, --first <FIRST>    First operand [default: 5]\n" ++
  "  -b, --second <SECOND>  Second operand [default: 3]\n" ++
  "  -n, --name <NAME>      Name to greet [default: World]\n" ++
  "      --json             Print the report as a single JSON object\n" ++
  "  -q, --quiet            Suppress informational output on stderr\n" ++
  "      --strict           Reject overflowing sums and names with control characters\n" ++
  "  -v, --verbose...       Increase log verbosity (-v info, -vv debug, -vvv trace)\n" ++
  "  -h, --help             Print help\n" ++
  "  -V, --version          Print version\n"

/-- The version text. -/
def versionText : String := programName ++ " 0.1.0\n"

namespace Stop

/-- The text that is shown.  White space ends a control sequence in it. -/
def text : Stop → String
  | help => helpText
  | version => versionText
  | usage error => error.message .ends

/-- The exit code of the program: asking for help or the version is no error. -/
def exitCode : Stop → Nat
  | help | version => 0
  | usage _ => 2

end Stop

end SumGreeting.CommandLine
