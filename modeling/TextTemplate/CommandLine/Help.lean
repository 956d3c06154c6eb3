import TextTemplate.CommandLine.Arguments

/-!
# What a command line says about itself

The help and the version, and the exit status of a command line that asks for no rendering.
-/

set_option autoImplicit false

namespace TextTemplate.CommandLine

def helpLines : List String :=
  [ "stache: logic-less mustache-style templating",
    "",
    "Usage: stache [OPTIONS] <TEMPLATE>",
    "",
    "Arguments:",
    "  <TEMPLATE>  Path to the template, without its extension",
    "",
    "Options:",
    "  -c, --context <FILE>         JSON or YAML file holding the binding context",
    "  -s, --stdin                  Read the binding context from stdin",
    "  -e, --extension <EXTENSION>  Template file extension [default: mustache]",
    "      --strip                  Remove tags that were left unresolved after rendering",
    "  -o, --output <FILE>          Write the output to this file instead of stdout",
    "  -v, --verbose                Enable verbose logging output",
    "  -h, --help                   Print help",
    "  -V, --version                Print version" ]

def help : Text :=
  helpLines.flatMap (fun line => line.toList ++ ['\n'])

def version : Text := "stache 0.1.0\n".toList

/-- The exit status and the output of a command line that asks for no rendering. Where something
required is missing, the help is given. -/
def refusal : ArgumentFault → Nat × Text
  | .missingRequired => (1, help)
  | .help => (0, help)
  | .version => (0, version)
  | _ => (2, [])

end TextTemplate.CommandLine
