import LogLens.Command.Arguments
/-!
# What the command line says about itself

The name and the version of the program, the page that explains its command line, and the wording of
a mistake in it. Of the page and of the wordings only the sense is kept: they list every option and
every kind of mistake, but not in the layout and in the words in which a library for command lines
prints them.
-/

namespace LogLens

namespace Program

/-- The name of the program. -/
def name : String := "logviewer"

/-- The version of the program. -/
def version : String := "0.1.3"

/-- The line that tells the version. -/
def versionLine : String := name ++ " " ++ version

/-- The page that explains the command line. -/
def helpLines : List String :=
  ["Pretty-print Bunyan-style JSON logs from stdin or a file.",
   "",
   "Usage: " ++ name ++ " [OPTIONS] [FILE]",
   "",
   "  [FILE]                       log file to read; stdin when omitted or -",
   "  -o, --output <OUTPUT>        long, short, simple, json or bunyan",
   "  -l, --level <LEVEL>          level set, such as warn or info;debug:db;trace:http/tls",
   "  -c, --condition <CONDITION>  condition, such as .msg =~ /timeout/ (also -f, --filter)",
   "  -L, --local                  display time in local time",
   "      --time <TZ>              display time in a timezone, such as Europe/Paris",
   "      --color <WHEN>           auto, always or never",
   "      --no-color               do not colorize output",
   "      --no-pager               do not pipe output into a pager",
   "      --config <CONFIG>        config file",
   "      --log <PATH>             write diagnostic logs to a file",
   "      --debug                  log diagnostics at debug level",
   "  -v, --verbose                log diagnostics at info level",
   "      --completion <SHELL>     completion script for bash, elvish, fish, powershell or zsh",
   "  -h, --help                   print this page",
   "  -V, --version                print the version"]

end Program

/-- The wording of a mistake. -/
def UsageError.message : UsageError → String
  | help => "help was asked for"
  | version => "the version was asked for"
  | unknownArgument => "unexpected argument found"
  | invalidValue => "invalid value for an argument"
  | conflict => "an argument cannot be used here, or not more than once"
  | tooManyValues => "unexpected value for an argument that takes none"

end LogLens
