import LoopTemplate.CommandLine.Arguments

/-!
# Help texts
-/

namespace LoopTemplate.CommandLine

/-- What `--version` prints. -/
def versionText : String := "jsx2mp 0.1.0\n"

/-- The lines of a help text. -/
def Topic.lines : Topic → List String
  | .program =>
      ["jsx2mp - JSX to mini-program template compiler",
        "",
        "Usage: jsx2mp [OPTIONS] <COMMAND>",
        "",
        "Commands:",
        "  compile  Compile one file and print the result",
        "  build    Compile every source of the project in the current directory",
        "  help     Print this message or the help of the given subcommand(s)",
        "",
        "Options:",
        "  -v, --verbose  Print debug logs to stderr",
        "  -h, --help     Print help",
        "  -V, --version  Print version"]
  | .compile =>
      ["Compile one file and print the result",
        "",
        "Usage: jsx2mp compile [OPTIONS] <FILE>",
        "",
        "Arguments:",
        "  <FILE>  Source file (.jsx or .js)",
        "",
        "Options:",
        "      --target <TARGET>  Host runtime: ali or wechat [default: ali]",
        "  -v, --verbose          Print debug logs to stderr",
        "      --policy <POLICY>  Nested loop capture merging: " ++
          "flatten or scoped [default: flatten]",
        "      --expression       Treat the file as a single markup expression",
        "      --minify           Print without whitespace",
        "  -h, --help             Print help"]
  | .build =>
      ["Compile every source of the project in the current directory",
        "",
        "Usage: jsx2mp build [OPTIONS]",
        "",
        "Options:",
        "      --target <TARGET>  Override the target from jsx2mp.json",
        "  -v, --verbose          Print debug logs to stderr",
        "  -h, --help             Print help"]
  | .help =>
      ["Print this message or the help of the given subcommand(s)",
        "",
        "Usage: jsx2mp help [COMMAND]...",
        "",
        "Arguments:",
        "  [COMMAND]...  Print help for the subcommand(s)"]

/-- A help text. -/
def Topic.text (topic : Topic) : String :=
  String.join (topic.lines.map (· ++ "\n"))

end LoopTemplate.CommandLine
