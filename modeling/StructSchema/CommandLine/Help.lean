/-!
# Help

The text that a request for help prints.
-/

namespace StructSchema.CommandLine

/-- The name of the program. -/
def programName : String := "struct2nest"

/-- The lines of the help. -/
def helpLines : List String :=
  ["usage: struct2nest [-h] [--output DIR] [--target TARGET] [--config FILE]",
    "                   [--all-structs] [--dry-run] [--show-code] [--verbose]",
    "                   [--no-timestamps] [--no-virtuals]",
    "                   [--duplicate-fields \x7berror,last_wins\x7d] [--list-targets]",
    "                   [input_dir]",
    "",
    "Convert tagged Go structs into NestJS Mongoose schema classes",
    "",
    "positional arguments:",
    "  input_dir             Directory of Go source files",
    "",
    "options:",
    "  -h, --help            show this help message and exit",
    "  --output DIR, -o DIR  Directory for generated schemas (default: out_schemas)",
    "  --target TARGET, -t TARGET",
    "                        Target framework (default: nestjs)",
    "  --config FILE         JSON configuration file",
    "  --all-structs         Convert every struct in a file, not only the first",
    "  --dry-run             Generate and report without writing files",
    "  --show-code           Print generated code to the console",
    "  --verbose, -v         Enable debug logging",
    "",
    "NestJS options:",
    "  --no-timestamps       Disable Mongoose timestamps in @Schema options",
    "  --no-virtuals         Don't serialize virtuals in toJSON/toObject",
    "  --duplicate-fields \x7berror,last_wins\x7d",
    "                        How to treat repeated field names (default: error)",
    "",
    "information:",
    "  --list-targets        List supported targets and exit",
    "",
    "Examples:",
    "  struct2nest models/",
    "  struct2nest models/ --output src/schemas --all-structs",
    "  struct2nest models/ --dry-run --show-code",
    "  struct2nest --list-targets"]

/-- The text of the help. -/
def helpText : String := String.join (helpLines.map (· ++ "\n"))

/-- The text that follows a mistake. -/
def usageText (message : String) : String :=
  String.join ((helpLines.takeWhile (· ≠ "")).map (· ++ "\n"))
    ++ programName ++ ": error: " ++ message ++ "\n"

end StructSchema.CommandLine
