/-!
# The help of the command line

The usage, which also stands in front of a refusal, and the full help.

## Main definitions

* `Cli.usageText` — how the program is called
* `Cli.helpText` — the usage, the purpose, and what each argument means
-/

namespace Indentation.Cli

/-- How the program is called. -/
def usageText : String :=
  "usage: indentscope [-h] -l LINE [-c COLUMN] [--end-line END_LINE]\n"
    ++ "                   [--end-column END_COLUMN] [--indent STR] [--language ID]\n"
    ++ "                   [--config FILE] [--json] [--debug]\n"
    ++ "                   input\n"

/-- The usage, the purpose, and what each argument means. -/
def helpText : String :=
  usageText
    ++ "\n"
    ++ "Show sanitized indentation input and rule decisions for a line\n"
    ++ "\n"
    ++ "positional arguments:\n"
    ++ "  input                 Input source file\n"
    ++ "\n"
    ++ "options:\n"
    ++ "  -h, --help            show this help message and exit\n"
    ++ "  -l LINE, --line LINE  1-based line number\n"
    ++ "  -c COLUMN, --column COLUMN\n"
    ++ "                        1-based caret column (default: end of line)\n"
    ++ "  --end-line END_LINE   Selection end line\n"
    ++ "  --end-column END_COLUMN\n"
    ++ "                        Selection end column\n"
    ++ "  --indent STR          Replacement indentation for the line (\\t for a tab)\n"
    ++ "  --language ID         Language id (default: from the file extension)\n"
    ++ "  --config FILE         Config file (default: auto-discover indentscope.toml)\n"
    ++ "  --json                Print the report as JSON\n"
    ++ "  --debug               Dump tokens and scope to stderr\n"

end Indentation.Cli
