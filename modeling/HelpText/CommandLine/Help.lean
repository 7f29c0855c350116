import HelpText.Text.Basic

/-!
What the command line says of itself.
-/

namespace HelpText

namespace CommandLine

def programName : Text := .of "mdtogo"

def versionText : Text := programName ++ .of " 0.1.0\n"

def usageText : Text :=
  .of "usage: " ++ programName ++
    .of " SOURCE_DIR DEST_DIR [--full[=BOOL]] [--license=PATH|none] [options]\n"

/-- What stands below the usage. Lines have 78 columns, and explanations begin at column 24. -/
def helpLines : List Text := [
  .of "",
  .of "Generate Go string variables holding command help text from a directory of",
  .of "Markdown files.",
  .of "",
  .of "positional arguments:",
  .of "  SOURCE_DIR            Directory containing the Markdown (*.md) documents.",
  .of "  DEST_DIR              Directory receiving the generated file; its base name",
  .of "                        is used as the Go package name.",
  .of "",
  .of "options:",
  .of "  -h, --help            show this help message and exit",
  .of "  --full [BOOL]         Put every section of each document into the Long",
  .of "                        variable instead of splitting by subsection. A bare",
  .of "                        --full must come after DEST_DIR; anywhere else write",
  .of "                        --full=true.",
  .of "  --license PATH        License header file to prepend, or 'none' to omit the",
  .of "                        header. Defaults to the built-in Apache-2.0 header.",
  .of "  --config CONFIG       Path to an mdtogo.toml config file.",
  .of "  --no-sort             Process documents in directory-listing order, not by",
  .of "                        name.",
  .of "  --strict-names        Fail when two documents produce the same variable",
  .of "                        prefix.",
  .of "  --output-name OUTPUT_NAME",
  .of "                        Name of the generated file (defaults to docs.go).",
  .of "  --log-level LOG_LEVEL",
  .of "                        Log level for the log file (defaults to INFO).",
  .of "  --log-file LOG_FILE   Write JSON log records to this file.",
  .of "  -v, --verbose         Echo log records to stderr.",
  .of "  -V, --version         show program's version number and exit",
  .of "",
  .of "Without --full, each document is split into Short (first line after the '## '",
  .of "heading), Long ('### Synopsis') and Examples ('### Examples').",
  .of ""]

def helpText : Text := usageText ++ Text.join ['\n'] helpLines

end CommandLine

end HelpText
