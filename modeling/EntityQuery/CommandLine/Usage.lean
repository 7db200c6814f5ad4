import EntityQuery.CommandLine.Arguments

/-!
# Usage texts

What the program prints when it is asked for help or for its version.
-/

namespace EntityQuery.CommandLine

/-- The name and version of the program. -/
def versionText : String :=
  "dynquery 0.1.0"

/-- What the program is for. -/
def aboutText : String :=
  "Client-side query state and request protocol for generic entity query endpoints"

/-- What a command does. -/
def CommandName.summary : CommandName → String
  | .fetch => "Browse one page and print it as a table"
  | .exports => "Request an export and optionally download it"
  | .payload => "Print the encoded request without sending it"
  | .sample => "Apply a preset query (1-4) and browse"
  | .shell => "Interactive session on stdin"

/-- What an option does. -/
def Flag.summary : Flag → String
  | .help => "Print help"
  | .version => "Print version"
  | .config => "Path to configuration file [default: ./dynquery.json]"
  | .out => "Download the exported file here (file or directory)"
  | .entity => "Entity to query"
  | .fields => "Projected fields, comma separated"
  | .equals => "Equality filter FIELD=VALUE"
  | .like => "Substring filter FIELD=PATTERN"
  | .between => "Inclusive range filter FIELD=LOWER..UPPER"
  | .subquery =>
    "Subquery filter FIELD=\x7b\"entity\":..,\"field\":..,\"filters\":\x7b..\x7d\x7d"
  | .sort => "Sort entry FIELD[:asc|desc], repeatable"
  | .legacySort => "Deprecated single sort string, sent verbatim"
  | .page | .size | .distinct => ""

/-- A name and what it stands for, in two columns. -/
def usageLine (width : Nat) (name summary : String) : String :=
  Text.trimmedEnd ("  " ++ name ++ "".pushn ' ' (width - name.length) ++ "  " ++ summary)

/-- The lines on the options of a command, or of the program. -/
def optionLines (command : Option CommandName) : List String :=
  (Flag.all.filter (·.isKnownTo command)).map fun f => usageLine 32 f.display f.summary

/-- The help on a command, or on the program. -/
def helpText (command : Option CommandName) : String :=
  let lines := match command with
    | none =>
      [aboutText, "", "Usage: dynquery [OPTIONS] <COMMAND>", "", "Commands:"] ++
        CommandName.all.map (fun c => usageLine 7 c.word c.summary) ++
        [usageLine 7 "help" "Print this message or the help of the given subcommand(s)"]
    | some c =>
      let operand := if c = .sample then " <NUMBER>" else ""
      [c.summary, "", s!"Usage: dynquery {c.word} [OPTIONS]{operand}"]
  "\n".intercalate (lines ++ ["", "Options:"] ++ optionLines command)

end EntityQuery.CommandLine
