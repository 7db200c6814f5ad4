import EntityQuery.CommandError
import EntityQuery.Query.Edit

/-!
# Shell commands

One line of the shell, read as a command.

## Main Definitions

* `Shell.Command`: what a line asks for.
* `Shell.Command.parse`: the command of a line; a blank line has none.
* `Shell.help`: the list of all commands.

## Design Notes

The first word selects the command and the trimmed rest is its operand, blanks
inside it included.  A filter line that lacks its field or an operand is a
command all the same: its form is cancelled when it is submitted.
-/

namespace EntityQuery.Shell

/-- What a line of the shell asks for. -/
inductive Command where
  /-- An edit of the query that prints nothing. -/
  | edit (e : Edit)
  | entity (name : String)
  | addSort
  /-- Without a value the flag is turned over. -/
  | distinct (value : Option Bool)
  | preset (p : Preset)
  | request
  | filters
  | fetch
  | exports (size : Option UInt32)
  | download (path : Option String)
  | help
  | quit

namespace Command

/-- The operand of a command that needs one. -/
def operand (usage : String) (rest : List Char) : Except CommandError String :=
  if rest = [] then .error (.usage (.missing usage)) else .ok (String.ofList rest)

/-- A natural number below a bound. -/
def number (bound : Nat) (usage : String) (rest : List Char) : Except CommandError Nat :=
  match Decimal.scanNatural? bound rest with
  | some n => .ok n
  | none => .error (.usage (.unexpected usage (String.ofList rest)))

/-- A 32-bit count. -/
def count (usage : String) (rest : List Char) : Except CommandError UInt32 :=
  (number UInt32.size usage rest).map Nat.toUInt32

/-- A position in the list of sorts. -/
def position (usage : String) (rest : List Char) : Except CommandError Nat :=
  number UInt64.size usage rest

/-- A field and everything after it, each of which may be missing. -/
def fieldAndOperand (rest : List Char) : Option String × Option String :=
  let (field, value) := Text.cutWord rest
  if rest = [] then (none, none)
  else (some (String.ofList field), if value = [] then none else some (String.ofList value))

/-- The form of a range: three words, each of which may be missing. -/
def rangeForm (rest : List Char) : CriterionForm :=
  let words := (Text.words rest).map String.ofList
  .between words[0]? words[1]? words[2]?

/-- The fields of a list with commas; empty ones are left out. -/
def fieldList (rest : List Char) : List String :=
  (((Text.splitOn (· == ',') rest).map Text.trim).filter (· ≠ [])).map String.ofList

/-- The usage of the sort commands. -/
def sortUsage : String :=
  "sort add | sort field <i> <field> | sort dir <i> <asc|desc> | sort rm <i>"

/-- The sort command of its operands. -/
def sortCommand (rest : List Char) : Except CommandError Command := do
  let (action, operands) := Text.cutWord rest
  let (index, value) := Text.cutWord operands
  match String.ofList action with
  | "add" => pure .addSort
  | "field" => do
    let index ← position sortUsage index
    pure (.edit (.sortField index (← operand sortUsage value)))
  | "dir" => do
    let index ← position sortUsage index
    match Direction.ofName (String.ofList value) with
    | .ok direction => pure (.edit (.sortDirection index direction))
    | .error e => throw (.query (.sort e))
  | "rm" => do pure (.edit (.eraseSort (← position sortUsage index)))
  | _ => throw (.usage (.missing sortUsage))

/-- The command that turns the distinct flag over or sets it. -/
def distinctCommand (rest : List Char) : Except CommandError Command :=
  match String.ofList rest with
  | "" => .ok (.distinct none)
  | "on" | "true" => .ok (.distinct (some true))
  | "off" | "false" => .ok (.distinct (some false))
  | other => .error (.usage (.unexpected "distinct [on|off]" other))

/-- The command of a word with its operand. -/
def ofWord (word rest : List Char) : Except CommandError Command := do
  match String.ofList word with
  | "entity" => return .entity (← operand "entity <name>" rest)
  | "fields" => return .edit (.project (fieldList rest))
  | "select" => return .edit (.select (← operand "select <field>" rest))
  | "deselect" => return .edit (.deselect (← operand "deselect <field>" rest))
  | "eq" => return .edit (.form (.equals (fieldAndOperand rest).1 (fieldAndOperand rest).2))
  | "like" => return .edit (.form (.like (fieldAndOperand rest).1 (fieldAndOperand rest).2))
  | "between" => return .edit (.form (rangeForm rest))
  | "sub" => return .edit (.form (.subquery (fieldAndOperand rest).1 (fieldAndOperand rest).2))
  | "unfilter" => return .edit (.eraseWireName (← operand "unfilter <key>" rest))
  | "clear" => return .edit .clearCriteria
  | "sort" => sortCommand rest
  | "legacy" => return .edit (.sortString (String.ofList rest))
  | "page" => return .edit (.page (← count "page <n>" rest))
  | "next" => return .edit .nextPage
  | "prev" => return .edit .previousPage
  | "size" => return .edit (.size (← count "size <n>" rest))
  | "distinct" => distinctCommand rest
  | "sample" =>
    match Preset.ofNumber (← operand "sample <1-4>" rest) with
    | .ok p => return .preset p
    | .error e => throw (.query e)
  | "show" => return .request
  | "filters" => return .filters
  | "fetch" => return .fetch
  | "export" =>
    if rest = [] then return .exports none
    else return .exports (some (← count "export [size]" rest))
  | "download" => return .download (if rest = [] then none else some (String.ofList rest))
  | "help" | "?" => return .help
  | "quit" | "exit" => return .quit
  | other => throw (.usage (.unknownCommand other))

/-- The command of a line; a blank line has none. -/
def parse (line : String) : Except CommandError (Option Command) :=
  let line := Text.trim line.toList
  if line = [] then .ok none
  else
    let (word, rest) := Text.cutWord line
    (ofWord word rest).map some

end Command

/-- The list of all commands. -/
def help : String :=
  "\n".intercalate
    [ "Commands:",
      "  entity <name>               switch entity (resets fields and sorts)",
      "  fields <a,b,..>             replace projected fields",
      "  select <field>              add a projected field",
      "  deselect <field>            drop a projected field",
      "  eq <field> <value>          equality filter",
      "  like <field> <pattern>      substring filter",
      "  between <field> <lo> <hi>   inclusive range filter",
      "  sub <field> <json>          subquery filter \x7b\"entity\",\"field\",\"filters\"\x7d",
      "  unfilter <key>              remove a filter by key, e.g. name_like",
      "  clear                       remove all filters",
      "  sort add                    append a sort on the first field",
      "  sort field <i> <field>      change the field of sort i",
      "  sort dir <i> <asc|desc>     change the direction of sort i",
      "  sort rm <i>                 remove sort i",
      "  legacy [<field,dir>]        set or clear the legacy sort string",
      "  page <n> | next | prev      paging",
      "  size <n>                    page size",
      "  distinct [on|off]           toggle or set distinct",
      "  sample <1-4>                apply a preset query",
      "  show                        print the request payload",
      "  filters                     list filters and sorts",
      "  fetch                       browse the current page",
      "  export [size]               request an export",
      "  download [path]             save the last export",
      "  help | quit" ]

end EntityQuery.Shell
