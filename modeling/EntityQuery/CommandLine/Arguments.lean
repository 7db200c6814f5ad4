import EntityQuery.CommandLine.QueryFlags
import EntityQuery.Text.Terminal

/-!
# Arguments

The words of a command line, read as a command with its options.

## Main Definitions

* `Arguments`: a command with its options.
* `Arguments.ofWords`: the arguments that words stand for.
* `ArgumentError`: why words are no arguments, the wish for help included.

## Design Notes

An option takes its value from behind an equals sign or from the next word.  A
value in the next word is recorded only when the next option or the end is
reached, so of two faults the one that is seen first is not always the one that
is reported: a word that is no option at all comes before a value that cannot
be read.
-/

namespace EntityQuery.CommandLine

/-- The commands. -/
inductive CommandName where
  | fetch
  | exports
  | payload
  | sample
  | shell
deriving DecidableEq, Repr

namespace CommandName

/-- All commands. -/
def all : List CommandName := [.fetch, .exports, .payload, .sample, .shell]

/-- The word for a command. -/
def word : CommandName → String
  | .fetch => "fetch"
  | .exports => "export"
  | .payload => "payload"
  | .sample => "sample"
  | .shell => "shell"

/-- The command of a word. -/
def ofWord? (w : String) : Option CommandName :=
  all.find? (·.word = w)

/-- Whether a command takes the flags of a query. -/
def hasQuery : CommandName → Bool
  | .fetch | .exports | .payload => true
  | .sample | .shell => false

end CommandName

/-- The options. -/
inductive Flag where
  | help
  | version
  | config
  | out
  | entity
  | fields
  | equals
  | like
  | between
  | subquery
  | sort
  | legacySort
  | page
  | size
  | distinct
deriving DecidableEq, Repr

namespace Flag

/-- All options. -/
def all : List Flag :=
  [.help, .version, .config, .out, .entity, .fields, .equals, .like, .between, .subquery, .sort,
    .legacySort, .page, .size, .distinct]

/-- The name of an option, without its dashes. -/
def name : Flag → String
  | .help => "help"
  | .version => "version"
  | .config => "config"
  | .out => "out"
  | .entity => "entity"
  | .fields => "fields"
  | .equals => "eq"
  | .like => "like"
  | .between => "between"
  | .subquery => "subquery"
  | .sort => "sort"
  | .legacySort => "legacy-sort"
  | .page => "page"
  | .size => "size"
  | .distinct => "distinct"

/-- The name for the value of an option; some take none. -/
def valueName? : Flag → Option String
  | .help | .version | .distinct => none
  | .config => some "CONFIG"
  | .out => some "OUT"
  | .entity => some "ENTITY"
  | .fields => some "FIELDS"
  | .equals => some "FIELD=VALUE"
  | .like => some "FIELD=PATTERN"
  | .between => some "FIELD=LOWER..UPPER"
  | .subquery => some "FIELD=JSON"
  | .sort => some "FIELD[:DIR]"
  | .legacySort => some "LEGACY_SORT"
  | .page => some "PAGE"
  | .size => some "SIZE"

/-- The option as it is shown. -/
def display (f : Flag) : String :=
  match f.valueName? with
  | some value => s!"--{f.name} <{value}>"
  | none => s!"--{f.name}"

/-- Whether an option may be given before a command, or with a command. -/
def isKnownTo (command : Option CommandName) (f : Flag) : Bool :=
  match f with
  | .help | .config => true
  | .version => command.isNone
  | .out => command = some .exports
  | _ => command.any CommandName.hasQuery

/-- The option of a name. -/
def ofName? (command : Option CommandName) (name : String) : Option Flag :=
  all.find? fun f => f.name = name && f.isKnownTo command

/-- The option of a letter behind a single dash. -/
def ofLetter? (command : Option CommandName) (letter : Char) : Option Flag :=
  if letter = 'h' then some .help
  else if letter = 'V' && command.isNone then some .version
  else none

end Flag

/-- Why words are no arguments. -/
inductive ArgumentError where
  /-- Help was asked for, about a command or about the program. -/
  | help (command : Option CommandName)
  | version
  /-- There are no words at all. -/
  | nothing
  | missingCommand
  | unknownCommand (word : String)
  | unknownArgument (word : String)
  | missingNumber
  | missingValue (flag : Flag)
  /-- The option takes no value. -/
  | unwantedValue (flag : Flag)
  /-- The option may be given only once. -/
  | repeated (flag : Flag)
  | invalidValue (flag : Flag) (raw : String) (fault : ValueFault)
deriving DecidableEq, Repr

namespace ArgumentError

/-- What was asked for or used, as it is marked in an error. -/
def literal (s : String) : String :=
  Text.Terminal.styled "1" s

/-- What was wrong, as it is marked in an error. -/
def wrong (s : String) : String :=
  Text.Terminal.styled "33" s

/-- What is wrong; help and version have texts of their own. -/
def cause : ArgumentError → String
  | .help _ | .version | .nothing => ""
  | .missingCommand =>
    "'" ++ literal "dynquery" ++ "' requires a subcommand but one was not provided"
  | .unknownCommand word => s!"unrecognized subcommand '{wrong word}'"
  | .unknownArgument word => s!"unexpected argument '{wrong word}' found"
  | .missingNumber =>
    "the following required arguments were not provided:\n  " ++ literal "<NUMBER>"
  | .missingValue flag =>
    s!"a value is required for '{literal flag.display}' but none was supplied"
  | .unwantedValue flag => s!"unexpected value for '{literal flag.display}' found"
  | .repeated flag =>
    s!"the argument '{literal flag.display}' cannot be used multiple times"
  | .invalidValue flag raw fault =>
    s!"invalid value '{wrong raw}' for '{literal flag.display}': {fault.message}"

/-- The text of an error on a terminal. -/
def styledMessage (e : ArgumentError) : String :=
  Text.Terminal.styled "31" "error:" ++ " " ++ e.cause ++
    "\n\nFor more information, try '" ++ literal "--help" ++ "'."

/-- The text of an error.  Sequences in what was typed are gone, like those that mark the text. -/
def message (e : ArgumentError) : String :=
  Text.Terminal.plain e.styledMessage

end ArgumentError

/-! ## Recorded options -/

/-- The options recorded so far. -/
structure Options where
  settings : Option String := none
  out : Option String := none
  number : Option String := none
  query : QueryFlags := {}
deriving DecidableEq, Repr

namespace Options

/-- Sets an option that may be given only once. -/
def once {α : Type} (flag : Flag) (present : Option α) (value : α) :
    Except ArgumentError (Option α) :=
  if present.isSome then .error (.repeated flag) else .ok (some value)

/-- The value of an option, read from its text. -/
def valueOf {α : Type} (flag : Flag) (raw : String) (parsed : Except ValueFault α) :
    Except ArgumentError α :=
  parsed.mapError (.invalidValue flag raw)

/-- The path that an option names; it may not be empty. -/
def path (flag : Flag) (raw : String) : Except ArgumentError String :=
  if raw.isEmpty then .error (.missingValue flag) else .ok raw

/-- Sets an option that may be given only once, whose text has to be read. -/
def onceRead {α : Type} (flag : Flag) (present : Option α) (value : Except ArgumentError α) :
    Except ArgumentError (Option α) :=
  if present.isSome then .error (.repeated flag) else value.map some

/-- Records the value of an option. -/
def record (flag : Flag) (raw : String) (o : Options) : Except ArgumentError Options := do
  let q := o.query
  match flag with
  | .config => return { o with settings := ← onceRead flag o.settings (path flag raw) }
  | .out => return { o with out := ← onceRead flag o.out (path flag raw) }
  | .entity => return { o with query := { q with entity := ← once flag q.entity raw } }
  | .fields =>
    return { o with query := { q with fields := q.fields ++ Text.pieces (· == ',') raw } }
  | .equals =>
    let a ← valueOf flag raw (Assignment.ofText raw)
    return { o with query := { q with equals := q.equals ++ [a] } }
  | .like =>
    let a ← valueOf flag raw (Assignment.ofText raw)
    return { o with query := { q with like := q.like ++ [a] } }
  | .between =>
    let r ← valueOf flag raw (RangeAssignment.ofText raw)
    return { o with query := { q with between := q.between ++ [r] } }
  | .subquery =>
    let a ← valueOf flag raw (Assignment.ofText raw)
    return { o with query := { q with subquery := q.subquery ++ [a] } }
  | .sort =>
    let key ← valueOf flag raw (sortKeyOf raw)
    return { o with query := { q with sort := q.sort ++ [key] } }
  | .legacySort =>
    return { o with query := { q with sortString := ← once flag q.sortString raw } }
  | .page =>
    let page ← onceRead flag q.page (valueOf flag raw (countOf raw))
    return { o with query := { q with page } }
  | .size =>
    let size ← onceRead flag q.size (valueOf flag raw (countOf raw))
    return { o with query := { q with size } }
  | .help | .version | .distinct => throw (.unwantedValue flag)

/-- Obeys an option that takes no value. -/
def raise (command : Option CommandName) (flag : Flag) (o : Options) :
    Except ArgumentError Options :=
  match flag with
  | .help => .error (.help command)
  | .version => .error .version
  | .distinct =>
    if o.query.distinct then .error (.repeated flag)
    else .ok { o with query := { o.query with distinct := true } }
  | _ => .error (.missingValue flag)

end Options

/-! ## Words -/

/-- An option that is not recorded yet. -/
inductive Pending where
  | nothing
  /-- The next word is its value, unless that is an option itself. -/
  | awaiting (flag : Flag)
  | given (flag : Flag) (value : String)
deriving DecidableEq, Repr

/-- Records a pending option. -/
def Pending.settle (p : Pending) (o : Options) : Except ArgumentError Options :=
  match p with
  | .nothing => .ok o
  | .awaiting flag => .error (.missingValue flag)
  | .given flag value => o.record flag value

/-- How far the words of a command have been read. -/
structure Reading where
  options : Options := {}
  pending : Pending := .nothing
  /-- Two dashes have been read, after which no word is an option. -/
  onlyWords : Bool := false
deriving DecidableEq, Repr

namespace Reading

/-- The options once all words are read. -/
def finish (r : Reading) : Except ArgumentError Options :=
  r.pending.settle r.options

/-- Reads a long option, with the value behind its equals sign. -/
def long (command : Option CommandName) (word body : String) (r : Reading) :
    Except ArgumentError Reading := do
  let (name, value) := match Text.cutFirst '=' body.toList with
    | some (name, value) => (String.ofList name, some (String.ofList value))
    | none => (body, none)
  match Flag.ofName? command name with
  | none => throw (.unknownArgument word)
  | some flag =>
    match flag.valueName?, value with
    | none, some _ => throw (.unwantedValue flag)
    | none, none =>
      let options ← (← r.finish).raise command flag
      pure { r with options, pending := .nothing }
    | some _, some value =>
      let options ← (← r.finish).record flag value
      pure { r with options, pending := .nothing }
    | some _, none => pure { r with options := ← r.finish, pending := .awaiting flag }

/-- Reads the letters behind a single dash. -/
def short (command : Option CommandName) (word : String) (letters : List Char) (r : Reading) :
    Except ArgumentError Reading := do
  match letters.head?.bind (Flag.ofLetter? command) with
  | none => throw (.unknownArgument word)
  | some flag => pure { r with options := ← (← r.finish).raise command flag, pending := .nothing }

/-- Reads a word that is neither an option nor the value of one. -/
def plain (command : Option CommandName) (word : String) (r : Reading) :
    Except ArgumentError Reading := do
  if command = some .sample && r.options.number.isNone then
    let options ← r.finish
    pure { r with options := { options with number := some word }, pending := .nothing }
  else if command.isSome then throw (.unknownArgument word)
  -- A command behind two dashes is no command.
  else if r.onlyWords && (word = "help" || (CommandName.ofWord? word).isSome) then
    throw (.unknownArgument word)
  else throw (.unknownCommand word)

/-- Reads one word. -/
def read (command : Option CommandName) (word : String) (r : Reading) :
    Except ArgumentError Reading :=
  if r.onlyWords then r.plain command word
  else
    match word.toList with
    | ['-', '-'] => .ok { r with onlyWords := true }
    | '-' :: '-' :: body => r.long command word (String.ofList body)
    | '-' :: c :: letters => r.short command word (c :: letters)
    | _ =>
      match r.pending with
      | .awaiting flag => .ok { r with pending := .given flag word }
      | _ => r.plain command word

/-- Whether a word can be a command now. -/
def takesCommand (r : Reading) : Bool :=
  !r.onlyWords && (match r.pending with
    | .awaiting _ => false
    | _ => true)

end Reading

/-- The options of a command. -/
def readCommand (command : CommandName) (words : List String) : Except ArgumentError Options := do
  let r ← words.foldlM (fun r word => Reading.read (some command) word r) {}
  let options ← r.finish
  if command = .sample && options.number.isNone then throw .missingNumber
  pure options

/-- The answer to `help` with the words behind it. -/
def helpWish : List String → ArgumentError
  | [] => .help none
  | word :: rest =>
    if word = "help" || (CommandName.ofWord? word).isSome then
      match rest with
      | [] => .help (CommandName.ofWord? word)
      | next :: _ => .unknownCommand next
    else .unknownCommand word

/-! ## Arguments -/

/-- A command with its options. -/
inductive Command where
  | fetch (query : QueryFlags)
  /-- The exported file is saved, if a place is given. -/
  | exports (query : QueryFlags) (out : Option String)
  | payload (query : QueryFlags)
  | sample (number : String)
  | shell
deriving DecidableEq, Repr

/-- The command of a name with the options recorded for it. -/
def Command.ofOptions (name : CommandName) (o : Options) : Command :=
  match name with
  | .fetch => .fetch o.query
  | .exports => .exports o.query o.out
  | .payload => .payload o.query
  | .sample => .sample (o.number.getD "")
  | .shell => .shell

/-- A command with its options, and the path of the settings. -/
structure Arguments where
  settings : Option String
  command : Command
deriving DecidableEq, Repr

namespace Arguments

/-- Reads words up to the command, then those of the command. -/
def ofWordsAfter (r : Reading) : List String → Except ArgumentError Arguments
  | [] => do
    let options ← r.finish
    throw (if options.settings.isNone then .nothing else .missingCommand)
  | word :: words =>
    if r.takesCommand && word = "help" then .error (helpWish words)
    else
      match if r.takesCommand then CommandName.ofWord? word else none with
      | some name => do
        let options ← readCommand name words
        let outer ← r.finish
        -- The path behind the command wins.
        pure { settings := options.settings.or outer.settings, command := .ofOptions name options }
      | none => do
        let r ← r.read none word
        ofWordsAfter r words

/-- The arguments that the words behind the program's name stand for. -/
def ofWords (words : List String) : Except ArgumentError Arguments :=
  ofWordsAfter {} words

end Arguments

end EntityQuery.CommandLine
