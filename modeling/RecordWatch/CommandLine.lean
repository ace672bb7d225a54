/-! The command line: what a user may ask for, and why a request was not understood. -/

namespace RecordWatch

/-- A rule as it is given on the command line; its trigger and its filter are JSON text. -/
structure NewRule where
  collection : String
  trigger : String
  uid : Option String
  webhooks : List String
  scripts : List String
  recipients : List String
  subject : Option String
  filterProperties : List String
  contentFilter : Option String

/-- What to do: run the listener for one cycle or until it is stopped, check the rules, add a rule,
or overwrite properties of a record, which are JSON text. -/
inductive Command where
  | run (once : Bool)
  | check
  | addRule (rule : NewRule)
  | update (record properties : String)

/-- A request of the user: a command, the configuration file to use, and whether to log more. -/
structure Invocation where
  config : Option String
  verbose : Bool
  command : Command

/-- Why a request was not understood, or that help was asked for. -/
inductive UsageError where
  | helpRequested
  | helpForNoArguments
  | missingCommand
  | unknownCommand
  | unknownArgument
  | missingArgument
  | repeatedArgument
  | invalidValue
  | needlessValue
deriving DecidableEq

namespace UsageError

/-- What is wrong, or nothing when help was asked for. -/
def reason? : UsageError → Option String
  | .helpRequested | .helpForNoArguments => none
  | .missingCommand => some "a command is needed"
  | .unknownCommand => some "there is no such command"
  | .unknownArgument => some "an argument is not known"
  | .missingArgument => some "an argument is missing"
  | .repeatedArgument => some "an argument is repeated"
  | .invalidValue => some "a value is missing or empty"
  | .needlessValue => some "a flag takes no value"

/-- How the program is used. -/
def usage : List String :=
  ["pagewatch [--config FILE] [-v | --verbose] COMMAND",
    "  run [--once]                 poll every watched collection until interrupted",
    "  check                        validate the rules file and show what each rule watches",
    "  rule add COLLECTION --trigger JSON [--uid ID] [--webhook URL]... [--subprocess FILE]...",
    "      [--email ADDRESS]... [--subject TEXT] [--filter-property ID]... [--content-filter JSON]",
    "  update RECORD PROPERTIES     overwrite properties of a record"]

/-- What the user is told. -/
def message (error : UsageError) : String :=
  String.intercalate "\n" ((error.reason?.map ("error: " ++ ·)).toList ++ usage)

/-- The exit code after an error; asking for help is none. -/
def exitCode : UsageError → Nat
  | .helpRequested => 0
  | _ => 2

end UsageError

/-- What a part of the command line belongs to: the program, the group of commands on rules, or a
command. -/
inductive Scope where
  | program
  | rule
  | run
  | check
  | addRule
  | update
deriving DecidableEq

/-- How often an option may be given and what it takes: nothing, one value, or one value each
time. -/
inductive Arity where
  | flag
  | single
  | repeated
deriving DecidableEq

/-- An option by its long name. A path may not be empty. -/
structure CommandOption where
  name : String
  arity : Arity
  isPath : Bool

namespace Scope

/-- The options of every scope. -/
def everywhere : List CommandOption := [⟨"config", .single, true⟩, ⟨"verbose", .flag, false⟩]

/-- The options of a scope. -/
def options : Scope → List CommandOption
  | .run => ⟨"once", .flag, false⟩ :: everywhere
  | .addRule =>
    [⟨"trigger", .single, false⟩, ⟨"uid", .single, false⟩, ⟨"webhook", .repeated, false⟩,
      ⟨"subprocess", .repeated, true⟩, ⟨"email", .repeated, false⟩, ⟨"subject", .single, false⟩,
      ⟨"filter-property", .repeated, false⟩, ⟨"content-filter", .single, false⟩] ++ everywhere
  | _ => everywhere

/-- The option with a long name. -/
def option? (scope : Scope) (name : String) : Option CommandOption :=
  scope.options.find? fun option => option.name = name

/-- The scopes inside a scope by name. -/
def commands : Scope → List (String × Scope)
  | .program => [("run", .run), ("check", .check), ("rule", .rule), ("update", .update)]
  | .rule => [("add", .addRule)]
  | _ => []

/-- Whether a scope only leads to others. -/
def isGroup (scope : Scope) : Bool := !scope.commands.isEmpty

/-- How many operands a scope takes. -/
def operandCount : Scope → Nat
  | .addRule => 1
  | .update => 2
  | _ => 0

/-- The word that asks for help in a group. -/
def helpWord : String := "help"

/-- Whether a word names something inside a group. -/
def isCommandWord (scope : Scope) (word : String) : Bool :=
  (scope.commands.lookup word).isSome || (scope.isGroup && word = helpWord)

end Scope

end RecordWatch
