import RecordWatch.CommandLine

/-! Reading the command line. Each scope reads its own options and operands until a command leads
on to the next scope. An option waits for its value, and its value counts only when the next
argument of its scope is taken up, so what is wrong with an argument that is not known comes
first. -/

namespace RecordWatch

/-- What a scope has been given: flags and the values of options in order, an option whose value is
awaited or does not count yet, operands, and whether only operands may follow. -/
structure Given where
  flags : List String
  values : List (String × String)
  pending : Option (CommandOption × Option String)
  operands : List String
  trailing : Bool

namespace Given

/-- Nothing given. -/
def nothing : Given := ⟨[], [], none, [], false⟩

/-- The scope with one more value of an option. -/
def addValue (given : Given) (option : CommandOption) (value : String) :
    Except UsageError Given := do
  if option.arity = .single && given.values.any fun other => other.1 = option.name then
    throw .repeatedArgument
  if option.isPath && value.isEmpty then throw .invalidValue
  return { given with values := given.values ++ [(option.name, value)] }

/-- The scope once the pending value counts. -/
def settle (given : Given) : Except UsageError Given :=
  match given.pending with
  | none => .ok given
  | some (_, none) => .error .invalidValue
  | some (option, some value) => { given with pending := none }.addValue option value

/-- The option that waits for a value. -/
def awaiting? (given : Given) : Option CommandOption :=
  match given.pending with
  | some (option, none) => if given.trailing then none else some option
  | _ => none

/-- The scope with a flag set. -/
def setFlag (given : Given) (name : String) : Except UsageError Given := do
  let given ← given.settle
  if given.flags.contains name then throw .repeatedArgument
  return { given with flags := given.flags ++ [name] }

/-- The scope with an operand, if there is room for one. -/
def addOperand (given : Given) (scope : Scope) (word : String) : Except UsageError Given := do
  if given.operands.length < scope.operandCount then
    let given ← given.settle
    return { given with operands := given.operands ++ [word] }
  else if scope.isGroup && !(given.trailing && scope.isCommandWord word) then
    throw .unknownCommand
  else throw .unknownArgument

/-- The end of a request for help. -/
def help (given : Given) : Except UsageError Given := do
  let _ ← given.settle
  throw .helpRequested

/-- The scope with an option by its long name, which may have a value attached. -/
def addLong (given : Given) (scope : Scope) (name : String) (value? : Option String) :
    Except UsageError Given :=
  match scope.option? name, value? with
  | none, none => if name = "help" then given.help else .error .unknownArgument
  | none, some _ => .error (if name = "help" then .needlessValue else .unknownArgument)
  | some option, none => do
    if option.arity = .flag then given.setFlag name
    else return { ← given.settle with pending := some (option, none) }
  | some option, some value => do
    if option.arity = .flag then throw .needlessValue
    else (← given.settle).addValue option value

/-- The scope with flags by their letters. -/
def addShort (given : Given) : List Char → Except UsageError Given
  | [] => .ok given
  | 'v' :: rest => do (← given.setFlag "verbose").addShort rest
  | 'h' :: _ => given.help
  | _ :: _ => .error .unknownArgument

/-- The scope with one more argument, which is no command. -/
def add (given : Given) (scope : Scope) (word : String) : Except UsageError Given :=
  if given.trailing then given.addOperand scope word
  else
    match word.toList, given.awaiting? with
    | ['-', '-'], _ => .ok { given with trailing := true }
    | '-' :: '-' :: rest, _ =>
      match (String.ofList rest).splitOn "=" with
      | name :: value :: values =>
        given.addLong scope name (some (String.intercalate "=" (value :: values)))
      | _ => given.addLong scope (String.ofList rest) none
    | '-' :: c :: rest, _ => given.addShort (c :: rest)
    | _, some option => .ok { given with pending := some (option, some word) }
    | _, none => given.addOperand scope word

/-- Whether an option has been given. -/
def has (given : Given) (name : String) : Bool := given.values.any fun value => value.1 = name

/-- Whether everything that a scope needs has been given. -/
def isComplete (given : Given) (scope : Scope) : Bool :=
  given.operands.length = scope.operandCount &&
    (scope ≠ .addRule || (given.has "trigger" && (!given.has "subject" || given.has "email")))

/-- The scope at the end of the command line. -/
def finish (given : Given) (scope : Scope) : Except UsageError Given := do
  let given ← given.settle
  if scope.isGroup then
    if given.values.isEmpty && given.flags.isEmpty then throw .helpForNoArguments
    else throw .missingCommand
  else if given.isComplete scope then return given
  else throw .missingArgument

/-- The values of an option. -/
def valuesOf (given : Given) (name : String) : List String :=
  (given.values.filter fun value => value.1 = name).map Prod.snd

/-- The value of an option. -/
def value? (given : Given) (name : String) : Option String := given.values.lookup name

end Given

namespace Scope

/-- What asking for help on words comes to; each has to name something inside the one before. -/
def helpOn (scope : Scope) : List String → UsageError
  | [] => .helpRequested
  | word :: rest =>
    match scope.commands.lookup word with
    | some inner => inner.helpOn rest
    | none =>
      if scope.isGroup ∧ word = helpWord ∧ rest = [] then .helpRequested else .unknownCommand

/-- Whether a word leads on to another scope, and not to the value of an option. -/
def leads (scope : Scope) (given : Given) (word : String) : Bool :=
  !given.trailing && given.awaiting?.isNone && scope.isCommandWord word

/-- What every scope on the way has been given, from the program to the command. -/
def read (scope : Scope) (given : Given) :
    List String → Except UsageError (List (Scope × Given))
  | [] => do return [(scope, ← given.finish scope)]
  | word :: rest =>
    if scope.leads given word then
      match scope.commands.lookup word with
      | some inner => do
        let after ← inner.read .nothing rest
        return (scope, ← given.settle) :: after
      | none => .error (scope.helpOn rest)
    else do scope.read (← given.add scope word) rest

end Scope

namespace Command

/-- The command of a scope. -/
def ofGiven? (given : Given) : Scope → Option Command
  | .run => some (.run (given.flags.contains "once"))
  | .check => some .check
  | .addRule => do
    return .addRule {
      collection := ← given.operands[0]?
      trigger := ← given.value? "trigger"
      uid := given.value? "uid"
      webhooks := given.valuesOf "webhook"
      scripts := given.valuesOf "subprocess"
      recipients := given.valuesOf "email"
      subject := given.value? "subject"
      filterProperties := given.valuesOf "filter-property"
      contentFilter := given.value? "content-filter" }
  | .update => do return .update (← given.operands[0]?) (← given.operands[1]?)
  | .program | .rule => none

end Command

namespace Invocation

/-- The request of a command line. The innermost scope decides on the configuration file. -/
def ofArguments (arguments : List String) : Except UsageError Invocation := do
  let scopes ← Scope.program.read .nothing arguments
  let config := scopes.foldl (fun config (_, given) => given.value? "config" <|> config) none
  let verbose := scopes.any fun (_, given) => given.flags.contains "verbose"
  match scopes.getLast?.bind fun (scope, given) => Command.ofGiven? given scope with
  | some command => return ⟨config, verbose, command⟩
  | none => throw .missingCommand

end Invocation

end RecordWatch
