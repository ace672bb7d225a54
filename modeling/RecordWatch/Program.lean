import RecordWatch.Client
import RecordWatch.CommandLine.Reader
import RecordWatch.Config
import RecordWatch.Delivery.Channels
import RecordWatch.Health
import RecordWatch.LogFilter
import RecordWatch.Rule.Addition

/-! The program: it reads its command line and its configuration and carries out one command. All
that it does to its surroundings goes through a platform. -/

namespace RecordWatch

/-- What the program runs on. -/
structure Platform (m : Type → Type) where
  disk : Disk m
  transport : Transport m
  programs : Programs m
  now : m Moment
  log : Event → m Unit
  /-- Prints a line of output. -/
  print : String → m Unit
  /-- An id that no other rule has. -/
  freshId : m String
  /-- Waits for a number of milliseconds. -/
  pause : Nat → m Unit
  /-- Whether the program has been asked to stop. -/
  stopping : m Bool
  /-- The home directory, the token and the filter of the log that the environment names. -/
  home : Option String
  token : Option String
  logFilter : Option String
  /-- The most cycles of one run and the most pages of one list. -/
  cycleLimit : Nat
  pageLimit : Nat

/-- Why a command failed. -/
inductive CommandError where
  | api (error : ApiError)
  | store (error : StoreError)
  | session (error : SessionError)
  | addition (error : AdditionError)
  | json
  | invalidNodes (count : Nat)
  | lookback

namespace CommandError

/-- The text of the error. -/
def message : CommandError → String
  | .api error => error.message
  | .store error => error.message
  | .session error => error.message
  | .addition error => error.message
  | .json => "invalid JSON"
  | .invalidNodes count => toString count ++ " invalid trigger node(s)"
  | .lookback => "lookback out of range"

/-- The exit code after an error. A lookback out of range stops the program where it stands. -/
def exitCode : CommandError → Nat
  | .lookback => 101
  | _ => 1

end CommandError

namespace Platform

variable {m : Type → Type} [Monad m]

/-- The platform with only those events logged that a filter admits. -/
def filtered (platform : Platform m) (filter : LogFilter) : Platform m :=
  { platform with
    log := fun event => if filter.admits event then platform.log event else return () }

/-- The client of a configuration, if there is a token. -/
def client? (platform : Platform m) (config : Config) : Except CommandError (Client m) :=
  match config.token? platform.token with
  | none => .error (.api .missingToken)
  | some token => .ok {
      transport := platform.transport
      log := platform.log
      waitForRetry := platform.pause (config.retryDelay * 1000)
      waitForPage := platform.pause 350
      baseUrl := Client.withoutSlashes config.apiUrl
      token := token
      version := config.apiVersion
      pageSize := config.pageSize
      maxRetries := config.maxRetries
      maxPages := platform.pageLimit }

/-- The channels of a configuration. -/
def channels (platform : Platform m) (config : Config) : Channels m where
  transport := platform.transport
  programs := platform.programs
  mailer := config.mailProgram
  sender := config.emailSender
  scriptLimit := config.actionTimeout

/-- The health monitor of a configuration. -/
def monitor (platform : Platform m) (config : Config) : HealthMonitor m :=
  ⟨platform.transport, platform.log, config.healthUrl⟩

/-- The value of a JSON text. -/
def json? (text : String) : Except CommandError Json :=
  match Json.ofText? text with
  | some value => .ok value
  | none => .error .json

/-! ### The listener -/

/-- Starts a session and runs it for one cycle or until the program is asked to stop. -/
def listen (platform : Platform m) (config : Config) (once : Bool) :
    ExceptT CommandError m Unit := do
  let client ← platform.client? config
  let store ← ExceptT.mk do
    return (← SnapshotStore.create platform.disk config.storageDirectory).mapError .store
  let settings ← (config.settings?.elim (.error .lookback) .ok : Except CommandError Settings)
  let surroundings : Surroundings m := {
    source := client.source
    store := store
    notify := (platform.channels config).notifier
    now := platform.now
    log := platform.log
    settings := settings }
  let session ← ExceptT.mk do return (← Session.start surroundings).mapError .session
  (platform.monitor config).ping .run none
  platform.log (.listenerStarted config.rulesPath)
  ExceptT.mk do
    if once then
      return ((← session.cycle surroundings).2.map fun _ => ()).mapError .session
    else
      let (_, result) ← session.run surroundings platform.stopping
        (platform.pause (config.pollInterval * 1000)) platform.cycleLimit
      return result.mapError .session

/-- Reports how the listener ended to the health monitor and, after a failure, to the operator. -/
def report (platform : Platform m) (config : Config) : Except CommandError Unit → m Unit
  | .ok _ => (platform.monitor config).ping .complete none
  | .error .lookback => return ()
  | .error error => do
    platform.log (.listenerStopped error.message)
    (platform.monitor config).ping .fail error.message
    match config.operatorEmail with
    | none => return ()
    | some operator =>
      (platform.channels config).notifier.alert platform.log operator error.message

/-- Runs the listener and reports how it ended. -/
def runListener (platform : Platform m) (config : Config) (once : Bool) :
    m (Except CommandError Unit) := do
  let result ← (platform.listen config once).run
  platform.report config result
  return result

/-! ### Commands on rules and records -/

/-- The lines that show a rule and what is wrong with it. -/
def ruleLines (rule : Rule) : List String :=
  ("  " ++ rule.uid ++ "  watches: " ++ String.intercalate ", " rule.trigger.properties) ::
    rule.trigger.problems.map (fun problem => "    invalid: " ++ problem.message) ++
    if rule.actions.isEmpty then ["    note: no actions"] else []

/-- The lines that show the rules of a collection. -/
def collectionLines (collection : Collection) : List String :=
  collection.id :: collection.rules.flatMap ruleLines

/-- What is wrong with the triggers of a collection. -/
def problems (collection : Collection) : List TriggerProblem :=
  collection.rules.flatMap fun rule => rule.trigger.problems

/-- Shows all rules; it fails if any trigger has an invalid node. -/
def checkRules (platform : Platform m) (config : Config) : m (Except CommandError Unit) := do
  match ← readRules platform.disk config.rulesPath with
  | .error error => return .error (.session error)
  | .ok collections =>
    (collections.flatMap collectionLines).forM platform.print
    match collections.flatMap problems with
    | [] => return .ok ()
    | problems => return .error (.invalidNodes problems.length)

/-- The subject of emails when none is given. -/
def standardSubject : String := "pagewatch rule fired"

/-- The entry of the rules file for a rule of the command line. -/
def entry? (rule : NewRule) (uid : String) : Except CommandError RuleEntry := do
  let filter ← rule.contentFilter.mapM json?
  let trigger ← json? rule.trigger
  return {
    uid := some uid
    filterProperties := rule.filterProperties
    contentFilter := filter
    trigger := trigger
    actions := {
      webhooks := rule.webhooks
      scripts := rule.scripts
      emails :=
        if rule.recipients.isEmpty then []
        else [⟨rule.recipients, rule.subject.getD standardSubject, none⟩] } }

/-- Adds a rule to the rules file and prints its id. -/
def addRule (platform : Platform m) (config : Config) (rule : NewRule) :
    ExceptT CommandError m Unit := do
  let uid ← rule.uid.elim (platform.freshId : m String) pure
  let entry ← entry? rule uid
  ExceptT.mk do
    return (← RuleFile.add platform.disk config.rulesPath rule.collection entry).mapError .addition
  platform.print uid

/-- Overwrites properties of a record. -/
def updateRecord (platform : Platform m) (config : Config) (record properties : String) :
    ExceptT CommandError m Unit := do
  let client ← platform.client? config
  let properties ← json? properties
  ExceptT.mk do return (← client.update record properties).mapError .api

/-- Carries out a command. -/
def perform (platform : Platform m) (config : Config) : Command → m (Except CommandError Unit)
  | .run once => platform.runListener config once
  | .check => platform.checkRules config
  | .addRule rule => (platform.addRule config rule).run
  | .update record properties => (platform.updateRecord config record properties).run

end Platform

/-- How the program ended. -/
inductive Ending where
  | done
  | usage (error : UsageError)
  | config (error : ConfigError)
  | command (error : CommandError)

namespace Ending

/-- The exit code of the program. -/
def exitCode : Ending → Nat
  | .done => 0
  | .usage error => error.exitCode
  | .config _ => 1
  | .command error => error.exitCode

/-- What the program says about a failure. -/
def complaint? : Ending → Option String
  | .done | .usage _ => none
  | .config error => some ("Failed to load config: " ++ error.message)
  | .command error => some ("Error: " ++ error.message)

end Ending

namespace Platform

variable {m : Type → Type} [Monad m]

/-- Carries out the request of the user. -/
def carryOut (platform : Platform m) (invocation : Invocation) : m Ending := do
  match ← Config.load platform.disk platform.home invocation.config with
  | .error error => return .config error
  | .ok config =>
    match ← platform.perform config invocation.command with
    | .error error => return .command error
    | .ok _ => return .done

/-- Runs the program with the arguments of its command line. -/
def run (platform : Platform m) (arguments : List String) : m Ending := do
  match Invocation.ofArguments arguments with
  | .error error => return .usage error
  | .ok invocation =>
    (platform.filtered (LogFilter.choose platform.logFilter invocation.verbose)).carryOut
      invocation

end Platform

end RecordWatch
