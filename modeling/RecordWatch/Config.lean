import RecordWatch.Disk
import RecordWatch.Session
import RecordWatch.Toml.Reader
import RecordWatch.Word

/-! The configuration: a TOML file in which every key is optional and unknown keys mean nothing.
Without a file of its own the program looks for one in its home directory, where it need not be. -/

namespace RecordWatch

/-- The configuration. Spans of time are in seconds, the two of the lookback in minutes. -/
structure Config where
  apiUrl : String
  apiVersion : String
  apiToken : Option String
  rulesPath : String
  storageDirectory : String
  pollInterval : Nat
  initialLookback : Int
  lookbackPadding : Int
  requestTimeout : Nat
  maxRetries : Nat
  retryDelay : Nat
  pageSize : Nat
  healthUrl : Option String
  operatorEmail : Option String
  emailSender : String
  mailProgram : String
  actionTimeout : Nat

/-- Why there is no configuration. -/
inductive ConfigError where
  | unreadable (path : String)
  | invalid (path : String)
deriving DecidableEq

namespace ConfigError

/-- The text of the error. -/
def message : ConfigError → String
  | .unreadable path => "failed to read " ++ path
  | .invalid path => "invalid config at " ++ path

end ConfigError

namespace Config

/-- The directory of the program in the home directory, or in the current one without a home. -/
def directory (home : Option String) : String := Path.join (home.getD ".") ".pagewatch"

/-- The configuration when nothing is set. -/
def standard (home : Option String) : Config where
  apiUrl := "https://api.notion.com/v1"
  apiVersion := "2022-06-28"
  apiToken := none
  rulesPath := Path.join (directory home) "rules.json"
  storageDirectory := Path.join (directory home) "storage"
  pollInterval := 5
  initialLookback := 45
  lookbackPadding := 10
  requestTimeout := 30
  maxRetries := 3
  retryDelay := 30
  pageSize := 100
  healthUrl := none
  operatorEmail := none
  emailSender := "pagewatch@localhost"
  mailProgram := "/usr/sbin/sendmail"
  actionTimeout := 300

/-- The value that a key is set to, or a standard one. -/
def setting {α : Type} (fields : List (String × Toml)) (name : String) (read : Toml → Option α)
    (standard : α) : Option α :=
  match fields.lookup name with
  | none => some standard
  | some value => read value

/-- The text of a value. -/
def text? : Toml → Option String
  | .string s => some s
  | _ => none

/-- The text of a value of a key that need not be set. -/
def given? (value : Toml) : Option (Option String) := (text? value).map some

/-- The integer of a value. -/
def integer? : Toml → Option Int
  | .integer i => some i
  | _ => none

/-- The natural number of a value. -/
def natural? : Toml → Option Nat
  | .integer (.ofNat n) => some n
  | _ => none

/-- The natural number of a value, if it fits in 32 bits. -/
def word? (value : Toml) : Option Nat := (natural? value).filter fitsUnsigned32

/-- The configuration that the fields of a document set. -/
def ofFields? (home : Option String) (fields : List (String × Toml)) : Option Config := do
  let s := standard home
  return {
    apiUrl := ← setting fields "api-url" text? s.apiUrl
    apiVersion := ← setting fields "api-version" text? s.apiVersion
    apiToken := ← setting fields "api-token" given? s.apiToken
    rulesPath := ← setting fields "rules-path" text? s.rulesPath
    storageDirectory := ← setting fields "storage-dir" text? s.storageDirectory
    pollInterval := ← setting fields "poll-interval-secs" natural? s.pollInterval
    initialLookback := ← setting fields "initial-lookback-minutes" integer? s.initialLookback
    lookbackPadding := ← setting fields "lookback-padding-minutes" integer? s.lookbackPadding
    requestTimeout := ← setting fields "request-timeout-secs" natural? s.requestTimeout
    maxRetries := ← setting fields "max-retries" word? s.maxRetries
    retryDelay := ← setting fields "retry-delay-secs" natural? s.retryDelay
    pageSize := ← setting fields "page-size" word? s.pageSize
    healthUrl := ← setting fields "health-url" given? s.healthUrl
    operatorEmail := ← setting fields "operator-email" given? s.operatorEmail
    emailSender := ← setting fields "email-from" text? s.emailSender
    mailProgram := ← setting fields "sendmail-path" text? s.mailProgram
    actionTimeout := ← setting fields "action-timeout-secs" natural? s.actionTimeout }

/-- A field of a text that need not be set. -/
def givenField (name : String) (text : Option String) : List (String × Toml) :=
  (text.map fun text => (name, Toml.string text)).toList

/-- The fields of the document that sets everything as it is in a configuration. -/
def fields (c : Config) : List (String × Toml) :=
  [("api-url", .string c.apiUrl), ("api-version", .string c.apiVersion)] ++
    givenField "api-token" c.apiToken ++
    [("rules-path", .string c.rulesPath), ("storage-dir", .string c.storageDirectory),
      ("poll-interval-secs", .integer c.pollInterval),
      ("initial-lookback-minutes", .integer c.initialLookback),
      ("lookback-padding-minutes", .integer c.lookbackPadding),
      ("request-timeout-secs", .integer c.requestTimeout),
      ("max-retries", .integer c.maxRetries), ("retry-delay-secs", .integer c.retryDelay),
      ("page-size", .integer c.pageSize)] ++
    givenField "health-url" c.healthUrl ++ givenField "operator-email" c.operatorEmail ++
    [("email-from", .string c.emailSender), ("sendmail-path", .string c.mailProgram),
      ("action-timeout-secs", .integer c.actionTimeout)]

/-- The configuration of a text. -/
def ofText? (home : Option String) (text : String) : Option Config := do
  ofFields? home (← TomlDocument.ofText? text)

/-- The configuration of the file at a path, or of the file in the home directory, which may be
missing. -/
def load {m : Type → Type} [Monad m] (disk : Disk m) (home path : Option String) :
    m (Except ConfigError Config) := do
  let file := path.getD (Path.join (directory home) "config.toml")
  match ← disk.readText file with
  | .error error =>
    return if error = .notFound ∧ path = none then .ok (standard home)
      else .error (.unreadable file)
  | .ok text =>
    match ofText? home text with
    | some config => return .ok config
    | none => return .error (.invalid file)

/-- The token in force: the one that is set, else the one of the environment; an empty one is
none. -/
def token? (config : Config) (environment : Option String) : Option String :=
  config.apiToken.filter (· ≠ "") <|> environment.filter (· ≠ "")

/-- The settings of a session, unless a lookback does not fit in its seconds. -/
def settings? (config : Config) : Option Settings := do
  return {
    rulesPath := config.rulesPath
    initialLookback := ← Settings.seconds? config.initialLookback
    lookbackPadding := ← Settings.seconds? config.lookbackPadding }

end Config

end RecordWatch
