import RecordWatch.Delivery
import RecordWatch.Delta
import RecordWatch.Evaluation
import RecordWatch.Snapshot
import RecordWatch.Word

/-! A polling session: fetch, compare, evaluate, deliver, store. Each cycle polls every collection
in turn. A collection without a snapshot is seeded and fires nothing. Otherwise the records that the
query returns are compared with the snapshot, every rule is evaluated on every change, and the
records are merged into the snapshot once all deliveries have been attempted. A query that fails
skips its collection; a snapshot that cannot be written ends the session, because its changes would
fire again on every cycle. -/

namespace RecordWatch

/-- The settings of a session; spans of time are in seconds. -/
structure Settings where
  rulesPath : String
  initialLookback : Int
  lookbackPadding : Int

namespace Settings

/-- The seconds of a number of minutes, if they fit in a signed 64-bit word. -/
def seconds? (minutes : Int) : Option Int :=
  let seconds := minutes * 60
  if fitsSigned64 seconds then some seconds else none

end Settings

/-- What a session works with. -/
structure Surroundings (m : Type → Type) where
  source : Source m
  store : SnapshotStore m
  notify : Notifier m
  now : m Moment
  log : Event → m Unit
  settings : Settings

/-- Why a session ended or did not start. -/
inductive SessionError where
  | rules (path : String)
  | store (error : StoreError)
deriving DecidableEq

namespace SessionError

/-- The text of the error. -/
def message : SessionError → String
  | .rules path => "failed to read rules from " ++ path
  | .store error => "snapshot store failed: " ++ error.message

end SessionError

/-- The state of a session: the rules in force and the version of their file, and when the last
successful poll of each collection began. -/
structure Session where
  collections : List Collection
  rulesModified : Option Int
  lastSuccess : Fields Instant
  started : Instant

/-- What the store holds for a collection before a poll: no snapshot, its records, or something that
cannot be used in this cycle. -/
inductive Stored where
  | missing
  | records (records : List Record)
  | unusable

/-- What became of the poll of a collection. -/
inductive Poll where
  | seeded
  | evaluated (changes fired : Nat)
  | skipped

namespace Lookback

/-- The filter for records edited since an instant. -/
def since (t : Instant) : Json :=
  .object [("last_edited_time", .object [("on_or_after", .string t.text)]),
    ("timestamp", .string "last_edited_time")]

/-- An instant some seconds earlier, or the instant itself where there is none. -/
def before (t : Instant) (seconds : Int) : Instant := (t.sub? (seconds * second)).getD t

end Lookback

namespace Collection

/-- The filters of rules in order, each once; a rule without one falls back to `lookback`. There is
none if a rule has no filter at all. -/
def filters? (lookback : Option Json) (rules : List Rule) : Option (List Json) :=
  rules.foldlM (fun filters rule => do
    let filter ← rule.contentFilter <|> lookback
    return if filters.any filter.same then filters else filters ++ [filter]) []

/-- One filter that matches what any of a list matches. -/
def anyOf : List Json → Option Json
  | [] => none
  | [filter] => some filter
  | filters => some (.object [("or", .array filters)])

/-- The filter that covers every rule of a collection; there is no lookback while it is seeded. -/
def filter? (c : Collection) (lookback : Option Json) : Option Json :=
  if c.rules.isEmpty then lookback else (filters? lookback c.rules).bind anyOf

end Collection

section

variable {m : Type → Type} [Monad m]

/-- The collections of the rules file. -/
def readRules (disk : Disk m) (path : String) : m (Except SessionError (List Collection)) := do
  match ← disk.readText path with
  | .error _ => return .error (.rules path)
  | .ok text =>
    match RuleFile.ofText? text with
    | some file => return .ok file.collections
    | none => return .error (.rules path)

namespace Surroundings

/-- The files of the session. -/
def disk (s : Surroundings m) : Disk m := s.store.disk

/-- What evaluation may ask for. -/
def context (s : Surroundings m) : Context m := ⟨s.source.items, s.now, s.log⟩

/-- Evaluates the rules of a collection on one change and performs the actions of those that fire;
the number of these is added to `fired`. -/
def fireRules (s : Surroundings m) (collection : Collection) (fired : Nat)
    (entry : String × ChangeSet) : m Nat :=
  collection.rules.foldlM (fun fired rule => do
    if ← rule.trigger.fires s.context entry.1 entry.2 then
      let outcome ← rule.actions.perform s.notify s.log entry.1 entry.2
      s.log (.ruleFired collection.id rule.uid entry.1 outcome.delivered outcome.failed)
      return fired + 1
    else return fired) fired

/-- The records that a query for a collection returns, unless it fails. -/
def fetch (s : Surroundings m) (collection : Collection) (lookback : Option Json) :
    m (Option (List Record)) := do
  match ← s.source.query collection.id collection.filterProperties
      (collection.filter? lookback) with
  | .ok records => return some records
  | .error error =>
    s.log (.queryFailed collection.id error.message)
    return none

/-- Merges the latest records into a collection's snapshot. -/
def merge (s : Surroundings m) (collection : Collection) (records : List Record) :
    ExceptT SessionError m (List Record) := ExceptT.mk do
  return (← s.store.merge collection.id records).mapError .store

/-- What the store holds for a collection. A snapshot that is not a list of records is moved
aside. -/
def stored (s : Surroundings m) (collection : Collection) : ExceptT SessionError m Stored := do
  if ← s.store.contains collection.id then
    match ← s.store.load collection.id with
    | .ok records => return .records records
    | .error .json =>
      match ← s.store.quarantine collection.id with
      | .ok aside =>
        s.log (.snapshotUnreadable collection.id aside)
        return .unusable
      | .error error => throw (.store error)
    | .error error =>
      s.log (.snapshotSkipped collection.id error.message)
      return .unusable
  else return .missing

/-- Compares the latest records with the snapshot and fires the rules on every change. -/
def evaluate (s : Surroundings m) (collection : Collection) (stored latest : List Record) :
    m Poll := do
  let active := collection.activeProperties
  let changes := Delta.changes stored latest active
  (Delta.events stored latest active).forM s.log
  s.log (.compared collection.id latest.length changes.length)
  let fired ← changes.foldlM (s.fireRules collection) 0
  return .evaluated changes.length fired

end Surroundings

namespace Session

/-- Starts a session; the rules file has to be readable. -/
def start (s : Surroundings m) : m (Except SessionError Session) := do
  let modified ← s.disk.modified s.settings.rulesPath
  match ← readRules s.disk s.settings.rulesPath with
  | .error error => return .error error
  | .ok collections =>
    collections.forM fun collection => s.log (.watching collection.id collection.rules.length)
    let now ← s.now
    return .ok ⟨collections, modified.toOption, [], now.instant⟩

/-- The session with the rules read again if their file has changed; a file that cannot be read
leaves the rules as they are. -/
def reload (s : Surroundings m) (session : Session) : m Session := do
  match ← s.disk.modified s.settings.rulesPath with
  | .error _ =>
    s.log (.rulesUnreachable s.settings.rulesPath)
    return session
  | .ok time =>
    if session.rulesModified = some time then return session
    else
      match ← readRules s.disk s.settings.rulesPath with
      | .ok collections =>
        s.log (.rulesReloaded collections.length)
        return { session with collections, rulesModified := some time }
      | .error error =>
        s.log (.rulesKept error.message)
        return { session with rulesModified := some time }

/-- The filter for records edited since the last successful poll of a collection, or since the
session started. -/
def lookback (session : Session) (settings : Settings) (collection : String) : Json :=
  match session.lastSuccess.get? collection with
  | some last => Lookback.since (Lookback.before last settings.lookbackPadding)
  | none => Lookback.since (Lookback.before session.started settings.initialLookback)

/-- Polls one collection. -/
def poll (s : Surroundings m) (session : Session) (collection : Collection) :
    ExceptT SessionError m Poll := do
  match ← s.stored collection with
  | .unusable => return .skipped
  | .missing =>
    match ← s.fetch collection none with
    | none => return .skipped
    | some records =>
      let merged ← s.merge collection records
      s.log (.snapshotSeeded collection.id merged.length)
      return .seeded
  | .records stored =>
    match ← s.fetch collection (session.lookback s.settings collection.id) with
    | none => return .skipped
    | some records =>
      let poll ← s.evaluate collection stored records
      let _ ← s.merge collection records
      return poll

/-- The totals of a cycle so far and the starts of its successful polls. -/
structure Progress where
  summary : CycleSummary
  succeeded : Fields Instant

/-- The progress after one more poll, which began at an instant. -/
def Progress.add (progress : Progress) (collection : String) (began : Instant) :
    Poll → Progress
  | .skipped =>
    { progress with
      summary :=
        { progress.summary with
          collections := progress.summary.collections + 1
          skipped := progress.summary.skipped + 1 } }
  | .seeded =>
    { summary :=
        { progress.summary with collections := progress.summary.collections + 1 }
      succeeded := progress.succeeded.put collection began }
  | .evaluated changes fired =>
    { summary :=
        { progress.summary with
          collections := progress.summary.collections + 1
          changes := progress.summary.changes + changes
          fired := progress.summary.fired + fired }
      succeeded := progress.succeeded.put collection began }

/-- Polls the collections in force, one after the other. -/
def pollAll (s : Surroundings m) (session : Session) : ExceptT SessionError m Progress :=
  session.collections.foldlM (fun progress collection => do
    let now ← (s.now : m Moment)
    return progress.add collection.id now.instant (← session.poll s collection))
    ⟨⟨0, 0, 0, 0⟩, session.lastSuccess⟩

/-- One cycle over every collection. The starts of successful polls count only once the whole cycle
has ended well. -/
def cycle (s : Surroundings m) (session : Session) :
    m (Session × Except SessionError CycleSummary) := do
  let session ← session.reload s
  match ← (session.pollAll s).run with
  | .error error => return (session, .error error)
  | .ok progress =>
    s.log (.cycleComplete progress.summary)
    return ({ session with lastSuccess := progress.succeeded }, .ok progress.summary)

/-- Runs cycles, at most `limit` of them, until `stopping` holds; `pause` separates them. -/
def run (s : Surroundings m) (stopping : m Bool) (pause : m Unit) :
    Nat → Session → m (Session × Except SessionError Unit)
  | 0, session => return (session, .ok ())
  | limit + 1, session => do
    if ← stopping then
      s.log .shutdownRequested
      return (session, .ok ())
    else
      match ← session.cycle s with
      | (session, .error error) => return (session, .error error)
      | (session, .ok _) =>
        pause
        session.run s stopping pause limit

end Session

end

end RecordWatch
