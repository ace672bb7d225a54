import RecordWatch.Json

/-! What the program logs. Every event has a level, the part of the program it comes from, a text
and named fields. -/

namespace RecordWatch

/-- How important an event is. -/
inductive Level where
  | error
  | warning
  | info
  | debug
  | trace
deriving DecidableEq

namespace Level

/-- The rank of a level; more important levels come first. -/
def rank : Level → Nat
  | .error => 1
  | .warning => 2
  | .info => 3
  | .debug => 4
  | .trace => 5

/-- The name of a level in a log line. -/
def name : Level → String
  | .error => "ERROR"
  | .warning => "WARN"
  | .info => "INFO"
  | .debug => "DEBUG"
  | .trace => "TRACE"

end Level

/-- The totals of one cycle: the collections polled and skipped, the changes seen and the rules
fired. -/
structure CycleSummary where
  collections : Nat
  skipped : Nat
  changes : Nat
  fired : Nat
deriving DecidableEq, Inhabited

/-- Something worth logging. -/
inductive Event where
  | watching (collection : String) (rules : Nat)
  | rulesUnreachable (path : String)
  | rulesReloaded (collections : Nat)
  | rulesKept (error : String)
  | shutdownRequested
  | cycleComplete (summary : CycleSummary)
  | snapshotUnreadable (collection movedTo : String)
  | snapshotSkipped (collection error : String)
  | queryFailed (collection error : String)
  | snapshotSeeded (collection : String) (records : Nat)
  | compared (collection : String) (records changes : Nat)
  | ruleFired (collection rule record : String) (succeeded failed : Nat)
  | newRecord (record : String)
  | propertyChanged (record property : String)
  | invalidNode (record reason : String)
  | predicateFailed (record property error : String)
  | delivered (channel target : String)
  | deliveryFailed (channel target error : String)
  | alertFailed (error : String)
  | pingSent (state : String)
  | pingFailed (state : String)
  | pageFetched (collection : String) (records : Nat) (hasMore : Bool)
  | retrying (error : String) (attempt limit : Nat)
  | listenerStopped (message : String)
  | listenerStarted (rules : String)

namespace Event

/-- The level of an event. -/
def level : Event → Level
  | .watching _ _ => .info
  | .rulesUnreachable _ => .warning
  | .rulesReloaded _ => .info
  | .rulesKept _ => .warning
  | .shutdownRequested => .info
  | .cycleComplete _ => .info
  | .snapshotUnreadable _ _ => .error
  | .snapshotSkipped _ _ => .error
  | .queryFailed _ _ => .error
  | .snapshotSeeded _ _ => .info
  | .compared _ _ _ => .debug
  | .ruleFired _ _ _ _ _ => .info
  | .newRecord _ => .debug
  | .propertyChanged _ _ => .debug
  | .invalidNode _ _ => .warning
  | .predicateFailed _ _ _ => .warning
  | .delivered _ _ => .debug
  | .deliveryFailed _ _ _ => .warning
  | .alertFailed _ => .warning
  | .pingSent _ => .debug
  | .pingFailed _ => .warning
  | .pageFetched _ _ _ => .debug
  | .retrying _ _ _ => .warning
  | .listenerStopped _ => .error
  | .listenerStarted _ => .info

/-- The part of the program that an event comes from, as filters name it. -/
def origin : Event → String
  | .newRecord _ | .propertyChanged _ _ => "pagewatch::diff"
  | .invalidNode _ _ | .predicateFailed _ _ _ => "pagewatch::evaluate"
  | .delivered _ _ | .deliveryFailed _ _ _ | .alertFailed _ => "pagewatch::dispatch"
  | .pingSent _ | .pingFailed _ => "pagewatch::health"
  | .pageFetched _ _ _ | .retrying _ _ _ => "pagewatch::source::notion"
  | .listenerStopped _ | .listenerStarted _ => "pagewatch::cli"
  | _ => "pagewatch::listener"

/-- The text of an event. -/
def text : Event → String
  | .watching _ _ => "watching"
  | .rulesUnreachable _ => "cannot stat rules file, keeping current rules"
  | .rulesReloaded _ => "rules reloaded"
  | .rulesKept _ => "keeping current rules"
  | .shutdownRequested => "shutdown requested"
  | .cycleComplete _ => "cycle complete"
  | .snapshotUnreadable _ _ => "snapshot unreadable, reseeding next cycle"
  | .snapshotSkipped _ _ => "failed to load snapshot, skipping"
  | .queryFailed _ _ => "query failed, keeping previous snapshot"
  | .snapshotSeeded _ _ => "seeded snapshot"
  | .compared _ _ _ => "diffed"
  | .ruleFired _ _ _ _ _ => "rule fired"
  | .newRecord _ => "new record"
  | .propertyChanged _ _ => "property changed"
  | .invalidNode _ _ => "invalid trigger node"
  | .predicateFailed _ _ _ => "predicate failed closed"
  | .delivered _ _ => "delivered"
  | .deliveryFailed _ _ _ => "dispatch failed"
  | .alertFailed _ => "failed to alert operator"
  | .pingSent _ => "health ping sent"
  | .pingFailed _ => "health ping failed"
  | .pageFetched _ _ _ => "query page"
  | .retrying _ _ _ => "request failed, retrying"
  | .listenerStopped _ => "listener stopped"
  | .listenerStarted _ => "listener started"

/-- A field that counts something. -/
def count (name : String) (n : Nat) : String × Json := (name, .integer n)

/-- A field that holds a text. -/
def labelled (name text : String) : String × Json := (name, .string text)

/-- The fields of an event. -/
def fields : Event → Fields Json
  | .watching collection rules => [labelled "collection" collection, count "rules" rules]
  | .rulesUnreachable path => [labelled "path" path]
  | .rulesReloaded collections => [count "collections" collections]
  | .rulesKept error => [labelled "error" error]
  | .shutdownRequested => []
  | .cycleComplete s =>
    [count "collections" s.collections, count "skipped" s.skipped, count "changes" s.changes,
      count "fired" s.fired]
  | .snapshotUnreadable collection movedTo =>
    [labelled "collection" collection, labelled "moved_to" movedTo]
  | .snapshotSkipped collection error =>
    [labelled "collection" collection, labelled "error" error]
  | .queryFailed collection error => [labelled "collection" collection, labelled "error" error]
  | .snapshotSeeded collection records =>
    [labelled "collection" collection, count "records" records]
  | .compared collection records changes =>
    [labelled "collection" collection, count "records" records, count "changes" changes]
  | .ruleFired collection rule record succeeded failed =>
    [labelled "collection" collection, labelled "rule" rule, labelled "record" record,
      count "delivered" succeeded, count "failed" failed]
  | .newRecord record => [labelled "record" record]
  | .propertyChanged record property => [labelled "record" record, labelled "property" property]
  | .invalidNode record reason => [labelled "record" record, labelled "reason" reason]
  | .predicateFailed record property error =>
    [labelled "record" record, labelled "property" property, labelled "error" error]
  | .delivered channel target => [labelled "channel" channel, labelled "target" target]
  | .deliveryFailed channel target error =>
    [labelled "channel" channel, labelled "target" target, labelled "error" error]
  | .alertFailed error => [labelled "error" error]
  | .pingSent state => [labelled "state" state]
  | .pingFailed state => [labelled "state" state]
  | .pageFetched collection records hasMore =>
    [labelled "collection" collection, count "count" records, ("has_more", .bool hasMore)]
  | .retrying error attempt limit =>
    [labelled "error" error, count "attempt" attempt, count "max" limit]
  | .listenerStopped message => [labelled "message" message]
  | .listenerStarted rules => [labelled "rules" rules]

end Event

end RecordWatch
