import RecordWatch.Calendar.Instant
import RecordWatch.Event
import RecordWatch.Json.Printer

/-! Log lines: the time, the level and the origin of an event, its text and its fields. -/

namespace RecordWatch

namespace Event

/-- The line of an event at an instant. -/
def line (event : Event) (now : Instant) : String :=
  let fields := event.fields.map fun (name, value) => " " ++ name ++ "=" ++ value.compact
  now.text ++ " " ++ event.level.name ++ " " ++ event.origin ++ ": " ++ event.text ++
    String.join fields

end Event

end RecordWatch
