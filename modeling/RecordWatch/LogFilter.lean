import RecordWatch.Event
import RecordWatch.LogPattern
import RecordWatch.Text.Blank
import RecordWatch.Text.Digits
import RecordWatch.Text.WordCharacter

/-! Which events are logged. A filter is a list of directives. A directive has a level, and may be
limited to the events whose origin begins with a target, that have a certain field, or that happen
within a named span. The most precise directive about an event decides; there are no spans, so a
directive about one says nothing about any event. -/

namespace RecordWatch

/-- A field that a directive asks for, and whether it asks for a value of it. -/
structure LogField where
  name : String
  hasValue : Bool
deriving DecidableEq

/-- A directive: the lowest rank of importance that is logged, and what it is about. -/
structure LogDirective where
  target : Option String
  span : Option String
  field : Option LogField
  rank : Nat
deriving DecidableEq

/-- The directives of a filter. -/
abbrev LogFilter := List LogDirective

namespace LogDirective

/-- The rank that the name of a level or its number stands for, before which a plus sign may stand;
zero is for nothing, and a level that is left out is the lowest. -/
def rank? (name : String) : Option Nat :=
  match decimal? (if name.startsWith "+" then (name.drop 1).toString else name) with
  | some n => if n ≤ Level.trace.rank then some n else none
  | none =>
    let levels := [Level.error, .warning, .info, .debug, .trace]
    if name = "" then some Level.trace.rank
    else if name.toUpper = "OFF" then some 0
    else (levels.find? fun level => level.name = name.toUpper).map Level.rank

/-- Whether a character may begin a directive without brackets. -/
def isStart (c : Char) : Bool := isWordCharacter c || c = '-' || c = ':' || c = '_'

/-- The field of a text between braces: its name and, after an equals sign, a value. -/
def field? (text : String) : Option LogField :=
  match text.splitOn "=" with
  | [] | [""] => none
  | [name] => some ⟨name, false⟩
  | name :: value :: _ => if LogPattern.isValue value then some ⟨name, true⟩ else none

/-- The part of a text between two byte positions, if they lie between characters. -/
def cut? (text : String) (start finish : Nat) : Option String :=
  String.fromUTF8? (text.toUTF8.extract start finish)

/-- What the next character of a directive belongs to, with the byte position at which that
begins. -/
inductive Stage where
  | word (start : Nat)
  | span (start : Nat)
  | field (start : Nat)
  | fieldEnd
  | scopeEnd
  | level (start : Nat)

/-- A directive read up to some character. -/
structure Reading where
  stage : Stage
  target : Option String
  span : Option String
  field : Option LogField

namespace Reading

/-- What is read when `c` is the first character of a directive. -/
def first? (c : Char) : Option Reading :=
  if c = '[' then some ⟨.span 1, none, none, none⟩
  else if isStart c then some ⟨.word 0, none, none, none⟩
  else none

/-- What is read after one more character of the directive `text`, at a byte position. -/
def step? (text : String) (r : Reading) (position : Nat) (c : Char) : Option Reading := do
  match r.stage with
  | .word start =>
    if c = '=' then
      return { r with target := ← cut? text start position, stage := .level (position + 1) }
    else if c = '[' then
      return { r with target := ← cut? text start position, stage := .span (position + 1) }
    else return r
  | .span start =>
    if c = ']' then
      return { r with span := ← cut? text start position, stage := .scopeEnd }
    else if c = '\x7b' then
      let name ← cut? text start position
      return {
        r with
        span := if name = "" then none else some name
        stage := .field (position + 1) }
    else return r
  | .field start =>
    if c = '\x7d' then
      return { r with field := ← field? (← cut? text start position), stage := .fieldEnd }
    else return r
  | .fieldEnd => if c = ']' then return { r with stage := .scopeEnd } else none
  | .scopeEnd => if c = '=' then return { r with stage := .level (position + 1) } else none
  | .level _ => return r

/-- What is read after more characters, the first of which is at a byte position. -/
def steps? (text : String) (r : Reading) (position : Nat) : List Char → Option Reading
  | [] => some r
  | c :: rest => do steps? text (← r.step? text position c) (position + c.utf8Size) rest

/-- The directive that has been read. A word without a level is a level for everything, or else a
target that takes everything. -/
def finish? (text : String) (r : Reading) : Option LogDirective := do
  match r.stage with
  | .word start =>
    let word ← cut? text start text.utf8ByteSize
    match if word = "" then none else rank? word with
    | some rank => return ⟨none, none, none, rank⟩
    | none => return ⟨some word, none, none, Level.trace.rank⟩
  | .scopeEnd => return ⟨r.target, r.span, r.field, Level.trace.rank⟩
  | .level start =>
    return ⟨r.target, r.span, r.field, ← rank? (← cut? text start text.utf8ByteSize)⟩
  | _ => none

end Reading

/-- The directive of a text. Its parts are told apart without the blanks at its ends and taken, at
the same byte positions, from the text with them. -/
def ofText? (text : String) : Option LogDirective := do
  match (trimmed text).toList with
  | [] => none
  | c :: rest => ((← Reading.first? c).steps? text c.utf8Size rest).bind (Reading.finish? text)

/-- Whether a directive can be about events outside of spans. -/
def isStatic (directive : LogDirective) : Bool :=
  directive.span.isNone && directive.field.all fun field => !field.hasValue

/-- Whether a directive is about an event. The text of an event counts as a field. -/
def covers (directive : LogDirective) (event : Event) : Bool :=
  directive.isStatic &&
    (directive.target.all fun target => event.origin.startsWith target) &&
    directive.field.all fun field =>
      field.name = "message" || (Fields.names event.fields).contains field.name

/-- How closely a directive says what it is about: the length of its target counts first. -/
def precision (directive : LogDirective) : Nat × Nat × String :=
  (directive.target.elim 0 fun target => target.utf8ByteSize + 1,
    if directive.field.isSome then 1 else 0,
    directive.field.elim "" LogField.name)

/-- Whether a directive is at least as precise as another. -/
def atLeastAsPrecise (a b : LogDirective) : Bool :=
  let (length, fields, name) := a.precision
  let (otherLength, otherFields, otherName) := b.precision
  otherLength < length || (otherLength = length &&
    (otherFields < fields || (otherFields = fields && !decide (name < otherName))))

end LogDirective

namespace LogFilter

/-- The filter of a text. Without any directive only errors are logged. -/
def ofText? (text : String) : Option LogFilter := do
  match ← ((text.splitOn ",").filter (· ≠ "")).mapM LogDirective.ofText? with
  | [] => return [⟨none, none, none, Level.error.rank⟩]
  | directives => return directives

/-- The filter when none is set. -/
def standard (verbose : Bool) : LogFilter :=
  [⟨some "pagewatch", none, none, if verbose then Level.debug.rank else Level.info.rank⟩]

/-- The filter in force: the one of the environment, if it is one. -/
def choose (environment : Option String) (verbose : Bool) : LogFilter :=
  (environment.bind ofText?).getD (standard verbose)

/-- The directive that decides about an event: the last of the most precise ones. -/
def decisive? (filter : LogFilter) (event : Event) : Option LogDirective :=
  (filter.filter fun directive => directive.covers event).foldl (fun best directive =>
    if best.all directive.atLeastAsPrecise then some directive else best) none

/-- Whether an event is logged. -/
def admits (filter : LogFilter) (event : Event) : Bool :=
  (filter.decisive? event).any fun directive => event.level.rank ≤ directive.rank

end LogFilter

end RecordWatch
