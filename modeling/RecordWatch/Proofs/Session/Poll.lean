import RecordWatch.Session

/-! The two halves of a poll. First everything is gathered that the poll works with: what is stored
and what the query returned. Then it is settled: changes are evaluated and the latest records are
merged into the snapshot. -/

namespace RecordWatch

/-- What a poll works with: nothing when it is skipped, the latest records of a collection without a
snapshot, or the stored and the latest records. -/
inductive Gathered where
  | nothing
  | seeding (latest : List Record)
  | comparison (stored latest : List Record)

namespace Session

section

variable {m : Type → Type} [Monad m]

/-- The query of a collection that may have stored records. -/
def ask (s : Surroundings m) (session : Session) (collection : Collection) :
    Stored → ExceptT SessionError m Gathered
  | .unusable => return .nothing
  | .missing => do
    match ← s.fetch collection none with
    | none => return .nothing
    | some latest => return .seeding latest
  | .records stored => do
    match ← s.fetch collection (session.lookback s.settings collection.id) with
    | none => return .nothing
    | some latest => return .comparison stored latest

/-- The first half of a poll. -/
def gather (s : Surroundings m) (session : Session) (collection : Collection) :
    ExceptT SessionError m Gathered := do
  session.ask s collection (← s.stored collection)

/-- The second half of a poll. -/
def settle (s : Surroundings m) (collection : Collection) :
    Gathered → ExceptT SessionError m Poll
  | .nothing => return .skipped
  | .seeding latest => do
    let merged ← s.merge collection latest
    s.log (.snapshotSeeded collection.id merged.length)
    return .seeded
  | .comparison stored latest => do
    let poll ← s.evaluate collection stored latest
    let _ ← s.merge collection latest
    return poll

end

/-- A poll is its two halves. -/
theorem poll_eq {m : Type → Type} [Monad m] [LawfulMonad m] (s : Surroundings m)
    (session : Session) (collection : Collection) :
    session.poll s collection = session.gather s collection >>= settle s collection := by
  rw [poll, gather, bind_assoc]
  refine congrArg _ (funext fun stored => ?_)
  cases stored with
  | unusable => rw [ask, pure_bind, settle]
  | missing =>
    rw [ask, bind_assoc]
    dsimp only
    refine congrArg _ (funext fun records => ?_)
    cases records with
    | none => rw [pure_bind, settle]
    | some latest => rw [pure_bind, settle]
  | records stored =>
    rw [ask, bind_assoc]
    dsimp only
    refine congrArg _ (funext fun records => ?_)
    cases records with
    | none => rw [pure_bind, settle]
    | some latest => rw [pure_bind, settle]

end Session

end RecordWatch
