import RecordWatch.Proofs.Delta.Ascending
import RecordWatch.Proofs.Session.History

/-! The machine that a session implements. Of each collection it remembers nothing, as long as the
collection is unseeded, or the last record received of every key. It has no files; the environment
may still move on while a session would be at its files. -/

namespace RecordWatch

/-- The last record received of each key. -/
abbrev Known := String → Option Record

/-- What is known of the collections, by the places of their snapshots; nothing is known of a
collection that is unseeded. -/
abbrev Memory := String → Option Known

section

variable {ε : Type} (env : Environment ε)

/-- What becomes of the environment while a snapshot is looked up. -/
def Environment.looking (place : String) (seeded : Bool) : StateM ε PUnit := do
  let _ ← env.sees place
  if seeded then
    let _ ← env.reads place

/-- What becomes of the environment while a snapshot is read again, written and moved. -/
def Environment.keeping (place : String) : StateM ε PUnit := do
  let _ ← env.reads place
  let _ ← env.breaks (Path.withExtension place "json.tmp")
  let _ ← env.moves (Path.withExtension place "json.tmp")

/-- A disk with a rules file and nothing else. -/
def Environment.rulesDisk (φ : Type) : Disk (StateM (World ε φ)) where
  isFile _ := return false
  read _ := World.ambient env.rules
  write _ _ := return .error .failed
  rename _ _ := return .error .failed
  makeDirectories _ := return .error .failed
  modified _ := World.ambient env.rulesModified

namespace Machine

/-- What is known after more records were received. -/
def learn (known : Known) (latest : List Record) : Known :=
  latest.foldl (fun known record => Function.update known record.key (some record)) known

/-- What the machine works with, apart from its memory. -/
def surroundings (root : String) (settings : Settings) :
    Surroundings (StateM (World ε Memory)) :=
  env.around (env.rulesDisk Memory) root settings

/-- One attempt of a delivery. -/
def send (delivery : Delivery) : StateM (World ε Memory) PUnit := do
  let _ ← World.call (.delivery delivery) (env.notify delivery)

/-- What the evaluation of a trigger may ask for. -/
def context : Context (StateM (World ε Memory)) where
  items record property := World.call (.items record property) (env.items record property)
  now := World.ambient env.now
  log _ := return ()

/-- Every rule in order whose trigger fires on a change delivers every webhook, then every script,
then every email. -/
def fire (collection : Collection) (fired : Nat) (entry : String × ChangeSet) :
    StateM (World ε Memory) Nat :=
  collection.rules.foldlM (fun fired rule => do
    if ← rule.trigger.fires (context env) entry.1 entry.2 then
      let payload := entry.2.payload entry.1
      rule.actions.webhooks.forM fun url => send env (.webhook url payload)
      rule.actions.scripts.forM fun path => send env (.script path entry.1)
      rule.actions.emails.forM fun email =>
        send env (.email email.recipients email.subject (Actions.emailBody email payload))
      return fired + 1
    else return fired) fired

/-- The records that a query returns, unless it fails. -/
def ask (collection : Collection) (lookback : Option Json) :
    StateM (World ε Memory) (Option (List Record)) := do
  let answer ← World.call
    (.query collection.id collection.filterProperties (collection.filter? lookback))
    (env.query collection.id collection.filterProperties (collection.filter? lookback))
  return answer.toOption

/-- What is known of a collection from now on. -/
def remember (place : String) (known : Known) : StateM (World ε Memory) PUnit := do
  World.ambient (env.keeping place)
  modify fun v => { v with store := Function.update v.store place (some known) }

variable (root : String) (settings : Settings)

/-- The poll of an unseeded collection. A failed query changes nothing; a result is learnt. -/
def seed (collection : Collection) : StateM (World ε Memory) Poll := do
  let place := env.snapshot root settings collection
  World.ambient (env.looking place false)
  match ← ask env collection none with
  | none => return .skipped
  | some latest =>
    remember env place (learn (fun _ => none) latest)
    return .seeded

/-- The poll of a collection of which something is known. A failed query changes nothing; a result
is compared with what is known before it is learnt. -/
def compare (session : Session) (collection : Collection) (known : Known) :
    StateM (World ε Memory) Poll := do
  let place := env.snapshot root settings collection
  World.ambient (env.looking place true)
  match ← ask env collection (some (session.lookback settings collection.id)) with
  | none => return .skipped
  | some latest =>
    let changes := Delta.ascending known latest collection.activeProperties
    let fired ← changes.foldlM (fire env collection) 0
    remember env place (learn known latest)
    return .evaluated changes.length fired

/-- One poll. -/
def poll (session : Session) (collection : Collection) : StateM (World ε Memory) Poll := do
  match (← get).store (env.snapshot root settings collection) with
  | none => seed env root settings collection
  | some known => compare env root settings session collection known

/-- The polls of some collections, one after the other. -/
def pollAll (session : Session) (collections : List Collection) (progress : Session.Progress) :
    StateM (World ε Memory) Session.Progress :=
  collections.foldlM (fun progress collection => do
    let now ← World.ambient env.now
    return progress.add collection.id now.instant (← poll env root settings session collection))
    progress

/-- One cycle over every collection. -/
def cycle (session : Session) : StateM (World ε Memory) (Session × CycleSummary) := do
  let session ← session.reload (surroundings env root settings)
  let progress ← pollAll env root settings session session.collections
    ⟨⟨0, 0, 0, 0⟩, session.lastSuccess⟩
  return ({ session with lastSuccess := progress.succeeded }, progress.summary)

/-- One directive. What is remembered outlives a restart. -/
def obey : Option Session → Directive →
    StateM (World ε Memory) (Option Session × Option CycleSummary)
  | _, .restart => do
    match ← Session.start (surroundings env root settings) with
    | .ok session => return (some session, none)
    | .error _ => return (none, none)
  | none, .cycle => return (none, none)
  | some session, .cycle => do
    let (session, summary) ← cycle env root settings session
    return (some session, some summary)

/-- The summaries of the cycles among a list of directives, in order. -/
def obeyAll : Option Session → List Directive → StateM (World ε Memory) (List CycleSummary)
  | _, [] => return []
  | session, directive :: rest => do
    let (session, summary) ← obey env root settings session directive
    let summaries ← obeyAll session rest
    return summary.toList ++ summaries

end Machine

end

end RecordWatch
