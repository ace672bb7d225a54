import Mathlib.Logic.Function.Basic
import RecordWatch.Proofs.Session.Simulation

/-! The world a session runs in. The environment answers queries and lookups, takes deliveries,
keeps the clock and the rules file, and decides which file operations fail; how it changes is up to
it. The files of the store belong to the session alone. -/

namespace RecordWatch

/-- A call to the record store or to a channel. -/
inductive Call where
  | query (collection : String) (properties : Option (List String)) (filter : Option Json)
  | items (record property : String)
  | update (record : String) (properties : Json)
  | delivery (delivery : Delivery)

/-- The state of the environment, what is stored, and the calls made so far. -/
structure World (ε φ : Type) where
  env : ε
  store : φ
  calls : List Call

/-- Files by their paths. -/
abbrev Files := String → Option ByteArray

/-- An environment: what answers a session and what may go wrong with its files. -/
structure Environment (ε : Type) where
  query : String → Option (List String) → Option Json → StateM ε (Except ApiError (List Record))
  items : String → String → StateM ε (Except ApiError (List Json))
  update : String → Json → StateM ε (Except ApiError Unit)
  notify : Delivery → StateM ε (Except DeliveryError Unit)
  now : StateM ε Moment
  rules : StateM ε (Except FileError ByteArray)
  rulesModified : StateM ε (Except FileError Int)
  /-- Whether a file that is there is seen. -/
  sees : String → StateM ε Bool
  /-- Whether a file can be read. -/
  reads : String → StateM ε Bool
  /-- What a failed write of a file leaves at its path, or none if the write succeeds. -/
  breaks : String → StateM ε (Option (Option ByteArray))
  /-- Whether a file can be moved. -/
  moves : String → StateM ε Bool

namespace World

variable {ε φ α : Type}

/-- A step of the environment alone. -/
def ambient (step : StateM ε α) : StateM (World ε φ) α := fun w =>
  ((step w.env).1, { w with env := (step w.env).2 })

/-- A call and its answer. -/
def call (call : Call) (step : StateM ε α) : StateM (World ε φ) α := fun w =>
  ((step w.env).1, { w with env := (step w.env).2, calls := w.calls ++ [call] })

/-- A file is there and seen. -/
def isFile (env : Environment ε) (path : String) : StateM (World ε Files) Bool := do
  let seen ← ambient (env.sees path)
  let w ← get
  return seen && (w.store path).isSome

/-- The content of a file. -/
def read (env : Environment ε) (path : String) :
    StateM (World ε Files) (Except FileError ByteArray) := do
  if ← ambient (env.reads path) then
    let w ← get
    match w.store path with
    | some bytes => return .ok bytes
    | none => return .error .notFound
  else return .error .failed

/-- Replaces the content of a file, or breaks it. -/
def write (env : Environment ε) (path : String) (bytes : ByteArray) :
    StateM (World ε Files) (Except FileError Unit) := do
  match ← ambient (env.breaks path) with
  | none =>
    modify fun w => { w with store := Function.update w.store path (some bytes) }
    return .ok ()
  | some left =>
    modify fun w => { w with store := Function.update w.store path left }
    return .error .failed

/-- Moves a file to another path. -/
def rename (env : Environment ε) (source target : String) :
    StateM (World ε Files) (Except FileError Unit) := do
  if ← ambient (env.moves source) then
    let w ← get
    match w.store source with
    | some bytes =>
      set { w with
        store := Function.update (Function.update w.store source none) target (some bytes) }
      return .ok ()
    | none => return .error .notFound
  else return .error .failed

end World

namespace Environment

variable {ε φ : Type} (env : Environment ε)

/-- The disk of a session: the rules file belongs to the environment, all others to the session. -/
def disk (rulesPath : String) : Disk (StateM (World ε Files)) where
  isFile := World.isFile env
  read path := if path = rulesPath then World.ambient env.rules else World.read env path
  write := World.write env
  rename := World.rename env
  makeDirectories _ := return .ok ()
  modified path :=
    if path = rulesPath then World.ambient env.rulesModified else return .error .notFound

/-- What a session works with in the environment. -/
def around (disk : Disk (StateM (World ε φ))) (root : String) (settings : Settings) :
    Surroundings (StateM (World ε φ)) where
  source :=
    { query := fun collection properties filter =>
        World.call (.query collection properties filter) (env.query collection properties filter)
      items := fun record property =>
        World.call (.items record property) (env.items record property)
      update := fun record properties =>
        World.call (.update record properties) (env.update record properties) }
  store := ⟨disk, root⟩
  notify delivery := World.call (.delivery delivery) (env.notify delivery)
  now := World.ambient env.now
  log _ := return ()
  settings := settings

/-- What a session works with whose snapshots are files in a directory. -/
def surroundings (root : String) (settings : Settings) : Surroundings (StateM (World ε Files)) :=
  env.around (env.disk settings.rulesPath) root settings

theorem disk_rulesModified (rulesPath : String) :
    (env.disk rulesPath).modified rulesPath = World.ambient env.rulesModified := if_pos rfl

theorem disk_rules {rulesPath path : String} (h : path = rulesPath) :
    (env.disk rulesPath).read path = World.ambient env.rules := if_pos h

/-- The rules file is found alike where two environments answer alike for it. -/
theorem rulesAlike {ε ε' : Type} {L : Likeness (StateM (World ε Files)) (StateM (World ε' Files))}
    {env : Environment ε} {env' : Environment ε'} (root : String) (settings : Settings)
    (hm : L.rel (World.ambient env.rulesModified) (World.ambient env'.rulesModified))
    (hr : L.rel (World.ambient env.rules) (World.ambient env'.rules))
    (hn : L.rel (World.ambient env.now) (World.ambient env'.now)) :
    Surroundings.RulesAlike L (env.surroundings root settings)
      (env'.surroundings root settings) where
  modified := by
    show L.rel ((env.disk settings.rulesPath).modified settings.rulesPath)
      ((env'.disk settings.rulesPath).modified settings.rulesPath)
    rw [disk_rulesModified, disk_rulesModified]
    exact hm
  read := by
    show L.rel ((env.disk settings.rulesPath).read settings.rulesPath)
      ((env'.disk settings.rulesPath).read settings.rulesPath)
    rw [disk_rules env rfl, disk_rules env' rfl]
    exact hr
  now := hn
  log _ := L.pure ()
  settings := rfl

end Environment

/-- An environment in which no file operation fails: its rules are those of a file, and it gives its
answers to the queries one after the other. -/
def Environment.answering (answers : Nat → Except ApiError (List Record)) (file : RuleFile) :
    Environment Nat where
  query _ _ _ := fun n => (answers n, n + 1)
  items _ _ := return .ok []
  update _ _ := return .ok ()
  notify _ := return .ok ()
  now := return ⟨default, .utc⟩
  rules := return .ok file.text.toUTF8
  rulesModified := return .ok 0
  sees _ := return true
  reads _ := return true
  breaks _ := return none
  moves _ := return true

/-! ### Worlds with different stores -/

/-- Two worlds that agree on everything but the stores, which `S` relates. -/
structure World.Agree {ε φ ψ : Type} (S : φ → ψ → Prop) (w : World ε φ) (v : World ε ψ) : Prop where
  env : w.env = v.env
  calls : w.calls = v.calls
  store : S w.store v.store

section

variable {ε φ ψ α : Type} {S : φ → ψ → Prop}

theorem relates_ambient (step : StateM ε α) :
    Relates (World.Agree S) Eq (World.ambient step) (World.ambient step) := by
  intro w v h
  obtain ⟨henv, hcalls, hstore⟩ := h
  refine ⟨?_, ?_, hcalls, hstore⟩
  · rw [World.ambient, World.ambient, henv]
  · simp only [World.ambient, henv]

/-- A call that is answered in two ways. -/
theorem relates_answers {β : Type} {Q : α → β → Prop} {p : StateM ε α} {q : StateM ε β}
    (h : Relates Eq Q p q) (call : Call) :
    Relates (World.Agree S) Q (World.call call p) (World.call call q) := by
  intro w v hw
  obtain ⟨hresult, henv⟩ := h w.env v.env hw.env
  exact ⟨hresult, henv, congrArg (· ++ [call]) hw.calls, hw.store⟩

theorem relates_call (call : Call) (step : StateM ε α) :
    Relates (World.Agree S) Eq (World.call call step) (World.call call step) :=
  relates_answers (fun _ _ heq => heq ▸ ⟨rfl, rfl⟩) call

/-- A session cannot tell worlds apart that differ in their stores alone, except by its files. -/
theorem related_around (env : Environment ε) (disk : Disk (StateM (World ε φ)))
    (disk' : Disk (StateM (World ε ψ))) (root : String) (settings : Settings) :
    Surroundings.Related (World.Agree S) (env.around disk root settings)
      (env.around disk' root settings) where
  query _ _ _ := relates_call _ _
  items _ _ := relates_call _ _
  notify _ := relates_call _ _
  now := relates_ambient _
  log _ := .pure rfl
  settings := rfl

end

end RecordWatch
