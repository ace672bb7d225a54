import RecordWatch.Proofs.Snapshot.Store

/-! What a session is made of in a world: answers of the environment, calls, and steps on the files.
Every file operation asks the environment how it will go, and then does to the files what follows
from the answer. So a session goes alike in two worlds as far as answers and steps are alike. -/

namespace RecordWatch

namespace Files

/-- Whether a file is found. -/
def found (path : String) (seen : Bool) (files : Files) : Bool × Files :=
  (seen && (files path).isSome, files)

/-- What is read of a file. -/
def contents (path : String) (readable : Bool) (files : Files) :
    Except FileError ByteArray × Files :=
  (if readable then
      match files path with
      | some bytes => .ok bytes
      | none => .error .notFound
    else .error .failed, files)

/-- What becomes of a write, given what is left of a broken one. -/
def written (path : String) (bytes : ByteArray) (broken : Option (Option ByteArray))
    (files : Files) : Except FileError Unit × Files :=
  match broken with
  | none => (.ok (), Function.update files path (some bytes))
  | some left => (.error .failed, Function.update files path left)

/-- What becomes of a move. -/
def moved (source target : String) (movable : Bool) (files : Files) :
    Except FileError Unit × Files :=
  if movable then
    match files source with
    | some bytes =>
      (.ok (), Function.update (Function.update files source none) target (some bytes))
    | none => (.error .notFound, files)
  else (.error .failed, files)

/-- A write changes one path. -/
theorem written_of_ne {path other : String} (h : other ≠ path) (bytes : ByteArray)
    (broken : Option (Option ByteArray)) (files : Files) :
    (written path bytes broken files).2 other = files other := by
  cases broken with
  | none => exact Function.update_of_ne h _ _
  | some left => exact Function.update_of_ne h _ _

/-- A move changes two paths. -/
theorem moved_of_ne {source target other : String} (hs : other ≠ source) (ht : other ≠ target)
    (movable : Bool) (files : Files) :
    (moved source target movable files).2 other = files other := by
  rw [moved]
  split
  · split
    · exact (Function.update_of_ne ht _ _).trans (Function.update_of_ne hs _ _)
    · rfl
  · rfl

end Files

namespace World

variable {ε α : Type}

/-- A step on the files alone. -/
def touch (step : Files → α × Files) : StateM (World ε Files) α := fun w =>
  ((step w.store).1, { w with store := (step w.store).2 })

variable (env : Environment ε)

theorem read_eq (path : String) :
    read env path =
      ambient (env.reads path) >>= fun readable => touch (Files.contents path readable) := by
  refine congrArg _ (funext fun readable => funext fun w => ?_)
  cases readable with
  | false => rfl
  | true =>
    show (match w.store path with
      | some bytes => Pure.pure (Except.ok bytes)
      | none => Pure.pure (Except.error FileError.notFound) : StateM (World ε Files) _) _ = _
    rw [touch, Files.contents]
    cases w.store path <;> rfl

theorem write_eq (path : String) (bytes : ByteArray) :
    write env path bytes =
      ambient (env.breaks path) >>= fun broken => touch (Files.written path bytes broken) := by
  refine congrArg _ (funext fun broken => funext fun w => ?_)
  cases broken <;> rfl

theorem rename_eq (source target : String) :
    rename env source target =
      ambient (env.moves source) >>= fun movable => touch (Files.moved source target movable) := by
  refine congrArg _ (funext fun movable => funext fun w => ?_)
  cases movable with
  | false => rfl
  | true =>
    show (match w.store source with
      | some bytes => _
      | none => Pure.pure (Except.error FileError.notFound) : StateM (World ε Files) _) _ = _
    rw [touch, Files.moved]
    cases w.store source <;> rfl

end World

/-! ### Answers that are alike -/

section

variable {ε ε' : Type} (L : Likeness (StateM (World ε Files)) (StateM (World ε' Files)))

/-- Two environments whose answers are alike, except to deliveries. -/
structure Environment.Answers (env : Environment ε) (env' : Environment ε') : Prop where
  query (collection : String) (properties : Option (List String)) (filter : Option Json) :
    L.rel
      (World.call (.query collection properties filter) (env.query collection properties filter))
      (World.call (.query collection properties filter) (env'.query collection properties filter))
  items (record property : String) :
    L.rel (World.call (.items record property) (env.items record property))
      (World.call (.items record property) (env'.items record property))
  now : L.rel (World.ambient env.now) (World.ambient env'.now)
  rules : L.rel (World.ambient env.rules) (World.ambient env'.rules)
  rulesModified : L.rel (World.ambient env.rulesModified) (World.ambient env'.rulesModified)
  sees (path : String) : L.rel (World.ambient (env.sees path)) (World.ambient (env'.sees path))
  reads (path : String) : L.rel (World.ambient (env.reads path)) (World.ambient (env'.reads path))
  breaks (path : String) :
    L.rel (World.ambient (env.breaks path)) (World.ambient (env'.breaks path))
  moves (path : String) : L.rel (World.ambient (env.moves path)) (World.ambient (env'.moves path))

namespace Environment.Answers

variable {L} {env : Environment ε} {env' : Environment ε'} (root : String) (settings : Settings)

theorem disk_read (h : Environment.Answers L env env') {rulesPath path : String}
    (ht : ∀ readable, L.rel (World.touch (Files.contents path readable))
      (World.touch (Files.contents path readable))) :
    L.rel ((env.disk rulesPath).read path) ((env'.disk rulesPath).read path) := by
  show L.rel (if path = rulesPath then _ else _) (if path = rulesPath then _ else _)
  split
  · exact h.rules
  · rw [World.read_eq, World.read_eq]
    exact L.bind (h.reads path) ht

theorem disk_write (h : Environment.Answers L env env') {path : String} {bytes : ByteArray}
    (ht : ∀ broken, L.rel (World.touch (Files.written path bytes broken))
      (World.touch (Files.written path bytes broken))) :
    L.rel (World.write env path bytes) (World.write env' path bytes) := by
  rw [World.write_eq, World.write_eq]
  exact L.bind (h.breaks path) ht

theorem disk_rename (h : Environment.Answers L env env') {source target : String}
    (ht : ∀ movable, L.rel (World.touch (Files.moved source target movable))
      (World.touch (Files.moved source target movable))) :
    L.rel (World.rename env source target) (World.rename env' source target) := by
  rw [World.rename_eq, World.rename_eq]
  exact L.bind (h.moves source) ht

theorem contains (h : Environment.Answers L env env') {collection : String}
    (ht : ∀ seen, L.rel
      (World.touch (Files.found ((env.store root settings).path collection) seen))
      (World.touch (Files.found ((env.store root settings).path collection) seen))) :
    L.rel ((env.store root settings).contains collection)
      ((env'.store root settings).contains collection) :=
  L.bind (h.sees ((env.store root settings).path collection)) ht

theorem load (h : Environment.Answers L env env') {collection : String}
    (ht : ∀ readable, L.rel
      (World.touch (Files.contents ((env.store root settings).path collection) readable))
      (World.touch (Files.contents ((env.store root settings).path collection) readable))) :
    L.rel ((env.store root settings).load collection)
      ((env'.store root settings).load collection) :=
  L.load (h.disk_read ht)

theorem quarantine (h : Environment.Answers L env env') {collection : String}
    (ht : ∀ movable, L.rel
      (World.touch (Files.moved ((env.store root settings).path collection)
        (Path.withExtension ((env.store root settings).path collection) "json.corrupt") movable))
      (World.touch (Files.moved ((env.store root settings).path collection)
        (Path.withExtension ((env.store root settings).path collection) "json.corrupt") movable))) :
    L.rel ((env.store root settings).quarantine collection)
      ((env'.store root settings).quarantine collection) :=
  L.quarantine (h.disk_rename ht)

/-- Where every step on the files is alike, so are snapshots. -/
theorem store (h : Environment.Answers L env env') (collection : String)
    (ht : ∀ {α : Type} (step : Files → α × Files),
      (∀ other, other ≠ (env.store root settings).path collection →
        other ≠ Path.withExtension ((env.store root settings).path collection) "json.tmp" →
        other ≠ Path.withExtension ((env.store root settings).path collection) "json.corrupt" →
        ∀ files, (step files).2 other = files other) →
      L.rel (World.touch step) (World.touch step)) :
    SnapshotStore.Alike L (env.store root settings) (env'.store root settings) collection where
  contains := h.contains root settings fun _ => ht _ fun _ _ _ _ _ => rfl
  load := h.load root settings fun _ => ht _ fun _ _ _ _ _ => rfl
  save _ := by
    refine L.save (h.disk_write fun broken => ht _ fun other _ hbeside _ files => ?_)
      (h.disk_rename fun movable => ht _ fun other hpath hbeside _ files => ?_)
    · exact Files.written_of_ne hbeside _ broken files
    · exact Files.moved_of_ne hbeside hpath movable files
  quarantine := h.quarantine root settings fun movable =>
    ht _ fun other hpath _ haside files => Files.moved_of_ne hpath haside movable files

/-- The rules file is found alike. -/
theorem rulesFile (h : Environment.Answers L env env') :
    Surroundings.RulesAlike L (env.surroundings root settings)
      (env'.surroundings root settings) :=
  Environment.rulesAlike root settings h.rulesModified h.rules h.now

/-- Surroundings are alike where deliveries are. -/
theorem surroundings (h : Environment.Answers L env env')
    (hn : ∀ delivery, L.rel (World.call (.delivery delivery) (env.notify delivery))
      (World.call (.delivery delivery) (env'.notify delivery))) (collection : Collection) :
    Surroundings.Alike L (env.surroundings root settings) (env'.surroundings root settings)
      collection where
  query filter := h.query collection.id collection.filterProperties filter
  context := ⟨h.items, h.now, fun _ => L.pure ()⟩
  fire rule record change _ :=
    L.bind (L.perform hn (fun _ => L.pure ()) rule.actions record change) fun _ =>
      L.bind (L.pure ()) fun _ => L.pure _
  settings := rfl

end Environment.Answers

end

end RecordWatch
