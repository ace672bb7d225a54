import Mathlib.Logic.Relation
import RecordWatch.Proofs.Record.Text
import RecordWatch.Proofs.Session.World
import RecordWatch.Proofs.Snapshot.Overlay
import RecordWatch.Proofs.Snapshot.Paths

/-! The operations of a store on its files. Each of them either does what it is for or leaves every
snapshot as it was, and none touches the snapshot of another path. A failed write spoils only the
file beside a snapshot. -/

namespace RecordWatch

/-- One step of an environment. -/
inductive Environment.Step {ε : Type} (env : Environment ε) : ε → ε → Prop where
  | query (e : ε) (collection : String) (properties : Option (List String)) (filter : Option Json) :
    Step env e (env.query collection properties filter e).2
  | items (e : ε) (record property : String) : Step env e (env.items record property e).2
  | notify (e : ε) (delivery : Delivery) : Step env e (env.notify delivery e).2
  | now (e : ε) : Step env e (env.now e).2
  | rules (e : ε) : Step env e (env.rules e).2
  | rulesModified (e : ε) : Step env e (env.rulesModified e).2
  | sees (e : ε) (path : String) : Step env e (env.sees path e).2
  | reads (e : ε) (path : String) : Step env e (env.reads path e).2
  | breaks (e : ε) (path : String) : Step env e (env.breaks path e).2
  | moves (e : ε) (path : String) : Step env e (env.moves path e).2

/-- Any number of steps of an environment. -/
def Environment.Reaches {ε : Type} (env : Environment ε) : ε → ε → Prop :=
  Relation.ReflTransGen env.Step

/-- No file operation fails. -/
structure Environment.Sound {ε : Type} (env : Environment ε) : Prop where
  sees (path : String) (e : ε) : (env.sees path e).1 = true
  reads (path : String) (e : ε) : (env.reads path e).1 = true
  breaks (path : String) (e : ε) : (env.breaks path e).1 = none
  moves (path : String) (e : ε) : (env.moves path e).1 = true

theorem Environment.sound_answering (answers : Nat → Except ApiError (List Record))
    (file : RuleFile) : (Environment.answering answers file).Sound :=
  ⟨fun _ _ => rfl, fun _ _ => rfl, fun _ _ => rfl, fun _ _ => rfl⟩

/-- The store of a session. -/
def Environment.store {ε : Type} (env : Environment ε) (root : String) (settings : Settings) :
    SnapshotStore (StateM (World ε Files)) :=
  ⟨env.disk settings.rulesPath, root⟩

namespace SnapshotStore

/-- What a file is loaded as when it can be read. -/
def loaded (collection : String) : Option ByteArray → Except StoreError (List Record)
  | none => .error (.notFound (plainId collection))
  | some bytes =>
    match String.fromUTF8? bytes with
    | none => .error .io
    | some text =>
      match Record.listOfText? text with
      | some records => .ok records
      | none => .error .json

/-- The bytes that records are stored as. -/
def bytesOf (records : List Record) : ByteArray := (Record.listText records).toUTF8

theorem loaded_bytesOf (collection : String) (records : List Record) :
    loaded collection (some (bytesOf records)) =
      match records.mapM Record.reread? with
      | some read => .ok read
      | none => .error .json := by
  rw [loaded, bytesOf, fromUTF8?_toUTF8]
  dsimp only
  rw [Record.listOfText?_listText]

/-- Legible records are loaded as they were stored. -/
theorem loaded_of_legible {records : List Record} (h : ∀ record ∈ records, record.Legible)
    (collection : String) : loaded collection (some (bytesOf records)) = .ok records := by
  rw [loaded_bytesOf, ← Record.listOfText?_listText, Record.listOfText?_of_legible h]

section

variable {ε : Type} (env : Environment ε) (root : String) (settings : Settings)

/-- The world after steps of the environment in which the snapshots are `held`. -/
structure Leads (w w' : World ε Files) (held : String → Option ByteArray) : Prop where
  reaches : env.Reaches w.env w'.env
  calls : w'.calls = w.calls
  held (collection : String) :
    w'.store ((env.store root settings).path collection) =
      held ((env.store root settings).path collection)

theorem contains_run (collection : String) (w : World ε Files) :
    (env.store root settings).contains collection w =
      ((env.sees ((env.store root settings).path collection) w.env).1 &&
          (w.store ((env.store root settings).path collection)).isSome,
        { w with env := (env.sees ((env.store root settings).path collection) w.env).2 }) :=
  rfl

theorem read_run (path : String) (w : World ε Files) :
    World.read env path w =
      (if (env.reads path w.env).1 then
          match w.store path with
          | some bytes => .ok bytes
          | none => .error .notFound
        else .error .failed,
        { w with env := (env.reads path w.env).2 }) := by
  show (if (env.reads path w.env).1 then _ else _ : StateM (World ε Files) _) _ = _
  split
  · show (match w.store path with
      | some bytes => pure (Except.ok bytes)
      | none => pure (Except.error FileError.notFound) : StateM (World ε Files) _) _ = _
    cases w.store path <;> rfl
  · rfl

/-- The text of a file that can be read. -/
def textOf : Option ByteArray → Except FileError String
  | none => .error .notFound
  | some bytes =>
    match String.fromUTF8? bytes with
    | none => .error .failed
    | some text => .ok text

theorem readText_of_read {disk : Disk (StateM (World ε Files))} {path : String}
    (hread : disk.read path = World.read env path) (w : World ε Files) :
    disk.readText path w =
      (if (env.reads path w.env).1 then textOf (w.store path) else .error .failed,
        { w with env := (env.reads path w.env).2 }) := by
  rw [Disk.readText, hread]
  refine (bind_run (read_run env path w)).trans ?_
  split
  · cases w.store path with
    | none => rfl
    | some bytes =>
      rw [textOf]
      dsimp only
      cases String.fromUTF8? bytes <;> rfl
  · rfl

theorem readText_run {path : String} (hp : path ≠ settings.rulesPath) (w : World ε Files) :
    (env.disk settings.rulesPath).readText path w =
      (if (env.reads path w.env).1 then textOf (w.store path) else .error .failed,
        { w with env := (env.reads path w.env).2 }) :=
  readText_of_read env (if_neg hp) w

/-- Loading a snapshot. -/
theorem load_run {collection : String}
    (hp : (env.store root settings).path collection ≠ settings.rulesPath) (w : World ε Files) :
    (env.store root settings).load collection w =
      (if (env.reads ((env.store root settings).path collection) w.env).1 then
          loaded collection (w.store ((env.store root settings).path collection))
        else .error .io,
        { w with env := (env.reads ((env.store root settings).path collection) w.env).2 }) := by
  refine (bind_run (readText_run env settings hp w)).trans ?_
  split
  · cases w.store ((env.store root settings).path collection) with
    | none => rfl
    | some bytes =>
      rw [textOf, loaded]
      cases String.fromUTF8? bytes with
      | none => rfl
      | some text =>
        dsimp only
        cases Record.listOfText? text <;> rfl
  · rfl

theorem write_run (path : String) (bytes : ByteArray) (w : World ε Files) :
    World.write env path bytes w =
      match (env.breaks path w.env).1 with
      | none =>
        (.ok (), { w with
          env := (env.breaks path w.env).2
          store := Function.update w.store path (some bytes) })
      | some left =>
        (.error .failed, { w with
          env := (env.breaks path w.env).2
          store := Function.update w.store path left }) := by
  refine (bind_run (p := World.ambient (env.breaks path)) rfl).trans ?_
  cases (env.breaks path w.env).1 <;> rfl

theorem rename_run (source target : String) (w : World ε Files) :
    World.rename env source target w =
      if (env.moves source w.env).1 then
        match w.store source with
        | some bytes =>
          (.ok (), { w with
            env := (env.moves source w.env).2
            store := Function.update (Function.update w.store source none) target (some bytes) })
        | none => (.error .notFound, { w with env := (env.moves source w.env).2 })
      else (.error .failed, { w with env := (env.moves source w.env).2 }) := by
  refine (bind_run (p := World.ambient (env.moves source)) rfl).trans ?_
  split
  · show (match w.store source with
      | some bytes => _
      | none => pure (Except.error FileError.notFound) : StateM (World ε Files) _) _ = _
    cases w.store source <;> rfl
  · rfl

variable {env root settings}

theorem Leads.trans {w w' w'' : World ε Files} {held : Files}
    (h : Leads env root settings w w' w.store) (h' : Leads env root settings w' w'' held)
    {held' : Files} (hh : ∀ collection,
      held ((env.store root settings).path collection) =
        held' ((env.store root settings).path collection)) :
    Leads env root settings w w'' held' :=
  ⟨h.reaches.trans h'.reaches, h'.calls.trans h.calls, fun c => (h'.held c).trans (hh c)⟩

/-- Saving records replaces the snapshot; where an operation fails, the snapshot is left. -/
theorem save_spec (collection : String) (records : List Record) (w : World ε Files) :
    ∃ w', (env.store root settings).save collection records w = (.ok (), w') ∧
        Leads env root settings w w' (Function.update w.store
          ((env.store root settings).path collection) (some (bytesOf records))) ∨
      (env.store root settings).save collection records w = (.error .io, w') ∧ ¬env.Sound ∧
        Leads env root settings w w' w.store := by
  have hbeside := fun other => (env.store root settings).path_ne_beside other collection
  rw [save]
  generalize Path.withExtension ((env.store root settings).path collection) "json.tmp" = beside
    at hbeside ⊢
  have hwrite := write_run env beside (bytesOf records) w
  have hbreaks : env.Reaches w.env (env.breaks beside w.env).2 := .single (.breaks _ _)
  cases hb : (env.breaks beside w.env).1 with
  | some left =>
    rw [hb] at hwrite
    have hunsound : ¬env.Sound := fun hs => by
      rw [hs.breaks] at hb
      cases hb
    refine ⟨_, .inr ⟨bind_run hwrite, hunsound, hbreaks, rfl, fun other => ?_⟩⟩
    dsimp only
    rw [Function.update_of_ne (hbeside other)]
  | none =>
    rw [hb] at hwrite
    have hrename := rename_run env beside ((env.store root settings).path collection)
      { w with
        env := (env.breaks beside w.env).2
        store := Function.update w.store beside (some (bytesOf records)) }
    have hmoves : env.Reaches w.env (env.moves beside (env.breaks beside w.env).2).2 :=
      hbreaks.tail (.moves _ _)
    cases hm : (env.moves beside (env.breaks beside w.env).2).1 with
    | false =>
      rw [hm, if_neg Bool.false_ne_true] at hrename
      have hunsound : ¬env.Sound := fun hs => by
        rw [hs.moves] at hm
        cases hm
      refine ⟨_, .inr ⟨(bind_run hwrite).trans (bind_run hrename), hunsound, hmoves, rfl,
        fun other => ?_⟩⟩
      dsimp only
      rw [Function.update_of_ne (hbeside other)]
    | true =>
      simp only [hm, if_true, Function.update_self] at hrename
      refine ⟨_, .inl ⟨(bind_run hwrite).trans (bind_run hrename), hmoves, rfl, fun other => ?_⟩⟩
      dsimp only
      by_cases ho : (env.store root settings).path other = (env.store root settings).path collection
      · rw [ho, Function.update_self, Function.update_self]
      · rw [Function.update_of_ne ho, Function.update_of_ne ho,
          Function.update_of_ne (hbeside other), Function.update_of_ne (hbeside other)]

/-- The records that a merge starts from. -/
def base? (collection : String) : Option ByteArray → Option (List Record)
  | none => some []
  | some bytes => (loaded collection (some bytes)).toOption

theorem base?_of_loaded {collection : String} {content : Option ByteArray} {stored : List Record}
    (h : loaded collection content = .ok stored) : base? collection content = some stored := by
  cases content with
  | none => cases h
  | some bytes =>
    rw [base?, h]
    rfl

/-- What a merge starts from is what is loaded, if there is anything. -/
theorem loaded_of_base? {collection : String} {content : Option ByteArray} {base : List Record}
    (h : base? collection content = some base) :
    content = none ∧ base = [] ∨ loaded collection content = .ok base := by
  cases content with
  | none =>
    cases h
    exact .inl ⟨rfl, rfl⟩
  | some bytes =>
    refine .inr ?_
    rw [base?] at h
    cases hl : loaded collection (some bytes) with
    | ok stored =>
      rw [hl] at h
      cases h
      rfl
    | error error =>
      rw [hl] at h
      cases h

/-- What a merge may come to: the overlay is stored, or it fails and the snapshot is left. -/
inductive Merged (env : Environment ε) (root : String) (settings : Settings) (collection : String)
    (latest : List Record) (w : World ε Files) :
    Except StoreError (List Record) × World ε Files → Prop where
  | stored {stored : List Record} {w' : World ε Files}
    (hb : base? collection (w.store ((env.store root settings).path collection)) = some stored)
    (hl : Leads env root settings w w' (Function.update w.store
      ((env.store root settings).path collection)
      (some (bytesOf (Snapshot.overlay stored latest))))) :
    Merged env root settings collection latest w (.ok (Snapshot.overlay stored latest), w')
  | failed {error : StoreError} {w' : World ε Files}
    (hf : env.Sound → base? collection
      (w.store ((env.store root settings).path collection)) = none)
    (hl : Leads env root settings w w' w.store) :
    Merged env root settings collection latest w (.error error, w')

theorem merge_spec {collection : String}
    (hp : (env.store root settings).path collection ≠ settings.rulesPath) (latest : List Record)
    (w : World ε Files) :
    Merged env root settings collection latest w
      ((env.store root settings).merge collection latest w) := by
  have hload := load_run env root settings hp w
  have hreads : env.Reaches w.env
      (env.reads ((env.store root settings).path collection) w.env).2 := .single (.reads _ _)
  have hstay : Leads env root settings w { w with
      env := (env.reads ((env.store root settings).path collection) w.env).2 } w.store :=
    ⟨hreads, rfl, fun _ => rfl⟩
  -- What is left once the stored records are known.
  have hsave : ∀ (stored : List Record)
      (next : Except StoreError Unit → StateM (World ε Files) (Except StoreError (List Record))),
      base? collection (w.store ((env.store root settings).path collection)) = some stored →
      next (.ok ()) = pure (.ok (Snapshot.overlay stored latest)) →
      next (.error .io) = pure (.error .io) →
      Merged env root settings collection latest w
        (((env.store root settings).save collection (Snapshot.overlay stored latest) >>= next)
          { w with env := (env.reads ((env.store root settings).path collection) w.env).2 }) := by
    intro stored next hbase hok herror
    rcases save_spec collection (Snapshot.overlay stored latest)
      { w with env := (env.reads ((env.store root settings).path collection) w.env).2 } with
      ⟨w', ⟨hs, hl⟩ | ⟨hs, hunsound, hl⟩⟩
    · rw [bind_run hs, hok]
      exact .stored hbase (hstay.trans hl fun _ => rfl)
    · rw [bind_run hs, herror]
      exact .failed (fun h => absurd h hunsound) (hstay.trans hl fun _ => rfl)
  rw [merge]
  cases hr : (env.reads ((env.store root settings).path collection) w.env).1 with
  | false =>
    rw [hr, if_neg Bool.false_ne_true] at hload
    rw [bind_run hload]
    refine .failed (fun hs => ?_) hstay
    rw [hs.reads] at hr
    cases hr
  | true =>
    rw [hr, if_pos rfl] at hload
    rw [bind_run hload]
    cases hc : w.store ((env.store root settings).path collection) with
    | none =>
      rw [loaded]
      dsimp only
      rw [pure_bind]
      refine hsave [] _ (by rw [hc]; rfl) ?_ ?_
      · rfl
      · rfl
    | some bytes =>
      cases hl : loaded collection (some bytes) with
      | ok stored =>
        dsimp only
        rw [pure_bind]
        refine hsave stored _ (by rw [hc, base?, hl]; rfl) ?_ ?_
        · rfl
        · rfl
      | error error =>
        have hfailed : ∀ error, Merged env root settings collection latest w (.error error, _) :=
          fun error => .failed (fun _ => by rw [hc, base?, hl]; rfl) hstay
        cases error with
        | notFound other =>
          rw [loaded] at hl
          split at hl
          · cases hl
          · split at hl <;> cases hl
        | io => exact hfailed .io
        | json => exact hfailed .json

/-- A snapshot that is moved aside is gone, or the move fails and it is left. -/
theorem quarantine_spec (collection : String) (w : World ε Files) :
    ∃ w', ((env.store root settings).quarantine collection w =
          (.ok (Path.withExtension ((env.store root settings).path collection) "json.corrupt"),
            w') ∧
        Leads env root settings w w' (Function.update w.store
          ((env.store root settings).path collection) none)) ∨
      (env.store root settings).quarantine collection w = (.error .io, w') ∧
        Leads env root settings w w' w.store := by
  have haside := fun other => (env.store root settings).path_ne_aside other collection
  rw [quarantine]
  generalize Path.withExtension ((env.store root settings).path collection) "json.corrupt" = aside
    at haside ⊢
  have hrename := rename_run env ((env.store root settings).path collection) aside w
  have hmoves : env.Reaches w.env
      (env.moves ((env.store root settings).path collection) w.env).2 := .single (.moves _ _)
  split at hrename
  · cases hc : w.store ((env.store root settings).path collection) with
    | none =>
      rw [hc] at hrename
      exact ⟨_, .inr ⟨bind_run hrename, hmoves, rfl, fun _ => rfl⟩⟩
    | some bytes =>
      rw [hc] at hrename
      refine ⟨_, .inl ⟨bind_run hrename, hmoves, rfl, fun other => ?_⟩⟩
      dsimp only
      rw [Function.update_of_ne (haside other)]
  · exact ⟨_, .inr ⟨bind_run hrename, hmoves, rfl, fun _ => rfl⟩⟩

end

end SnapshotStore

end RecordWatch
