import RecordWatch.Proofs.Session.Poll
import RecordWatch.Proofs.Snapshot.Store

/-! What a poll does in a world. Gathering reads the snapshot and asks the record store; it leaves
every snapshot as it is, except one that cannot be read, which it moves aside. Settling evaluates
without touching files and then merges. -/

namespace RecordWatch

/-! ### Invariants of a session -/

/-- A computation that keeps what holds of its state. -/
theorem Relates.keeps {σ α : Type} {I : σ → Prop} {p : StateM σ α}
    (h : Relates (fun s t => s = t ∧ I s) Eq p p) {s : σ} (hs : I s) : I (p s).2 :=
  (h s s ⟨rfl, hs⟩).2.2

/-- A computation is related to itself by what it keeps. -/
theorem Relates.of_keeps {σ α : Type} {I : σ → Prop} {p : StateM σ α}
    (h : ∀ s, I s → I (p s).2) : Relates (fun s t => s = t ∧ I s) Eq p p := by
  rintro s t ⟨rfl, hs⟩
  exact ⟨rfl, rfl, h s hs⟩

section

variable {ε φ : Type} (env : Environment ε) (root : String) (settings : Settings)

/-- The environment has moved on and the files are as they were. -/
structure World.Follows (w w' : World ε φ) : Prop where
  reaches : env.Reaches w.env w'.env
  store : w'.store = w.store

theorem World.Follows.refl (w : World ε φ) : World.Follows env w w := ⟨.refl, rfl⟩

variable {env}

theorem World.Follows.trans {w w' w'' : World ε φ} (h : World.Follows env w w')
    (h' : World.Follows env w' w'') : World.Follows env w w'' :=
  ⟨h.reaches.trans h'.reaches, h'.store.trans h.store⟩

variable (env)

/-- Everything a session does apart from its files leaves them alone. -/
theorem related_follows (disk : Disk (StateM (World ε φ))) (w : World ε φ) :
    Surroundings.Related (fun s t => s = t ∧ World.Follows env w s)
      (env.around disk root settings) (env.around disk root settings) where
  query _ _ _ := .of_keeps fun _ h => ⟨h.reaches.tail (.query _ _ _ _), h.store⟩
  items _ _ := .of_keeps fun _ h => ⟨h.reaches.tail (.items _ _ _), h.store⟩
  notify _ := .of_keeps fun _ h => ⟨h.reaches.tail (.notify _ _), h.store⟩
  now := .of_keeps fun _ h => ⟨h.reaches.tail (.now _), h.store⟩
  log _ := .of_keeps fun _ h => h
  settings := rfl

theorem evaluate_follows (disk : Disk (StateM (World ε φ))) (collection : Collection)
    (stored latest : List Record) (w : World ε φ) :
    World.Follows env w ((env.around disk root settings).evaluate collection stored latest w).2 :=
  ((related_follows env root settings disk w).evaluate collection stored latest).keeps
    (World.Follows.refl env w)

theorem forM_log (disk : Disk (StateM (World ε φ))) (events : List Event) (w : World ε φ) :
    events.forM (env.around disk root settings).log w = ((), w) := by
  induction events with
  | nil => rfl
  | cons event rest ih => exact ih

/-- A comparison counts its changes and fires the rules on each of them. -/
theorem evaluate_run (disk : Disk (StateM (World ε φ))) (collection : Collection)
    (stored latest : List Record) (w : World ε φ) :
    (env.around disk root settings).evaluate collection stored latest w =
      (.evaluated (Delta.changes stored latest collection.activeProperties).length
          ((Delta.changes stored latest collection.activeProperties).foldlM
            ((env.around disk root settings).fireRules collection) 0 w).1,
        ((Delta.changes stored latest collection.activeProperties).foldlM
          ((env.around disk root settings).fireRules collection) 0 w).2) :=
  bind_run (forM_log env root settings disk _ w)

/-- A session reads its rules from the environment. -/
theorem rulesAlike_follows (w : World ε Files) :
    Surroundings.RulesAlike (.relates fun s t => s = t ∧ World.Follows env w s)
      (env.surroundings root settings) (env.surroundings root settings) :=
  Environment.rulesAlike root settings
    (.of_keeps fun _ h => ⟨h.reaches.tail (.rulesModified _), h.store⟩)
    (.of_keeps fun _ h => ⟨h.reaches.tail (.rules _), h.store⟩)
    (.of_keeps fun _ h => ⟨h.reaches.tail (.now _), h.store⟩)

theorem reload_follows (session : Session) (w : World ε Files) :
    World.Follows env w (session.reload (env.surroundings root settings) w).2 :=
  Relates.keeps ((rulesAlike_follows env root settings w).reload session) (.refl env w)

theorem start_follows (w : World ε Files) :
    World.Follows env w (Session.start (env.surroundings root settings) w).2 :=
  Relates.keeps (rulesAlike_follows env root settings w).start (.refl env w)

end

/-! ### The two halves of a poll -/

section

variable {ε : Type} (env : Environment ε) (root : String) (settings : Settings)

/-- The place of a collection's snapshot. -/
abbrev Environment.snapshot (collection : Collection) : String :=
  (env.store root settings).path collection.id

/-- A rules file whose name ends differently is no snapshot. -/
theorem snapshot_ne_rulesPath (collection : Collection)
    (h : settings.rulesPath.toList.getLast? ≠ some 'n') :
    env.snapshot root settings collection ≠ settings.rulesPath := by
  intro heq
  rw [← heq] at h
  exact h ((env.store root settings).getLast?_path collection.id)

@[simp] theorem surroundings_store :
    (env.surroundings root settings).store = env.store root settings := rfl

@[simp] theorem surroundings_settings :
    (env.surroundings root settings).settings = settings := rfl

/-- What a snapshot is found to be. Where no file operation fails, a collection is unseeded only
without a snapshot, and unusable only with one that cannot be read. -/
inductive Found (collection : Collection) (w : World ε Files) :
    Except SessionError Stored × World ε Files → Prop where
  | missing {w' : World ε Files}
    (hf : env.Sound → w.store (env.snapshot root settings collection) = none)
    (hl : SnapshotStore.Leads env root settings w w' w.store) :
    Found collection w (.ok .missing, w')
  | records {stored : List Record} {w' : World ε Files}
    (hr : SnapshotStore.loaded collection.id (w.store (env.snapshot root settings collection)) =
      .ok stored)
    (hl : SnapshotStore.Leads env root settings w w' w.store) :
    Found collection w (.ok (.records stored), w')
  | unusable {w' : World ε Files}
    (hf : env.Sound → SnapshotStore.base? collection.id
      (w.store (env.snapshot root settings collection)) = none)
    (hl : SnapshotStore.Leads env root settings w w' w.store) :
    Found collection w (.ok .unusable, w')
  | aside {w' : World ε Files}
    (hr : SnapshotStore.loaded collection.id (w.store (env.snapshot root settings collection)) =
      .error .json)
    (hl : SnapshotStore.Leads env root settings w w'
      (Function.update w.store (env.snapshot root settings collection) none)) :
    Found collection w (.ok .unusable, w')
  | failed {error : SessionError} {w' : World ε Files}
    (hr : SnapshotStore.loaded collection.id (w.store (env.snapshot root settings collection)) =
      .error .json)
    (hl : SnapshotStore.Leads env root settings w w' w.store) :
    Found collection w (.error error, w')

theorem stored_spec {collection : Collection}
    (hp : env.snapshot root settings collection ≠ settings.rulesPath) (w : World ε Files) :
    Found env root settings collection w
      (((env.surroundings root settings).stored collection).run w) := by
  have hload := SnapshotStore.load_run env root settings hp
    { w with env := (env.sees (env.snapshot root settings collection) w.env).2 }
  have hsees : env.Reaches w.env (env.sees (env.snapshot root settings collection) w.env).2 :=
    .single (.sees _ _)
  have hreads := hsees.tail (.reads _ (env.snapshot root settings collection))
  rw [Surroundings.stored, surroundings_store,
    lift_run (SnapshotStore.contains_run env root settings collection.id w)]
  cases hv : (env.sees (env.snapshot root settings collection) w.env).1 &&
      (w.store (env.snapshot root settings collection)).isSome with
  | false =>
    rw [if_neg Bool.false_ne_true]
    refine .missing (fun hs => ?_) ⟨hsees, rfl, fun _ => rfl⟩
    rw [hs.sees, Bool.true_and] at hv
    exact Option.not_isSome_iff_eq_none.mp (by rw [hv]; decide)
  | true =>
    obtain ⟨bytes, hc⟩ := Option.isSome_iff_exists.mp (Bool.and_eq_true_iff.mp hv).2
    rw [if_pos rfl, lift_run hload]
    have hstay : SnapshotStore.Leads env root settings w { w with
        env := (env.reads (env.snapshot root settings collection)
          (env.sees (env.snapshot root settings collection) w.env).2).2 } w.store :=
      ⟨hreads, rfl, fun _ => rfl⟩
    cases hr : (env.reads (env.snapshot root settings collection)
        (env.sees (env.snapshot root settings collection) w.env).2).1 with
    | false =>
      rw [if_neg Bool.false_ne_true]
      refine .unusable (fun hs => ?_) hstay
      rw [hs.reads] at hr
      cases hr
    | true =>
      rw [if_pos rfl, hc]
      cases hl : SnapshotStore.loaded collection.id (some bytes) with
      | ok stored => exact .records (by rw [hc, hl]) hstay
      | error error =>
        have hbase : SnapshotStore.base? collection.id
            (w.store (env.snapshot root settings collection)) = none := by
          rw [hc, SnapshotStore.base?, hl]
          rfl
        cases error with
        | notFound other => exact .unusable (fun _ => hbase) hstay
        | io => exact .unusable (fun _ => hbase) hstay
        | json =>
          have hjson : SnapshotStore.loaded collection.id
              (w.store (env.snapshot root settings collection)) = .error .json := by
            rw [hc, hl]
          obtain ⟨w', ⟨hq, hleads⟩ | ⟨hq, hleads⟩⟩ :=
            @SnapshotStore.quarantine_spec ε env root settings collection.id { w with
              env := (env.reads (env.snapshot root settings collection)
                (env.sees (env.snapshot root settings collection) w.env).2).2 }
          · dsimp only
            rw [lift_run hq]
            exact .aside hjson (hstay.trans hleads fun _ => rfl)
          · dsimp only
            rw [lift_run hq]
            exact .failed hjson (hstay.trans hleads fun _ => rfl)

/-- A query and its answer. -/
theorem fetch_run (collection : Collection) (lookback : Option Json) (w : World ε Files) :
    (env.surroundings root settings).fetch collection lookback w =
      ((env.query collection.id collection.filterProperties (collection.filter? lookback)
          w.env).1.toOption,
        { w with
          env := (env.query collection.id collection.filterProperties
            (collection.filter? lookback) w.env).2
          calls := w.calls ++ [.query collection.id collection.filterProperties
            (collection.filter? lookback)] }) := by
  refine (bind_run (p := World.call _ (env.query _ _ _)) rfl).trans ?_
  cases (env.query collection.id collection.filterProperties (collection.filter? lookback)
    w.env).1 <;> rfl

/-- What gathering comes to. `asked` is the world in which the query is asked, if one is. -/
inductive Gathers (session : Session) (collection : Collection) (w asked : World ε Files) :
    Except SessionError Gathered × World ε Files → Prop where
  | aside
    (hr : SnapshotStore.loaded collection.id (w.store (env.snapshot root settings collection)) =
      .error .json)
    (hl : SnapshotStore.Leads env root settings w asked
      (Function.update w.store (env.snapshot root settings collection) none)) :
    Gathers session collection w asked (.ok .nothing, asked)
  | unusable
    (hf : env.Sound → SnapshotStore.base? collection.id
      (w.store (env.snapshot root settings collection)) = none)
    (hl : SnapshotStore.Leads env root settings w asked w.store) :
    Gathers session collection w asked (.ok .nothing, asked)
  | failed {error : SessionError}
    (hr : SnapshotStore.loaded collection.id (w.store (env.snapshot root settings collection)) =
      .error .json)
    (hl : SnapshotStore.Leads env root settings w asked w.store) :
    Gathers session collection w asked (.error error, asked)
  | refused {lookback : Option Json} {w' : World ε Files}
    (hl : SnapshotStore.Leads env root settings w asked w.store)
    (hq : (env.surroundings root settings).fetch collection lookback asked = (none, w')) :
    Gathers session collection w asked (.ok .nothing, w')
  | seeding {latest : List Record} {w' : World ε Files}
    (hf : env.Sound → w.store (env.snapshot root settings collection) = none)
    (hl : SnapshotStore.Leads env root settings w asked w.store)
    (hq : (env.surroundings root settings).fetch collection none asked = (some latest, w')) :
    Gathers session collection w asked (.ok (.seeding latest), w')
  | comparison {stored latest : List Record} {w' : World ε Files}
    (hr : SnapshotStore.loaded collection.id (w.store (env.snapshot root settings collection)) =
      .ok stored)
    (hl : SnapshotStore.Leads env root settings w asked w.store)
    (hq : (env.surroundings root settings).fetch collection
      (some (session.lookback settings collection.id)) asked = (some latest, w')) :
    Gathers session collection w asked (.ok (.comparison stored latest), w')

theorem gather_spec (session : Session) {collection : Collection}
    (hp : env.snapshot root settings collection ≠ settings.rulesPath) (w : World ε Files) :
    Gathers env root settings session collection w
      (((env.surroundings root settings).stored collection).run w).2
      ((session.gather (env.surroundings root settings) collection).run w) := by
  have hstored := stored_spec env root settings hp w
  rw [Session.gather]
  generalize hrun : ((env.surroundings root settings).stored collection).run w = found at hstored ⊢
  cases hstored with
  | missing hf hl =>
    rw [ok_run hrun, Session.ask]
    cases hq : (env.surroundings root settings).fetch collection none _ with
    | mk answer w' =>
      rw [lift_run hq]
      cases answer with
      | none => exact .refused hl hq
      | some latest => exact .seeding hf hl hq
  | records hr hl =>
    rw [ok_run hrun, Session.ask, surroundings_settings]
    cases hq : (env.surroundings root settings).fetch collection
        (some (session.lookback settings collection.id)) _ with
    | mk answer w' =>
      rw [lift_run hq]
      cases answer with
      | none => exact .refused hl hq
      | some latest => exact .comparison hr hl hq
  | unusable hf hl =>
    rw [ok_run hrun]
    exact .unusable hf hl
  | aside hr hl =>
    rw [ok_run hrun]
    exact .aside hr hl
  | failed hr hl =>
    rw [error_run hrun]
    exact .failed hr hl

/-- What settling comes to. A comparison is evaluated before anything is merged. -/
inductive Settles (collection : Collection) (w : World ε Files) :
    Gathered → Except SessionError Poll × World ε Files → Prop where
  | nothing : Settles collection w .nothing (.ok .skipped, w)
  | seeded {latest stored : List Record} {w' : World ε Files}
    (hb : SnapshotStore.base? collection.id (w.store (env.snapshot root settings collection)) =
      some stored)
    (hl : SnapshotStore.Leads env root settings w w' (Function.update w.store
      (env.snapshot root settings collection)
      (some (SnapshotStore.bytesOf (Snapshot.overlay stored latest))))) :
    Settles collection w (.seeding latest) (.ok .seeded, w')
  | unseeded {latest : List Record} {error : SessionError} {w' : World ε Files}
    (hf : env.Sound → SnapshotStore.base? collection.id
      (w.store (env.snapshot root settings collection)) = none)
    (hl : SnapshotStore.Leads env root settings w w' w.store) :
    Settles collection w (.seeding latest) (.error error, w')
  | merged {stored latest base : List Record} {poll : Poll} {middle w' : World ε Files}
    (he : (env.surroundings root settings).evaluate collection stored latest w = (poll, middle))
    (hb : SnapshotStore.base? collection.id (w.store (env.snapshot root settings collection)) =
      some base)
    (hl : SnapshotStore.Leads env root settings middle w' (Function.update w.store
      (env.snapshot root settings collection)
      (some (SnapshotStore.bytesOf (Snapshot.overlay base latest))))) :
    Settles collection w (.comparison stored latest) (.ok poll, w')
  | unmerged {stored latest : List Record} {poll : Poll} {error : SessionError}
    {middle w' : World ε Files}
    (he : (env.surroundings root settings).evaluate collection stored latest w = (poll, middle))
    (hf : env.Sound → SnapshotStore.base? collection.id
      (w.store (env.snapshot root settings collection)) = none)
    (hl : SnapshotStore.Leads env root settings middle w' w.store) :
    Settles collection w (.comparison stored latest) (.error error, w')

theorem merge_run {collection : Collection} {latest : List Record} {w w' : World ε Files}
    {result : Except StoreError (List Record)}
    (h : (env.store root settings).merge collection.id latest w = (result, w')) :
    ((env.surroundings root settings).merge collection latest).run w =
      (result.mapError .store, w') :=
  bind_run h

theorem settle_spec {collection : Collection}
    (hp : env.snapshot root settings collection ≠ settings.rulesPath) (gathered : Gathered)
    (w : World ε Files) :
    Settles env root settings collection w gathered
      ((Session.settle (env.surroundings root settings) collection gathered).run w) := by
  cases gathered with
  | nothing => exact .nothing
  | seeding latest =>
    have hmerge := @SnapshotStore.merge_spec ε env root settings _ hp latest w
    generalize hrun : (env.store root settings).merge collection.id latest w = merged at hmerge
    rw [Session.settle]
    cases hmerge with
    | stored hb hl =>
      rw [ok_run (merge_run env root settings hrun)]
      exact .seeded hb hl
    | failed hf hl =>
      rw [error_run (merge_run env root settings hrun)]
      exact .unseeded hf hl
  | comparison stored latest =>
    rw [Session.settle]
    cases he : (env.surroundings root settings).evaluate collection stored latest w with
    | mk poll middle =>
      have hfollows : World.Follows env w
          ((env.surroundings root settings).evaluate collection stored latest w).2 :=
        evaluate_follows env root settings _ collection stored latest w
      rw [he] at hfollows
      have hstore : middle.store = w.store := hfollows.store
      have hmerge := @SnapshotStore.merge_spec ε env root settings _ hp latest middle
      generalize hrun : (env.store root settings).merge collection.id latest middle = merged
        at hmerge
      rw [lift_run he]
      cases hmerge with
      | stored hb hl =>
        rw [hstore] at hb hl
        rw [ok_run (merge_run env root settings hrun)]
        exact .merged he hb hl
      | failed hf hl =>
        rw [hstore] at hf hl
        rw [error_run (merge_run env root settings hrun)]
        exact .unmerged he hf hl

end

end RecordWatch
