import Mathlib.Data.List.Nodup
import RecordWatch.Proofs.Session.Isolation

/-! What errors leave behind. A collection whose snapshot cannot be read just now, or whose query
fails, is left out of a cycle, and everything about it stays as it was. An error that ends the
session leaves every snapshot that its poll found, counts no poll of the cycle as a success, and
keeps the cycle away from the collections that are left. -/

namespace RecordWatch

section

variable {ε : Type} (env : Environment ε) (root : String) (settings : Settings)

/-! ### Steps that only look -/

/-- Computations that keep the files of a world and make no call. -/
def Likeness.quiet (w : World ε Files) :
    Likeness (StateM (World ε Files)) (StateM (World ε Files)) :=
  .relates fun s t => s = t ∧ s.store = w.store ∧ s.calls = w.calls

theorem quiet_ambient {α : Type} (w : World ε Files) (step : StateM ε α) :
    (Likeness.quiet w).rel (World.ambient step) (World.ambient step) :=
  Relates.of_keeps fun _ h => h

/-- Computations that depend on nothing but steps are alike where these are. -/
theorem Likeness.disk_read (L : Likeness (StateM (World ε Files)) (StateM (World ε Files)))
    (ha : ∀ {α : Type} (step : StateM ε α), L.rel (World.ambient step) (World.ambient step))
    (hc : ∀ path readable, L.rel (World.touch (Files.contents path readable))
      (World.touch (Files.contents path readable))) (path : String) :
    L.rel ((env.disk settings.rulesPath).read path) ((env.disk settings.rulesPath).read path) := by
  show L.rel (if path = settings.rulesPath then _ else _)
    (if path = settings.rulesPath then _ else _)
  split
  · exact ha env.rules
  · rw [World.read_eq]
    exact L.bind (ha _) (hc path)

theorem quiet_read (w : World ε Files) (path : String) :
    (Likeness.quiet w).rel ((env.disk settings.rulesPath).read path)
      ((env.disk settings.rulesPath).read path) :=
  (Likeness.quiet w).disk_read env settings (quiet_ambient w)
    (fun _ _ => Relates.of_keeps fun _ h => h) path

theorem SnapshotStore.load_quiet (collection : String) (w : World ε Files) :
    ((env.store root settings).load collection w).2.store = w.store ∧
      ((env.store root settings).load collection w).2.calls = w.calls := by
  have hload : (Likeness.quiet w).rel ((env.store root settings).load collection)
      ((env.store root settings).load collection) :=
    (Likeness.quiet w).load (quiet_read env settings w _)
  exact Relates.keeps hload ⟨rfl, rfl⟩

theorem reload_quiet (session : Session) (w : World ε Files) :
    (session.reload (env.surroundings root settings) w).2.store = w.store ∧
      (session.reload (env.surroundings root settings) w).2.calls = w.calls := by
  have hrules : Surroundings.RulesAlike (Likeness.quiet w) (env.surroundings root settings)
      (env.surroundings root settings) :=
    Environment.rulesAlike root settings (quiet_ambient w _) (quiet_ambient w _) (quiet_ambient w _)
  exact Relates.keeps (hrules.reload session) ⟨rfl, rfl⟩

variable {env root settings}

variable (env root settings) in
/-- The steps to what is found of a snapshot. -/
inductive FoundBy (collection : Collection) (w : World ε Files) :
    Except SessionError Stored × World ε Files → Prop where
  | unseen {seen : World ε Files}
    (hc : (env.store root settings).contains collection.id w = (false, seen)) :
    FoundBy collection w (.ok .missing, seen)
  | loaded {records : List Record} {seen read : World ε Files}
    (hc : (env.store root settings).contains collection.id w = (true, seen))
    (hl : (env.store root settings).load collection.id seen = (.ok records, read)) :
    FoundBy collection w (.ok (.records records), read)
  | unread {error : StoreError} {seen read : World ε Files} (he : error ≠ .json)
    (hc : (env.store root settings).contains collection.id w = (true, seen))
    (hl : (env.store root settings).load collection.id seen = (.error error, read)) :
    FoundBy collection w (.ok .unusable, read)
  | aside {moved : String} {seen read w' : World ε Files}
    (hc : (env.store root settings).contains collection.id w = (true, seen))
    (hl : (env.store root settings).load collection.id seen = (.error .json, read))
    (hq : (env.store root settings).quarantine collection.id read = (.ok moved, w')) :
    FoundBy collection w (.ok .unusable, w')
  | failed {error : StoreError} {seen read w' : World ε Files}
    (hc : (env.store root settings).contains collection.id w = (true, seen))
    (hl : (env.store root settings).load collection.id seen = (.error .json, read))
    (hq : (env.store root settings).quarantine collection.id read = (.error error, w')) :
    FoundBy collection w (.error (.store error), w')

variable (env root settings) in
theorem stored_cases (collection : Collection) (w : World ε Files) :
    FoundBy env root settings collection w
      (((env.surroundings root settings).stored collection).run w) := by
  rw [Surroundings.stored, surroundings_store]
  cases hc : (env.store root settings).contains collection.id w with
  | mk found seen =>
    rw [lift_run hc]
    cases found with
    | false => exact .unseen hc
    | true =>
      rw [if_pos rfl]
      cases hl : (env.store root settings).load collection.id seen with
      | mk loaded read =>
        rw [lift_run hl]
        cases loaded with
        | ok records => exact .loaded hc hl
        | error error =>
          cases error with
          | notFound _ => exact .unread (fun h => by cases h) hc hl
          | io => exact .unread (fun h => by cases h) hc hl
          | json =>
            cases hq : (env.store root settings).quarantine collection.id read with
            | mk moved after =>
              dsimp only
              rw [lift_run hq]
              cases moved with
              | ok aside => exact .aside hc hl hq
              | error error => exact .failed hc hl hq

/-- What is found of a snapshot leaves every snapshot as it is, unless nothing can be done with
it. -/
theorem stored_quiet {collection : Collection} {w asked : World ε Files}
    {result : Except SessionError Stored}
    (h : ((env.surroundings root settings).stored collection).run w = (result, asked))
    (hu : result ≠ .ok .unusable) :
    (∀ c : String, asked.store ((env.store root settings).path c) =
      w.store ((env.store root settings).path c)) ∧ asked.calls = w.calls := by
  have hload : ∀ {found : Bool} {loaded : Except StoreError (List Record)} {seen read},
      (env.store root settings).contains collection.id w = (found, seen) →
      (env.store root settings).load collection.id seen = (loaded, read) →
      read.store = w.store ∧ read.calls = w.calls := by
    intro found loaded seen read hc hl
    have hquiet := SnapshotStore.load_quiet env root settings collection.id seen
    rw [hl] at hquiet
    rw [SnapshotStore.contains_run] at hc
    obtain ⟨-, rfl⟩ := Prod.mk.inj hc
    exact hquiet
  have hcases := stored_cases env root settings collection w
  rw [h] at hcases
  cases hcases with
  | unseen hc =>
    rw [SnapshotStore.contains_run] at hc
    obtain ⟨-, rfl⟩ := Prod.mk.inj hc
    exact ⟨fun _ => rfl, rfl⟩
  | loaded hc hl =>
    obtain ⟨hstore, hcalls⟩ := hload hc hl
    exact ⟨fun c => congrFun hstore _, hcalls⟩
  | unread => exact absurd rfl hu
  | aside => exact absurd rfl hu
  | @failed _ _ read _ hc hl hq =>
    obtain ⟨hstore, hcalls⟩ := hload hc hl
    obtain ⟨moved, ⟨hq', -⟩ | ⟨hq', hleads⟩⟩ :=
      @SnapshotStore.quarantine_spec ε env root settings collection.id read
    · rw [hq] at hq'
      cases hq'
    · rw [hq] at hq'
      cases hq'
      exact ⟨fun c => (hleads.held c).trans (congrFun hstore _), hleads.calls.trans hcalls⟩

theorem merge_error {collection : Collection} {latest : List Record} {w w' : World ε Files}
    {error : SessionError}
    (h : ((env.surroundings root settings).merge collection latest).run w = (.error error, w'))
    (c : String) :
    w'.store ((env.store root settings).path c) = w.store ((env.store root settings).path c) := by
  cases hm : (env.store root settings).merge collection.id latest w with
  | mk merged after =>
    rw [merge_run env root settings hm] at h
    obtain ⟨hresult, rfl⟩ := Prod.mk.inj h
    cases hl : (env.store root settings).load collection.id w with
    | mk loaded read =>
      obtain ⟨hstore, -⟩ := SnapshotStore.load_quiet env root settings collection.id w
      rw [hl] at hstore
      have hheld := congrFun hstore ((env.store root settings).path c)
      -- A save that succeeds is no failure of the merge.
      have hsave : ∀ (stored : List Record)
          (next : Except StoreError Unit →
            StateM (World ε Files) (Except StoreError (List Record))),
          next (.ok ()) = pure (.ok (Snapshot.overlay stored latest)) →
          next (.error .io) = pure (.error .io) →
          ((env.store root settings).save collection.id (Snapshot.overlay stored latest) >>= next)
            read = (merged, after) →
          after.store ((env.store root settings).path c) =
            w.store ((env.store root settings).path c) := by
        intro stored next hok herror hrun
        rcases SnapshotStore.save_spec collection.id (Snapshot.overlay stored latest) read with
          ⟨saved, ⟨hs, -⟩ | ⟨hs, -, hleads⟩⟩
        · rw [bind_run hs, hok] at hrun
          cases hrun
          cases hresult
        · rw [bind_run hs, herror] at hrun
          cases hrun
          exact (hleads.held c).trans hheld
      rw [SnapshotStore.merge, bind_run hl] at hm
      cases loaded with
      | ok stored =>
        dsimp only at hm
        rw [pure_bind] at hm
        exact hsave stored _ rfl rfl hm
      | error error =>
        cases error with
        | notFound _ =>
          dsimp only at hm
          rw [pure_bind] at hm
          exact hsave [] _ rfl rfl hm
        | io =>
          cases hm
          exact hheld
        | json =>
          cases hm
          exact hheld

variable (env root settings) in
/-- The steps to what the first half of a poll gathers. -/
inductive GatheredBy (session : Session) (collection : Collection) (w : World ε Files) :
    Except SessionError Gathered × World ε Files → Prop where
  | failed {error : SessionError} {asked : World ε Files}
    (hs : ((env.surroundings root settings).stored collection).run w = (.error error, asked)) :
    GatheredBy session collection w (.error error, asked)
  | unusable {asked : World ε Files}
    (hs : ((env.surroundings root settings).stored collection).run w = (.ok .unusable, asked)) :
    GatheredBy session collection w (.ok .nothing, asked)
  | refused {stored : Stored} {since : Option Json} {asked heard : World ε Files}
    (hs : ((env.surroundings root settings).stored collection).run w = (.ok stored, asked))
    (hq : (env.surroundings root settings).fetch collection since asked = (none, heard)) :
    GatheredBy session collection w (.ok .nothing, heard)
  | seeding {latest : List Record} {asked heard : World ε Files}
    (hs : ((env.surroundings root settings).stored collection).run w = (.ok .missing, asked))
    (hq : (env.surroundings root settings).fetch collection none asked = (some latest, heard)) :
    GatheredBy session collection w (.ok (.seeding latest), heard)
  | comparison {stored latest : List Record} {asked heard : World ε Files}
    (hs : ((env.surroundings root settings).stored collection).run w =
      (.ok (.records stored), asked))
    (hq : (env.surroundings root settings).fetch collection
      (some (session.lookback settings collection.id)) asked = (some latest, heard)) :
    GatheredBy session collection w (.ok (.comparison stored latest), heard)

variable (env root settings) in
theorem gather_cases (session : Session) (collection : Collection) (w : World ε Files) :
    GatheredBy env root settings session collection w
      ((session.gather (env.surroundings root settings) collection).run w) := by
  rw [Session.gather]
  cases hs : ((env.surroundings root settings).stored collection).run w with
  | mk found asked =>
    cases found with
    | error error =>
      rw [error_run hs]
      exact .failed hs
    | ok found =>
      rw [ok_run hs]
      cases found with
      | unusable => exact .unusable hs
      | missing =>
        cases hq : (env.surroundings root settings).fetch collection none asked with
        | mk answer heard =>
          rw [Session.ask, lift_run hq]
          cases answer with
          | none => exact .refused hs hq
          | some latest => exact .seeding hs hq
      | records stored =>
        cases hq : (env.surroundings root settings).fetch collection
            (some (session.lookback settings collection.id)) asked with
        | mk answer heard =>
          rw [Session.ask, surroundings_settings, lift_run hq]
          cases answer with
          | none => exact .refused hs hq
          | some latest => exact .comparison hs hq

/-- A poll that ends in an error leaves every snapshot as it is. -/
theorem poll_error {session : Session} {collection : Collection} {w w' : World ε Files}
    {error : SessionError}
    (h : (session.poll (env.surroundings root settings) collection).run w = (.error error, w'))
    (c : String) :
    w'.store ((env.store root settings).path c) = w.store ((env.store root settings).path c) := by
  rw [Session.poll_eq] at h
  have hcases := gather_cases env root settings session collection w
  cases hg : (session.gather (env.surroundings root settings) collection).run w with
  | mk gathered heard =>
    rw [hg] at hcases
    -- Moving a snapshot aside and the merge are the only steps that end in an error.
    cases hcases with
    | failed hs =>
      rw [error_run hg] at h
      cases h
      exact (stored_quiet hs fun h => by cases h).1 c
    | unusable _ =>
      rw [ok_run hg] at h
      cases h
    | refused _ _ =>
      rw [ok_run hg] at h
      cases h
    | @seeding latest _ _ hs hq =>
      obtain ⟨hheld, -⟩ := stored_quiet hs fun h => by cases h
      obtain ⟨hfollows, -⟩ := PollRecord.fetch_leads hq
      rw [ok_run hg, Session.settle] at h
      cases hm : ((env.surroundings root settings).merge collection latest).run heard with
      | mk merged after =>
        cases merged with
        | ok records =>
          rw [ok_run hm] at h
          cases h
        | error error =>
          rw [error_run hm] at h
          cases h
          exact (merge_error hm c).trans ((congrFun hfollows.store _).trans (hheld c))
    | @comparison stored latest _ _ hs hq =>
      obtain ⟨hheld, -⟩ := stored_quiet hs fun h => by cases h
      obtain ⟨hfollows, -⟩ := PollRecord.fetch_leads hq
      rw [ok_run hg, Session.settle] at h
      cases he : (env.surroundings root settings).evaluate collection stored latest heard with
      | mk poll evaluated =>
        obtain ⟨hevaluates, -⟩ := PollRecord.evaluate_leads he
        rw [lift_run he] at h
        cases hm : ((env.surroundings root settings).merge collection latest).run evaluated with
        | mk merged after =>
          cases merged with
          | ok records =>
            rw [ok_run hm] at h
            cases h
          | error error =>
            rw [error_run hm] at h
            cases h
            exact (merge_error hm c).trans ((congrFun hevaluates.store _).trans
              ((congrFun hfollows.store _).trans (hheld c)))

/-! ### Collections that are skipped -/

namespace PollRecord

/-- Where the query of a poll looks back to: nowhere while the collection is seeded. -/
def lookback? (settings : Settings) (r : PollRecord ε) : Stored → Option Json
  | .records _ => some (r.session.lookback settings r.collection.id)
  | .missing => none
  | .unusable => none

variable (env root settings) in
/-- A poll that is missed: the snapshot is there but cannot be read, which is not to say that it is
no list of records, or the query fails. -/
inductive Missed (r : PollRecord ε) : Prop where
  | unread {seen read : World ε Files} {error : StoreError}
    (hc : (env.store root settings).contains r.collection.id r.before = (true, seen))
    (hl : (env.store root settings).load r.collection.id seen = (.error error, read))
    (he : error ≠ .json) : Missed r
  | refused {stored : Stored} {error : ApiError}
    (hs : ((env.surroundings root settings).stored r.collection).run r.before =
      (.ok stored, r.asked))
    (hu : stored ≠ .unusable)
    (hq : (env.query r.collection.id r.collection.filterProperties
      (r.collection.filter? (r.lookback? settings stored)) r.asked.env).1 = .error error) :
    Missed r

variable (env root settings) in
/-- A poll that skips its collection, delivers nothing, looks nothing up and leaves every
snapshot. -/
structure Spared (r : PollRecord ε) : Prop where
  skipped : r.result = .ok .skipped
  calls : r.after.calls = r.before.calls ∨ ∃ filter, r.after.calls = r.before.calls ++
    [.query r.collection.id r.collection.filterProperties filter]
  held (c : String) : r.after.store ((env.store root settings).path c) =
    r.before.store ((env.store root settings).path c)

theorem Missed.spared {r : PollRecord ε} (h : r.Missed env root settings)
    (hr : r.Polled env root settings) : r.Spared env root settings := by
  have hpoll := hr.run
  rw [Session.poll] at hpoll
  cases h with
  | @unread seen read error hc hl he =>
    have hs : ((env.surroundings root settings).stored r.collection).run r.before =
        (.ok .unusable, read) := by
      rw [Surroundings.stored, surroundings_store, lift_run hc, if_pos rfl, lift_run hl]
      cases error with
      | notFound _ => rfl
      | io => rfl
      | json => exact absurd rfl he
    rw [ok_run hs] at hpoll
    obtain ⟨hresult, hafter⟩ := Prod.mk.inj hpoll
    obtain ⟨hstore, hcalls⟩ := SnapshotStore.load_quiet env root settings r.collection.id seen
    rw [SnapshotStore.contains_run] at hc
    obtain ⟨-, rfl⟩ := Prod.mk.inj hc
    rw [hl] at hstore hcalls
    exact ⟨hresult.symm, .inl (hafter ▸ hcalls), fun c => hafter ▸ congrFun hstore _⟩
  | @refused stored error hs hu hq =>
    obtain ⟨hheld, hcalls⟩ := stored_quiet hs fun h => hu (Except.ok.inj h)
    obtain ⟨w', hfetch⟩ : ∃ w', (env.surroundings root settings).fetch r.collection
        (r.lookback? settings stored) r.asked = (none, w') := by
      rw [fetch_run, hq]
      exact ⟨_, rfl⟩
    obtain ⟨hfollows, hasked⟩ := fetch_leads hfetch
    have hend : (r.result, r.after) = (.ok .skipped, w') := by
      rw [← hpoll, ok_run hs]
      cases stored with
      | unusable => exact absurd rfl hu
      | missing => exact lift_run hfetch
      | records _ => exact lift_run hfetch
    obtain ⟨hresult, rfl⟩ := Prod.mk.inj hend
    exact ⟨hresult, .inr ⟨_, hcalls ▸ hasked⟩, fun c => (congrFun hfollows.store _).trans (hheld c)⟩

end PollRecord

namespace Session

theorem succeeded_of_skipped {c : String} {records : List (PollRecord ε)}
    (hs : ∀ r ∈ records, r.collection.id = c → r.result = .ok .skipped) {progress total : Progress}
    (h : advance progress records = .ok total) :
    total.succeeded.get? c = progress.succeeded.get? c := by
  induction records generalizing progress with
  | nil =>
    cases h
    rfl
  | cons r rest ih =>
    cases hr : r.result with
    | error error =>
      rw [advance_error hr] at h
      cases h
    | ok poll =>
      rw [advance_ok hr] at h
      refine (ih (fun q hq => hs q (List.mem_cons_of_mem _ hq)) h).trans ?_
      by_cases hc : r.collection.id = c
      · rw [hs r List.mem_cons_self hc] at hr
        cases hr
        rfl
      · exact progress.succeeded_add_ne r.began poll hc

/-! ### What a cycle asks -/

/-- Every query among some calls is for a collection with one of some ids. -/
def Asks (made : List Call) (ids : List String) : Prop :=
  ∀ id properties filter, Call.query id properties filter ∈ made → id ∈ ids

theorem Asks.append {made more : List Call} {ids others : List String} (h : Asks made ids)
    (h' : Asks more others) : Asks (made ++ more) (ids ++ others) := by
  intro id properties filter hmem
  rcases List.mem_append.mp hmem with hmem | hmem
  · exact List.mem_append_left _ (h id properties filter hmem)
  · exact List.mem_append_right _ (h' id properties filter hmem)

/-- Computations that ask queries for some collections alone. -/
def asking (ids : List String) (w : World ε Files) :
    Likeness (StateM (World ε Files)) (StateM (World ε Files)) :=
  .relates fun s t => s = t ∧ ∃ made, s.calls = w.calls ++ made ∧ Asks made ids

theorem asking_call {α : Type} {ids : List String} (w : World ε Files) {call : Call}
    (step : StateM ε α) (ho : Asks [call] ids) :
    (asking ids w).rel (World.call call step) (World.call call step) := by
  refine Relates.of_keeps fun s ⟨made, hmade, hasks⟩ => ⟨made ++ [call], ?_, ?_⟩
  · show s.calls ++ [call] = w.calls ++ (made ++ [call])
    rw [hmade, List.append_assoc]
  · intro other properties filter hmem
    have hor := hasks.append ho other properties filter hmem
    rwa [List.mem_append, or_self] at hor

variable (env root settings)

theorem asking_store (ids : List String) (collection : String) (w : World ε Files) :
    SnapshotStore.Alike (asking ids w) (env.store root settings) (env.store root settings)
      collection := by
  have hambient : ∀ {α : Type} (step : StateM ε α),
      (asking ids w).rel (World.ambient step) (World.ambient step) := fun _ =>
    Relates.of_keeps fun _ h => h
  have htouch : ∀ {α : Type} (step : Files → α × Files),
      (asking ids w).rel (World.touch step) (World.touch step) := fun _ =>
    Relates.of_keeps fun _ h => h
  have hrename : ∀ source target, (asking ids w).rel (World.rename env source target)
      (World.rename env source target) := fun source target => by
    rw [World.rename_eq]
    exact (asking ids w).bind (hambient _) fun _ => htouch _
  refine ⟨(asking ids w).bind (hambient (env.sees _)) fun _ => htouch (Files.found _ _), ?_,
    fun records => ?_, (asking ids w).quarantine (hrename _ _)⟩
  · exact (asking ids w).load
      ((asking ids w).disk_read env settings hambient (fun _ _ => htouch _) _)
  · refine (asking ids w).save ?_ (hrename _ _)
    show (asking ids w).rel (World.write env _ _) (World.write env _ _)
    rw [World.write_eq]
    exact (asking ids w).bind (hambient _) fun _ => htouch _

/-- Lookups and deliveries are no queries, so a poll asks what its query does. -/
theorem asking_around {ids : List String} {w : World ε Files}
    {source : Source (StateM (World ε Files))} {collection : Collection}
    (hitems : source.items = (env.surroundings root settings).source.items)
    (hquery : ∀ filter, (asking ids w).rel
      (source.query collection.id collection.filterProperties filter)
      (source.query collection.id collection.filterProperties filter)) :
    Surroundings.Alike (asking ids w) { env.surroundings root settings with source }
      { env.surroundings root settings with source } collection := by
  let L := asking ids w
  have hlog : ∀ event, L.rel ((env.surroundings root settings).log event)
      ((env.surroundings root settings).log event) := fun _ => L.pure ()
  refine ⟨hquery, ⟨fun record property => ?_, Relates.of_keeps fun _ h => h, hlog⟩,
    fun rule record change fired => ?_, rfl⟩
  · show L.rel (source.items record property) (source.items record property)
    rw [hitems]
    refine asking_call w _ fun id properties filter hmem => ?_
    cases List.mem_singleton.mp hmem
  · have hnotify : ∀ delivery, L.rel ((env.surroundings root settings).notify delivery)
        ((env.surroundings root settings).notify delivery) := by
      intro delivery
      refine asking_call w _ fun id properties filter hmem => ?_
      cases List.mem_singleton.mp hmem
    exact L.bind (L.perform hnotify hlog rule.actions record change) fun _ =>
      L.bind (L.pure ()) fun _ => L.pure _

theorem poll_asks (session : Session) (collection : Collection) (w : World ε Files) :
    ∃ made, ((session.poll (env.surroundings root settings) collection).run w).2.calls =
      w.calls ++ made ∧ Asks made [collection.id] := by
  let L := asking [collection.id] w
  have halike : Surroundings.Alike L (env.surroundings root settings)
      (env.surroundings root settings) collection := by
    refine asking_around env root settings rfl fun filter => asking_call w _ ?_
    intro id properties filter hmem
    cases List.mem_singleton.mp hmem
    exact List.mem_singleton.mpr rfl
  have hpoll : L.rel (session.poll (env.surroundings root settings) collection).run
      (session.poll (env.surroundings root settings) collection).run :=
    halike.poll (asking_store env root settings _ _ w) rfl
  exact Relates.keeps hpoll ⟨[], (List.append_nil _).symm, fun _ _ _ h => by cases h⟩

theorem polls_asks (session : Session) (collections : List Collection) (w : World ε Files) :
    ∃ made, (final w (session.polls env root settings collections w)).calls = w.calls ++ made ∧
      Asks made ((session.polls env root settings collections w).map (·.collection.id)) := by
  induction collections generalizing w with
  | nil => exact ⟨[], (List.append_nil _).symm, fun _ _ _ h => by cases h⟩
  | cons collection rest ih =>
    obtain ⟨made, hmade, hasks⟩ := poll_asks env root settings session collection
      (session.record env root settings collection w).before
    have hafter : (session.record env root settings collection w).after.calls =
        w.calls ++ made := hmade
    cases hr : (session.record env root settings collection w).result with
    | error error =>
      -- The polls end here.
      rw [polls_error env root settings hr, final_cons]
      exact ⟨made, hafter, hasks⟩
    | ok poll =>
      rw [polls_ok env root settings hr, final_cons]
      obtain ⟨more, hmore, hasks'⟩ := ih (session.record env root settings collection w).after
      refine ⟨made ++ more, ?_, hasks.append hasks'⟩
      rw [hmore, hafter, List.append_assoc]

/-! ### Cycles -/

variable {env root settings}

theorem keeps_of_polled {r : PollRecord ε} (h : r.Polled env root settings) {c : Collection}
    (hne : env.snapshot root settings r.collection ≠ env.snapshot root settings c) :
    r.after.store (env.snapshot root settings c) =
      r.before.store (env.snapshot root settings c) := by
  have hkeeps := poll_keeps env root settings r.session (Ne.symm hne) r.before
  rwa [h.run] at hkeeps

/-- A snapshot is kept by polls of others and by those that leave it. -/
theorem kept_of_polls {session : Session} {collections : List Collection} {w : World ε Files}
    {c : Collection}
    (h : ∀ r ∈ session.polls env root settings collections w,
      env.snapshot root settings r.collection ≠ env.snapshot root settings c ∨
        r.after.store (env.snapshot root settings c) =
          r.before.store (env.snapshot root settings c)) :
    (final w (session.polls env root settings collections w)).store
      (env.snapshot root settings c) = w.store (env.snapshot root settings c) := by
  refine kept_of_chain env (chain_polls env root settings session collections w) fun r hr => ?_
  rcases h r hr with hne | hkept
  · exact keeps_of_polled (polled_polls env root settings hr) hne
  · exact hkept

theorem reload_lookback {session reloaded : Session} {w w' : World ε Files}
    (h : session.reload (env.surroundings root settings) w = (reloaded, w')) :
    reloaded.started = session.started ∧ reloaded.lastSuccess = session.lastSuccess := by
  rcases reload_cases h with rfl | ⟨time, rfl | ⟨file, rfl⟩⟩
  · exact ⟨rfl, rfl⟩
  · exact ⟨rfl, rfl⟩
  · exact ⟨rfl, rfl⟩

variable (env root settings) in
/-- A session that was started and has come through some cycles, whatever happened to the world
around it. -/
inductive Reached : Session → Prop where
  | start {session : Session} {w w' : World ε Files}
    (h : Session.start (env.surroundings root settings) w = (.ok session, w')) : Reached session
  | cycle {session next : Session} {result : Except SessionError CycleSummary}
    {w w' : World ε Files} (hr : Reached session)
    (h : session.cycle (env.surroundings root settings) w = ((next, result), w')) : Reached next

theorem Reached.distinct {session : Session} (h : Reached env root settings session) :
    session.Distinct := by
  induction h with
  | start h => exact (start_lastSuccess h).1
  | @cycle session next result w w' _ h ih =>
    cases hreload : session.reload (env.surroundings root settings) w with
    | mk reloaded after =>
      have hcollections := cycle_collections hreload
      rw [h] at hcollections
      rw [Distinct, hcollections]
      exact (reload_lastSuccess hreload).2 ih

variable (env root settings) in
/-- What a cycle does with a collection that it misses: the poll does nothing more than ask, the
snapshot and the last successful poll stay, and the next query looks back to where this one did. -/
structure Unharmed (session next : Session) (r : PollRecord ε) (polled : List (PollRecord ε))
    (w w' : World ε Files) : Prop where
  spared : r.Spared env root settings
  held : (∀ other ∈ polled, other.collection ≠ r.collection →
      env.snapshot root settings other.collection ≠ env.snapshot root settings r.collection) →
    w'.store (env.snapshot root settings r.collection) =
      w.store (env.snapshot root settings r.collection)
  succeeded : next.lastSuccess.get? r.collection.id = session.lastSuccess.get? r.collection.id
  lookback (v : World ε Files) :
    ∀ later ∈ directivePolls env root settings (some next) .cycle v,
      later.collection.id = r.collection.id →
        later.session.lookback settings later.collection.id =
          r.session.lookback settings r.collection.id

variable (env root settings) in
/-- A collection that a cycle never comes to. -/
structure Untouched (c : Collection) (polled : List (PollRecord ε)) (w w' : World ε Files) :
    Prop where
  unpolled : ∀ r ∈ polled, r.collection.id ≠ c.id
  unasked : ∃ made, w'.calls = w.calls ++ made ∧
    ∀ properties filter, Call.query c.id properties filter ∉ made
  held : (∀ r ∈ polled, env.snapshot root settings r.collection ≠ env.snapshot root settings c) →
    w'.store (env.snapshot root settings c) = w.store (env.snapshot root settings c)

variable (env root settings) in
/-- A cycle that ends in an error at one of its polls: the snapshot of that poll stays, no poll
counts as a success, and the collections that are left stay untouched. -/
structure Aborted (session next : Session) (error : SessionError) (polled : List (PollRecord ε))
    (w w' : World ε Files) : Prop where
  succeeded : next.lastSuccess = session.lastSuccess
  ended : ∃ init r rest, polled = init ++ [r] ∧ r.result = .error error ∧
    next.collections = polled.map PollRecord.collection ++ rest ∧
    (∀ c : String, r.after.store ((env.store root settings).path c) =
      r.before.store ((env.store root settings).path c)) ∧
    ((∀ other ∈ init, env.snapshot root settings other.collection ≠
        env.snapshot root settings r.collection) →
      w'.store (env.snapshot root settings r.collection) =
        w.store (env.snapshot root settings r.collection)) ∧
    ∀ c ∈ rest, Untouched env root settings c polled w w'

theorem polls_inj {session : Session} (hd : session.Distinct) {w : World ε Files}
    {r other : PollRecord ε}
    (hr : r ∈ session.polls env root settings session.collections w)
    (ho : other ∈ session.polls env root settings session.collections w)
    (hid : other.collection.id = r.collection.id) : other = r := by
  obtain ⟨hinit, -⟩ := polls_collections env root settings session session.collections w
  have hnodup := (hinit.map Collection.id).sublist.nodup hd
  rw [List.map_map] at hnodup
  exact List.inj_on_of_nodup_map hnodup ho hr hid

section

variable {session next reloaded : Session} {result : Except SessionError CycleSummary}
  {w w' middle : World ε Files}

theorem unharmed_of_missed (hd : reloaded.Distinct)
    (hreload : session.reload (env.surroundings root settings) w = (reloaded, middle))
    (hc : session.cycle (env.surroundings root settings) w = ((next, result), w'))
    {r : PollRecord ε} (hr : r ∈ reloaded.polls env root settings reloaded.collections middle)
    (hm : r.Missed env root settings) :
    Unharmed env root settings session next r
      (reloaded.polls env root settings reloaded.collections middle) w w' := by
  have hspared := hm.spared (polled_polls env root settings hr)
  obtain ⟨hstarted, hlast⟩ := reload_lookback hreload
  obtain ⟨hstore, -⟩ := reload_quiet env root settings session w
  rw [hreload] at hstore
  rw [cycle_run env root settings hreload] at hc
  obtain ⟨hnext, rfl⟩ := Prod.mk.inj hc
  -- No other poll of the cycle can set the time of this collection.
  have hunique : ∀ other ∈ reloaded.polls env root settings reloaded.collections middle,
      other.collection.id = r.collection.id → other = r := fun _ ho => polls_inj hd hr ho
  have hsucceeded : next.started = session.started ∧
      next.lastSuccess.get? r.collection.id = session.lastSuccess.get? r.collection.id := by
    cases htally : tally reloaded
        (reloaded.polls env root settings reloaded.collections middle) with
    | error error =>
      rw [htally] at hnext
      cases hnext
      exact ⟨hstarted, congrArg (Fields.get? · _) hlast⟩
    | ok total =>
      rw [htally] at hnext
      cases hnext
      refine ⟨hstarted, (succeeded_of_skipped (fun other ho hid => ?_) htally).trans
        (congrArg (Fields.get? · _) hlast)⟩
      rw [hunique other ho hid]
      exact hspared.skipped
  refine ⟨hspared, fun hapart => ?_, hsucceeded.2, fun v later hl hid => ?_⟩
  · refine (kept_of_polls fun other ho => ?_).trans (congrFun hstore _)
    by_cases hsame : other.collection = r.collection
    · rw [hunique other ho (congrArg Collection.id hsame)]
      exact .inr (hspared.held _)
    · exact .inl (hapart other ho hsame)
  · cases hagain : next.reload (env.surroundings root settings) v with
    | mk again v' =>
      rw [directivePolls, hagain] at hl
      obtain ⟨hstarted', hlast'⟩ := reload_lookback hagain
      rw [session_of_mem_polls env root settings hl, session_of_mem_polls env root settings hr,
        hid]
      refine lookback_congr (hstarted'.trans (hsucceeded.1.trans hstarted.symm)) ?_
      rw [hlast', hlast]
      exact hsucceeded.2

theorem aborted_of_error (hd : reloaded.Distinct)
    (hreload : session.reload (env.surroundings root settings) w = (reloaded, middle))
    {error : SessionError}
    (hc : session.cycle (env.surroundings root settings) w = ((next, .error error), w')) :
    Aborted env root settings session next error
      (reloaded.polls env root settings reloaded.collections middle) w w' := by
  obtain ⟨-, hlast⟩ := reload_lookback hreload
  obtain ⟨hstore, hcalls⟩ := reload_quiet env root settings session w
  rw [hreload] at hstore hcalls
  rw [cycle_run env root settings hreload] at hc
  obtain ⟨hnext, rfl⟩ := Prod.mk.inj hc
  cases htally : tally reloaded
      (reloaded.polls env root settings reloaded.collections middle) with
  | ok total =>
    rw [htally] at hnext
    cases hnext
  | error other =>
    rw [htally] at hnext
    obtain ⟨rfl, rfl⟩ : next = reloaded ∧ error = other := by
      cases hnext
      exact ⟨rfl, rfl⟩
    obtain ⟨init, r, hpolls, hresult⟩ := polls_of_error env root settings htally
    obtain ⟨⟨rest, hrest⟩, -⟩ := polls_collections env root settings next next.collections middle
    have hr : r ∈ next.polls env root settings next.collections middle := by
      rw [hpolls]
      exact List.mem_append_right _ List.mem_cons_self
    have hkept := poll_error ((polled_polls env root settings hr).run.trans (by rw [hresult]))
    -- What is left has other ids than what was polled.
    have hother : ∀ c ∈ rest, ∀ q ∈ next.polls env root settings next.collections middle,
        q.collection.id ≠ c.id := by
      intro c hc q hq
      rw [Session.Distinct, ← hrest, List.map_append, List.nodup_append] at hd
      exact hd.2.2 _ (List.mem_map_of_mem (List.mem_map_of_mem hq)) _ (List.mem_map_of_mem hc)
    refine ⟨hlast, init, r, rest, hpolls, hresult, hrest.symm, hkept, fun hapart => ?_,
      fun c hc => ⟨hother c hc, ?_, fun hapart => ?_⟩⟩
    · refine (kept_of_polls fun q hq => ?_).trans (congrFun hstore _)
      rw [hpolls] at hq
      rcases List.mem_append.mp hq with hq | hq
      · exact .inl (hapart q hq)
      · rw [List.mem_singleton.mp hq]
        exact .inr (hkept _)
    · obtain ⟨made, hmade, hasks⟩ := polls_asks env root settings next next.collections middle
      refine ⟨made, hmade.trans (by rw [hcalls]), fun properties filter hmem => ?_⟩
      obtain ⟨q, hq, hid⟩ := List.mem_map.mp (hasks c.id properties filter hmem)
      exact hother c hc q hq hid
    · exact (kept_of_polls fun q hq => .inl (hapart q hq)).trans (congrFun hstore _)

end

/-- Errors leave everything as it was. A collection that is missed is skipped without deliveries
and lookups, keeps its snapshot and the time of its last successful poll, and the next query for it
looks back to the same instant. A cycle that ends in an error leaves the snapshot at which it ended,
takes no poll for a success and never comes to the collections that are left. -/
theorem intact {session next : Session} {result : Except SessionError CycleSummary}
    {w w' : World ε Files} (hr : Reached env root settings session)
    (hc : session.cycle (env.surroundings root settings) w = ((next, result), w')) :
    (∀ r ∈ directivePolls env root settings (some session) .cycle w,
      r.Missed env root settings → Unharmed env root settings session next r
        (directivePolls env root settings (some session) .cycle w) w w') ∧
    ∀ error, result = .error error → Aborted env root settings session next error
      (directivePolls env root settings (some session) .cycle w) w w' := by
  cases hreload : session.reload (env.surroundings root settings) w with
  | mk reloaded middle =>
    have hd : reloaded.Distinct := (reload_lastSuccess hreload).2 hr.distinct
    rw [directivePolls, hreload]
    refine ⟨fun r hmem hm => unharmed_of_missed hd hreload hc hmem hm, fun error he => ?_⟩
    subst he
    exact aborted_of_error hd hreload hc

end Session

end

/-! ### A cycle that fails twice -/

/-- A rules file with three collections. -/
def failingRules : RuleFile :=
  [("c-0", [postEntry]), ("c-1", [postEntry]), ("c-2", [postEntry])]

/-- An environment in which the first collection cannot be queried and nothing can be written. -/
def failingEnvironment : Environment Nat :=
  { Environment.answering (fun _ => .ok []) failingRules with
    query := fun collection _ _ n =>
      (if collection = "c0" then .error .missingToken else .ok [noted "a"], n + 1)
    breaks := fun _ => return some none }

/-- The session that watches all three and has polled none of them yet. -/
def failingSession : Session := ⟨failingRules.collections, some 0, [], default⟩

theorem start_failing (w : World Nat Files) :
    Session.start (failingEnvironment.surroundings "store" postSettings) w =
      (.ok failingSession, w) := by
  have hparsed : RuleFile.ofText? failingRules.text = some failingRules := by
    rw [RuleFile.ofText?, RuleFile.text, Draft.ofText?_pretty]
    rfl
  exact Session.start_of_text rfl rfl hparsed (fun _ _ => rfl) rfl

/-- In a cycle whose first query fails and whose second collection cannot be stored, the first one
is left as it was, and so is everything about the second and the third. -/
theorem Session.intact_failing :
    ∃ next w', failingSession.cycle (failingEnvironment.surroundings "store" postSettings)
        emptyWorld = ((next, .error (.store .io)), w') ∧
      (∃ r, r.collection.id = "c0" ∧ r.Missed failingEnvironment "store" postSettings ∧
        Unharmed failingEnvironment "store" postSettings failingSession next r
          (directivePolls failingEnvironment "store" postSettings (some failingSession) .cycle
            emptyWorld) emptyWorld w') ∧
      Aborted failingEnvironment "store" postSettings failingSession next (.store .io)
        (directivePolls failingEnvironment "store" postSettings (some failingSession) .cycle
          emptyWorld) emptyWorld w' := by
  have hresult : (failingSession.cycle (failingEnvironment.surroundings "store" postSettings)
      emptyWorld).1.2 = .error (.store .io) := by decide +kernel
  cases hc : failingSession.cycle (failingEnvironment.surroundings "store" postSettings)
      emptyWorld with
  | mk ended w' =>
    obtain ⟨next, result⟩ := ended
    rw [hc] at hresult
    obtain rfl : result = .error (.store .io) := hresult
    obtain ⟨hmissed, haborted⟩ := Session.intact (.start (start_failing emptyWorld)) hc
    have hfirst : (failingSession.record failingEnvironment "store" postSettings
        ⟨"c0", [postEntry.toRule 0]⟩ emptyWorld).Missed failingEnvironment "store" postSettings :=
      @PollRecord.Missed.refused _ _ _ _ _ .missing _ rfl nofun rfl
    refine ⟨next, w', rfl, ⟨_, rfl, hfirst, hmissed _ ?_ hfirst⟩, haborted _ rfl⟩
    exact (mem_polls_cons _ _ _).mpr (.inl rfl)

end RecordWatch
