import RecordWatch.Proofs.Rule.ActiveProperties
import RecordWatch.Proofs.Session.Machine
import RecordWatch.Proofs.Session.Outcome

/-! A session refines the machine. The snapshots show what the machine remembers; started from
there, a session and the machine make the same calls, come to the same summaries, and leave
snapshots that show the machine's memory again. -/

namespace RecordWatch

namespace Machine

section

variable {ε : Type} (env : Environment ε)

/-! ### Deliveries -/

section

variable (disk : Disk (StateM (World ε Memory))) (root : String) (settings : Settings)

theorem perform_run (actions : Actions) (record : String) (change : ChangeSet)
    (v : World ε Memory) :
    ∃ outcome, actions.perform (env.around disk root settings).notify
        (env.around disk root settings).log record change v =
      (outcome, ((actions.deliveries record change).forM (send env) v).2) := by
  rw [Actions.perform]
  generalize Outcome.mk 0 0 = outcome
  induction actions.deliveries record change generalizing outcome v with
  | nil => exact ⟨outcome, rfl⟩
  | cons delivery rest ih =>
    rw [List.foldlM_cons]
    cases hc : World.call (.delivery delivery) (env.notify delivery) v with
    | mk result v' =>
      have hattempt : delivery.attempt (env.around disk root settings).notify
          (env.around disk root settings).log v = (result, v') := by
        refine (bind_run hc).trans ?_
        cases result <;> rfl
      have hsend : send env delivery v = ((), v') := bind_run hc
      obtain ⟨final, hfinal⟩ := ih v' (outcome.add result)
      have hrest : (delivery :: rest).forM (send env) v = rest.forM (send env) v' := bind_run hsend
      have hadd : (do return outcome.add (← delivery.attempt (env.around disk root settings).notify
          (env.around disk root settings).log) : StateM (World ε Memory) Outcome) v =
          (outcome.add result, v') := bind_run hattempt
      rw [hrest]
      exact ⟨final, (bind_run hadd).trans hfinal⟩

/-- The deliveries of a rule are its webhooks, its scripts and its emails, in this order. -/
theorem fireRules_eq (collection : Collection) (fired : Nat) (entry : String × ChangeSet) :
    (env.around disk root settings).fireRules collection fired entry =
      fire env collection fired entry := by
  rw [Surroundings.fireRules, fire]
  refine congrArg (fun step => collection.rules.foldlM step fired) ?_
  funext fired rule
  refine congrArg (Bind.bind _) ?_
  funext verdict
  cases verdict with
  | false => rfl
  | true =>
    funext v
    obtain ⟨outcome, houtcome⟩ :=
      perform_run env disk root settings rule.actions entry.1 entry.2 v
    refine (bind_run houtcome).trans ?_
    simp only [Actions.deliveries, List.forM_eq_forM, List.forM_append, List.forM_map, bind_assoc]
    rfl

end

/-! ### Snapshots that show what is known -/

section

variable (root : String) (settings : Settings)

/-- What the content of a snapshot shows: an unseeded collection has none, and the records of any
other are the last ones received, each key once. -/
inductive Shown : Option ByteArray → Option Known → Prop where
  | unseeded : Shown none none
  | seeded {content : Option ByteArray} {records : List Record} {known : Known}
    (hl : ∀ collection, SnapshotStore.loaded collection content = .ok records)
    (hd : (records.map Record.key).Nodup) (ht : ∀ record ∈ records, record.Legible)
    (hk : Delta.find? records = known) : Shown content (some known)

/-- The snapshots show what is remembered. -/
def Shows (files : Files) (memory : Memory) : Prop :=
  ∀ collection : String, Shown (files ((env.store root settings).path collection))
    (memory ((env.store root settings).path collection))

variable {env root settings}

theorem find?_overlay_eq_learn (stored latest : List Record) :
    Delta.find? (Snapshot.overlay stored latest) = learn (Delta.find? stored) latest := by
  rw [Snapshot.overlay_eq_foldl, learn]
  induction latest generalizing stored with
  | nil => rfl
  | cons record rest ih =>
    rw [List.foldl_cons, List.foldl_cons, ih]
    refine congrArg (fun known => rest.foldl _ known) (funext fun key => ?_)
    rw [Snapshot.find?_put, Function.update_apply]
    exact if_congr eq_comm rfl rfl

/-- The snapshot of overlaid records shows what was learnt. -/
theorem shown_overlay {stored latest : List Record} (hd : (stored.map Record.key).Nodup)
    (hs : ∀ record ∈ stored, record.Legible) (hl : ∀ record ∈ latest, record.Legible) :
    Shown (some (SnapshotStore.bytesOf (Snapshot.overlay stored latest)))
      (some (learn (Delta.find? stored) latest)) :=
  .seeded
    (SnapshotStore.loaded_of_legible fun record hr =>
      (Snapshot.mem_overlay hr).elim (hs record) (hl record))
    (Snapshot.nodup_overlay hd latest)
    (fun record hr => (Snapshot.mem_overlay hr).elim (hs record) (hl record))
    (find?_overlay_eq_learn stored latest)

/-! ### Files that do not fail -/

theorem stored_run_missing {collection : Collection} {w : World ε Files}
    (hc : w.store (env.snapshot root settings collection) = none) :
    ((env.surroundings root settings).stored collection).run w =
      (.ok .missing, { w with
        env := (env.looking (env.snapshot root settings collection) false w.env).2 }) := by
  rw [Surroundings.stored, surroundings_store,
    lift_run (SnapshotStore.contains_run env root settings collection.id w), hc,
    Option.isSome_none, Bool.and_false, if_neg Bool.false_ne_true]
  rfl

theorem stored_run_records (hs : env.Sound) {collection : Collection}
    (hp : env.snapshot root settings collection ≠ settings.rulesPath) {w : World ε Files}
    {records : List Record} (hl : SnapshotStore.loaded collection.id
      (w.store (env.snapshot root settings collection)) = .ok records) :
    ((env.surroundings root settings).stored collection).run w =
      (.ok (.records records), { w with
        env := (env.looking (env.snapshot root settings collection) true w.env).2 }) := by
  have hsome : (w.store (env.snapshot root settings collection)).isSome := by
    cases hc : w.store (env.snapshot root settings collection) with
    | none =>
      rw [hc] at hl
      cases hl
    | some bytes => rfl
  have hload := SnapshotStore.load_run env root settings hp
    { w with env := (env.sees (env.snapshot root settings collection) w.env).2 }
  rw [hs.reads, if_pos rfl, hl] at hload
  rw [Surroundings.stored, surroundings_store,
    lift_run (SnapshotStore.contains_run env root settings collection.id w), hsome, hs.sees,
    Bool.and_true, if_pos rfl, lift_run hload]
  rfl

theorem save_run (hs : env.Sound) (collection : String) (records : List Record)
    (w : World ε Files) :
    ∃ files, (env.store root settings).save collection records w = (.ok (), { w with
      env := (env.moves (Path.withExtension ((env.store root settings).path collection) "json.tmp")
        (env.breaks (Path.withExtension ((env.store root settings).path collection) "json.tmp")
          w.env).2).2
      store := files }) := by
  rw [SnapshotStore.save]
  generalize Path.withExtension ((env.store root settings).path collection) "json.tmp" = beside
  have hwrite := SnapshotStore.write_run env beside (SnapshotStore.bytesOf records) w
  rw [hs.breaks] at hwrite
  have hrename := SnapshotStore.rename_run env beside ((env.store root settings).path collection)
    { w with
      env := (env.breaks beside w.env).2
      store := Function.update w.store beside (some (SnapshotStore.bytesOf records)) }
  simp only [hs.moves, if_true, Function.update_self] at hrename
  exact ⟨_, (bind_run hwrite).trans (bind_run hrename)⟩

theorem merge_env (hs : env.Sound) {collection : Collection}
    (hp : env.snapshot root settings collection ≠ settings.rulesPath) {base : List Record}
    (latest : List Record) {w : World ε Files} (hb : SnapshotStore.base? collection.id
      (w.store (env.snapshot root settings collection)) = some base) :
    ((env.store root settings).merge collection.id latest w).2.env =
      (env.keeping (env.snapshot root settings collection) w.env).2 := by
  have hload := SnapshotStore.load_run env root settings hp w
  rw [hs.reads, if_pos rfl] at hload
  obtain ⟨files, hsave⟩ := save_run hs collection.id (Snapshot.overlay base latest) { w with
    env := (env.reads (env.snapshot root settings collection) w.env).2 }
  -- What is left once the stored records are known.
  have hrest : ∀ next : Except StoreError Unit →
        StateM (World ε Files) (Except StoreError (List Record)),
      next (.ok ()) = pure (.ok (Snapshot.overlay base latest)) →
      (((env.store root settings).save collection.id (Snapshot.overlay base latest) >>= next) {
        w with env := (env.reads (env.snapshot root settings collection) w.env).2 }).2.env =
      (env.keeping (env.snapshot root settings collection) w.env).2 := by
    intro next hnext
    rw [bind_run hsave, hnext]
    rfl
  rw [SnapshotStore.merge, bind_run hload]
  rcases SnapshotStore.loaded_of_base? hb with ⟨hc, rfl⟩ | hl
  · rw [hc, SnapshotStore.loaded]
    dsimp only
    rw [pure_bind]
    refine hrest _ ?_
    rfl
  · rw [hl]
    dsimp only
    rw [pure_bind]
    refine hrest _ ?_
    rfl

/-- Changes are found and delivered alike. -/
theorem evaluate_refines {R : Files → Memory → Prop} {w : World ε Files} {v : World ε Memory}
    (h : World.Agree R w v) {collection : Collection} (stored : List Record) {latest : List Record}
    (hd : (latest.map Record.key).Nodup) {w' : World ε Files} {poll : Poll}
    (he : (env.surroundings root settings).evaluate collection stored latest w = (poll, w')) :
    let changes := Delta.ascending (Delta.find? stored) latest collection.activeProperties
    ∃ fired v', changes.foldlM (fire env collection) 0 v = (fired, v') ∧
      poll = .evaluated changes.length fired ∧ World.Agree R w' v' := by
  have hrelated := (related_around (S := R) env (env.disk settings.rulesPath)
    (env.rulesDisk Memory) root settings).evaluate collection stored latest w v h
  have hfire : (env.around (env.rulesDisk Memory) root settings).fireRules collection =
      fire env collection := funext fun fired => funext fun entry => fireRules_eq env _ _ _ _ _ _
  rw [evaluate_run env root settings (env.rulesDisk Memory), hfire,
    Delta.changes_eq_ascending stored _ hd] at hrelated
  rw [Environment.surroundings] at he
  rw [he] at hrelated
  exact ⟨_, _, rfl, hrelated⟩

/-! ### One poll -/

/-- A query is asked alike. -/
theorem ask_refines {w : World ε Files} {v : World ε Memory}
    (h : World.Agree (Shows env root settings) w v) (collection : Collection)
    (lookback : Option Json) {w' : World ε Files} {answer : Option (List Record)}
    (hq : (env.surroundings root settings).fetch collection lookback w = (answer, w')) :
    ∃ v', ask env collection lookback v = (answer, v') ∧
      World.Agree (Shows env root settings) w' v' := by
  rw [fetch_run] at hq
  cases hq
  obtain ⟨henv, hcalls, hstore⟩ := h
  refine ⟨(ask env collection lookback v).2, Prod.ext ?_ rfl, ?_, ?_, hstore⟩
  · rw [henv]
    rfl
  · simp only [henv]
    rfl
  · simp only [hcalls]
    rfl

theorem remember_store (place : String) (known : Known) (v : World ε Memory) :
    (remember env place known v).2.store = Function.update v.store place (some known) :=
  rfl

/-- A merge that goes well is remembered. -/
theorem merge_refines (hs : env.Sound) {w : World ε Files} {v : World ε Memory}
    (h : World.Agree (Shows env root settings) w v) {collection : Collection}
    (hp : env.snapshot root settings collection ≠ settings.rulesPath) {base latest : List Record}
    (hb : SnapshotStore.base? collection.id (w.store (env.snapshot root settings collection)) =
      some base) {known : Known}
    (hk : Shown (some (SnapshotStore.bytesOf (Snapshot.overlay base latest))) (some known)) :
    ∃ w', ((env.surroundings root settings).merge collection latest).run w =
        (.ok (Snapshot.overlay base latest), w') ∧
      World.Agree (Shows env root settings) w'
        (remember env (env.snapshot root settings collection) known v).2 := by
  have henv := merge_env hs hp latest hb
  have hmerge := @SnapshotStore.merge_spec ε env root settings _ hp latest w
  generalize hrun : (env.store root settings).merge collection.id latest w = merged at henv hmerge
  cases hmerge with
  | failed hf _ =>
    rw [hb] at hf
    cases hf hs
  | @stored base' w' hb' hl =>
    rw [hb] at hb'
    cases hb'
    refine ⟨w', merge_run env root settings hrun, ?_, ?_, fun c => ?_⟩
    · rw [henv, h.env]
      rfl
    · rw [hl.calls, h.calls]
      rfl
    · rw [hl.held, remember_store]
      by_cases hc : (env.store root settings).path c = env.snapshot root settings collection
      · rw [hc, Function.update_self, Function.update_self]
        exact hk
      · rw [Function.update_of_ne hc, Function.update_of_ne hc]
        exact h.store c

/-- Looking at a snapshot takes the environment on and leaves the rest. -/
theorem agree_looking {w : World ε Files} {v : World ε Memory}
    (h : World.Agree (Shows env root settings) w v) (place : String) (seeded : Bool) :
    World.Agree (Shows env root settings)
      { w with env := (env.looking place seeded w.env).2 }
      (World.ambient (env.looking place seeded) v).2 := by
  refine ⟨?_, h.calls, h.store⟩
  rw [h.env]
  rfl

/-- The poll of an unseeded collection. -/
theorem seed_refines (hs : env.Sound) (session : Session) {collection : Collection}
    (hp : env.snapshot root settings collection ≠ settings.rulesPath) {w : World ε Files}
    {v : World ε Memory} (h : World.Agree (Shows env root settings) w v)
    (hc : w.store (env.snapshot root settings collection) = none)
    (ht : ∀ latest, ((session.gather (env.surroundings root settings) collection).run w).1 =
      .ok (.seeding latest) → ∀ record ∈ latest, record.Legible) :
    ∃ w', (session.poll (env.surroundings root settings) collection).run w =
        (.ok (seed env root settings collection v).1, w') ∧
      World.Agree (Shows env root settings) w' (seed env root settings collection v).2 := by
  have hstored := @stored_run_missing ε env root settings collection w hc
  cases hq : (env.surroundings root settings).fetch collection none { w with
      env := (env.looking (env.snapshot root settings collection) false w.env).2 } with
  | mk answer w' =>
    obtain ⟨v', ha, hasked⟩ := ask_refines
      (agree_looking h (env.snapshot root settings collection) false) collection none hq
    have hlook : World.ambient (env.looking (env.snapshot root settings collection) false) v =
      ((), (World.ambient (env.looking (env.snapshot root settings collection) false) v).2) := rfl
    have hgather : (session.gather (env.surroundings root settings) collection).run w = _ :=
      (ok_run hstored).trans (lift_run hq)
    rw [Session.poll_eq]
    cases answer with
    | none =>
      have hmachine : seed env root settings collection v = (.skipped, v') :=
        (bind_run hlook).trans (bind_run ha)
      rw [hmachine]
      exact ⟨w', ok_run hgather, hasked⟩
    | some latest =>
      have hmachine : seed env root settings collection v = (.seeded, (remember env
          (env.snapshot root settings collection) (learn (fun _ => none) latest) v').2) :=
        (bind_run hlook).trans (bind_run ha)
      rw [hmachine]
      have hbase : SnapshotStore.base? collection.id
          (w'.store (env.snapshot root settings collection)) = some [] := by
        rw [(PollRecord.fetch_leads hq).1.store, hc]
        rfl
      have hnone : Delta.find? [] = fun _ => none := rfl
      have hshown := shown_overlay (show (List.map Record.key []).Nodup from List.nodup_nil)
        (fun _ hr => absurd hr List.not_mem_nil) (ht latest (congrArg Prod.fst hgather))
      rw [hnone] at hshown
      obtain ⟨w'', hmerge, hmerged⟩ := merge_refines hs hasked hp hbase hshown
      exact ⟨w'', (ok_run hgather).trans (ok_run hmerge), hmerged⟩

/-- The poll of a collection of which something is known. -/
theorem compare_refines (hs : env.Sound) (session : Session) {collection : Collection}
    (hp : env.snapshot root settings collection ≠ settings.rulesPath) {w : World ε Files}
    {v : World ε Memory} (h : World.Agree (Shows env root settings) w v) {stored : List Record}
    (hl : SnapshotStore.loaded collection.id (w.store (env.snapshot root settings collection)) =
      .ok stored)
    (hd : (stored.map Record.key).Nodup) (hlegible : ∀ record ∈ stored, record.Legible)
    (ht : ∀ latest, ((session.gather (env.surroundings root settings) collection).run w).1 =
      .ok (.comparison stored latest) →
        (latest.map Record.key).Nodup ∧ ∀ record ∈ latest, record.Legible) :
    ∃ w', (session.poll (env.surroundings root settings) collection).run w =
        (.ok (compare env root settings session collection (Delta.find? stored) v).1, w') ∧
      World.Agree (Shows env root settings) w'
        (compare env root settings session collection (Delta.find? stored) v).2 := by
  have hstored := stored_run_records hs hp hl
  cases hq : (env.surroundings root settings).fetch collection
      (some (session.lookback settings collection.id)) { w with
        env := (env.looking (env.snapshot root settings collection) true w.env).2 } with
  | mk answer w' =>
    obtain ⟨v', ha, hasked⟩ := ask_refines
      (agree_looking h (env.snapshot root settings collection) true) collection _ hq
    have hlook : World.ambient (env.looking (env.snapshot root settings collection) true) v =
      ((), (World.ambient (env.looking (env.snapshot root settings collection) true) v).2) := rfl
    have hgather : (session.gather (env.surroundings root settings) collection).run w = _ :=
      (ok_run hstored).trans (lift_run hq)
    rw [Session.poll_eq]
    cases answer with
    | none =>
      have hmachine : compare env root settings session collection (Delta.find? stored) v =
          (.skipped, v') := (bind_run hlook).trans (bind_run ha)
      rw [hmachine]
      exact ⟨w', ok_run hgather, hasked⟩
    | some latest =>
      obtain ⟨hdistinct, hlatest⟩ := ht latest (congrArg Prod.fst hgather)
      cases he : (env.surroundings root settings).evaluate collection stored latest w' with
      | mk poll w'' =>
        obtain ⟨fired, v'', hfired, hpoll, hevaluated⟩ :=
          evaluate_refines hasked stored hdistinct he
        have hbase : SnapshotStore.base? collection.id
            (w''.store (env.snapshot root settings collection)) = some stored := by
          rw [(PollRecord.evaluate_leads he).1.store, (PollRecord.fetch_leads hq).1.store]
          exact SnapshotStore.base?_of_loaded hl
        obtain ⟨w₃, hmerge, hmerged⟩ := merge_refines hs hevaluated hp hbase
          (shown_overlay hd hlegible hlatest)
        have hmachine : compare env root settings session collection (Delta.find? stored) v =
            (poll, (remember env (env.snapshot root settings collection)
              (learn (Delta.find? stored) latest) v'').2) := by
          rw [hpoll]
          exact (bind_run hlook).trans ((bind_run ha).trans (bind_run hfired))
        rw [hmachine]
        exact ⟨w₃, (ok_run hgather).trans ((lift_run he).trans (ok_run hmerge)), hmerged⟩

end

end

end Machine

/-! ### Runs -/

section

variable {ε : Type} {env : Environment ε} {root : String} {settings : Settings}

namespace Machine

theorem poll_refines (hs : env.Sound) {session : Session} {collection : Collection}
    {w : World ε Files} {v : World ε Memory}
    (hr : (session.record env root settings collection w).Regular env root settings)
    (h : World.Agree (Shows env root settings)
      (session.record env root settings collection w).before v) :
    (session.record env root settings collection w).result =
        .ok (poll env root settings session collection v).1 ∧
      World.Agree (Shows env root settings) (session.record env root settings collection w).after
        (poll env root settings session collection v).2 := by
  have hp : env.snapshot root settings collection ≠ settings.rulesPath := hr.place
  have hshown : Shown _ (v.store (env.snapshot root settings collection)) := h.store collection.id
  generalize hc : (session.record env root settings collection w).before.store
    ((env.store root settings).path collection.id) = content at hshown
  generalize hm : v.store (env.snapshot root settings collection) = known? at hshown
  cases hshown with
  | unseeded =>
    have hpoll : poll env root settings session collection v =
        seed env root settings collection v := by
      have hget : (get : StateM (World ε Memory) (World ε Memory)) v = (v, v) := rfl
      rw [poll, bind_run hget, hm]
    obtain ⟨w', hrun, hagree⟩ := seed_refines hs session hp h hc
      fun latest hg => hr.legible hg rfl
    have hafter : (session.record env root settings collection w).after = w' :=
      congrArg Prod.snd hrun
    rw [hpoll, hafter]
    exact ⟨congrArg Prod.fst hrun, hagree⟩
  | @seeded _ stored known hl hd ht hk =>
    subst hk
    have hpoll : poll env root settings session collection v =
        compare env root settings session collection (Delta.find? stored) v := by
      have hget : (get : StateM (World ε Memory) (World ε Memory)) v = (v, v) := rfl
      rw [poll, bind_run hget, hm]
    obtain ⟨w', hrun, hagree⟩ := compare_refines hs session hp h (hc ▸ hl collection.id) hd ht
      fun latest hg => ⟨hr.distinct hg rfl, hr.legible hg rfl⟩
    have hafter : (session.record env root settings collection w).after = w' :=
      congrArg Prod.snd hrun
    rw [hpoll, hafter]
    exact ⟨congrArg Prod.fst hrun, hagree⟩

/-- Polls one after the other come to the machine's progress. -/
theorem polls_refine (hs : env.Sound) (session : Session) (collections : List Collection)
    (progress : Session.Progress) {w : World ε Files} {v : World ε Memory}
    (h : World.Agree (Shows env root settings) w v)
    (hr : ∀ r ∈ session.polls env root settings collections w, r.Regular env root settings) :
    Session.advance progress (session.polls env root settings collections w) =
        .ok (pollAll env root settings session collections progress v).1 ∧
      World.Agree (Shows env root settings)
        (Session.final w (session.polls env root settings collections w))
        (pollAll env root settings session collections progress v).2 := by
  induction collections generalizing progress w v with
  | nil => exact ⟨rfl, h⟩
  | cons collection rest ih =>
    have hfirst : (session.record env root settings collection w).Regular env root settings :=
      hr _ List.mem_cons_self
    obtain ⟨hnow, hbefore⟩ := relates_ambient (S := Shows env root settings) env.now w v h
    obtain ⟨hresult, hafter⟩ := poll_refines hs hfirst hbefore
    cases hm : poll env root settings session collection (World.ambient env.now v).2 with
    | mk outcome v' =>
      rw [hm] at hresult hafter
      have hclock : World.ambient env.now v =
        ((World.ambient env.now v).1, (World.ambient env.now v).2) := rfl
      have hadd : (do
          let now ← World.ambient env.now
          return progress.add collection.id now.instant
            (← poll env root settings session collection) :
          StateM (World ε Memory) Session.Progress) v = _ := (bind_run hclock).trans (bind_run hm)
      have hmachine : pollAll env root settings session (collection :: rest) progress v =
          pollAll env root settings session rest (progress.add collection.id
            (World.ambient env.now v).1.instant outcome) v' := bind_run hadd
      have hpolls := Session.polls_ok env root settings hresult rest
      have hbegan : (session.record env root settings collection w).began =
          (World.ambient env.now v).1.instant := congrArg Moment.instant hnow
      rw [hmachine, hpolls, Session.advance_ok hresult, hbegan, Session.final_cons]
      refine ih _ hafter fun r hrest => hr r ?_
      rw [hpolls]
      exact List.mem_cons_of_mem _ hrest

theorem rulesAlike_refines :
    Surroundings.RulesAlike (.relates (World.Agree (Shows env root settings)))
      (env.surroundings root settings) (surroundings env root settings) where
  modified := by
    show Relates _ Eq ((env.disk settings.rulesPath).modified settings.rulesPath)
      (World.ambient env.rulesModified)
    rw [env.disk_rulesModified]
    exact relates_ambient _
  read := by
    show Relates _ Eq ((env.disk settings.rulesPath).read settings.rulesPath)
      (World.ambient env.rules)
    rw [env.disk_rules rfl]
    exact relates_ambient _
  now := relates_ambient _
  log _ := .pure rfl
  settings := rfl

/-- One directive. -/
theorem obey_refines (hs : env.Sound) (session : Option Session) (directive : Directive)
    {w : World ε Files} {v : World ε Memory} (h : World.Agree (Shows env root settings) w v)
    (hr : ∀ r ∈ Session.directivePolls env root settings session directive w,
      r.Regular env root settings) :
    ∃ next summary w' v',
      Session.obey (env.surroundings root settings) session directive w =
        ((next, summary.map .ok), w') ∧
      obey env root settings session directive v = ((next, summary), v') ∧
      World.Agree (Shows env root settings) w' v' := by
  cases directive with
  | restart =>
    obtain ⟨hstart, hagree⟩ := rulesAlike_refines.start w v h
    cases hw : Session.start (env.surroundings root settings) w with
    | mk result w' =>
      cases hv : Session.start (surroundings env root settings) v with
      | mk result' v' =>
        rw [hw, hv] at hstart hagree
        cases hstart
        cases result with
        | ok started => exact ⟨some started, none, w', v', bind_run hw, bind_run hv, hagree⟩
        | error error => exact ⟨none, none, w', v', bind_run hw, bind_run hv, hagree⟩
  | cycle =>
    cases session with
    | none => exact ⟨none, none, w, v, rfl, rfl, h⟩
    | some session =>
      obtain ⟨hreload, hagree⟩ := rulesAlike_refines.reload session w v h
      cases hw : session.reload (env.surroundings root settings) w with
      | mk reloaded w' =>
        cases hv : session.reload (surroundings env root settings) v with
        | mk reloaded' v' =>
          rw [hw, hv] at hreload hagree
          cases hreload
          rw [Session.directivePolls, hw] at hr
          obtain ⟨htally, hend⟩ := polls_refine hs reloaded reloaded.collections
            ⟨⟨0, 0, 0, 0⟩, reloaded.lastSuccess⟩ hagree hr
          cases hm : pollAll env root settings reloaded reloaded.collections
              ⟨⟨0, 0, 0, 0⟩, reloaded.lastSuccess⟩ v' with
          | mk progress v'' =>
            rw [hm] at htally hend
            have hobey := Session.obey_cycle env root settings hw
            have hcycle : cycle env root settings session v =
                (({ reloaded with lastSuccess := progress.succeeded }, progress.summary), v'') :=
              (bind_run hv).trans (bind_run hm)
            have hsum : Session.tally reloaded
                (reloaded.polls env root settings reloaded.collections w') = .ok progress := htally
            rw [hsum] at hobey
            exact ⟨_, some progress.summary, _, v'', hobey, bind_run hcycle, hend⟩

/-- A session makes the calls of the machine, in its order, comes to its summaries and stores what
it remembers, whatever the environment answers and wherever the session starts again. -/
theorem obeyAll_refines (hs : env.Sound) (session : Option Session) (directives : List Directive)
    {w : World ε Files} {v : World ε Memory} (h : World.Agree (Shows env root settings) w v)
    (hr : ∀ r ∈ Session.history env root settings session directives w,
      r.Regular env root settings) :
    (Session.obeyAll (env.surroundings root settings) session directives w).1 =
        (obeyAll env root settings session directives v).1.map .ok ∧
      World.Agree (Shows env root settings)
        (Session.obeyAll (env.surroundings root settings) session directives w).2
        (obeyAll env root settings session directives v).2 := by
  induction directives generalizing session w v with
  | nil => exact ⟨rfl, h⟩
  | cons directive rest ih =>
    obtain ⟨next, summary, w', v', hw, hv, hagree⟩ := obey_refines hs session directive h
      fun r hrecord => hr r (List.mem_append_left _ hrecord)
    rw [Session.history_cons env root settings hw] at hr
    obtain ⟨hsummaries, hend⟩ := ih next hagree fun r hrecord =>
      hr r (List.mem_append_right _ hrecord)
    cases hwr : Session.obeyAll (env.surroundings root settings) next rest w' with
    | mk results w'' =>
      cases hvr : obeyAll env root settings next rest v' with
      | mk summaries v'' =>
        rw [hwr, hvr] at hsummaries hend
        have hsession : Session.obeyAll (env.surroundings root settings) session
            (directive :: rest) w = _ := (bind_run hw).trans (bind_run hwr)
        have hmachine : obeyAll env root settings session (directive :: rest) v = _ :=
          (bind_run hv).trans (bind_run hvr)
        rw [hsession, hmachine]
        refine ⟨?_, hend⟩
        have hresults : results = summaries.map .ok := hsummaries
        show (summary.map Except.ok).toList ++ results = (summary.toList ++ summaries).map .ok
        rw [hresults, List.map_append]
        cases summary <;> rfl

end Machine

end

/-! ### A run -/

/-- An environment whose first query fails and whose every other one returns a new note. -/
def noteEnvironment : Environment Nat :=
  .answering (fun n => if n = 0 then .error .missingToken else .ok [noted (toString n)])
    [("c-1", [doneEntry])]

theorem sound_noteEnvironment : noteEnvironment.Sound := Environment.sound_answering _ _

/-- The first poll fails, the second seeds, the third compares, and after a restart the last one
compares again. -/
theorem obeyAll_refines_notes :
    (Session.obeyAll (noteEnvironment.surroundings "store" ⟨"rules", 3600, 600⟩) none
        [.restart, .cycle, .cycle, .cycle, .restart, .cycle] ⟨0, fun _ => none, []⟩).1 =
      (Machine.obeyAll noteEnvironment "store" ⟨"rules", 3600, 600⟩ none
        [.restart, .cycle, .cycle, .cycle, .restart, .cycle] ⟨0, fun _ => none, []⟩).1.map .ok ∧
    World.Agree (Machine.Shows noteEnvironment "store" ⟨"rules", 3600, 600⟩)
      (Session.obeyAll (noteEnvironment.surroundings "store" ⟨"rules", 3600, 600⟩) none
        [.restart, .cycle, .cycle, .cycle, .restart, .cycle] ⟨0, fun _ => none, []⟩).2
      (Machine.obeyAll noteEnvironment "store" ⟨"rules", 3600, 600⟩ none
        [.restart, .cycle, .cycle, .cycle, .restart, .cycle] ⟨0, fun _ => none, []⟩).2 := by
  refine Machine.obeyAll_refines sound_noteEnvironment none _
    ⟨rfl, rfl, fun _ => .unseeded⟩ fun r hr => ?_
  refine (Session.polled_history _ _ _ hr).regular
    (snapshot_ne_rulesPath _ _ ⟨"rules", 3600, 600⟩ r.collection (by decide))
    fun collection properties filter e latest hlatest => ?_
  have hanswer : (if e = 0 then .error .missingToken else .ok [noted (toString e)] :
      Except ApiError (List Record)) = .ok latest := hlatest
  split at hanswer
  · cases hanswer
  · cases hanswer
    refine ⟨List.pairwise_singleton _ _, fun record hrecord => ?_⟩
    rw [List.mem_singleton.mp hrecord]
    exact legible_noted _

end RecordWatch
