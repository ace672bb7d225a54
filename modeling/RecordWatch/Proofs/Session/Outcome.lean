import RecordWatch.Proofs.Session.History

/-! How polls end. A poll that reports nothing leaves every snapshot as it is, or moves its own
aside because it cannot be read. Any other poll overlays what its snapshot held with the records it
was given, and what it reports was found by comparing the two. -/

namespace RecordWatch

section

variable {ε : Type} (env : Environment ε) (root : String) (settings : Settings)

/-- The records that a query returned. -/
def Gathered.latest? : Gathered → Option (List Record)
  | .nothing => none
  | .seeding latest => some latest
  | .comparison _ latest => some latest

namespace PollRecord

/-- A poll whose snapshot is not the rules file, and whose query, if it returned records, returned
each key once and records that are read back as they are written. -/
structure Regular (r : PollRecord ε) : Prop where
  place : env.snapshot root settings r.collection ≠ settings.rulesPath
  distinct {gathered : Gathered} {latest : List Record} (hg : r.gathered = .ok gathered)
    (hl : gathered.latest? = some latest) : (latest.map Record.key).Nodup
  legible {gathered : Gathered} {latest : List Record} (hg : r.gathered = .ok gathered)
    (hl : gathered.latest? = some latest) : ∀ record ∈ latest, record.Legible

/-- How a poll ends. -/
inductive Ends (r : PollRecord ε) : Prop where
  | left
    (hr : (∃ error, r.result = .error error) ∨ r.gathered = .ok .nothing ∧ r.result = .ok .skipped)
    (hreaches : env.Reaches r.before.env r.after.env)
    (hheld : ∀ c : String, r.after.store ((env.store root settings).path c) =
      r.before.store ((env.store root settings).path c)) :
    Ends r
  | aside
    (hg : r.gathered = .ok .nothing)
    (hr : r.result = .ok .skipped)
    (hj : SnapshotStore.loaded r.collection.id
      (r.before.store (env.snapshot root settings r.collection)) = .error .json)
    (hl : SnapshotStore.Leads env root settings r.before r.after
      (Function.update r.before.store (env.snapshot root settings r.collection) none)) :
    Ends r
  | seeded {latest base : List Record} {middle : World ε Files}
    (hg : r.gathered = .ok (.seeding latest))
    (hr : r.result = .ok .seeded)
    (hf : env.Sound → r.before.store (env.snapshot root settings r.collection) = none)
    (hb : SnapshotStore.base? r.collection.id
      (r.before.store (env.snapshot root settings r.collection)) = some base)
    (ha : SnapshotStore.Leads env root settings r.before r.asked r.before.store)
    (hq : (env.surroundings root settings).fetch r.collection none r.asked =
      (some latest, middle))
    (hl : SnapshotStore.Leads env root settings middle r.after (Function.update r.before.store
      (env.snapshot root settings r.collection)
      (some (SnapshotStore.bytesOf (Snapshot.overlay base latest))))) :
    Ends r
  | merged {stored latest : List Record} {poll : Poll} {middle evaluated : World ε Files}
    (hg : r.gathered = .ok (.comparison stored latest))
    (hr : r.result = .ok poll)
    (hs : SnapshotStore.loaded r.collection.id
      (r.before.store (env.snapshot root settings r.collection)) = .ok stored)
    (ha : SnapshotStore.Leads env root settings r.before r.asked r.before.store)
    (hq : (env.surroundings root settings).fetch r.collection
      (some (r.session.lookback settings r.collection.id)) r.asked = (some latest, middle))
    (he : (env.surroundings root settings).evaluate r.collection stored latest middle =
      (poll, evaluated))
    (hl : SnapshotStore.Leads env root settings evaluated r.after (Function.update r.before.store
      (env.snapshot root settings r.collection)
      (some (SnapshotStore.bytesOf (Snapshot.overlay stored latest))))) :
    Ends r

variable {env root settings}

/-- A poll gathers and, if that went well, settles. -/
theorem Polled.halves {r : PollRecord ε} (h : r.Polled env root settings)
    (hp : env.snapshot root settings r.collection ≠ settings.rulesPath) :
    ∃ middle, Gathers env root settings r.session r.collection r.before r.asked
        (r.gathered, middle) ∧
      ((∃ error, r.gathered = .error error ∧ r.result = .error error ∧ r.after = middle) ∨
        ∃ gathered, r.gathered = .ok gathered ∧
          Settles env root settings r.collection middle gathered (r.result, r.after)) := by
  obtain ⟨session, collection, w, rfl⟩ := h
  have hplace : env.snapshot root settings collection ≠ settings.rulesPath := hp
  have hgather := gather_spec env root settings session hplace
    (session.record env root settings collection w).before
  have hpoll := congrArg (fun poll : ExceptT SessionError (StateM (World ε Files)) Poll =>
    poll.run (session.record env root settings collection w).before)
    (Session.poll_eq (env.surroundings root settings) session collection)
  cases hg : (session.gather (env.surroundings root settings) collection).run
      (session.record env root settings collection w).before with
  | mk gathered middle =>
    have hgathered : (session.record env root settings collection w).gathered = gathered :=
      congrArg Prod.fst hg
    rw [hg] at hgather
    refine ⟨middle, by rw [hgathered]; exact hgather, ?_⟩
    cases gathered with
    | error error =>
      have hend := hpoll.trans (error_run hg)
      exact .inl ⟨error, hgathered, congrArg Prod.fst hend, congrArg Prod.snd hend⟩
    | ok gathered =>
      have hend := hpoll.trans (ok_run hg)
      refine .inr ⟨gathered, hgathered, ?_⟩
      have hsettle := settle_spec env root settings hplace gathered middle
      rw [← hend] at hsettle
      exact hsettle

theorem fetch_leads {collection : Collection} {lookback : Option Json} {w w' : World ε Files}
    {answer : Option (List Record)}
    (h : (env.surroundings root settings).fetch collection lookback w = (answer, w')) :
    World.Follows env w w' ∧ w'.calls = w.calls ++
      [.query collection.id collection.filterProperties (collection.filter? lookback)] := by
  rw [fetch_run] at h
  cases h
  exact ⟨⟨.single (.query _ _ _ _), rfl⟩, rfl⟩

theorem evaluate_leads {collection : Collection} {stored latest : List Record} {poll : Poll}
    {w w' : World ε Files}
    (h : (env.surroundings root settings).evaluate collection stored latest w = (poll, w')) :
    World.Follows env w w' ∧ ∃ changes fired, poll = .evaluated changes fired := by
  have hfollows := evaluate_follows env root settings (env.disk settings.rulesPath) collection
    stored latest w
  rw [Environment.surroundings] at h
  rw [h] at hfollows
  rw [evaluate_run] at h
  cases h
  exact ⟨hfollows, _, _, rfl⟩

/-- Snapshots that are held alike are held alike after a change of one. -/
theorem update_congr {files files' : Files}
    (h : ∀ c : String, files ((env.store root settings).path c) =
      files' ((env.store root settings).path c))
    (path : String) (content : Option ByteArray) (c : String) :
    Function.update files path content ((env.store root settings).path c) =
      Function.update files' path content ((env.store root settings).path c) := by
  by_cases hc : (env.store root settings).path c = path
  · rw [hc, Function.update_self, Function.update_self]
  · rw [Function.update_of_ne hc, Function.update_of_ne hc, h c]

/-- Every poll ends in one of these ways. -/
theorem Polled.ends {r : PollRecord ε} (h : r.Polled env root settings)
    (hp : env.snapshot root settings r.collection ≠ settings.rulesPath) :
    r.Ends env root settings := by
  obtain ⟨middle, hgathers, ⟨error, hg, hr, hafter⟩ | ⟨gathered, hg, hsettles⟩⟩ := h.halves hp
  · rw [hg] at hgathers
    cases hgathers with
    | failed hj hl =>
      exact .left (.inl ⟨error, hr⟩) (hafter ▸ hl.reaches) (hafter ▸ hl.held)
  · rw [hg] at hgathers
    generalize hr : r.result = result at hsettles
    generalize hafter : r.after = after at hsettles
    cases hgathers with
    | aside hj hl =>
      cases hsettles
      exact .aside hg hr hj (hafter ▸ hl)
    | unusable hf hl =>
      cases hsettles
      exact .left (.inr ⟨hg, hr⟩) (hafter ▸ hl.reaches) (hafter ▸ hl.held)
    | refused hl hq =>
      obtain ⟨hfollows, -⟩ := fetch_leads hq
      cases hsettles
      exact .left (.inr ⟨hg, hr⟩) (hafter ▸ hl.reaches.trans hfollows.reaches)
        fun c => hafter ▸ (congrFun hfollows.store _).trans (hl.held c)
    | @seeding latest _ hf hl hq =>
      obtain ⟨hfollows, -⟩ := fetch_leads hq
      have hheld := fun c : String => (congrFun hfollows.store
        ((env.store root settings).path c)).trans (hl.held c)
      cases hsettles with
      | seeded hb hm =>
        rw [hheld] at hb
        refine .seeded hg hr hf hb hl hq ⟨hafter ▸ hm.reaches, hafter ▸ hm.calls, fun c => ?_⟩
        rw [hafter, hm.held]
        exact update_congr hheld _ _ c
      | unseeded _ hm =>
        exact .left (.inl ⟨_, hr⟩)
          (hafter ▸ (hl.reaches.trans hfollows.reaches).trans hm.reaches)
          fun c => hafter ▸ (hm.held c).trans (hheld c)
    | @comparison stored latest _ hs hl hq =>
      obtain ⟨hfollows, -⟩ := fetch_leads hq
      have hheld := fun c : String => (congrFun hfollows.store
        ((env.store root settings).path c)).trans (hl.held c)
      cases hsettles with
      | merged he hb hm =>
        rw [hheld, SnapshotStore.base?_of_loaded hs] at hb
        cases hb
        refine .merged hg hr hs hl hq he ⟨hafter ▸ hm.reaches, hafter ▸ hm.calls, fun c => ?_⟩
        rw [hafter, hm.held]
        exact update_congr hheld _ _ c
      | unmerged he _ hm =>
        exact .left (.inl ⟨_, hr⟩)
          (hafter ▸ ((hl.reaches.trans hfollows.reaches).trans (evaluate_leads he).1.reaches).trans
            hm.reaches)
          fun c => hafter ▸ (hm.held c).trans (hheld c)

theorem Ends.reaches {r : PollRecord ε} (h : r.Ends env root settings) :
    env.Reaches r.before.env r.after.env := by
  cases h with
  | left _ hreaches _ => exact hreaches
  | aside _ _ _ hl => exact hl.reaches
  | seeded _ _ _ _ ha hq hl =>
    exact (ha.reaches.trans (fetch_leads hq).1.reaches).trans hl.reaches
  | merged _ _ _ ha hq he hl =>
    exact ((ha.reaches.trans (fetch_leads hq).1.reaches).trans (evaluate_leads he).1.reaches).trans
      hl.reaches

/-- A poll leaves the snapshots of other collections. -/
theorem Ends.held_of_ne {r : PollRecord ε} (h : r.Ends env root settings) {c : String}
    (hne : env.snapshot root settings r.collection ≠ (env.store root settings).path c) :
    r.after.store ((env.store root settings).path c) =
      r.before.store ((env.store root settings).path c) := by
  have hkept : ∀ content, Function.update r.before.store
      (env.snapshot root settings r.collection) content ((env.store root settings).path c) =
        r.before.store ((env.store root settings).path c) :=
    fun content => Function.update_of_ne (Ne.symm hne) _ _
  cases h with
  | left _ _ hheld => exact hheld c
  | aside _ _ _ hl => rw [hl.held, hkept]
  | seeded _ _ _ _ _ _ hl => rw [hl.held, hkept]
  | merged _ _ _ _ _ _ hl => rw [hl.held, hkept]

/-- A poll that compared, if it ends well, merged what it was given into what was stored. -/
theorem Ends.of_comparison {r : PollRecord ε} (h : r.Ends env root settings)
    {stored latest : List Record} (hg : r.gathered = .ok (.comparison stored latest)) {poll : Poll}
    (hr : r.result = .ok poll) :
    ∃ middle evaluated,
      SnapshotStore.loaded r.collection.id
        (r.before.store (env.snapshot root settings r.collection)) = .ok stored ∧
      SnapshotStore.Leads env root settings r.before r.asked r.before.store ∧
      (env.surroundings root settings).fetch r.collection
        (some (r.session.lookback settings r.collection.id)) r.asked = (some latest, middle) ∧
      (env.surroundings root settings).evaluate r.collection stored latest middle =
        (poll, evaluated) ∧
      SnapshotStore.Leads env root settings evaluated r.after (Function.update r.before.store
        (env.snapshot root settings r.collection)
        (some (SnapshotStore.bytesOf (Snapshot.overlay stored latest)))) := by
  cases h with
  | left he _ _ =>
    rcases he with ⟨error, he⟩ | ⟨hn, -⟩
    · rw [hr] at he
      cases he
    · rw [hg] at hn
      cases hn
  | aside hn _ _ _ =>
    rw [hg] at hn
    cases hn
  | seeded hn _ _ _ _ _ _ =>
    rw [hg] at hn
    cases hn
  | merged hn hr' hs ha hq he hl =>
    rw [hg] at hn
    cases hn
    rw [hr] at hr'
    cases hr'
    exact ⟨_, _, hs, ha, hq, he, hl⟩

/-- Polls are regular where every answer to a query is. -/
theorem Polled.regular {r : PollRecord ε} (h : r.Polled env root settings)
    (hp : env.snapshot root settings r.collection ≠ settings.rulesPath)
    (ha : ∀ collection properties filter e latest,
      (env.query collection properties filter e).1 = .ok latest →
        (latest.map Record.key).Nodup ∧ ∀ record ∈ latest, record.Legible) :
    r.Regular env root settings := by
  have hanswer : ∀ gathered latest, r.gathered = .ok gathered → gathered.latest? = some latest →
      (latest.map Record.key).Nodup ∧ ∀ record ∈ latest, record.Legible := by
    intro gathered latest hg hl
    obtain ⟨middle, hgathers, -⟩ := h.halves hp
    have hfetched : ∀ {lookback : Option Json} {w w' : World ε Files},
        (env.surroundings root settings).fetch r.collection lookback w = (some latest, w') →
          (latest.map Record.key).Nodup ∧ ∀ record ∈ latest, record.Legible := by
      intro lookback w w' hq
      rw [fetch_run] at hq
      cases hquery : (env.query r.collection.id r.collection.filterProperties
          (r.collection.filter? lookback) w.env).1 with
      | ok records =>
        rw [hquery] at hq
        cases hq
        exact ha _ _ _ _ _ hquery
      | error error =>
        rw [hquery] at hq
        cases hq
    rw [hg] at hgathers
    cases hgathers with
    | aside _ _ => cases hl
    | unusable _ _ => cases hl
    | refused _ _ => cases hl
    | seeding _ _ hq =>
      cases hl
      exact hfetched hq
    | comparison _ _ hq =>
      cases hl
      exact hfetched hq
  exact ⟨hp, fun hg hl => (hanswer _ _ hg hl).1, fun hg hl => (hanswer _ _ hg hl).2⟩

end PollRecord

end

end RecordWatch
