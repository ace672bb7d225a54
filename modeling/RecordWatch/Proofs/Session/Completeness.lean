import RecordWatch.Proofs.Session.Remote

/-! Complete polls. A poll that looks back to where the stored records are fresh since asks for
every record that is not stored as it is. If it ends well, it leaves the records of the remote store
as they were at the moment of its query, has compared every record that it did not have before, and
the stored records are fresh since its beginning. -/

namespace RecordWatch

/-- The padding of the lookback in nanoseconds. -/
def Settings.padding (settings : Settings) : Int := settings.lookbackPadding * second

theorem Instant.nanoseconds_of_sub? {t u : Instant} {span : Int} (h : t.sub? span = some u) :
    u.nanoseconds = t.nanoseconds - span := by
  rw [sub?, ofNanoseconds?] at h
  split at h
  · cases h
    rfl
  · cases h

section

variable {ε : Type} (env : Environment ε) (root : String) (settings : Settings)
  (remote : Remote ε) (c : String)

/-- What is assumed of the environment. No file operation fails, the record store is the remote one,
and the records of the collection are read back as they are written. -/
structure Faithful : Prop where
  sound : env.Sound
  law : remote.Law settings.padding env
  legible {e : ε} {key : String} {entry : Entry} (h : remote.current e c key = some entry) :
    entry.record.Legible

namespace PollRecord

/-- The poll seeded or compared its collection. -/
def Succeeds (r : PollRecord ε) : Prop := ∃ poll, r.result = .ok poll ∧ poll ≠ .skipped

/-- The poll missed nothing. What it stored are the records of the remote store at the moment of its
query, and each of them was stored before or is among the records that were compared. -/
def Complete (r : PollRecord ε) : Prop :=
  ∃ (filter : Option Json) (latest : List Record) (moment : ε),
    (env.query r.collection.id none filter r.asked.env).1 = .ok latest ∧
    remote.Moves settings.padding r.asked.env moment ∧
    remote.Moves settings.padding moment
      (env.query r.collection.id none filter r.asked.env).2 ∧
    (∃ kept, SnapshotStore.loaded r.collection.id
        (r.after.store (env.snapshot root settings r.collection)) = .ok kept ∧
      remote.Mirrors r.collection.id kept moment) ∧
    ∀ stored compared, r.gathered = .ok (.comparison stored compared) →
      ∀ key entry, remote.current moment r.collection.id key = some entry →
        Delta.find? stored key = some entry.record ∨ entry.record ∈ compared

/-- A poll of a run in which a collection is watched. No other collection has its snapshot, and its
rules in force have one without a content filter and none that names properties. -/
structure Watched (r : PollRecord ε) : Prop where
  place : env.snapshot root settings r.collection ≠ settings.rulesPath
  own (h : env.snapshot root settings r.collection = (env.store root settings).path c) :
    r.collection.id = c
  unfiltered (h : r.collection.id = c) : ∃ rule ∈ r.collection.rules, rule.contentFilter = none
  whole (h : r.collection.id = c) : ∀ rule ∈ r.collection.rules, rule.filterProperties = []
  range (h : r.collection.id = c) : (r.began.sub? settings.padding).isSome

end PollRecord

/-- What is stored of the collection is fresh since an instant. -/
def Ready (since : Int) (w : World ε Files) : Prop :=
  ∃ stored, SnapshotStore.loaded c (w.store ((env.store root settings).path c)) = .ok stored ∧
    (∀ record ∈ stored, record.Legible) ∧
    remote.Fresh settings.padding c since stored w.env

variable {env root settings remote c}

theorem Ready.step (hlaw : remote.Law settings.padding env) {since : Int} {w w' : World ε Files}
    (h : Ready env root settings remote c since w) (hr : env.Reaches w.env w'.env)
    (hs : w'.store ((env.store root settings).path c) =
      w.store ((env.store root settings).path c)) : Ready env root settings remote c since w' := by
  obtain ⟨stored, hl, ht, hf⟩ := h
  exact ⟨stored, hs ▸ hl, ht, hf.moves (hlaw.moves hr)⟩

theorem Ready.follows (hlaw : remote.Law settings.padding env) {since : Int}
    {w w' : World ε Files} (h : Ready env root settings remote c since w)
    (hf : World.Follows env w w') : Ready env root settings remote c since w' :=
  h.step hlaw hf.reaches (congrFun hf.store _)

namespace PollRecord

/-- Where nothing fails, a poll ends well; without a snapshot it seeds one. -/
theorem Polled.succeeds {r : PollRecord ε} (h : r.Polled env root settings) (henv : env.Sound)
    (hp : env.snapshot root settings r.collection ≠ settings.rulesPath)
    (ha : ∀ filter e, ∃ latest,
      (env.query r.collection.id r.collection.filterProperties filter e).1 = .ok latest)
    (base : List Record) (hb : SnapshotStore.base? r.collection.id
      (r.before.store (env.snapshot root settings r.collection)) = some base) :
    r.Succeeds ∧ (r.before.store (env.snapshot root settings r.collection) = none →
      r.result = .ok .seeded) := by
  have hjson : SnapshotStore.loaded r.collection.id
      (r.before.store (env.snapshot root settings r.collection)) ≠ .error .json := by
    intro hjson
    rcases SnapshotStore.loaded_of_base? hb with ⟨hnone, -⟩ | hl
    · rw [hnone] at hjson
      cases hjson
    · rw [hl] at hjson
      cases hjson
  have hanswered : ∀ {lookback : Option Json} {w w' : World ε Files},
      (env.surroundings root settings).fetch r.collection lookback w ≠ (none, w') := by
    intro lookback w w' hq
    obtain ⟨latest, hlatest⟩ := ha (r.collection.filter? lookback) w.env
    rw [fetch_run, hlatest] at hq
    cases hq
  obtain ⟨middle, hgathers, ⟨error, hg, -, -⟩ | ⟨gathered, hg, hsettles⟩⟩ := h.halves hp
  · rw [hg] at hgathers
    cases hgathers with
    | failed hl _ => exact absurd hl hjson
  · rw [hg] at hgathers
    generalize hr : r.result = result at hsettles
    cases hgathers with
    | aside hl _ => exact absurd hl hjson
    | unusable hf _ =>
      rw [hf henv] at hb
      cases hb
    | refused _ hq => exact absurd hq hanswered
    | seeding _ hl hq =>
      have hheld := hl.held r.collection.id
      rw [← (fetch_leads hq).1.store] at hheld
      cases hsettles with
      | seeded _ _ => exact ⟨⟨_, hr, Poll.noConfusion⟩, fun _ => rfl⟩
      | unseeded hf _ =>
        have hbase := hf henv
        rw [hheld, hb] at hbase
        cases hbase
    | comparison hs hl hq =>
      have hheld := hl.held r.collection.id
      rw [← (fetch_leads hq).1.store] at hheld
      cases hsettles with
      | merged he _ _ =>
        obtain ⟨-, changes, fired, rfl⟩ := evaluate_leads he
        refine ⟨⟨_, hr, Poll.noConfusion⟩, fun hnone => ?_⟩
        rw [hnone] at hs
        cases hs
      | unmerged _ hf _ =>
        have hbase := hf henv
        rw [hheld, hb] at hbase
        cases hbase

theorem Polled.began_le (hlaw : remote.Law settings.padding env) {r : PollRecord ε}
    (h : r.Polled env root settings) : r.began.nanoseconds ≤ remote.time r.before.env := by
  obtain ⟨session, collection, w, rfl⟩ := h
  exact (hlaw.clock w.env).2

/-- A poll whose query asks for every record that is not stored as it is misses nothing. -/
theorem complete_of_asked (hf : Faithful env settings remote c) {r : PollRecord ε}
    (hc : r.collection.id = c) (hbegan : r.began.nanoseconds ≤ remote.time r.before.env)
    {stored latest : List Record} {filter : Option Json}
    (hbefore : env.Reaches r.before.env r.asked.env)
    (hquery : (env.query c none filter r.asked.env).1 = .ok latest)
    (hafter : env.Reaches (env.query c none filter r.asked.env).2 r.after.env)
    (hfile : r.after.store ((env.store root settings).path c) =
      some (SnapshotStore.bytesOf (Snapshot.overlay stored latest)))
    (hstored : ∀ record ∈ stored, record.Legible)
    (hcompared : ∀ old new, r.gathered = .ok (.comparison old new) → old = stored ∧ new = latest)
    (hknown : ∀ {key record}, Delta.find? stored key = some record →
      ∃ entry, remote.current r.before.env c key = some entry)
    (hkept : ∀ moment, remote.Moves settings.padding r.before.env moment →
      ∀ {key entry}, remote.current moment c key = some entry →
        Delta.find? stored key = some entry.record ∨ remote.Covers entry filter) :
    r.Complete env root settings remote ∧
      Ready env root settings remote c r.began.nanoseconds r.after := by
  subst hc
  -- The poll began before its query is answered, so the store may have moved on in between.
  obtain ⟨moment, hasked, hanswered, ha⟩ := hf.law.answer hquery
  have hmoment := (hf.law.moves hbefore).trans hasked
  have hmirrors : remote.Mirrors r.collection.id (Snapshot.overlay stored latest) moment :=
    Remote.mirrors_overlay hf.law.key ha
      (fun hk => (hknown hk).elim fun _ he => hmoment.exists_current he) (hkept moment hmoment)
  have hlegible : ∀ record ∈ Snapshot.overlay stored latest, record.Legible := by
    intro record hr
    rcases Snapshot.mem_overlay hr with hr | hr
    · exact hstored record hr
    · obtain ⟨entry, he, rfl, -⟩ := (ha record).mp hr
      exact hf.legible he
  have hload := SnapshotStore.loaded_of_legible hlegible r.collection.id
  rw [← hfile] at hload
  refine ⟨⟨filter, latest, moment, hquery, hasked, hanswered, ⟨_, hload, hmirrors⟩, ?_⟩,
    ⟨_, hload, hlegible, ?_⟩⟩
  · intro old new hg key entry he
    obtain ⟨rfl, rfl⟩ := hcompared old new hg
    refine (hkept moment hmoment he).imp_right fun hcovers => ?_
    have hkey : entry.record.key = key := hf.law.key he
    exact (ha entry.record).mpr ⟨entry, hkey ▸ he, rfl, hcovers⟩
  · exact (hmirrors.fresh (Int.le_trans hbegan hmoment.time)).moves
      (hanswered.trans (hf.law.moves hafter))

/-- A query for all properties and its answer. -/
theorem query_of_fetch {collection : Collection}
    (hw : ∀ rule ∈ collection.rules, rule.filterProperties = []) {lookback : Option Json}
    {w w' : World ε Files} {latest : List Record}
    (hq : (env.surroundings root settings).fetch collection lookback w = (some latest, w')) :
    (env.query collection.id none (collection.filter? lookback) w.env).1 = .ok latest ∧
      w'.env = (env.query collection.id none (collection.filter? lookback) w.env).2 := by
  rw [fetch_run, Collection.filterProperties_none hw] at hq
  cases ha : (env.query collection.id none (collection.filter? lookback) w.env).1 with
  | ok records =>
    rw [ha] at hq
    cases hq
    exact ⟨rfl, rfl⟩
  | error error =>
    rw [ha] at hq
    cases hq

/-- The poll that seeds the collection. -/
theorem Ends.complete_of_seeded (hf : Faithful env settings remote c) {r : PollRecord ε}
    (h : r.Ends env root settings) (hw : r.Watched env root settings c)
    (hc : r.collection.id = c) (hbegan : r.began.nanoseconds ≤ remote.time r.before.env)
    (hr : r.result = .ok .seeded) :
    r.Complete env root settings remote ∧
      Ready env root settings remote c r.began.nanoseconds r.after := by
  cases h with
  | left he _ _ =>
    rcases he with ⟨error, he⟩ | ⟨-, he⟩
    · rw [hr] at he
      cases he
    · rw [hr] at he
      cases he
  | aside _ he _ _ =>
    rw [hr] at he
    cases he
  | merged _ he _ _ _ hevaluate _ =>
    obtain ⟨-, changes, fired, rfl⟩ := evaluate_leads hevaluate
    rw [hr] at he
    cases he
  | @seeded latest base middle hg _ hmissing hb ha hq hl =>
    rw [hmissing hf.sound] at hb
    cases hb
    obtain ⟨hquery, hmiddle⟩ := query_of_fetch (hw.whole hc) hq
    rw [Collection.filter?_none (hw.unfiltered hc), hc] at hquery hmiddle
    refine complete_of_asked hf hc hbegan ha.reaches hquery (hmiddle ▸ hl.reaches) ?_
      (fun _ hr => absurd hr List.not_mem_nil) (fun old new hold => ?_)
      (fun hk => by cases hk) (fun _ _ _ _ _ => .inr trivial)
    · rw [hl.held, Environment.snapshot, hc, Function.update_self]
    · rw [hg] at hold
      cases hold

theorem nanoseconds_before {t : Instant} (h : (t.sub? settings.padding).isSome) :
    (Lookback.before t settings.lookbackPadding).nanoseconds =
      t.nanoseconds - settings.padding := by
  obtain ⟨u, hu⟩ := Option.isSome_iff_exists.mp h
  have hbefore : Lookback.before t settings.lookbackPadding = u := by
    rw [Lookback.before, ← Settings.padding, hu, Option.getD_some]
  rw [hbefore]
  exact Instant.nanoseconds_of_sub? hu

/-- A poll that looks back to where the stored records are fresh since. If it ends well, it misses
nothing and the stored records are fresh since its beginning; if not, they stay as fresh as they
were. -/
theorem Ends.complete_of_ready (hf : Faithful env settings remote c) {r : PollRecord ε}
    (h : r.Ends env root settings) (hw : r.Watched env root settings c)
    (hc : r.collection.id = c) (hbegan : r.began.nanoseconds ≤ remote.time r.before.env)
    {last : Instant} (hlast : r.session.lastSuccess.get? c = some last)
    (hrange : (last.sub? settings.padding).isSome)
    (hready : Ready env root settings remote c last.nanoseconds r.before) :
    r.Succeeds ∧ r.Complete env root settings remote ∧
        Ready env root settings remote c r.began.nanoseconds r.after ∨
      ¬r.Succeeds ∧ Ready env root settings remote c last.nanoseconds r.after := by
  have hloaded := hready
  obtain ⟨stored, hl, hlegible, hfresh⟩ := hloaded
  have hplace : env.snapshot root settings r.collection = (env.store root settings).path c :=
    congrArg (env.store root settings).path hc
  have hload : ∀ result,
      SnapshotStore.loaded r.collection.id
        (r.before.store (env.snapshot root settings r.collection)) = result →
      result = .ok stored := by
    intro result hresult
    rw [hplace, hc, hl] at hresult
    exact hresult.symm
  have hends := h.reaches
  cases h with
  | left hr _ hheld =>
    refine .inr ⟨fun ⟨poll, hpoll, hne⟩ => ?_, hready.step hf.law hends (hheld c)⟩
    rcases hr with ⟨error, he⟩ | ⟨-, he⟩
    · rw [hpoll] at he
      cases he
    · rw [hpoll] at he
      cases he
      exact hne rfl
  | aside _ _ hj _ => cases hload _ hj
  | seeded _ _ hmissing _ _ _ _ =>
    have hfound := hload _ rfl
    rw [hmissing hf.sound] at hfound
    cases hfound
  | merged hg hr hs ha hq he hl =>
    cases hload _ hs
    obtain ⟨hquery, hmiddle⟩ := query_of_fetch (hw.whole hc) hq
    have hlookback : r.session.lookback settings r.collection.id =
        Lookback.since (Lookback.before last settings.lookbackPadding) := by
      rw [Session.lookback, hc, hlast]
    rw [hlookback, hc] at hquery hmiddle
    obtain ⟨hevaluate, changes, fired, rfl⟩ := evaluate_leads he
    have hafter := hevaluate.reaches.trans hl.reaches
    rw [hmiddle] at hafter
    refine .inl ⟨⟨_, hr, Poll.noConfusion⟩, complete_of_asked hf hc hbegan ha.reaches
      hquery hafter ?_ hlegible (fun old new hold => ?_) hfresh.known
      fun moment hmoment key entry hentry => ?_⟩
    · rw [hl.held, hplace, Function.update_self]
    · rw [hg] at hold
      cases hold
      exact ⟨rfl, rfl⟩
    · refine ((hfresh.moves hmoment).kept hentry).imp_right fun hstamp => ?_
      refine Remote.covers_filter? (hw.unfiltered hc) ?_
      rw [nanoseconds_before hrange]
      exact hstamp

end PollRecord

end

end RecordWatch
