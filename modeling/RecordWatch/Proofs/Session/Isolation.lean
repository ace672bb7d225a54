import RecordWatch.Proofs.Session.Exchanges
import RecordWatch.Proofs.Session.Rules
import RecordWatch.Proofs.Session.Tracking

/-! Collections do not disturb each other. The polls of the others leave a collection's snapshot and
its last successful poll as they are, so that its own poll depends on what was its own before the
cycle and on what it is told. -/

namespace RecordWatch

/-! ### Places that are a collection's own -/

/-- The collections of a rules file have plain ids. -/
theorem RuleFile.plain_collections (file : RuleFile) :
    ∀ c ∈ file.collections, plainId c.id = c.id := by
  have hmerged : ∀ entry ∈ file.merged, plainId entry.1 = entry.1 := by
    refine List.foldlRecOn (motive := fun collections : Fields (List Rule) =>
      ∀ entry ∈ collections, plainId entry.1 = entry.1) file _ (by simp) ?_
    intro collections h entry _ other hother
    rcases Fields.mem_put hother with rfl | hother
    · exact plainId_plainId _
    · exact h other hother
  intro c hc
  obtain ⟨entry, he, rfl⟩ := List.mem_map.mp hc
  exact hmerged entry he

section

variable {ε : Type} {env : Environment ε} {root : String} {settings : Settings}

/-- Collections with plain ids that differ have different snapshots. -/
theorem snapshot_ne {c d : Collection} (hc : '/' ∉ c.id.toList) (hd : '/' ∉ d.id.toList)
    (hcp : plainId c.id = c.id) (hdp : plainId d.id = d.id) (hne : d.id ≠ c.id) :
    env.snapshot root settings c ≠ env.snapshot root settings d := by
  intro heq
  have hplain := ((env.store root settings).path_inj hc hd).mp heq
  rw [hcp, hdp] at hplain
  exact hne hplain.symm

variable (env root settings) in
/-- A poll leaves the snapshots of other collections as they are. -/
theorem poll_keeps (session : Session) {c d : Collection}
    (hne : env.snapshot root settings c ≠ env.snapshot root settings d) (w : World ε Files) :
    ((session.poll (env.surroundings root settings) d).run w).2.store
      (env.snapshot root settings c) = w.store (env.snapshot root settings c) := by
  let L := Likeness.relates fun s t : World ε Files =>
    s = t ∧ s.store (env.snapshot root settings c) = w.store (env.snapshot root settings c)
  have hanswers : Environment.Answers L env env := by
    constructor <;> intros <;> exact .of_keeps fun _ h => h
  have halike : Surroundings.Alike L (env.surroundings root settings)
      (env.surroundings root settings) d :=
    hanswers.surroundings root settings (fun _ => .of_keeps fun _ h => h) d
  have hstore : SnapshotStore.Alike L (env.store root settings) (env.store root settings) d.id :=
    hanswers.store root settings d.id fun step hstep => .of_keeps fun v hv =>
      (hstep _ hne ((env.store root settings).path_ne_beside c.id d.id)
        ((env.store root settings).path_ne_aside c.id d.id) v.store).trans hv
  exact Relates.keeps (halike.poll hstore rfl) rfl

/-! ### The poll of a collection in a cycle -/

namespace Session

/-- Whether a poll counts as a success does not depend on the progress before it. -/
theorem Progress.get?_add {progress progress' : Progress} {id : String}
    (h : progress.succeeded.get? id = progress'.succeeded.get? id) (began : Instant) (poll : Poll) :
    (progress.add id began poll).succeeded.get? id =
      (progress'.add id began poll).succeeded.get? id := by
  cases poll with
  | skipped => exact h
  | seeded => exact (Fields.get?_put_self _ _ _).trans (Fields.get?_put_self _ _ _).symm
  | evaluated changes fired =>
    exact (Fields.get?_put_self _ _ _).trans (Fields.get?_put_self _ _ _).symm

/-- Polls of other collections leave a collection's snapshot and its last successful poll. -/
theorem polls_apart {c : Collection} {session : Session} {collections : List Collection}
    (hapart : ∀ d ∈ collections, d.id ≠ c.id ∧
      env.snapshot root settings c ≠ env.snapshot root settings d) {w : World ε Files}
    {progress total : Progress}
    (h : advance progress (session.polls env root settings collections w) = .ok total) :
    (final w (session.polls env root settings collections w)).store
        (env.snapshot root settings c) = w.store (env.snapshot root settings c) ∧
      total.succeeded.get? c.id = progress.succeeded.get? c.id := by
  induction collections generalizing w progress with
  | nil =>
    cases h
    exact ⟨rfl, rfl⟩
  | cons d rest ih =>
    obtain ⟨hid, hne⟩ := hapart d List.mem_cons_self
    cases hr : (session.record env root settings d w).result with
    | error error =>
      rw [polls_error env root settings hr, advance_error hr] at h
      cases h
    | ok poll =>
      rw [polls_ok env root settings hr] at h ⊢
      rw [advance_ok hr] at h
      obtain ⟨hstore, hsucceeded⟩ := ih (fun d hd => hapart d (List.mem_cons_of_mem _ hd)) h
      rw [final_cons]
      refine ⟨hstore.trans ?_, hsucceeded.trans (progress.succeeded_add_ne _ poll hid)⟩
      exact poll_keeps env root settings session hne _

variable (env root settings) in
/-- The poll of a collection among those from one world to another: it starts from the collection's
own snapshot and last successful poll and settles both. -/
structure Turn (session : Session) (c : Collection) (w v : World ε Files)
    (before after : Fields Instant) (r : PollRecord ε) : Prop where
  polled : r.Polled env root settings
  session : r.session = session
  collection : r.collection = c
  found : r.before.store (env.snapshot root settings c) = w.store (env.snapshot root settings c)
  left : v.store (env.snapshot root settings c) = r.after.store (env.snapshot root settings c)
  succeeded : ∃ poll, r.result = .ok poll ∧ ∀ progress : Progress,
    progress.succeeded.get? c.id = before.get? c.id →
      after.get? c.id = (progress.add c.id r.began poll).succeeded.get? c.id

/-- Each collection has one turn. -/
theorem turn_polls {c : Collection} {session : Session} {collections : List Collection}
    (hd : (collections.map Collection.id).Nodup)
    (hapart : ∀ d ∈ collections, d.id ≠ c.id →
      env.snapshot root settings c ≠ env.snapshot root settings d) (hc : c ∈ collections)
    {w : World ε Files} {progress total : Progress}
    (h : advance progress (session.polls env root settings collections w) = .ok total) :
    ∃ r ∈ session.polls env root settings collections w,
      (∀ other ∈ session.polls env root settings collections w,
        other.collection = c → other = r) ∧
      Turn env root settings session c w
        (final w (session.polls env root settings collections w)) progress.succeeded
        total.succeeded r := by
  induction collections generalizing w progress with
  | nil => cases hc
  | cons d rest ih =>
    rw [List.map_cons, List.nodup_cons] at hd
    cases hr : (session.record env root settings d w).result with
    | error error =>
      rw [polls_error env root settings hr, advance_error hr] at h
      cases h
    | ok poll =>
      rw [polls_ok env root settings hr] at h ⊢
      rw [advance_ok hr] at h
      rw [final_cons]
      have hother : ∀ e ∈ rest, e.id ≠ d.id := fun e he heq =>
        hd.1 (heq ▸ List.mem_map_of_mem he)
      rcases List.mem_cons.mp hc with rfl | hc
      · obtain ⟨hstore, hsucceeded⟩ := polls_apart (c := c) (fun e he =>
          ⟨hother e he, hapart e (List.mem_cons_of_mem _ he) (hother e he)⟩) h
        refine ⟨_, List.mem_cons_self, fun other hmem hcollection => ?_, ⟨session, c, w, rfl⟩,
          rfl, rfl, rfl, hstore, poll, hr, fun base hbase => ?_⟩
        · rcases List.mem_cons.mp hmem with rfl | hmem
          · rfl
          · have hmem' := collection_of_mem_polls env root settings hmem
            rw [hcollection] at hmem'
            exact absurd rfl (hother _ hmem')
        · rw [hsucceeded]
          exact Progress.get?_add hbase.symm _ poll
      · have hne : d.id ≠ c.id := fun heq => hother c hc heq.symm
        obtain ⟨r, hmem, hunique, ht⟩ := ih hd.2
          (fun e he => hapart e (List.mem_cons_of_mem _ he)) hc h
        have hkept := poll_keeps env root settings session (hapart d List.mem_cons_self hne)
          (session.record env root settings d w).before
        obtain ⟨outcome, hresult, hsucceeded⟩ := ht.succeeded
        refine ⟨r, List.mem_cons_of_mem _ hmem, fun other hmem hcollection => ?_, ht.polled,
          ht.session, ht.collection, ht.found.trans hkept, ht.left, outcome, hresult,
          fun base hbase => hsucceeded base ?_⟩
        · rcases List.mem_cons.mp hmem with rfl | hmem
          · exact absurd (congrArg Collection.id hcollection) hne
          · exact hunique other hmem hcollection
        · rw [hbase]
          exact (progress.succeeded_add_ne _ poll hne).symm

end Session

/-! ### Cycles -/

variable (env root settings) in
/-- A cycle that ends well, of a session whose rules are those of a file. -/
structure CompletedCycle (session next : Session) (w v : World ε Files) : Prop where
  ruled : ∃ file : RuleFile, session.collections = file.collections
  ends : ∃ summary, session.cycle (env.surroundings root settings) w = ((next, .ok summary), v)
  /-- No id in force contains a path separator. -/
  separate : ∀ d ∈ next.collections, '/' ∉ d.id.toList

/-- In such a cycle each collection in force has one turn, which starts from its own snapshot and
last successful poll and settles both. -/
theorem CompletedCycle.turn {session next : Session} {w v : World ε Files}
    (h : CompletedCycle env root settings session next w v) {c : Collection}
    (hc : c ∈ next.collections) :
    next.started = session.started ∧
      ∃ polling : Session, polling.started = session.started ∧
        polling.lastSuccess = session.lastSuccess ∧
        ∃ r ∈ Session.directivePolls env root settings (some session) .cycle w,
          (∀ other ∈ Session.directivePolls env root settings (some session) .cycle w,
            other.collection = c → other = r) ∧
          Session.Turn env root settings polling c w v session.lastSuccess next.lastSuccess r := by
  obtain ⟨file, hfile⟩ := h.ruled
  obtain ⟨summary, hrun⟩ := h.ends
  cases hreload : session.reload (env.surroundings root settings) w with
  | mk reloaded w' =>
    have hfollows := reload_follows env root settings session w
    rw [hreload] at hfollows
    have hcycle := Session.cycle_run env root settings hreload
    rw [hrun] at hcycle
    have hpolls : Session.directivePolls env root settings (some session) .cycle w =
        reloaded.polls env root settings reloaded.collections w' := by
      rw [Session.directivePolls, hreload]
    have hruled : (∃ file : RuleFile, reloaded.collections = file.collections) ∧
        reloaded.started = session.started ∧ reloaded.lastSuccess = session.lastSuccess := by
      rcases Session.reload_cases hreload with rfl | ⟨time, rfl | ⟨file', rfl⟩⟩
      · exact ⟨⟨file, hfile⟩, rfl, rfl⟩
      · exact ⟨⟨file, hfile⟩, rfl, rfl⟩
      · exact ⟨⟨file', rfl⟩, rfl, rfl⟩
    obtain ⟨⟨rules, hrules⟩, hstarted, hlast⟩ := hruled
    cases htally : Session.tally reloaded
        (reloaded.polls env root settings reloaded.collections w') with
    | error error =>
      rw [htally] at hcycle
      cases hcycle
    | ok total =>
      rw [htally] at hcycle
      obtain ⟨rfl, rfl⟩ : next = { reloaded with lastSuccess := total.succeeded } ∧
          v = Session.final w' (reloaded.polls env root settings reloaded.collections w') := by
        cases hcycle
        exact ⟨rfl, rfl⟩
      have hplain : ∀ d ∈ reloaded.collections, plainId d.id = d.id := by
        rw [hrules]
        exact rules.plain_collections
      have hnodup : (reloaded.collections.map Collection.id).Nodup := by
        rw [hrules]
        exact rules.nodup_collections
      have hc' : c ∈ reloaded.collections := hc
      obtain ⟨r, hr, hunique, ht⟩ := Session.turn_polls hnodup
        (fun d hd hne => snapshot_ne (h.separate c hc) (h.separate d hd) (hplain c hc')
          (hplain d hd) hne) hc' htally
      rw [hpolls]
      refine ⟨hstarted, reloaded, hstarted, hlast, r, hr, hunique, ?_⟩
      rw [← hlast]
      exact { ht with found := ht.found.trans (congrFun hfollows.store _) }

end

section

variable {ε ε' : Type} {env : Environment ε} {env' : Environment ε'} {root : String}
  {settings : Settings}

theorem Session.lookback_congr {session session' : Session} {id : String}
    (hs : session.started = session'.started)
    (hl : session.lastSuccess.get? id = session'.lastSuccess.get? id) :
    session.lookback settings id = session'.lookback settings id := by
  rw [Session.lookback, Session.lookback, hs, hl]

/-- Two cycles that end well, on whatever other collections. A collection that is watched in both,
with the same rules, the same snapshot and the same last successful poll, has one poll in each.
If the two begin at the same instant and the second is told what the first is told, then they come
to the same, make the same calls, leave the same snapshot, and the next query looks back to the same
instant. -/
theorem Session.isolated {session next : Session} {w v : World ε Files}
    {session' next' : Session} {w' v' : World ε' Files}
    (h : CompletedCycle env root settings session next w v)
    (h' : CompletedCycle env' root settings session' next' w' v') {c : Collection}
    (hc : c ∈ next.collections) (hc' : c ∈ next'.collections)
    (hstarted : session.started = session'.started)
    (hlast : session.lastSuccess.get? c.id = session'.lastSuccess.get? c.id)
    (hfile : w.store (env.snapshot root settings c) = w'.store (env'.snapshot root settings c)) :
    (∃! r, r ∈ directivePolls env root settings (some session) .cycle w ∧ r.collection = c) ∧
    (∃! r, r ∈ directivePolls env' root settings (some session') .cycle w' ∧ r.collection = c) ∧
    ∀ r ∈ directivePolls env root settings (some session) .cycle w,
      ∀ r' ∈ directivePolls env' root settings (some session') .cycle w',
        r.collection = c → r'.collection = c → r.began = r'.began →
        (∃ e, env'.Gives r'.before.env (r.exchanges env root settings) e) →
          r.result = r'.result ∧
          (∃ made, r.after.calls = r.before.calls ++ made ∧
            r'.after.calls = r'.before.calls ++ made) ∧
          v.store (env.snapshot root settings c) = v'.store (env'.snapshot root settings c) ∧
          next.lookback settings c.id = next'.lookback settings c.id := by
  obtain ⟨hnext, polling, hpolling, hsuccess, r, hr, hunique, ht⟩ := h.turn hc
  obtain ⟨hnext', polling', hpolling', hsuccess', r', hr', hunique', ht'⟩ := h'.turn hc'
  refine ⟨⟨r, ⟨hr, ht.collection⟩, fun other ho => hunique other ho.1 ho.2⟩,
    ⟨r', ⟨hr', ht'.collection⟩, fun other ho => hunique' other ho.1 ho.2⟩, ?_⟩
  intro first hfirst second hsecond hcollection hcollection' hbegan ⟨e, hgives⟩
  obtain rfl : first = r := hunique first hfirst hcollection
  obtain rfl : second = r' := hunique' second hsecond hcollection'
  subst hcollection
  have hlookback : first.session.lookback settings first.collection.id =
      second.session.lookback settings first.collection.id := by
    rw [ht.session, ht'.session]
    refine lookback_congr (hpolling.trans (hstarted.trans hpolling'.symm)) ?_
    rw [hsuccess, hsuccess']
    exact hlast
  have hfound : first.before.store (env.snapshot root settings first.collection) =
      second.before.store (env.snapshot root settings first.collection) :=
    ht.found.trans (hfile.trans ht'.found.symm)
  obtain ⟨hresult, hmade, hleft⟩ :=
    ht.polled.replayed ht'.polled hcollection' hlookback hfound hgives
  obtain ⟨poll, hpoll, hsucceeded⟩ := ht.succeeded
  obtain ⟨poll', hpoll', hsucceeded'⟩ := ht'.succeeded
  obtain rfl : poll = poll' := by
    rw [hpoll, hpoll'] at hresult
    cases hresult
    rfl
  refine ⟨hresult, hmade, ht.left.trans (hleft.trans ht'.left.symm), ?_⟩
  refine lookback_congr (hnext.trans (hstarted.trans hnext'.symm)) ?_
  rw [hsucceeded ⟨⟨0, 0, 0, 0⟩, session.lastSuccess⟩ rfl,
    hsucceeded' ⟨⟨0, 0, 0, 0⟩, session.lastSuccess⟩ hlast, hbegan]

end

/-! ### A crowd -/

section

variable {ε : Type} {env : Environment ε} {root : String} {settings : Settings}
  {session reloaded : Session} {w w' : World ε Files}

theorem Session.cycle_collections
    (h : session.reload (env.surroundings root settings) w = (reloaded, w')) :
    (session.cycle (env.surroundings root settings) w).1.1.collections = reloaded.collections := by
  rw [Session.cycle_run env root settings h]
  dsimp only
  split <;> rfl

/-- A cycle completes if its result is no error. -/
theorem CompletedCycle.of_result (file : RuleFile) (hf : session.collections = file.collections)
    (h : session.reload (env.surroundings root settings) w = (reloaded, w'))
    (hs : ∀ d ∈ reloaded.collections, '/' ∉ d.id.toList) (summary : CycleSummary)
    (hr : (session.cycle (env.surroundings root settings) w).1.2 = .ok summary) :
    CompletedCycle env root settings session
      (session.cycle (env.surroundings root settings) w).1.1 w
      (session.cycle (env.surroundings root settings) w).2 where
  ruled := ⟨file, hf⟩
  ends := ⟨summary, Prod.ext (Prod.ext rfl hr) rfl⟩
  separate := by
    rw [Session.cycle_collections h]
    exact hs

end

/-- The collection that is watched with others and without. -/
def postCollection : Collection := ⟨"c1", [postEntry.toRule 0]⟩

/-- The first poll looks back an hour, the others to ten minutes before the last success. -/
def postSettings : Settings := ⟨"rules", 3600, 600⟩

/-- A session that also watches a collection before that one and one after it. -/
def crowdSession : Session :=
  ⟨[⟨"c0", [postEntry.toRule 0]⟩, postCollection, ⟨"c2", [postEntry.toRule 0]⟩], some 0, [],
    default⟩

/-- An environment with one record in which the last collection cannot be queried. -/
def crowdEnvironment : Environment Nat :=
  { postEnvironment with
    query := fun collection _ _ n =>
      (if collection = "c2" then .error .missingToken else .ok [noted "a"], n + 1) }

/-- A world in which the snapshot of the first collection cannot be read. -/
def crowdWorld : World Nat Files :=
  ⟨7, Function.update emptyWorld.store "store/c0.json" (some "[".toUTF8), []⟩

theorem completed_post : CompletedCycle postEnvironment "store" postSettings postSession
    (postSession.cycle (postEnvironment.surroundings "store" postSettings) emptyWorld).1.1
    emptyWorld
    (postSession.cycle (postEnvironment.surroundings "store" postSettings) emptyWorld).2 :=
  .of_result [("c-1", [postEntry])] rfl rfl (by decide) ⟨1, 0, 1, 1⟩ (by decide +kernel)

theorem completed_crowd : CompletedCycle crowdEnvironment "store" postSettings crowdSession
    (crowdSession.cycle (crowdEnvironment.surroundings "store" postSettings) crowdWorld).1.1
    crowdWorld
    (crowdSession.cycle (crowdEnvironment.surroundings "store" postSettings) crowdWorld).2 :=
  .of_result [("c-0", [postEntry]), ("c-1", [postEntry]), ("c-2", [postEntry])] rfl rfl
    (by decide) ⟨3, 2, 1, 1⟩ (by decide +kernel)

theorem polls_post :
    Session.directivePolls postEnvironment "store" postSettings (some postSession) .cycle
      emptyWorld =
        [postSession.record postEnvironment "store" postSettings postCollection emptyWorld] :=
  rfl

theorem gives_post (e : Nat) : ∃ e', crowdEnvironment.Gives e
    ((postSession.record postEnvironment "store" postSettings postCollection
      emptyWorld).exchanges postEnvironment "store" postSettings) e' :=
  ⟨_, rfl, rfl, rfl, rfl, rfl, rfl, rfl, rfl⟩

/-- A collection with a new record is polled alike by itself and between two collections of which
one cannot be read and the other cannot be queried. -/
theorem isolated_crowd :
    ∃ r r', r.collection = postCollection ∧ r'.collection = postCollection ∧
      r.result = .ok (.evaluated 1 1) ∧ r'.result = .ok (.evaluated 1 1) ∧
      r ∈ Session.directivePolls postEnvironment "store" postSettings (some postSession) .cycle
        emptyWorld ∧
      r' ∈ Session.directivePolls crowdEnvironment "store" postSettings (some crowdSession) .cycle
        crowdWorld ∧
      ∃ made, r.after.calls = r.before.calls ++ made ∧
        r'.after.calls = r'.before.calls ++ made := by
  obtain ⟨-, ⟨r', ⟨hr', hc'⟩, -⟩, hsame⟩ := Session.isolated completed_post completed_crowd
    (c := postCollection) (by rw [Session.cycle_collections rfl]; exact List.mem_cons_self)
    (by
      rw [Session.cycle_collections rfl]
      exact List.mem_cons_of_mem _ List.mem_cons_self) rfl rfl rfl
  have hr := polls_post ▸ List.mem_singleton_self
    (postSession.record postEnvironment "store" postSettings postCollection emptyWorld)
  have hbegan : r'.began = default := by
    have hpolled : r'.Polled crowdEnvironment "store" postSettings :=
      Session.polled_polls _ _ _ hr'
    obtain ⟨session, collection, w, rfl⟩ := hpolled
    rfl
  obtain ⟨hresult, hmade, -⟩ := hsame _ hr r' hr' rfl hc' hbegan.symm (gives_post _)
  exact ⟨_, r', rfl, hc', rfl, hresult.symm, hr, hr', hmade⟩

end RecordWatch
