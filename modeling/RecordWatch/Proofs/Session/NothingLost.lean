import RecordWatch.Proofs.Rule.ActiveProperties
import RecordWatch.Proofs.Session.Rules
import RecordWatch.Proofs.Session.Tracking

/-! No edit is lost. From the cycle that seeds a collection on it stays tracked, whatever happens to
the remote store, the rules and the queries. The starts of successful polls move on only with a
cycle that ended well, and a cycle that did not ends the session. -/

namespace RecordWatch

section

variable {ε : Type} {env : Environment ε} {root : String} {settings : Settings}
  {remote : Remote ε} {c : String}

namespace Session

/-- An element of a list that is cut in two is in one of the parts. -/
theorem append_eq_append_cons {α : Type} {first second before after : List α} {a : α}
    (h : first ++ second = before ++ a :: after) :
    (∃ others, first = before ++ a :: others) ∨
      ∃ between, before = first ++ between ∧ second = between ++ a :: after := by
  rcases List.append_eq_append_iff.mp h with ⟨between, hbefore, hsecond⟩ | ⟨others, hfirst, hcons⟩
  · exact .inr ⟨between, hbefore, hsecond⟩
  · cases others with
    | nil => exact .inr ⟨[], by simpa using hfirst.symm, hcons.symm⟩
    | cons other rest =>
      cases hcons
      exact .inl ⟨rest, hfirst⟩

theorem history_none (n : Nat) (w : World ε Files) :
    history env root settings none (List.replicate n .cycle) w = [] := by
  induction n with
  | zero => rfl
  | succ n ih => exact ih

/-- The first cycle of a run. A cycle that does not end well ends the run. -/
theorem history_cycle {session reloaded : Session} {w w' : World ε Files}
    (h : session.reload (env.surroundings root settings) w = (reloaded, w')) (n : Nat) :
    let records := reloaded.polls env root settings reloaded.collections w'
    (∃ error, tally reloaded records = .error error) ∧
        history env root settings (some session) (List.replicate (n + 1) .cycle) w = records ∨
      ∃ progress, tally reloaded records = .ok progress ∧
        history env root settings (some session) (List.replicate (n + 1) .cycle) w =
          records ++ history env root settings
            (some { reloaded with lastSuccess := progress.succeeded }) (List.replicate n .cycle)
            (final w' records) := by
  intro records
  have hpolls : directivePolls env root settings (some session) .cycle w = records := by
    rw [directivePolls, h]
  have hobey := obey_cycle env root settings h
  rw [List.replicate_succ]
  cases ht : tally reloaded records with
  | error error =>
    rw [ht] at hobey
    refine .inl ⟨⟨error, rfl⟩, ?_⟩
    rw [history_cons env root settings hobey, hpolls, history_none, List.append_nil]
  | ok progress =>
    rw [ht] at hobey
    refine .inr ⟨progress, rfl, ?_⟩
    rw [history_cons env root settings hobey, hpolls]

/-- From where the collection is tracked, no poll misses anything. -/
theorem complete_of_tracked (hf : Faithful env settings remote c) (n : Nat) {session : Session}
    {w : World ε Files} (hd : session.Distinct)
    (hw : ∀ r ∈ history env root settings (some session) (List.replicate n .cycle) w,
      r.Watched env root settings c)
    (ht : Tracked env root settings remote c session.lastSuccess w) {r : PollRecord ε}
    (hr : r ∈ history env root settings (some session) (List.replicate n .cycle) w)
    (hc : r.collection.id = c) (hs : r.Succeeds) : r.Complete env root settings remote := by
  induction n generalizing session w with
  | zero => cases hr
  | succ n ih =>
    have hfollows := reload_follows env root settings session w
    cases hreload : session.reload (env.surroundings root settings) w with
    | mk reloaded w' =>
      rw [hreload] at hfollows
      obtain ⟨hlast, hdistinct⟩ := reload_lastSuccess hreload
      have htracked := ht.follows hf.law hfollows
      rw [← hlast] at htracked
      have hcycle : (∀ r ∈ reloaded.polls env root settings reloaded.collections w',
            r.Watched env root settings c) →
          Tracks env root settings remote c ⟨⟨0, 0, 0, 0⟩, reloaded.lastSuccess⟩
            (reloaded.polls env root settings reloaded.collections w') w' :=
        fun hwatched => tracks_polls hf reloaded (hdistinct hd) (fun _ => rfl) hwatched htracked
      rcases history_cycle hreload n with ⟨-, hhistory⟩ | ⟨progress, htally, hhistory⟩
      · rw [hhistory] at hr hw
        exact (hcycle hw).complete hr hc hs
      · rw [hhistory] at hr hw
        have htracks := hcycle fun r h => hw r (List.mem_append_left _ h)
        rcases List.mem_append.mp hr with hr | hr
        · exact htracks.complete hr hc hs
        · have hnext : Distinct { reloaded with lastSuccess := progress.succeeded } := hdistinct hd
          exact ih hnext (fun r h => hw r (List.mem_append_right _ h)) (htracks.tracked htally) hr

/-- From where the collection was seeded, no poll misses anything. -/
theorem complete_of_seeded (hf : Faithful env settings remote c) (n : Nat) {session : Session}
    {w : World ε Files} (hd : session.Distinct)
    (hw : ∀ r ∈ history env root settings (some session) (List.replicate n .cycle) w,
      r.Watched env root settings c)
    {before after : List (PollRecord ε)} {r : PollRecord ε}
    (hr : history env root settings (some session) (List.replicate n .cycle) w =
      before ++ r :: after)
    (hseeded : ∃ s ∈ before ++ [r], s.collection.id = c ∧ s.result = .ok .seeded)
    (hc : r.collection.id = c) (hs : r.Succeeds) : r.Complete env root settings remote := by
  induction n generalizing session w before with
  | zero => exact absurd hr.symm (List.append_ne_nil_of_right_ne_nil _ (List.cons_ne_nil _ _))
  | succ n ih =>
    obtain ⟨s, hmem, hseeds⟩ := hseeded
    cases hreload : session.reload (env.surroundings root settings) w with
    | mk reloaded w' =>
      obtain ⟨-, hdistinct⟩ := reload_lastSuccess hreload
      have hcycle : (∀ r ∈ reloaded.polls env root settings reloaded.collections w',
            r.Watched env root settings c) →
          s ∈ reloaded.polls env root settings reloaded.collections w' →
          Tracks env root settings remote c ⟨⟨0, 0, 0, 0⟩, reloaded.lastSuccess⟩
            (reloaded.polls env root settings reloaded.collections w') w' :=
        fun hwatched hs =>
          tracks_polls_of_seeded hf reloaded (hdistinct hd) hwatched ⟨s, hs, hseeds⟩
      -- The seeding and the poll in question are in this cycle.
      have hwithin : ∀ others, reloaded.polls env root settings reloaded.collections w' =
            before ++ r :: others →
          (∀ r ∈ reloaded.polls env root settings reloaded.collections w',
            r.Watched env root settings c) → r.Complete env root settings remote := by
        intro others hrecords hwatched
        refine (hcycle hwatched ?_).complete ?_ hc hs
        · rw [hrecords, List.append_cons]
          exact List.mem_append_left _ hmem
        · rw [hrecords]
          exact List.mem_append_right _ List.mem_cons_self
      rcases history_cycle hreload n with ⟨-, hhistory⟩ | ⟨progress, htally, hhistory⟩
      · rw [hhistory] at hr hw
        exact hwithin after hr hw
      · rw [hhistory] at hr hw
        have hfirst := fun r h => hw r (List.mem_append_left _ h)
        have hlater := fun r h => hw r (List.mem_append_right _ h)
        have hnext : Distinct { reloaded with lastSuccess := progress.succeeded } := hdistinct hd
        rcases append_eq_append_cons hr with ⟨others, hrecords⟩ | ⟨between, rfl, hrest⟩
        · exact hwithin others hrecords hfirst
        rw [List.append_assoc] at hmem
        rcases List.mem_append.mp hmem with hmem | hmem
        · refine complete_of_tracked hf n hnext hlater ((hcycle hfirst hmem).tracked htally) ?_ hc
            hs
          rw [hrest]
          exact List.mem_append_right _ List.mem_cons_self
        · exact ih hnext hlater hrest ⟨s, hmem, hseeds⟩

/-- No edit is lost. Whatever happens to the remote store and to the rules in between, and whichever
queries fail: once a session has seeded the collection, each of its polls of the collection that
ends well is complete. -/
theorem complete_history (hf : Faithful env settings remote c) (n : Nat) (w : World ε Files)
    (hw : ∀ r ∈ history env root settings none (.restart :: List.replicate n .cycle) w,
      r.Watched env root settings c)
    {before after : List (PollRecord ε)} {r : PollRecord ε}
    (hr : history env root settings none (.restart :: List.replicate n .cycle) w =
      before ++ r :: after)
    (hseeded : ∃ s ∈ before ++ [r], s.collection.id = c ∧ s.result = .ok .seeded)
    (hc : r.collection.id = c) (hs : r.Succeeds) : r.Complete env root settings remote := by
  cases hstart : start (env.surroundings root settings) w with
  | mk result w' =>
    cases result with
    | error error =>
      have hobey : obey (env.surroundings root settings) none .restart w = ((none, none), w') :=
        bind_run hstart
      rw [history_cons env root settings hobey, history_none] at hr
      exact absurd hr.symm (List.append_ne_nil_of_right_ne_nil _ (List.cons_ne_nil _ _))
    | ok session =>
      have hobey : obey (env.surroundings root settings) none .restart w =
          ((some session, none), w') := bind_run hstart
      have hhistory := history_cons env root settings hobey (List.replicate n .cycle)
      rw [hhistory] at hr hw
      exact complete_of_seeded hf n (start_lastSuccess hstart).1 hw hr hseeded hc hs

end Session

end

/-! ### A run -/

theorem ofText?_doneEntry :
    RuleFile.ofText? (RuleFile.text [("c-1", [doneEntry])]) = some [("c-1", [doneEntry])] := by
  rw [RuleFile.ofText?, RuleFile.text, Draft.ofText?_pretty]
  rfl

/-- A note of a remote store before and after it is edited. -/
def editedNote (edited : Bool) : Entry :=
  ⟨noted (if edited then "new" else "old"), edited.toNat⟩

/-- A remote store with this note. -/
def noteRemote : Remote Bool where
  time edited := edited.toNat
  current edited collection key :=
    if collection = "c1" ∧ key = "n1" then some (editedNote edited) else none
  content _ _ := False

open Classical in
/-- The environment with this store. The note is edited while the answer to the first query is on
its way. -/
noncomputable def noteStore : Environment Bool where
  query collection _ filter edited :=
    (.ok (if collection = "c1" ∧ noteRemote.Covers (editedNote edited) filter then
      [(editedNote edited).record] else []), true)
  items _ _ := return .ok []
  update _ _ := return .ok ()
  notify _ := return .ok ()
  now edited := (⟨(Instant.ofNanoseconds? edited.toNat).getD default, .utc⟩, edited)
  rules := return .ok (RuleFile.text [("c-1", [doneEntry])]).toUTF8
  rulesModified := return .ok 0
  sees _ := return true
  reads _ := return true
  breaks _ := return none
  moves _ := return true

theorem key_editedNote (edited : Bool) : (editedNote edited).record.key = "n1" := by
  show plainId "n-1" = "n1"
  decide

theorem current_noteRemote {edited : Bool} {collection key : String} {entry : Entry} :
    noteRemote.current edited collection key = some entry ↔
      (collection = "c1" ∧ key = "n1") ∧ editedNote edited = entry := by
  show (if collection = "c1" ∧ key = "n1" then some (editedNote edited) else none) = _ ↔ _
  split <;> simp [*]

theorem moves_edited (edited : Bool) : noteRemote.Moves 600000000000 edited true := by
  cases edited with
  | true => exact .refl true
  | false =>
    refine ⟨by decide, fun collection key => ?_⟩
    by_cases h : collection = "c1" ∧ key = "n1"
    · exact .inr ⟨editedNote true, 1, if_pos h, by decide, by decide, by decide, by decide⟩
    · exact .inl ((if_neg h).trans (if_neg h).symm)

theorem law_noteStore : noteRemote.Law 600000000000 noteStore where
  step h := by
    cases h with
    | query _ _ _ => exact moves_edited _
    | _ => exact .refl _
  clock e := by cases e <;> exact ⟨by decide, by decide⟩
  key h := by
    obtain ⟨⟨-, rfl⟩, rfl⟩ := current_noteRemote.mp h
    exact key_editedNote _
  answer {e collection filter latest} h := by
    refine ⟨e, .refl e, moves_edited e, fun record => ?_⟩
    cases h
    classical
    rw [List.mem_ite_nil_right, List.mem_singleton]
    constructor
    · rintro ⟨⟨hc, hcovers⟩, rfl⟩
      exact ⟨_, current_noteRemote.mpr ⟨⟨hc, key_editedNote e⟩, rfl⟩, rfl, hcovers⟩
    · rintro ⟨entry, he, rfl, hcovers⟩
      obtain ⟨⟨hc, -⟩, rfl⟩ := current_noteRemote.mp he
      exact ⟨⟨hc, hcovers⟩, rfl⟩

/-- The settings of a listener for this store; the padding is ten minutes. -/
def noteSettings : Settings := ⟨"rules", 3600, 600⟩

theorem faithful_noteStore : Faithful noteStore noteSettings noteRemote "c1" where
  sound := ⟨fun _ _ => rfl, fun _ _ => rfl, fun _ _ => rfl, fun _ _ => rfl⟩
  law := law_noteStore
  legible h := by
    obtain ⟨-, rfl⟩ := current_noteRemote.mp h
    exact legible_noted _

/-- The session that starts with the rules of this environment. -/
def noteSession (lastSuccess : Fields Instant) : Session :=
  ⟨[doneCollection], some 0, lastSuccess, default⟩

theorem start_noteStore (store : Files) :
    Session.start (noteStore.surroundings "store" noteSettings) ⟨false, store, []⟩ =
      (.ok (noteSession []), ⟨false, store, []⟩) := by
  have hstart := Session.start_of_text (s := noteStore.surroundings "store" noteSettings)
    (w := ⟨false, store, []⟩) rfl rfl ofText?_doneEntry (fun _ _ => rfl) rfl
  exact hstart

theorem reload_noteSession (lastSuccess : Fields Instant) (w : World Bool Files) :
    (noteSession lastSuccess).reload (noteStore.surroundings "store" noteSettings) w =
      (noteSession lastSuccess, w) := rfl

theorem watched_noteStore {r : PollRecord Bool} (hr : r.Polled noteStore "store" noteSettings)
    (hc : r.collection = doneCollection) : r.Watched noteStore "store" noteSettings "c1" where
  place := snapshot_ne_rulesPath _ _ noteSettings r.collection (by decide)
  own _ := congrArg Collection.id hc
  unfiltered _ := ⟨doneEntry.toRule 0, by rw [hc]; exact List.mem_singleton.mpr rfl, rfl⟩
  whole _ rule hrule := by
    rw [hc] at hrule
    rw [List.mem_singleton.mp hrule]
    rfl
  range _ := by
    obtain ⟨session, collection, w, rfl⟩ := hr
    have hnow : ∀ edited, ((noteStore.now edited).1.instant.sub? noteSettings.padding).isSome := by
      decide
    exact hnow w.env

theorem succeeds_noteStore {r : PollRecord Bool} (hr : r.Polled noteStore "store" noteSettings)
    (hc : r.collection = doneCollection) {base : List Record}
    (hb : SnapshotStore.base? "c1"
      (r.before.store ((noteStore.store "store" noteSettings).path "c1")) = some base) :
    r.Succeeds ∧ (r.before.store ((noteStore.store "store" noteSettings).path "c1") = none →
      r.result = .ok .seeded) := by
  have hplace := snapshot_ne_rulesPath noteStore "store" noteSettings r.collection (by decide)
  have h := hr.succeeds faithful_noteStore.sound hplace (fun _ _ => ⟨_, rfl⟩) base
  rw [hc] at h
  exact h hb

namespace Session

theorem history_noteStore (lastSuccess : Fields Instant) (w : World Bool Files) :
    history noteStore "store" noteSettings (some (noteSession lastSuccess)) [.cycle] w =
      [(noteSession lastSuccess).record noteStore "store" noteSettings doneCollection w] := by
  have hpolls := polls_singleton noteStore "store" noteSettings (noteSession lastSuccess)
    doneCollection w
  rcases history_cycle (reload_noteSession lastSuccess w) 0 with ⟨-, h⟩ | ⟨progress, -, h⟩
  · exact h.trans hpolls
  · exact h.trans (congrArg (· ++ []) hpolls)

/-- Two cycles of which the first one seeds. -/
theorem history_noteStore_seeded {w : World Bool Files} {first : PollRecord Bool}
    (h : first = (noteSession []).record noteStore "store" noteSettings doneCollection w)
    (hr : first.result = .ok .seeded) :
    ∃ lastSuccess, history noteStore "store" noteSettings (some (noteSession [])) [.cycle, .cycle]
      w = [first, (noteSession lastSuccess).record noteStore "store" noteSettings doneCollection
        first.after] := by
  have hpolls : (noteSession []).polls noteStore "store" noteSettings
      (noteSession []).collections w = [first] :=
    h ▸ polls_singleton noteStore "store" noteSettings (noteSession []) doneCollection w
  rcases history_cycle (reload_noteSession [] w) 1 with ⟨⟨error, he⟩, -⟩ | ⟨progress, -, hhistory⟩
  · rw [hpolls, tally, advance_ok hr] at he
    cases he
  · refine ⟨progress.succeeded, hhistory.trans ?_⟩
    rw [hpolls]
    exact congrArg (first :: ·) (history_noteStore progress.succeeded first.after)

/-- A run over two cycles. The first one seeds the collection and the note is edited; the second one
finds it. -/
theorem complete_history_note :
    ∃ first second : PollRecord Bool,
      history noteStore "store" noteSettings none [.restart, .cycle, .cycle]
        ⟨false, fun _ => none, []⟩ = [first, second] ∧
      first.result = .ok .seeded ∧ second.Succeeds ∧
      second.Complete noteStore "store" noteSettings noteRemote := by
  obtain ⟨w, hw⟩ : ∃ w : World Bool Files, w = ⟨false, fun _ => none, []⟩ := ⟨_, rfl⟩
  obtain ⟨first, hfirst⟩ : ∃ r : PollRecord Bool,
    r = (noteSession []).record noteStore "store" noteSettings doneCollection w := ⟨_, rfl⟩
  have hpolled : first.Polled noteStore "store" noteSettings := ⟨_, _, _, hfirst⟩
  have hcollection : first.collection = doneCollection := by rw [hfirst, record]
  have hbefore : first.before.store = fun _ => none := by
    rw [hfirst, (record_before _ _ _ _ _ _).store, hw]
  have hwatched := watched_noteStore hpolled hcollection
  have hbase : SnapshotStore.base? "c1" (first.before.store
      ((noteStore.store "store" noteSettings).path "c1")) = some [] := by
    rw [hbefore]
    rfl
  have hseeded := (succeeds_noteStore hpolled hcollection hbase).2 (by rw [hbefore])
  obtain ⟨-, stored, hloaded, -⟩ := (hpolled.ends hwatched.place).complete_of_seeded
    faithful_noteStore hwatched (congrArg Collection.id hcollection)
    (hpolled.began_le law_noteStore) hseeded
  obtain ⟨lastSuccess, hcycles⟩ := history_noteStore_seeded hfirst hseeded
  obtain ⟨second, hsecond⟩ : ∃ r : PollRecord Bool, r = (noteSession lastSuccess).record noteStore
    "store" noteSettings doneCollection first.after := ⟨_, rfl⟩
  rw [← hsecond] at hcycles
  have hpolled' : second.Polled noteStore "store" noteSettings := ⟨_, _, _, hsecond⟩
  have hcollection' : second.collection = doneCollection := by rw [hsecond, record]
  have hstore : second.before.store = first.after.store := by
    rw [hsecond, (record_before _ _ _ _ _ _).store]
  have hbase' := SnapshotStore.base?_of_loaded hloaded
  rw [← hstore] at hbase'
  have hsucceeds := (succeeds_noteStore hpolled' hcollection' hbase').1
  have hstart : obey (noteStore.surroundings "store" noteSettings) none .restart w =
      ((some (noteSession []), none), w) := by
    rw [hw]
    exact bind_run (start_noteStore _)
  have hhistory : history noteStore "store" noteSettings none [.restart, .cycle, .cycle] w =
      [first] ++ second :: [] := by
    rw [history_cons _ _ _ hstart, hcycles]
    rfl
  refine ⟨first, second, hw ▸ hhistory, hseeded, hsucceeds, ?_⟩
  refine complete_history faithful_noteStore 2 w (fun r hr => ?_) hhistory
    ⟨first, List.mem_cons_self, congrArg Collection.id hcollection, hseeded⟩
    (congrArg Collection.id hcollection') hsucceeds
  have hr' : r ∈ history noteStore "store" noteSettings none [.restart, .cycle, .cycle] w := hr
  rw [hhistory] at hr'
  rcases List.mem_cons.mp hr' with rfl | hr'
  · exact hwatched
  · rw [List.mem_singleton.mp hr']
    exact watched_noteStore hpolled' hcollection'

end Session

end RecordWatch
