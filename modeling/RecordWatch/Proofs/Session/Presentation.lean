import RecordWatch.Proofs.Session.History
import RecordWatch.Proofs.Session.Indifference
import RecordWatch.Proofs.Snapshot.Rearranged

/-! Queries whose results are presented in another way. A session cannot tell them apart: it finds
the same changes, makes the same calls and comes to the same, and what it stores says the same. So
two runs that differ in nothing else go side by side, in worlds that agree on everything but the
order and the spelling of ids in their files. -/

namespace RecordWatch

/-! ### Files that say the same -/

/-- Files with contents that are loaded as lists that say the same. -/
def SameFiles (files files' : Files) : Prop := ∀ path, SameContent (files path) (files' path)

theorem SameFiles.update {files files' : Files} (h : SameFiles files files') (path : String)
    {content content' : Option ByteArray} (hc : SameContent content content') :
    SameFiles (Function.update files path content) (Function.update files' path content') := by
  intro other
  by_cases ho : other = path
  · rw [ho, Function.update_self, Function.update_self]
    exact hc
  · rw [Function.update_of_ne ho, Function.update_of_ne ho]
    exact h other

section

variable {ε α β : Type}

theorem relates_touch {Q : α → β → Prop} {step : Files → α × Files} {step' : Files → β × Files}
    (h : ∀ files files', SameFiles files files' →
      Q (step files).1 (step' files').1 ∧ SameFiles (step files).2 (step' files').2) :
    Relates (World.Agree SameFiles) Q (World.touch (ε := ε) step)
      (World.touch (ε := ε) step') := by
  intro w v hw
  obtain ⟨hresult, hfiles⟩ := h w.store v.store hw.store
  exact ⟨hresult, hw.env, hw.calls, hfiles⟩

variable (env : Environment ε)

theorem relates_write (path : String) {bytes bytes' : ByteArray}
    (hb : SameContent (some bytes) (some bytes')) :
    Relates (World.Agree SameFiles) Eq (World.write env path bytes)
      (World.write env path bytes') := by
  rw [World.write_eq, World.write_eq]
  refine (relates_ambient (env.breaks path)).bind_eq fun broken =>
    relates_touch fun files files' h => ?_
  cases broken with
  | none => exact ⟨rfl, h.update path hb⟩
  | some left => exact ⟨rfl, h.update path (.refl left)⟩

theorem relates_rename (source target : String) :
    Relates (World.Agree SameFiles) Eq (World.rename env source target)
      (World.rename env source target) := by
  rw [World.rename_eq]
  refine (relates_ambient (env.moves source)).bind_eq fun movable =>
    relates_touch fun files files' h => ?_
  cases movable with
  | false => exact ⟨rfl, h⟩
  | true =>
    have hsource := h source
    rw [Files.moved, Files.moved, if_pos rfl, if_pos rfl]
    cases hf : files source with
    | none =>
      cases hf' : files' source with
      | none => exact ⟨rfl, h⟩
      | some bytes =>
        rw [hf, hf'] at hsource
        cases hsource.isSome
    | some bytes =>
      cases hf' : files' source with
      | none =>
        rw [hf, hf'] at hsource
        cases hsource.isSome
      | some bytes' =>
        rw [hf, hf'] at hsource
        exact ⟨rfl, (h.update source (.refl none)).update target hsource⟩

/-! ### Snapshots -/

variable (root : String) (settings : Settings)

namespace SnapshotStore

theorem relates_contains (collection : String) :
    Relates (World.Agree SameFiles) Eq ((env.store root settings).contains collection)
      ((env.store root settings).contains collection) := by
  intro w v hw
  rw [contains_run, contains_run, hw.env, (hw.store _).isSome]
  exact ⟨rfl, rfl, hw.calls, hw.store⟩

/-- Snapshots are loaded as lists that say the same. -/
theorem relates_load (collection : String) :
    Relates (World.Agree SameFiles) (Ended SameByKey)
      ((env.store root settings).load collection) ((env.store root settings).load collection) := by
  by_cases hp : (env.store root settings).path collection = settings.rulesPath
  · have hread : Relates (World.Agree SameFiles) Eq
        ((env.disk settings.rulesPath).read ((env.store root settings).path collection))
        ((env.disk settings.rulesPath).read ((env.store root settings).path collection)) := by
      rw [env.disk_rules hp]
      exact relates_ambient env.rules
    exact Relates.imp ((Likeness.relates (World.Agree SameFiles)).load hread)
      fun loaded _ heq => heq ▸ Ended.refl SameByKey.refl loaded
  · intro w v hw
    rw [load_run env root settings hp, load_run env root settings hp, hw.env]
    refine ⟨?_, rfl, hw.calls, hw.store⟩
    dsimp only
    split
    · exact (hw.store _).loaded collection
    · exact .error StoreError.io

theorem relates_save (collection : String) {records others : List Record}
    (h : SameByKey records others) :
    Relates (World.Agree SameFiles) Eq ((env.store root settings).save collection records)
      ((env.store root settings).save collection others) := by
  refine (relates_write env _ h.content).bind_eq fun written => ?_
  cases written with
  | error error => exact .pure rfl
  | ok _ =>
    refine (relates_rename env _ _).bind_eq fun moved => ?_
    cases moved with
    | error error => exact .pure rfl
    | ok _ => exact .pure rfl

/-- Merged lists say the same again. -/
theorem relates_merge (collection : String) {latest latest' : List Record}
    (hl : Presents latest latest') :
    Relates (World.Agree SameFiles) (Ended SameByKey)
      ((env.store root settings).merge collection latest)
      ((env.store root settings).merge collection latest') := by
  refine (relates_load env root settings collection).bind fun loaded loaded' hloaded => ?_
  cases hloaded with
  | ok hstored =>
    refine (Relates.pure hstored).bind fun stored stored' hstored => ?_
    have hkept := hstored.overlay hl.find?
    refine (relates_save env root settings collection hkept).bind_eq fun saved => ?_
    cases saved with
    | error error => exact .pure (.error error)
    | ok _ => exact .pure (.ok hkept)
  | error error =>
    cases error with
    | notFound _ =>
      refine (Relates.pure (SameByKey.refl [])).bind fun stored stored' hstored => ?_
      have hkept := hstored.overlay hl.find?
      refine (relates_save env root settings collection hkept).bind_eq fun saved => ?_
      cases saved with
      | error error => exact .pure (.error error)
      | ok _ => exact .pure (.ok hkept)
    | io => exact .pure (.error StoreError.io)
    | json => exact .pure (.error StoreError.json)

theorem relates_quarantine (collection : String) :
    Relates (World.Agree SameFiles) Eq ((env.store root settings).quarantine collection)
      ((env.store root settings).quarantine collection) :=
  (Likeness.relates (World.Agree SameFiles)).quarantine (relates_rename env _ _)

end SnapshotStore

/-! ### What asks no query -/

/-- Two snapshots that say the same. -/
inductive Stored.Same : Stored → Stored → Prop where
  | missing : Same .missing .missing
  | records {stored stored' : List Record} (h : SameByKey stored stored') :
    Same (.records stored) (.records stored')
  | unusable : Same .unusable .unusable

/-- Two polls that work with lists that say the same. -/
inductive Gathered.Same : Gathered → Gathered → Prop where
  | nothing : Same .nothing .nothing
  | seeding {latest latest' : List Record} (hl : Presents latest latest') :
    Same (.seeding latest) (.seeding latest')
  | comparison {stored stored' latest latest' : List Record} (hs : SameByKey stored stored')
    (hl : Presents latest latest') : Same (.comparison stored latest) (.comparison stored' latest')

namespace Surroundings

theorem relates_stored (collection : Collection) :
    Relates (World.Agree SameFiles) (Ended Stored.Same)
      ((env.surroundings root settings).stored collection).run
      ((env.surroundings root settings).stored collection).run := by
  refine .run_bind (.run_lift (SnapshotStore.relates_contains env root settings collection.id)) ?_
  rintro contained _ rfl
  cases contained with
  | false => exact .run_pure .missing
  | true =>
    refine .run_bind (.run_lift (SnapshotStore.relates_load env root settings collection.id)) ?_
    intro loaded loaded' hloaded
    cases hloaded with
    | ok hstored => exact .run_pure (.records hstored)
    | error error =>
      cases error with
      | notFound _ => exact .run_pure .unusable
      | io => exact .run_pure .unusable
      | json =>
        refine .run_bind
          (.run_lift (SnapshotStore.relates_quarantine env root settings collection.id)) ?_
        rintro moved _ rfl
        cases moved with
        | ok aside => exact .run_pure .unusable
        | error error => exact .run_throw _

/-- The same rules fire on the same changes. -/
theorem relates_evaluate (collection : Collection) {stored stored' latest latest' : List Record}
    (hs : SameByKey stored stored') (hl : Presents latest latest') :
    Relates (World.Agree SameFiles) Eq
      ((env.surroundings root settings).evaluate collection stored latest)
      ((env.surroundings root settings).evaluate collection stored' latest') := by
  have hchanges := Delta.changes_of_presents hs.find? hl collection.activeProperties
  have hrun := evaluate_run env root settings (env.disk settings.rulesPath) collection
  have hevaluate : (env.surroundings root settings).evaluate collection stored latest =
      (env.surroundings root settings).evaluate collection stored' latest' := by
    funext w
    refine (hrun stored latest w).trans ?_
    rw [hchanges]
    exact (hrun stored' latest' w).symm
  rw [← hevaluate]
  exact (related_around env _ _ root settings).evaluate collection stored latest

theorem relates_merge (collection : Collection) {latest latest' : List Record}
    (hl : Presents latest latest') :
    Relates (World.Agree SameFiles) (Ended SameByKey)
      ((env.surroundings root settings).merge collection latest).run
      ((env.surroundings root settings).merge collection latest').run := by
  refine (SnapshotStore.relates_merge env root settings collection.id hl).bind
    fun kept kept' hkept => ?_
  cases hkept with
  | ok hkept => exact .run_pure hkept
  | error error => exact .run_throw (SessionError.store error)

end Surroundings

theorem Session.relates_settle (collection : Collection) {gathered gathered' : Gathered}
    (h : Gathered.Same gathered gathered') :
    Relates (World.Agree SameFiles) (Ended Eq)
      (settle (env.surroundings root settings) collection gathered).run
      (settle (env.surroundings root settings) collection gathered').run := by
  cases h with
  | nothing => exact .run_pure rfl
  | seeding hl =>
    refine .run_bind (Surroundings.relates_merge env root settings collection hl) ?_
    exact fun _ _ _ => .run_pure rfl
  | comparison hs hl =>
    refine .run_bind
      (.run_lift (Surroundings.relates_evaluate env root settings collection hs hl)) ?_
    rintro poll _ rfl
    refine .run_bind (Surroundings.relates_merge env root settings collection hl) ?_
    exact fun _ _ _ => .run_pure rfl

end

/-! ### Polls and runs -/

/-- The environment with its queries answered in another way. -/
def Environment.withQueries {ε : Type} (env : Environment ε)
    (query : String → Option (List String) → Option Json →
      StateM ε (Except ApiError (List Record))) : Environment ε :=
  { env with query }

/-- Another way to answer the queries of an environment, in which every result says the same. -/
def Environment.Rearranges {ε : Type} (env : Environment ε)
    (query : String → Option (List String) → Option Json →
      StateM ε (Except ApiError (List Record))) : Prop :=
  ∀ collection properties filter,
    Relates Eq (Ended Presents) (env.query collection properties filter)
      (query collection properties filter)

section

variable {ε : Type} {env : Environment ε}
  {query : String → Option (List String) → Option Json → StateM ε (Except ApiError (List Record))}
  (root : String) (settings : Settings)

variable (env query) in
theorem rulesAlike_withQueries :
    Surroundings.RulesAlike (.relates (World.Agree SameFiles)) (env.surroundings root settings)
      ((env.withQueries query).surroundings root settings) :=
  Environment.rulesAlike root settings (relates_ambient env.rulesModified)
    (relates_ambient env.rules) (relates_ambient env.now)

theorem Surroundings.relates_fetch (h : env.Rearranges query) (collection : Collection)
    (lookback : Option Json) :
    Relates (World.Agree SameFiles) (Option.Rel Presents)
      ((env.surroundings root settings).fetch collection lookback)
      (((env.withQueries query).surroundings root settings).fetch collection lookback) := by
  refine (relates_answers (h collection.id collection.filterProperties
    (collection.filter? lookback)) _).bind fun answer answer' hanswer => ?_
  cases hanswer with
  | ok hlatest => exact .pure (.some hlatest)
  | error error => exact .pure .none

namespace Session

theorem relates_gather (h : env.Rearranges query) (session : Session) (collection : Collection) :
    Relates (World.Agree SameFiles) (Ended Gathered.Same)
      (session.gather (env.surroundings root settings) collection).run
      (session.gather ((env.withQueries query).surroundings root settings) collection).run := by
  have hfetch := Surroundings.relates_fetch root settings h collection
  refine .run_bind (Surroundings.relates_stored env root settings collection) ?_
  intro stored stored' hstored
  cases hstored with
  | missing =>
    refine .run_bind (.run_lift (hfetch none)) fun answer answer' hanswer => ?_
    cases hanswer with
    | none => exact .run_pure .nothing
    | some hlatest => exact .run_pure (.seeding hlatest)
  | records hsame =>
    refine .run_bind (.run_lift (hfetch (session.lookback settings collection.id)))
      fun answer answer' hanswer => ?_
    cases hanswer with
    | none => exact .run_pure .nothing
    | some hlatest => exact .run_pure (.comparison hsame hlatest)
  | unusable => exact .run_pure .nothing

/-- A poll comes to the same. -/
theorem relates_poll (h : env.Rearranges query) (session : Session) (collection : Collection) :
    Relates (World.Agree SameFiles) Eq
      (session.poll (env.surroundings root settings) collection).run
      (session.poll ((env.withQueries query).surroundings root settings) collection).run := by
  rw [poll_eq, poll_eq]
  exact Relates.imp (.run_bind (relates_gather root settings h session collection)
    fun _ _ hsame => relates_settle env root settings collection hsame) fun _ _ => Ended.eq

theorem relates_obey (h : env.Rearranges query) (session : Option Session)
    (directive : Directive) :
    Relates (World.Agree SameFiles) Eq
      (obey (env.surroundings root settings) session directive)
      (obey ((env.withQueries query).surroundings root settings) session directive) :=
  obey_alike (rulesAlike_withQueries env query root settings) (relates_poll root settings h)
    session directive

end Session

/-- The changes that a poll finds. -/
def PollRecord.changes (r : PollRecord ε) : Changes :=
  match r.gathered with
  | .ok (.comparison stored latest) =>
    Delta.changes stored latest r.collection.activeProperties
  | _ => []

/-- Two polls of a collection that find the same changes, come to the same and have then made the
same calls, deliveries among them. -/
structure PollRecord.Same (r r' : PollRecord ε) : Prop where
  collection : r.collection = r'.collection
  changes : r.changes = r'.changes
  result : r.result = r'.result
  calls : r.after.calls = r'.after.calls

theorem PollRecord.changes_of_gathered {r r' : PollRecord ε} (hc : r.collection = r'.collection)
    (hg : Ended Gathered.Same r.gathered r'.gathered) : r.changes = r'.changes := by
  rw [changes, changes, hc]
  generalize r.gathered = gathered at hg ⊢
  generalize r'.gathered = gathered' at hg ⊢
  cases hg with
  | ok hg =>
    cases hg with
    | nothing => rfl
    | seeding hl => rfl
    | comparison hs hl => exact Delta.changes_of_presents hs.find? hl _
  | error error => rfl

namespace Session

theorem same_record (h : env.Rearranges query) (session : Session) (collection : Collection)
    {w v : World ε Files} (hw : World.Agree SameFiles w v) :
    PollRecord.Same (session.record env root settings collection w)
        (session.record (env.withQueries query) root settings collection v) ∧
      World.Agree SameFiles (session.record env root settings collection w).after
        (session.record (env.withQueries query) root settings collection v).after := by
  obtain ⟨-, hbefore⟩ := relates_ambient (S := SameFiles) env.now w v hw
  obtain ⟨hgathered, -⟩ := relates_gather root settings h session collection _ _ hbefore
  obtain ⟨hresult, hafter⟩ := relates_poll root settings h session collection _ _ hbefore
  exact ⟨⟨rfl, PollRecord.changes_of_gathered rfl hgathered, hresult, hafter.calls⟩, hafter⟩

theorem same_polls (h : env.Rearranges query) (session : Session) (collections : List Collection)
    {w v : World ε Files} (hw : World.Agree SameFiles w v) :
    List.Forall₂ PollRecord.Same (session.polls env root settings collections w)
      (session.polls (env.withQueries query) root settings collections v) := by
  induction collections generalizing w v with
  | nil => exact .nil
  | cons collection rest ih =>
    obtain ⟨hsame, hafter⟩ := same_record root settings h session collection hw
    cases hr : (session.record env root settings collection w).result with
    | error error =>
      rw [polls_error env root settings hr,
        polls_error (env.withQueries query) root settings (hsame.result.symm.trans hr)]
      exact .cons hsame .nil
    | ok poll =>
      rw [polls_ok env root settings hr,
        polls_ok (env.withQueries query) root settings (hsame.result.symm.trans hr)]
      exact .cons hsame (ih hafter)

theorem same_directivePolls (h : env.Rearranges query) (session : Option Session)
    (directive : Directive) {w v : World ε Files} (hw : World.Agree SameFiles w v) :
    List.Forall₂ PollRecord.Same (directivePolls env root settings session directive w)
      (directivePolls (env.withQueries query) root settings session directive v) := by
  cases session with
  | none => cases directive <;> exact .nil
  | some session =>
    cases directive with
    | restart => exact .nil
    | cycle =>
      obtain ⟨hreload, hworld⟩ :=
        (rulesAlike_withQueries env query root settings).reload session w v hw
      rw [directivePolls, directivePolls]
      cases hr : session.reload (env.surroundings root settings) w with
      | mk reloaded w' =>
        cases hr' : session.reload ((env.withQueries query).surroundings root settings) v with
        | mk reloaded' v' =>
          rw [hr, hr'] at hreload hworld
          cases hreload
          exact same_polls root settings h reloaded reloaded.collections hworld

theorem same_history (h : env.Rearranges query) (session : Option Session)
    (directives : List Directive) {w v : World ε Files} (hw : World.Agree SameFiles w v) :
    List.Forall₂ PollRecord.Same (history env root settings session directives w)
      (history (env.withQueries query) root settings session directives v) := by
  induction directives generalizing session w v with
  | nil => exact .nil
  | cons directive rest ih =>
    obtain ⟨hobeyed, hafter⟩ := relates_obey root settings h session directive w v hw
    have hpolls := same_directivePolls root settings h session directive hw
    cases ho : obey (env.surroundings root settings) session directive w with
    | mk obeyed w' =>
      cases ho' : obey ((env.withQueries query).surroundings root settings) session directive v with
      | mk obeyed' v' =>
        rw [ho, ho'] at hobeyed hafter
        cases hobeyed
        rw [history_cons env root settings ho,
          history_cons (env.withQueries query) root settings ho']
        exact List.rel_append hpolls (ih obeyed.1 hafter)

end Session

/-- Two environments between which a session cannot tell. From one state, each cycle comes to the
same, each poll finds the same changes, the same calls are made in the same order, and each snapshot
has the same record of every key afterwards, but for the spelling of its id. -/
structure SameRun (env env' : Environment ε) (root : String) (settings : Settings)
    (session : Option Session) (directives : List Directive) (w : World ε Files) : Prop where
  summaries : (Session.obeyAll (env.surroundings root settings) session directives w).1 =
    (Session.obeyAll (env'.surroundings root settings) session directives w).1
  polls : List.Forall₂ PollRecord.Same
    (Session.history env root settings session directives w)
    (Session.history env' root settings session directives w)
  calls : (Session.obeyAll (env.surroundings root settings) session directives w).2.calls =
    (Session.obeyAll (env'.surroundings root settings) session directives w).2.calls
  snapshots (collection : String) :
    Ended
      (fun records others => ∀ key, (Delta.find? records key).map Record.plain =
        (Delta.find? others key).map Record.plain)
      (SnapshotStore.loaded collection
        ((Session.obeyAll (env.surroundings root settings) session directives w).2.store
          ((env.store root settings).path collection)))
      (SnapshotStore.loaded collection
        ((Session.obeyAll (env'.surroundings root settings) session directives w).2.store
          ((env'.store root settings).path collection)))

/-- How the results of queries are presented makes no difference to a run: neither the order of
their records nor the dashes in ids. -/
theorem Session.sameRun_of_rearranges (h : env.Rearranges query) (session : Option Session)
    (directives : List Directive) (w : World ε Files) :
    SameRun env (env.withQueries query) root settings session directives w := by
  have hsame : World.Agree SameFiles w w := ⟨rfl, rfl, fun path => .refl (w.store path)⟩
  obtain ⟨hsummaries, hworld⟩ := obeyAll_alike (rulesAlike_withQueries env query root settings)
    (relates_poll root settings h) session directives w w hsame
  refine ⟨hsummaries, same_history root settings h session directives hsame, hworld.calls, ?_⟩
  intro collection
  exact ((hworld.store _).loaded collection).imp fun _ _ hkept => hkept.find?

end

/-- An environment with two records. -/
def pairEnvironment : Environment Nat :=
  .answering (fun _ => .ok [noted "a", { noted "b" with id := "n-2" }]) [("c-1", [postEntry])]

/-- Its answer with the second record first and the dashes of both ids in other places. -/
def turnedQuery (_ : String) (_ : Option (List String)) (_ : Option Json) :
    StateM Nat (Except ApiError (List Record)) :=
  fun n => (.ok [{ noted "b" with id := "n2-" }, { noted "a" with id := "n--1" }], n + 1)

theorem rearranges_turnedQuery : pairEnvironment.Rearranges turnedQuery := by
  rintro collection properties filter n _ rfl
  have hnodup : ([noted "a", { noted "b" with id := "n-2" }].map Record.key).Nodup := by decide
  have hfirst : ({ noted "a" with id := "n--1" } : Record).plain = (noted "a").plain :=
    Record.plain_respelled _ (by decide)
  have hsecond : ({ noted "b" with id := "n2-" } : Record).plain =
      ({ noted "b" with id := "n-2" } : Record).plain :=
    Record.plain_respelled { noted "b" with id := "n-2" } (by decide)
  refine ⟨.ok (.rearranged hnodup ?_), rfl⟩
  rw [List.map_cons, List.map_singleton, List.map_cons, List.map_singleton, hfirst, hsecond]
  exact .swap _ _ _

/-- Both records are new and posted, in the order of their keys, however they are presented. -/
theorem sameRun_turnedQuery :
    (Session.obeyAll (pairEnvironment.surroundings "store" ⟨"rules", 3600, 600⟩)
        (some postSession) [.cycle] emptyWorld).1 = [.ok ⟨1, 0, 2, 2⟩] ∧
      SameRun pairEnvironment (pairEnvironment.withQueries turnedQuery) "store"
        ⟨"rules", 3600, 600⟩ (some postSession) [.cycle] emptyWorld :=
  ⟨rfl, Session.sameRun_of_rearranges "store" ⟨"rules", 3600, 600⟩ rearranges_turnedQuery
    (some postSession) [.cycle] emptyWorld⟩

end RecordWatch
