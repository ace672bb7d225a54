import RecordWatch.Proofs.Session.Completeness
import RecordWatch.Proofs.Session.Novelty

/-! Recovery from damaged snapshots. Where no file operation fails and every query is answered, the
content of a snapshot alone decides what becomes of a poll. A text that is not a list of records is
moved aside, and the next poll of the snapshot seeds it anew. Bytes that spell no text are taken for
a file that cannot be read just now: they stay in place, and every poll skips the collection. -/

namespace RecordWatch

section

variable {ε : Type} (env : Environment ε) (root : String) (settings : Settings)

/-- Where a collection's snapshot is moved if it is not a list of records. -/
abbrev Environment.aside (collection : Collection) : String :=
  Path.withExtension (env.snapshot root settings collection) "json.corrupt"

variable {env root settings}

/-! ### Contents -/

namespace SnapshotStore

theorem loaded_eq_io {collection : String} {bytes : ByteArray} :
    loaded collection (some bytes) = .error .io ↔ String.fromUTF8? bytes = none := by
  rw [loaded]
  cases String.fromUTF8? bytes with
  | none => exact iff_of_true rfl rfl
  | some text =>
    dsimp only
    cases Record.listOfText? text <;> simp

theorem spells_of_loaded {collection : String} {bytes : ByteArray}
    {result : Except StoreError (List Record)} (h : loaded collection (some bytes) = result)
    (hne : result ≠ .error .io) : (String.fromUTF8? bytes).isSome := by
  refine Option.isSome_iff_ne_none.mpr fun hnone => hne ?_
  rw [← h, loaded_eq_io.mpr hnone]

/-- A file that is there is loaded, is no list of records, or spells no text. -/
theorem loaded_cases (collection : String) (bytes : ByteArray) :
    (∃ stored, loaded collection (some bytes) = .ok stored) ∨
      loaded collection (some bytes) = .error .json ∨
        loaded collection (some bytes) = .error .io := by
  rw [loaded]
  cases String.fromUTF8? bytes with
  | none => exact .inr (.inr rfl)
  | some text =>
    dsimp only
    cases Record.listOfText? text with
    | none => exact .inr (.inl rfl)
    | some stored => exact .inl ⟨stored, rfl⟩

theorem quarantine_run (hs : env.Sound) {collection : String} {w : World ε Files}
    {bytes : ByteArray} (hc : w.store ((env.store root settings).path collection) = some bytes) :
    (env.store root settings).quarantine collection w =
      (.ok (Path.withExtension ((env.store root settings).path collection) "json.corrupt"), { w with
        env := (env.moves ((env.store root settings).path collection) w.env).2
        store := Function.update
          (Function.update w.store ((env.store root settings).path collection) none)
          (Path.withExtension ((env.store root settings).path collection) "json.corrupt")
          (some bytes) }) := by
  have hrename := rename_run env ((env.store root settings).path collection)
    (Path.withExtension ((env.store root settings).path collection) "json.corrupt") w
  rw [hs.moves, if_pos rfl, hc] at hrename
  exact bind_run hrename

end SnapshotStore

/-! ### One poll -/

section

variable {collection : Collection} {w : World ε Files} {bytes : ByteArray}

theorem stored_run_io (hs : env.Sound)
    (hp : env.snapshot root settings collection ≠ settings.rulesPath)
    (hc : w.store (env.snapshot root settings collection) = some bytes)
    (hl : SnapshotStore.loaded collection.id (some bytes) = .error .io) :
    ∃ e, ((env.surroundings root settings).stored collection).run w =
      (.ok .unusable, { w with env := e }) := by
  have hload := SnapshotStore.load_run env root settings hp
    { w with env := (env.sees (env.snapshot root settings collection) w.env).2 }
  rw [hs.reads, if_pos rfl, hc, hl] at hload
  rw [Surroundings.stored, surroundings_store,
    lift_run (SnapshotStore.contains_run env root settings collection.id w), hc, hs.sees,
    Option.isSome_some, Bool.and_true, if_pos rfl, lift_run hload]
  exact ⟨_, rfl⟩

theorem stored_run_json (hs : env.Sound)
    (hp : env.snapshot root settings collection ≠ settings.rulesPath)
    (hc : w.store (env.snapshot root settings collection) = some bytes)
    (hl : SnapshotStore.loaded collection.id (some bytes) = .error .json) :
    ∃ e, ((env.surroundings root settings).stored collection).run w =
      (.ok .unusable, { w with
        env := e
        store := Function.update
          (Function.update w.store (env.snapshot root settings collection) none)
          (env.aside root settings collection) (some bytes) }) := by
  have hload := SnapshotStore.load_run env root settings hp
    { w with env := (env.sees (env.snapshot root settings collection) w.env).2 }
  rw [hs.reads, if_pos rfl, hc, hl] at hload
  have hmoved := fun e => @SnapshotStore.quarantine_run ε env root settings hs collection.id
    { w with env := e } bytes hc
  rw [Surroundings.stored, surroundings_store,
    lift_run (SnapshotStore.contains_run env root settings collection.id w), hc, hs.sees,
    Option.isSome_some, Bool.and_true, if_pos rfl, lift_run hload]
  dsimp only
  rw [lift_run (hmoved _)]
  exact ⟨_, rfl⟩

end

namespace PollRecord

variable (env root settings) in
/-- What becomes of a poll whose snapshot has some content. -/
inductive Fate (r : PollRecord ε) : Option ByteArray → Prop where
  | seeded {latest : List Record}
    (hg : r.gathered = .ok (.seeding latest))
    (hr : r.result = .ok .seeded) : Fate r none
  | compared {bytes : ByteArray} {stored latest : List Record} {changes fired : Nat}
    (hl : SnapshotStore.loaded r.collection.id (some bytes) = .ok stored)
    (hg : r.gathered = .ok (.comparison stored latest))
    (hr : r.result = .ok (.evaluated changes fired)) : Fate r (some bytes)
  | aside {bytes : ByteArray}
    (hl : SnapshotStore.loaded r.collection.id (some bytes) = .error .json)
    (hr : r.result = .ok .skipped)
    (ha : r.after.store (env.aside root settings r.collection) = some bytes)
    (hn : r.after.store (env.snapshot root settings r.collection) = none) : Fate r (some bytes)
  | stuck {bytes : ByteArray}
    (hu : String.fromUTF8? bytes = none)
    (hr : r.result = .ok .skipped)
    (hk : r.after.store (env.snapshot root settings r.collection) = some bytes) :
    Fate r (some bytes)

/-- A poll of a snapshot that cannot be used is skipped and does nothing more. -/
theorem Polled.of_unusable {r : PollRecord ε} (h : r.Polled env root settings) {w : World ε Files}
    (hu : ((env.surroundings root settings).stored r.collection).run r.before =
      (.ok .unusable, w)) : r.result = .ok .skipped ∧ r.after = w := by
  obtain ⟨session, collection, w', rfl⟩ := h
  have hpoll : (session.poll (env.surroundings root settings) collection).run
      (session.record env root settings collection w').before = (.ok .skipped, w) := ok_run hu
  exact ⟨congrArg Prod.fst hpoll, congrArg Prod.snd hpoll⟩

/-- A poll that succeeds seeded a collection or compared the stored records. -/
theorem Ends.of_succeeds {r : PollRecord ε} (h : r.Ends env root settings) (hr : r.Succeeds) :
    (∃ latest, r.gathered = .ok (.seeding latest) ∧ r.result = .ok .seeded ∧
        (env.Sound → r.before.store (env.snapshot root settings r.collection) = none)) ∨
      ∃ stored latest changes fired,
        SnapshotStore.loaded r.collection.id
          (r.before.store (env.snapshot root settings r.collection)) = .ok stored ∧
        r.gathered = .ok (.comparison stored latest) ∧
        r.result = .ok (.evaluated changes fired) := by
  obtain ⟨poll, hresult, hne⟩ := hr
  have hskipped : r.result ≠ .ok .skipped := by
    rw [hresult]
    intro heq
    cases heq
    exact hne rfl
  cases h with
  | left hr _ _ =>
    rcases hr with ⟨error, hr⟩ | ⟨-, hr⟩
    · rw [hresult] at hr
      cases hr
    · exact absurd hr hskipped
  | aside _ hr _ _ => exact absurd hr hskipped
  | seeded hg hr hf _ _ _ _ => exact .inl ⟨_, hg, hr, hf⟩
  | merged hg hr hl _ _ he _ =>
    obtain ⟨-, changes, fired, rfl⟩ := evaluate_leads he
    exact .inr ⟨_, _, changes, fired, hl, hg, hr⟩

section

variable {r : PollRecord ε} (h : r.Polled env root settings) (hs : env.Sound)
  (hp : env.snapshot root settings r.collection ≠ settings.rulesPath)
include h hs hp

/-- A text that is not a list of records is moved aside. -/
theorem Polled.fate_json {bytes : ByteArray}
    (hc : r.before.store (env.snapshot root settings r.collection) = some bytes)
    (hl : SnapshotStore.loaded r.collection.id (some bytes) = .error .json) :
    r.Fate env root settings (some bytes) := by
  have hne : env.snapshot root settings r.collection ≠ env.aside root settings r.collection :=
    (env.store root settings).path_ne_aside _ _
  obtain ⟨e, hstored⟩ := stored_run_json hs hp hc hl
  obtain ⟨hr, hafter⟩ := h.of_unusable hstored
  refine .aside hl hr ?_ ?_
  · rw [hafter]
    dsimp only
    rw [Function.update_self]
  · rw [hafter]
    dsimp only
    rw [Function.update_of_ne hne, Function.update_self]

/-- Bytes that spell no text stay in place. -/
theorem Polled.fate_io {bytes : ByteArray}
    (hc : r.before.store (env.snapshot root settings r.collection) = some bytes)
    (hl : SnapshotStore.loaded r.collection.id (some bytes) = .error .io) :
    r.Fate env root settings (some bytes) := by
  obtain ⟨e, hstored⟩ := stored_run_io hs hp hc hl
  obtain ⟨hr, hafter⟩ := h.of_unusable hstored
  refine .stuck (SnapshotStore.loaded_eq_io.mp hl) hr ?_
  rw [hafter]
  exact hc

variable (ha : ∀ collection properties filter e, ∃ latest,
  (env.query collection properties filter e).1 = .ok latest)
include ha

/-- Without a snapshot the collection is seeded. -/
theorem Polled.fate_none
    (hc : r.before.store (env.snapshot root settings r.collection) = none) :
    r.Fate env root settings none := by
  have hbase : SnapshotStore.base? r.collection.id
      (r.before.store (env.snapshot root settings r.collection)) = some [] := by
    rw [hc]
    rfl
  obtain ⟨hsucceeds, -⟩ := h.succeeds hs hp (fun filter e => ha _ _ filter e) [] hbase
  rcases (h.ends hp).of_succeeds hsucceeds with
    ⟨latest, hg, hr, -⟩ | ⟨stored, latest, changes, fired, hl, -, -⟩
  · exact .seeded hg hr
  · rw [hc] at hl
    cases hl

/-- A list of records is compared. -/
theorem Polled.fate_ok {bytes : ByteArray} {stored : List Record}
    (hc : r.before.store (env.snapshot root settings r.collection) = some bytes)
    (hl : SnapshotStore.loaded r.collection.id (some bytes) = .ok stored) :
    r.Fate env root settings (some bytes) := by
  have hbase : SnapshotStore.base? r.collection.id
      (r.before.store (env.snapshot root settings r.collection)) = some stored := by
    rw [hc]
    exact SnapshotStore.base?_of_loaded hl
  obtain ⟨hsucceeds, -⟩ := h.succeeds hs hp (fun filter e => ha _ _ filter e) stored hbase
  rcases (h.ends hp).of_succeeds hsucceeds with
    ⟨latest, -, -, hf⟩ | ⟨stored, latest, changes, fired, hloaded, hg, hr⟩
  · rw [hf hs] at hc
    cases hc
  · rw [hc] at hloaded
    exact .compared hloaded hg hr

/-- The content of the snapshot decides what becomes of a poll. -/
theorem Polled.fate :
    r.Fate env root settings (r.before.store (env.snapshot root settings r.collection)) := by
  cases hc : r.before.store (env.snapshot root settings r.collection) with
  | none => exact h.fate_none hs hp ha hc
  | some bytes =>
    rcases SnapshotStore.loaded_cases r.collection.id bytes with ⟨stored, hl⟩ | hl | hl
    · exact h.fate_ok hs hp ha hc hl
    · exact h.fate_json hs hp hc hl
    · exact h.fate_io hs hp hc hl

end

theorem Fate.lasts {r : PollRecord ε} {content : Option ByteArray}
    (h : r.Fate env root settings content) : ∃ poll, r.result = .ok poll := by
  cases h with
  | seeded _ hr => exact ⟨_, hr⟩
  | compared _ _ hr => exact ⟨_, hr⟩
  | aside _ hr _ _ => exact ⟨_, hr⟩
  | stuck _ hr _ => exact ⟨_, hr⟩

/-! ### Two polls -/

variable (env root settings) in
/-- What some bytes in a snapshot come to over two polls: either the first one compares with the
records in them, or it moves them aside and the second one seeds the collection. -/
inductive Heals (p : PollRecord ε) (bytes : ByteArray) (q : PollRecord ε) : Prop where
  | compared {stored latest : List Record} {changes fired : Nat}
    (hl : SnapshotStore.loaded p.collection.id (some bytes) = .ok stored)
    (hg : p.gathered = .ok (.comparison stored latest))
    (hr : p.result = .ok (.evaluated changes fired)) : Heals p bytes q
  | reseeded {latest : List Record}
    (hp : p.result = .ok .skipped)
    (ha : p.after.store (env.aside root settings p.collection) = some bytes)
    (hg : q.gathered = .ok (.seeding latest))
    (hq : q.result = .ok .seeded) : Heals p bytes q

/-- Both polls skipped the collection. -/
def BothSkip (p q : PollRecord ε) : Prop := p.result = .ok .skipped ∧ q.result = .ok .skipped

theorem Heals.not_bothSkip {bytes : ByteArray} {p q : PollRecord ε}
    (h : p.Heals env root settings bytes q) : ¬p.BothSkip q := by
  rintro ⟨hp, hq⟩
  cases h with
  | compared _ _ hr =>
    rw [hp] at hr
    cases hr
  | reseeded _ _ _ hseeded =>
    rw [hq] at hseeded
    cases hseeded

/-- A snapshot heals over two polls if its bytes spell a text; if not, both polls are skipped. -/
theorem Fate.heals {bytes : ByteArray} {p q : PollRecord ε}
    (hp : p.Fate env root settings (some bytes))
    (hq : q.Fate env root settings
      (p.after.store (env.snapshot root settings p.collection))) :
    (String.fromUTF8? bytes).isSome ∧ p.Heals env root settings bytes q ∨
      String.fromUTF8? bytes = none ∧ p.BothSkip q := by
  cases hp with
  | compared hl hg hr =>
    exact .inl ⟨SnapshotStore.spells_of_loaded hl (by simp), .compared hl hg hr⟩
  | aside hl hr ha hn =>
    rw [hn] at hq
    cases hq with
    | seeded hg hseeded =>
      exact .inl ⟨SnapshotStore.spells_of_loaded hl (by simp), .reseeded hr ha hg hseeded⟩
  | stuck hu hr hk =>
    rw [hk] at hq
    refine .inr ⟨hu, hr, ?_⟩
    cases hq with
    | compared hl _ _ =>
      rw [SnapshotStore.loaded_eq_io.mpr hu] at hl
      cases hl
    | aside hl _ _ _ =>
      rw [SnapshotStore.loaded_eq_io.mpr hu] at hl
      cases hl
    | stuck _ hskipped _ => exact hskipped

/-! ### Runs -/

/-- A run that does not poll a snapshot leaves it. -/
theorem Chain.held {w : World ε Files} {records : List (PollRecord ε)} (hc : Chain env w records)
    {c : String} (he : ∀ r ∈ records, r.Ends env root settings)
    (hn : ∀ r ∈ records,
      env.snapshot root settings r.collection ≠ (env.store root settings).path c) :
    (Session.final w records).store ((env.store root settings).path c) =
      w.store ((env.store root settings).path c) :=
  Session.kept_of_chain env hc fun r hr => (he r hr).held_of_ne (hn r hr)

end PollRecord

variable (env root settings) in
/-- The polls of a run, each of which ends well. Over two successive polls of one snapshot, bytes in
it heal exactly if they spell a text; if they do not, both polls skip the collection. -/
structure Recovers (records : List (PollRecord ε)) : Prop where
  lasting (r : PollRecord ε) (hr : r ∈ records) : ∃ poll, r.result = .ok poll
  heals (a b c : List (PollRecord ε)) (p q : PollRecord ε) (h : records = a ++ p :: (b ++ q :: c))
    (hsame : env.snapshot root settings q.collection = env.snapshot root settings p.collection)
    (hapart : ∀ r ∈ b,
      env.snapshot root settings r.collection ≠ env.snapshot root settings p.collection)
    (bytes : ByteArray)
    (hb : p.before.store (env.snapshot root settings p.collection) = some bytes) :
    (p.Heals env root settings bytes q ↔ (String.fromUTF8? bytes).isSome) ∧
      (p.BothSkip q ↔ String.fromUTF8? bytes = none)

/-- Where no file operation fails and every query is answered, exactly the snapshots heal whose
bytes spell a text. -/
theorem recovers_history (hs : env.Sound)
    (ha : ∀ collection properties filter e, ∃ latest,
      (env.query collection properties filter e).1 = .ok latest)
    (session : Option Session) (directives : List Directive) (w : World ε Files)
    (hp : ∀ r ∈ Session.history env root settings session directives w,
      env.snapshot root settings r.collection ≠ settings.rulesPath) :
    Recovers env root settings (Session.history env root settings session directives w) := by
  have hends : ∀ r ∈ Session.history env root settings session directives w,
      r.Ends env root settings :=
    fun r hr => (Session.polled_history env root settings hr).ends (hp r hr)
  have hfate : ∀ r ∈ Session.history env root settings session directives w,
      r.Fate env root settings (r.before.store (env.snapshot root settings r.collection)) :=
    fun r hr => (Session.polled_history env root settings hr).fate hs (hp r hr) ha
  constructor
  · intro r hr
    exact (hfate r hr).lasts
  · intro a b c p q hhistory hsame hapart bytes hb
    have hchain := Session.chain_history env root settings session directives w
    rw [hhistory] at hchain hends hfate
    obtain ⟨-, hafter⟩ := hchain.split
    have hbetween := hafter.init.held (fun r hr => hends r (by simp [hr])) hapart
    have hpfate := hfate p (by simp)
    have hqfate := hfate q (by simp)
    rw [hb] at hpfate
    rw [hafter.split.1.store, hsame, hbetween] at hqfate
    rcases hpfate.heals hqfate with ⟨hspells, hheals⟩ | ⟨hnone, hskip⟩
    · refine ⟨iff_of_true hheals hspells, iff_of_false hheals.not_bothSkip ?_⟩
      exact Option.isSome_iff_ne_none.mp hspells
    · refine ⟨iff_of_false (fun hheals => hheals.not_bothSkip hskip) ?_, iff_of_true hskip hnone⟩
      exact Option.not_isSome_iff_eq_none.mpr hnone

end

/-- A bracket and a byte that continues no character. -/
def garbage : ByteArray := ⟨#[0x5b, 0x80]⟩

/-- The polls of two cycles of a listener whose snapshot is garbage. -/
def garbageHistory : List (PollRecord Nat) :=
  Session.history pageEnvironment "store" ⟨"rules", 3600, 600⟩
    (some ⟨[doneCollection], some 0, [], default⟩) [.cycle, .cycle]
    ⟨0, Function.update (fun _ => none) "store/c1.json" (some garbage), []⟩

/-- Garbage does not heal, and the listener runs on. -/
theorem recovers_garbage :
    Recovers pageEnvironment "store" ⟨"rules", 3600, 600⟩ garbageHistory :=
  recovers_history (Environment.sound_answering _ _)
    (fun _ _ _ _ => ⟨_, rfl⟩) _ _ _ fun r _ =>
      snapshot_ne_rulesPath _ _ ⟨"rules", 3600, 600⟩ r.collection (by decide)

/-- Both cycles skip the collection. -/
theorem results_garbage :
    garbageHistory.map PollRecord.result = [.ok .skipped, .ok .skipped] := by
  rfl

end RecordWatch
