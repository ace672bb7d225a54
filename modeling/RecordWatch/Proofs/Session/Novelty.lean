import RecordWatch.Proofs.Rule.ActiveProperties
import RecordWatch.Proofs.Session.Outcome
import RecordWatch.Proofs.Snapshot.Unchanged

/-! What is new is reported once. After a poll that reported a record its key is in the snapshot,
and no poll but the one that seeds the snapshot anew takes it out; a poll that finds every record as
it is stored does nothing. What it writes is what was stored, as far as the text layer reads back
what it writes. -/

namespace RecordWatch

namespace Delta

theorem find?_of_ofRecord?_newPage {old : List Record} {active : List String} {record : Record}
    {key : String} (h : ofRecord? old active record = some (.newPage key)) :
    find? old record.key = none := by
  rw [ofRecord?] at h
  split at h
  · assumption
  · split at h <;> cases h

/-- A record that is reported as new is among the latest and not among the stored ones. -/
theorem of_get?_changes_newPage {old latest : List Record} {active : List String} {key : String}
    (h : (changes old latest active).get? key = some (.newPage key)) :
    key ∉ old.map Record.key ∧ key ∈ latest.map Record.key := by
  rw [get?_changes] at h
  obtain ⟨record, hr, hrecord⟩ := List.exists_of_findSome?_eq_some h
  split at hrecord
  · next hk =>
    subst hk
    exact ⟨find?_eq_none.mp (find?_of_ofRecord?_newPage hrecord),
      List.mem_map_of_mem (List.mem_reverse.mp hr)⟩
  · cases hrecord

end Delta

section

variable {ε : Type} (env : Environment ε) (root : String) (settings : Settings)

/-! ### Keys of a snapshot -/

namespace SnapshotStore

/-- A snapshot that has a record of a key, unless it cannot be loaded. -/
def Knows (key : String) (content : Option ByteArray) : Prop :=
  ∀ (collection : String) (stored : List Record),
    loaded collection content = .ok stored → key ∈ stored.map Record.key

theorem knows_none (key : String) : Knows key none := by
  intro collection stored h
  cases h

theorem knows_bytesOf {key : String} {records : List Record}
    (h : key ∈ records.map Record.key) : Knows key (some (bytesOf records)) := by
  intro collection stored hl
  rw [loaded_bytesOf, ← Record.listOfText?_listText] at hl
  cases hr : Record.listOfText? (Record.listText records) with
  | none =>
    rw [hr] at hl
    cases hl
  | some read =>
    rw [hr] at hl
    cases hl
    rw [Record.keys_of_listOfText? hr]
    exact h

end SnapshotStore

namespace PollRecord

/-- The poll reports a record as new. -/
def Reports (r : PollRecord ε) (key : String) : Prop :=
  ∃ stored latest, r.gathered = .ok (.comparison stored latest) ∧
    (Delta.changes stored latest r.collection.activeProperties).get? key = some (.newPage key)

/-- The poll seeds the snapshot at a path. -/
def Seeds (r : PollRecord ε) (path : String) : Prop :=
  env.snapshot root settings r.collection = path ∧ r.result = .ok .seeded

variable {env root settings}

/-- What a poll reports as new was not known before. -/
theorem Polled.not_knows {r : PollRecord ε} (h : r.Polled env root settings)
    (hp : env.snapshot root settings r.collection ≠ settings.rulesPath) {key : String}
    (hk : r.Reports key) :
    ¬SnapshotStore.Knows key (r.before.store (env.snapshot root settings r.collection)) := by
  obtain ⟨stored, latest, hg, hentry⟩ := hk
  obtain ⟨middle, hgathers, -⟩ := h.halves hp
  rw [hg] at hgathers
  cases hgathers with
  | comparison hs _ _ =>
    exact fun hknows => (Delta.of_get?_changes_newPage hentry).1 (hknows _ _ hs)

/-- What a poll reports as new is known after it, if the poll ends well. -/
theorem Ends.knows_of_reports {r : PollRecord ε} (h : r.Ends env root settings) {key : String}
    (hk : r.Reports key) {poll : Poll} (hr : r.result = .ok poll) :
    SnapshotStore.Knows key (r.after.store (env.snapshot root settings r.collection)) := by
  obtain ⟨stored, latest, hg, hentry⟩ := hk
  obtain ⟨middle, evaluated, -, -, -, -, hl⟩ := h.of_comparison hg hr
  rw [hl.held, Function.update_self]
  exact SnapshotStore.knows_bytesOf (Snapshot.mem_keys_overlay.mpr
    (.inr (Delta.of_get?_changes_newPage hentry).2))

/-- A poll that does not seed a snapshot anew takes no key out of it. -/
theorem Ends.knows {r : PollRecord ε} (h : r.Ends env root settings) {key c : String}
    (hn : ¬r.Seeds env root settings ((env.store root settings).path c))
    (hk : SnapshotStore.Knows key (r.before.store ((env.store root settings).path c))) :
    SnapshotStore.Knows key (r.after.store ((env.store root settings).path c)) := by
  by_cases hc : env.snapshot root settings r.collection = (env.store root settings).path c
  · cases h with
    | left _ _ hheld => rwa [hheld]
    | aside _ _ _ hl =>
      rw [hl.held, ← hc, Function.update_self]
      exact SnapshotStore.knows_none key
    | seeded _ hr _ _ _ _ _ => exact absurd ⟨hc, hr⟩ hn
    | merged _ _ hs _ _ _ hl =>
      rw [hl.held, ← hc, Function.update_self]
      rw [← hc] at hk
      exact SnapshotStore.knows_bytesOf (Snapshot.mem_keys_overlay.mpr (.inl (hk _ _ hs)))
  · rwa [h.held_of_ne hc]

/-- A run without a seeding of a snapshot takes no key out of it. -/
theorem Chain.knows {w : World ε Files} {records : List (PollRecord ε)} (hc : Chain env w records)
    {key c : String} (he : ∀ r ∈ records, r.Ends env root settings)
    (hn : ∀ r ∈ records, ¬r.Seeds env root settings ((env.store root settings).path c))
    (hk : SnapshotStore.Knows key (w.store ((env.store root settings).path c))) :
    SnapshotStore.Knows key
      ((Session.final w records).store ((env.store root settings).path c)) := by
  induction hc with
  | nil w => exact hk
  | @cons w r rest hw _ ih =>
    rw [Session.final_cons]
    refine ih (fun r hr => he r (List.mem_cons_of_mem _ hr))
      (fun r hr => hn r (List.mem_cons_of_mem _ hr)) ?_
    refine (he r List.mem_cons_self).knows (hn r List.mem_cons_self) ?_
    rwa [hw.store]

theorem Chain.init {w : World ε Files} {before after : List (PollRecord ε)}
    (hc : Chain env w (before ++ after)) : Chain env w before := by
  induction before generalizing w with
  | nil => exact .nil w
  | cons first rest ih =>
    cases hc with
    | cons hw hr => exact .cons hw (ih hr)

theorem Chain.split {w : World ε Files} {before after : List (PollRecord ε)} {r : PollRecord ε}
    (hc : Chain env w (before ++ r :: after)) :
    World.Follows env (Session.final w before) r.before ∧ Chain env r.after after := by
  induction before generalizing w with
  | nil =>
    cases hc with
    | cons hw hr => exact ⟨hw, hr⟩
  | cons first rest ih =>
    cases hc with
    | cons _ hr =>
      rw [Session.final_cons]
      exact ih hr

end PollRecord

/-! ### A poll that finds nothing new -/

/-- What a record is read back as, from the text it is written as, is equal to another record. -/
def Record.Restores (old record : Record) : Prop :=
  ∃ kept, Record.listOfText? (Record.listText [record]) = some [kept] ∧ old.Same kept

/-- Records are read back equal to others if each of them is. -/
theorem restores_iff {stored records : List Record} :
    (∃ kept, records.mapM Record.reread? = some kept ∧ List.Forall₂ Record.Same stored kept) ↔
      List.Forall₂ Record.Restores stored records := by
  have hone : ∀ {record kept : Record},
      Record.listOfText? (Record.listText [record]) = some [kept] ↔
        record.reread? = some kept := by
    intro record kept
    rw [Record.listOfText?_listText]
    cases h : record.reread? <;> simp [h]
  constructor
  · rintro ⟨kept, hread, hsame⟩
    induction records generalizing stored kept with
    | nil =>
      cases hread
      cases hsame
      exact .nil
    | cons record rest ih =>
      rw [List.mapM_cons] at hread
      obtain ⟨first, hfirst, hread⟩ := Option.bind_eq_some_iff.mp hread
      obtain ⟨others, hothers, hread⟩ := Option.bind_eq_some_iff.mp hread
      cases hread
      cases hsame with
      | cons hold hrest => exact .cons ⟨first, hone.mpr hfirst, hold⟩ (ih others hothers hrest)
  · intro h
    induction h with
    | nil => exact ⟨[], rfl, .nil⟩
    | cons hrecord _ ih =>
      obtain ⟨kept, hread, hsame⟩ := hrecord
      obtain ⟨rest, hrest, hall⟩ := ih
      refine ⟨kept :: rest, ?_, .cons hsame hall⟩
      rw [List.mapM_cons, hone.mp hread, hrest]
      rfl

/-- Where nothing is new, nothing is looked up and nothing is delivered. -/
theorem evaluate_of_unchanged {stored latest : List Record} (h : Unchanged stored latest)
    (collection : Collection) (w : World ε Files) :
    (env.surroundings root settings).evaluate collection stored latest w =
      (.evaluated 0 0, w) := by
  rw [Environment.surroundings, evaluate_run, h.changes]
  rfl

namespace PollRecord

/-- The poll changed nothing: it asked its query and did nothing else. What it stored is what was
stored if every record is read back equal to the stored one, and only then. -/
structure Idle (r : PollRecord ε) (stored latest : List Record) : Prop where
  result : r.result = .ok (.evaluated 0 0)
  calls : ∃ filter, r.after.calls = r.before.calls ++
    [.query r.collection.id r.collection.filterProperties filter]
  stored : (∃ kept, SnapshotStore.loaded r.collection.id
      (r.after.store (env.snapshot root settings r.collection)) = .ok kept ∧
        List.Forall₂ Record.Same stored kept) ↔
    List.Forall₂ Record.Restores stored (Snapshot.overlay stored latest)

variable {env root settings}

theorem Ends.idle {r : PollRecord ε} (h : r.Ends env root settings) {stored latest : List Record}
    (hg : r.gathered = .ok (.comparison stored latest)) (hu : Unchanged stored latest) {poll : Poll}
    (hr : r.result = .ok poll) : r.Idle env root settings stored latest := by
  obtain ⟨middle, evaluated, -, ha, hq, he, hl⟩ := h.of_comparison hg hr
  rw [evaluate_of_unchanged env root settings hu] at he
  cases he
  obtain ⟨-, hcalls⟩ := fetch_leads hq
  refine ⟨hr, ⟨_, hl.calls.trans (hcalls.trans (congrArg (· ++ _) ha.calls))⟩, ?_⟩
  rw [hl.held, Function.update_self, SnapshotStore.loaded_bytesOf, ← restores_iff]
  refine exists_congr fun kept => and_congr_left fun _ => ?_
  cases (Snapshot.overlay stored latest).mapM Record.reread? <;> simp

end PollRecord

variable (records : List (PollRecord ε))

/-- Polls that report nothing twice. Between two of one snapshot that report a record as new, the
first of which ends well, the snapshot is seeded anew; and a poll that ends well and was given only
records equal to the stored ones is idle. -/
structure ReportsOnce : Prop where
  new (a b c : List (PollRecord ε)) (p q : PollRecord ε) (h : records = a ++ p :: (b ++ q :: c))
    (hsame : env.snapshot root settings q.collection = env.snapshot root settings p.collection)
    (hr : ∃ poll, p.result = .ok poll) (key : String) (hp : p.Reports key) (hq : q.Reports key) :
    ∃ r ∈ b, r.Seeds env root settings (env.snapshot root settings p.collection)
  idle (r : PollRecord ε) (h : r ∈ records) (stored latest : List Record)
    (hg : r.gathered = .ok (.comparison stored latest)) (hu : Unchanged stored latest)
    (hr : ∃ poll, r.result = .ok poll) : r.Idle env root settings stored latest

/-- No run reports anything twice, whatever the environment does, as long as the rules file is no
snapshot. -/
theorem reportsOnce_history (session : Option Session) (directives : List Directive)
    (w : World ε Files)
    (hp : ∀ r ∈ Session.history env root settings session directives w,
      env.snapshot root settings r.collection ≠ settings.rulesPath) :
    ReportsOnce env root settings (Session.history env root settings session directives w) := by
  have hends : ∀ r ∈ Session.history env root settings session directives w,
      r.Ends env root settings :=
    fun r hr => (Session.polled_history env root settings hr).ends (hp r hr)
  constructor
  · intro a b c p q hhistory hsame ⟨poll, hpoll⟩ key hpk hqk
    by_contra hnone
    have hq : q ∈ Session.history env root settings session directives w := by
      rw [hhistory]
      simp
    have hchain := Session.chain_history env root settings session directives w
    rw [hhistory] at hchain hends
    obtain ⟨-, hafter⟩ := hchain.split
    have hknown : SnapshotStore.Knows key
        (p.after.store (env.snapshot root settings p.collection)) :=
      (hends p (by simp)).knows_of_reports hpk hpoll
    have hkept := hafter.init.knows (fun r hr => hends r (by simp [hr]))
      (fun r hr hs => hnone ⟨r, hr, hs⟩) hknown
    refine (Session.polled_history env root settings hq).not_knows (hp q hq) hqk ?_
    rw [hafter.split.1.store, hsame]
    exact hkept
  · intro r hr stored latest hg hu ⟨poll, hpoll⟩
    exact (hends r hr).idle hg hu hpoll

end

/-- An environment that always returns the same page. -/
def pageEnvironment : Environment Nat :=
  .answering (fun _ => .ok [page "Done" "a"]) [("c-1", [doneEntry])]

/-- A run over two cycles, after which the listener starts again. -/
theorem reportsOnce_history_page :
    ReportsOnce pageEnvironment "store" ⟨"rules", 3600, 600⟩
      (Session.history pageEnvironment "store" ⟨"rules", 3600, 600⟩ none
        [.restart, .cycle, .cycle, .restart, .cycle] ⟨0, fun _ => none, []⟩) :=
  reportsOnce_history _ _ _ _ _ _ fun r _ =>
    snapshot_ne_rulesPath _ _ ⟨"rules", 3600, 600⟩ r.collection (by decide)

/-! ### A record that is not read back as it was -/

/-- A price whose text `3.78972509756e+36` is read as the next double. -/
def price : Double := ⟨false, 5154034418121816603, by decide⟩

/-- The double after `price`. -/
def nextPrice : Double := ⟨false, 5154034418121816604, by decide⟩

/-- A record with a price. -/
def priced (x : Double) : Record where
  id := "r-1"
  createdTime := none
  lastEditedTime := none
  properties := [("Price", .number (.double x))]

/-- The literal that `price` is written as. -/
def priceLiteral : Literal where
  negative := false
  whole := [3]
  fraction := some [7, 8, 9, 7, 2, 5, 0, 9, 7, 5, 6]
  exponent := some 36

theorem shortest_price : price.shortest = (378972509756, 25) := by
  have hfound : (List.range 17).findSome? (fun (n : Nat) =>
      (Double.onGrid price.interval (Double.leadingPower price.interval.value - n)).map
        fun digits => (digits, Double.leadingPower price.interval.value - (n : Int))) =
      some (378972509756, 25) := by decide +kernel
  rw [Double.shortest, if_neg (by decide)]
  simp only [hfound, Option.getD_some]
  rw [Double.dropZeros]
  rfl

theorem text_price : (Number.double price).text = "3.78972509756e+36" := by
  rw [Number.text, Number.doubleText, shortest_price]
  decide +kernel

theorem toDouble?_priceLiteral : priceLiteral.toDouble? = some nextPrice := by
  have hscale : (Double.ofInt 378972509756).scale 25 = some nextPrice := by
    rw [Double.scale, if_pos (by decide), if_pos (by decide)]
    decide +kernel
  exact hscale

theorem redraft_price : (Number.double price).redraft = .number (.double nextPrice) := by
  have hliteral : Literal.ofChars? "3.78972509756e+36".toList = some priceLiteral := rfl
  have hnumber : priceLiteral.toNumber? = some (.double nextPrice) := by
    rw [Literal.toNumber?, toDouble?_priceLiteral]
    rfl
  rw [Number.redraft, text_price, Draft.ofWord?, if_neg (by decide), if_neg (by decide),
    if_neg (by decide), hliteral, Option.map_some, hnumber]
  rfl

theorem reread?_priced : (priced price).reread? = some (priced nextPrice) := by
  simp only [Record.reread?, priced, Json.redraftFields, Json.redraft, redraft_price]
  rfl

theorem same_price : price.same nextPrice = false := by decide

/-- What is stored of a poll that found this record as it was stored is another record. -/
theorem not_restores_priced :
    Unchanged [priced price] [priced price] ∧ ¬Record.Restores (priced price) (priced price) := by
  constructor
  · intro record hr
    rw [List.mem_singleton.mp hr]
    exact ⟨priced price, rfl, Record.Same.refl _⟩
  · rintro ⟨kept, hread, hsame⟩
    have hsame' : (priced price).Same (priced nextPrice) := by
      rw [Record.listOfText?_listText, List.mapM_cons, reread?_priced] at hread
      have hkept : [priced nextPrice] = [kept] := Option.some.inj hread
      rwa [(List.cons.inj hkept).1]
    have hproperties := hsame'.properties
    simp only [priced, Json.sameFields, Json.same, Number.same, same_price] at hproperties
    exact absurd hproperties (by decide)

end RecordWatch
