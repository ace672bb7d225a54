import RecordWatch.Proofs.Session.Mortal
import RecordWatch.Proofs.Session.Retention

/-! Crashes. The process dies somewhere in a poll that compares, or later, and the listener starts
again. Until the snapshot is moved in its place nothing has happened to it, so the next poll that is
given the same records attempts every delivery of the first one; from then on the snapshot holds
these records, and the next poll has nothing to report about them, as far as they are read back as
they were written. -/

namespace RecordWatch

/-- The delivery that a call attempts, if it attempts one. -/
def Call.delivery? : Call → Option Delivery
  | .delivery attempted => some attempted
  | .query _ _ _ => none
  | .items _ _ => none
  | .update _ _ => none

section

variable {ε : Type}

/-- The deliveries that are attempted on the way from one world to another. -/
def World.deliveries {φ : Type} (w v : World ε φ) : List Delivery :=
  (v.calls.drop w.calls.length).filterMap Call.delivery?

theorem World.deliveries_of_calls {φ : Type} {w v : World ε φ} {made : List Call}
    (h : v.calls = w.calls ++ made) : w.deliveries v = made.filterMap Call.delivery? := by
  rw [deliveries, h, List.drop_left]

theorem World.deliveries_of_query {φ : Type} {w v : World ε φ} {made : List Call}
    {collection : String} {properties : Option (List String)} {filter : Option Json}
    (h : v.calls = w.calls ++ [.query collection properties filter] ++ made) :
    w.deliveries v = made.filterMap Call.delivery? := by
  rw [List.append_assoc] at h
  exact (World.deliveries_of_calls h).trans rfl

/-- The deliveries that a poll attempts. -/
def PollRecord.deliveries (r : PollRecord ε) : List Delivery := r.before.deliveries r.after

/-! ### Evaluations that are told the same -/

/-- The same environment, but every delivery is accepted. -/
def Environment.accepting (env : Environment ε) : Environment ε :=
  { env with notify := fun delivery e => (.ok (), (env.notify delivery e).2) }

theorem Environment.alike_accepting (env : Environment ε) :
    Environment.Alike Eq env env.accepting := by
  constructor <;> intros <;> rintro s t rfl <;> exact ⟨by first | rfl | trivial, rfl⟩

variable (env : Environment ε) (root : String) (settings : Settings)

/-- What an evaluation asks and is told, whatever becomes of its deliveries. -/
def Environment.evaluation (collection : Collection) (stored latest : List Record)
    (w : World ε Files) : List Exchange :=
  ((env.accepting.recording.surroundings root settings).evaluate collection stored latest
    ⟨(w.env, []), w.store, w.calls⟩).2.env.2

variable {env root settings}

/-- An evaluation that is told the same makes the same calls. -/
theorem evaluate_retold {collection : Collection} {stored latest : List Record}
    {w w' : World ε Files} {path : String} (hw : w.store path = w'.store path) {e : ε}
    (hg : env.accepting.Gives w'.env (env.evaluation root settings collection stored latest w) e) :
    ∃ made, ((env.surroundings root settings).evaluate collection stored latest w).2.calls =
        w.calls ++ made ∧
      ((env.surroundings root settings).evaluate collection stored latest w').2.calls =
        w'.calls ++ made := by
  -- With every delivery accepted the calls are the same, and all else that the evaluation is told
  -- is recorded, so that it can be replayed in the other world.
  have haccepting := fun v : World ε Files =>
    ((env.alike_accepting.surroundings root settings collection).evaluate stored latest v v
      ⟨rfl, rfl, rfl⟩).2.calls
  have hrecording := ((env.accepting.alike_recording.surroundings root settings
    collection).evaluate stored latest ⟨(w.env, []), w.store, w.calls⟩ w ⟨rfl, rfl, rfl⟩).2.calls
  have hreplays : Surroundings.Alike
      (Replays.likeness (ε := ε) env.accepting (Files.SameAt path))
      (env.accepting.recording.surroundings root settings)
      (env.accepting.surroundings root settings) collection :=
    (answers_recording env.accepting env.accepting path).surroundings root settings
      (fun _ => Replays.call env.accepting env.accepting _ _ (.notify _)) collection
  obtain ⟨exchanges, made, htold, hmade, hreplay⟩ :=
    hreplays.evaluate stored latest ⟨(w.env, []), w.store, w.calls⟩
  have hevaluation : env.evaluation root settings collection stored latest w = exchanges := htold
  rw [hevaluation] at hg
  obtain ⟨files, hrun, -⟩ := hreplay w' e hw hg
  refine ⟨made, (haccepting w).trans (hrecording.symm.trans hmade), (haccepting w').trans ?_⟩
  rw [hrun]

/-! ### What a poll leaves -/

theorem gather_comparison {session : Session} {collection : Collection} {w : World ε Files}
    {stored latest : List Record}
    (h : ((session.gather (env.surroundings root settings) collection).run w).1 =
      .ok (.comparison stored latest)) :
    let asked := (((env.surroundings root settings).stored collection).run w).2
    let answer := (env.surroundings root settings).fetch collection
      (some (session.lookback settings collection.id)) asked
    ((env.surroundings root settings).stored collection).run w = (.ok (.records stored), asked) ∧
      answer = (some latest, answer.2) := by
  have hcases := gather_cases env root settings session collection w
  cases hg : (session.gather (env.surroundings root settings) collection).run w with
  | mk gathered heard =>
    rw [hg] at h hcases
    obtain rfl : gathered = .ok (.comparison stored latest) := h
    cases hcases with
    | comparison hs hq =>
      rw [hs]
      dsimp only
      rw [hq]
      exact ⟨rfl, rfl⟩

/-- A snapshot is missed only if it is not there or not seen. -/
theorem stored_missing {collection : Collection} {w asked : World ε Files}
    (h : ((env.surroundings root settings).stored collection).run w = (.ok .missing, asked)) :
    ((env.sees (env.snapshot root settings collection) w.env).1 &&
      (w.store (env.snapshot root settings collection)).isSome) = false := by
  have hcases := stored_cases env root settings collection w
  rw [h] at hcases
  cases hcases with
  | unseen hc =>
    rw [SnapshotStore.contains_run] at hc
    exact congrArg Prod.fst hc

theorem gather_seeding {session : Session} {collection : Collection} {w : World ε Files}
    {latest : List Record}
    (h : ((session.gather (env.surroundings root settings) collection).run w).1 =
      .ok (.seeding latest)) :
    ((env.sees (env.snapshot root settings collection) w.env).1 &&
      (w.store (env.snapshot root settings collection)).isSome) = false := by
  have hcases := gather_cases env root settings session collection w
  cases hg : (session.gather (env.surroundings root settings) collection).run w with
  | mk gathered heard =>
    rw [hg] at h hcases
    obtain rfl : gathered = .ok (.seeding latest) := h
    cases hcases with
    | seeding hs _ => exact stored_missing hs

namespace PollRecord

variable (env root settings) in
/-- The world in which a poll has its answer. -/
def heard (r : PollRecord ε) : World ε Files :=
  ((env.surroundings root settings).fetch r.collection
    (some (r.session.lookback settings r.collection.id)) r.asked).2

theorem Polled.found {r : PollRecord ε} (h : r.Polled env root settings)
    {stored latest : List Record} (hg : r.gathered = .ok (.comparison stored latest)) :
    ((env.surroundings root settings).stored r.collection).run r.before =
        (.ok (.records stored), r.asked) ∧
      (env.surroundings root settings).fetch r.collection
          (some (r.session.lookback settings r.collection.id)) r.asked =
        (some latest, r.heard env root settings) := by
  obtain ⟨session, collection, w, rfl⟩ := h
  exact gather_comparison hg

theorem Polled.unseen {r : PollRecord ε} (h : r.Polled env root settings) {latest : List Record}
    (hg : r.gathered = .ok (.seeding latest)) :
    ((env.sees (env.snapshot root settings r.collection) r.before.env).1 &&
      (r.before.store (env.snapshot root settings r.collection)).isSome) = false := by
  obtain ⟨session, collection, w, rfl⟩ := h
  exact gather_seeding hg

/-- A poll that ends well after a comparison has asked its query and made the calls of the
evaluation, and has stored the overlay. -/
theorem Polled.compared {r : PollRecord ε} (h : r.Polled env root settings)
    (hp : env.snapshot root settings r.collection ≠ settings.rulesPath)
    {stored latest : List Record} (hg : r.gathered = .ok (.comparison stored latest)) {poll : Poll}
    (hr : r.result = .ok poll) :
    SnapshotStore.loaded r.collection.id
        (r.before.store (env.snapshot root settings r.collection)) = .ok stored ∧
      (r.heard env root settings).store (env.snapshot root settings r.collection) =
        r.before.store (env.snapshot root settings r.collection) ∧
      r.after.store (env.snapshot root settings r.collection) =
        some (SnapshotStore.bytesOf (Snapshot.overlay stored latest)) ∧
      ∀ made, ((env.surroundings root settings).evaluate r.collection stored latest
          (r.heard env root settings)).2.calls = (r.heard env root settings).calls ++ made →
        r.deliveries = made.filterMap Call.delivery? := by
  obtain ⟨heard, evaluated, hloaded, ha, hq, he, hl⟩ := (h.ends hp).of_comparison hg hr
  obtain ⟨-, hanswer⟩ := h.found hg
  rw [hq] at hanswer
  cases hanswer
  obtain ⟨hfollows, hasked⟩ := fetch_leads hq
  refine ⟨hloaded, (congrFun hfollows.store _).trans (ha.held _), ?_, fun made hmade => ?_⟩
  · rw [hl.held, Function.update_self]
  · rw [he] at hmade
    rw [hasked, ha.calls] at hmade
    exact World.deliveries_of_query (hl.calls.trans hmade)

/-- A poll that ends well, of a snapshot that is seen, has compared. Without a snapshot it seeds and
delivers nothing. -/
theorem Ends.compared_or_seeded {r : PollRecord ε} (h : r.Ends env root settings)
    (hs : r.Succeeds) {gathered : Gathered} {latest : List Record} (hg : r.gathered = .ok gathered)
    (hl : gathered.latest? = some latest) :
    (∃ stored poll, r.gathered = .ok (.comparison stored latest) ∧ r.result = .ok poll) ∨
      r.gathered = .ok (.seeding latest) ∧ r.deliveries = [] := by
  cases h with
  | left hr _ _ =>
    obtain ⟨poll, hresult, hne⟩ := hs
    rcases hr with ⟨error, hr⟩ | ⟨-, hr⟩
    · rw [hresult] at hr
      cases hr
    · rw [hresult] at hr
      cases hr
      exact absurd rfl hne
  | aside hn _ _ _ =>
    rw [hg] at hn
    cases hn
    cases hl
  | seeded hn _ _ _ ha hq hm =>
    rw [hg] at hn
    cases hn
    cases hl
    obtain ⟨-, hasked⟩ := fetch_leads hq
    rw [ha.calls] at hasked
    have hcalls : r.after.calls = r.before.calls ++
        [.query r.collection.id r.collection.filterProperties (r.collection.filter? none)] ++
          [] := by
      rw [hm.calls, hasked, List.append_nil]
    exact .inr ⟨hg, World.deliveries_of_query hcalls⟩
  | merged hn hr _ _ _ _ _ =>
    rw [hg] at hn
    cases hn
    cases hl
    exact .inl ⟨_, _, hg, hr⟩

/-! ### Polls that do not succeed -/

/-- A snapshot that is polled without success is left, or moved aside because it cannot be read. -/
theorem Ends.stays {r : PollRecord ε} (h : r.Ends env root settings) (hn : ¬r.Succeeds) :
    r.after.store (env.snapshot root settings r.collection) =
        r.before.store (env.snapshot root settings r.collection) ∨
      SnapshotStore.loaded r.collection.id
          (r.before.store (env.snapshot root settings r.collection)) = .error .json ∧
        r.after.store (env.snapshot root settings r.collection) = none := by
  cases h with
  | left _ _ hheld => exact .inl (hheld _)
  | aside _ _ hj hl => exact .inr ⟨hj, (hl.held _).trans (Function.update_self _ _ _)⟩
  | seeded _ hr _ _ _ _ _ => exact absurd ⟨_, hr, nofun⟩ hn
  | merged _ hr _ _ _ he _ =>
    obtain ⟨-, changes, fired, rfl⟩ := evaluate_leads he
    exact absurd ⟨_, hr, nofun⟩ hn

theorem loaded_of_error_json {c d : String} {content : Option ByteArray}
    (h : SnapshotStore.loaded c content = .error .json) :
    SnapshotStore.loaded d content = .error .json := by
  cases content with
  | none => cases h
  | some bytes => exact h

theorem Chain.stays {w : World ε Files} {records : List (PollRecord ε)} (hc : Chain env w records)
    {collection : Collection} (hp : env.snapshot root settings collection ≠ settings.rulesPath)
    (hr : ∀ r ∈ records, r.Polled env root settings)
    (hn : ∀ r ∈ records, env.snapshot root settings r.collection =
      env.snapshot root settings collection → ¬r.Succeeds) :
    (Session.final w records).store (env.snapshot root settings collection) =
        w.store (env.snapshot root settings collection) ∨
      SnapshotStore.loaded collection.id (w.store (env.snapshot root settings collection)) =
          .error .json ∧
        (Session.final w records).store (env.snapshot root settings collection) = none := by
  -- Once the snapshot is moved aside it is gone, which no later poll but a successful one changes.
  induction hc with
  | nil w => exact .inl rfl
  | @cons w r rest hw _ ih =>
    have hrest := ih (fun q hq => hr q (List.mem_cons_of_mem _ hq))
      fun q hq => hn q (List.mem_cons_of_mem _ hq)
    rw [Session.final_cons, ← hw.store]
    have hfirst : r.after.store (env.snapshot root settings collection) =
          r.before.store (env.snapshot root settings collection) ∨
        SnapshotStore.loaded collection.id
            (r.before.store (env.snapshot root settings collection)) = .error .json ∧
          r.after.store (env.snapshot root settings collection) = none := by
      have hpolled := hr r List.mem_cons_self
      by_cases hsame : env.snapshot root settings r.collection =
        env.snapshot root settings collection
      · have hstays := (hpolled.ends (by rwa [hsame])).stays (hn r List.mem_cons_self hsame)
        rw [hsame] at hstays
        exact hstays.imp_right fun ⟨hj, hnone⟩ => ⟨loaded_of_error_json hj, hnone⟩
      · exact .inl (Session.keeps_of_polled hpolled hsame)
    rcases hfirst with hkept | ⟨hj, hnone⟩
    · rwa [hkept] at hrest
    · rw [hnone] at hrest
      exact .inr ⟨hj, hrest.elim id And.right⟩

/-! ### The poll after a crash -/

variable (env root settings) in
/-- What a process leaves that has some steps left when it polls: the result, if it lives to see it,
and the world. -/
def wreck (torn : Option ByteArray) (left : Nat) (r : PollRecord ε) :
    Option (Except SessionError Poll) × World ε Files :=
  let (result, w, _) :=
    (r.session.poll (env.mortal root settings torn) r.collection).run.run (r.before, left)
  (result, w)

theorem Polled.wreck {r : PollRecord ε} (h : r.Polled env root settings)
    {stored latest : List Record} (hg : r.gathered = .ok (.comparison stored latest))
    (torn : Option ByteArray) (left : Nat) :
    r.wreck env root settings torn left = (some r.result, r.after) ∨
      ∃ v, r.wreck env root settings torn left = (none, v) ∧
        Cut env root settings r.before r.after v := by
  obtain ⟨hs, hq⟩ := h.found hg
  have hrun := (Shadows.poll torn hs hq).run left
  rw [h.run] at hrun
  rcases hrun with ⟨rest, hlives⟩ | ⟨v, rest, hdies, hcut⟩
  · left
    rw [PollRecord.wreck, hlives]
  · right
    refine ⟨v, ?_, hcut⟩
    rw [PollRecord.wreck, hdies]

variable (env root settings) in
/-- A poll that is given the records that an earlier one of the collection was given, sees its
snapshot and succeeds. -/
structure Repeats (q r : PollRecord ε) (latest : List Record) : Prop where
  collection : q.collection = r.collection
  succeeds : q.Succeeds
  received : ∃ gathered, q.gathered = .ok gathered ∧ gathered.latest? = some latest
  seen : (env.sees (env.snapshot root settings r.collection) q.before.env).1 = true

theorem Repeats.compared {q r : PollRecord ε} {latest : List Record}
    (h : q.Repeats env root settings r latest) (hq : q.Polled env root settings)
    (hp : env.snapshot root settings r.collection ≠ settings.rulesPath) {bytes : ByteArray}
    (hc : q.before.store (env.snapshot root settings r.collection) = some bytes) :
    ∃ kept poll, SnapshotStore.loaded r.collection.id (some bytes) = .ok kept ∧
      q.gathered = .ok (.comparison kept latest) ∧ q.result = .ok poll := by
  obtain ⟨hcollection, hsucceeds, ⟨gathered, hg, hl⟩, hseen⟩ := h
  rw [← hcollection] at hp hc hseen
  rcases (hq.ends hp).compared_or_seeded hsucceeds hg hl with ⟨kept, poll, hg, hr⟩ | ⟨hg, -⟩
  · obtain ⟨hloaded, -⟩ := hq.compared hp hg hr
    rw [hc, hcollection] at hloaded
    exact ⟨kept, poll, hloaded, hg, hr⟩
  · have hunseen := hq.unseen hg
    rw [hseen, hc] at hunseen
    cases hunseen

variable (env root settings) in
/-- What comes of a poll whose process leaves a world behind, and of the first successful poll after
it that is given the same records. Every delivery that the poll was going to attempt is attempted
before the crash or after it, and none was attempted that it was not going to attempt. A poll that
was cut short is made up for in full. If it came to its end, the next poll reports nothing exactly
if the active properties of the latest records are read back as they were; and it delivers nothing
where these records are legible. The snapshot ends as if there had been no crash if it is cut short,
or if its records are legible. -/
structure Resumes (r q : PollRecord ε) (stored latest : List Record)
    (left : Option (Except SessionError Poll) × World ε Files) : Prop where
  attempted : r.deliveries.Sublist (r.before.deliveries left.2 ++ q.deliveries)
  begun : r.before.deliveries left.2 <+: r.deliveries
  apart (c : String) (hc : env.snapshot root settings r.collection ≠
      (env.store root settings).path c) :
    left.2.store ((env.store root settings).path c) =
      r.after.store ((env.store root settings).path c)
  again (hl : left.1 = none) : q.gathered = .ok (.comparison stored latest) ∧
    q.deliveries = r.deliveries
  reports {kept : List Record} (hl : left.1 ≠ none) (hd : (latest.map Record.key).Nodup)
    (hg : q.gathered = .ok (.comparison kept latest)) :
    Delta.changes kept latest r.collection.activeProperties = [] ↔
      ∀ record ∈ latest, ∃ read, record.reread? = some read ∧
        Delta.changedProperties read.properties record.properties
          r.collection.activeProperties = []
  quiet (hl : left.1 ≠ none) (hd : (latest.map Record.key).Nodup)
    (hlegible : ∀ record ∈ latest, record.Legible) : q.deliveries = []
  restored (hd : (latest.map Record.key).Nodup)
    (hlegible : left.1 = none ∨ ∀ record ∈ Snapshot.overlay stored latest, record.Legible) :
    q.after.store (env.snapshot root settings r.collection) =
      r.after.store (env.snapshot root settings r.collection)

end PollRecord

/-- Records that are read back from an overlay are those that the latest ones are read back as. -/
theorem SnapshotStore.find?_of_loaded {collection : String} {stored latest kept : List Record}
    (h : loaded collection (some (bytesOf (Snapshot.overlay stored latest))) = .ok kept)
    {key : String} {record : Record} (hr : Delta.find? latest key = some record) :
    ∃ read, record.reread? = some read ∧ Delta.find? kept key = some read := by
  have hread : List.Forall₂ (fun record read => record.reread? = some read)
      (Snapshot.overlay stored latest) kept := by
    rw [loaded_bytesOf, ← Record.listOfText?_listText] at h
    refine Record.listOfText?_listText_some ?_
    cases hl : Record.listOfText? (Record.listText (Snapshot.overlay stored latest)) with
    | none =>
      rw [hl] at h
      cases h
    | some read =>
      rw [hl] at h
      cases h
      rfl
  have hrel := rel_find? hread key
  rw [Snapshot.find?_overlay, hr, Option.some_or] at hrel
  generalize Delta.find? kept key = found at hrel
  cases hrel with
  | some hone => exact ⟨_, hone, rfl⟩

namespace PollRecord

theorem Repeats.again {r q : PollRecord ε} {stored latest : List Record}
    (h : q.Repeats env root settings r latest) (hr : r.Polled env root settings)
    (hq : q.Polled env root settings)
    (hp : env.snapshot root settings r.collection ≠ settings.rulesPath)
    (hg : r.gathered = .ok (.comparison stored latest)) {poll : Poll}
    (hresult : r.result = .ok poll)
    (hb : q.before.store (env.snapshot root settings r.collection) =
      r.before.store (env.snapshot root settings r.collection))
    {e : ε} (ha : env.accepting.Gives (q.heard env root settings).env
      (env.evaluation root settings r.collection stored latest (r.heard env root settings)) e) :
    q.gathered = .ok (.comparison stored latest) ∧ q.deliveries = r.deliveries ∧
      q.after.store (env.snapshot root settings r.collection) =
        r.after.store (env.snapshot root settings r.collection) := by
  obtain ⟨hloaded, hheard, hafter, hdeliveries⟩ := hr.compared hp hg hresult
  cases hc : r.before.store (env.snapshot root settings r.collection) with
  | none =>
    rw [hc] at hloaded
    cases hloaded
  | some bytes =>
    obtain ⟨kept, poll', hkept, hg', hresult'⟩ := h.compared hq hp (hb.trans hc)
    rw [hc, hkept] at hloaded
    cases hloaded
    have hcollection := h.collection
    have hp' : env.snapshot root settings q.collection ≠ settings.rulesPath := hcollection ▸ hp
    obtain ⟨-, hheard', hafter', hdeliveries'⟩ := hq.compared hp' hg' hresult'
    rw [hcollection] at hheard' hafter' hdeliveries'
    obtain ⟨made, hmade, hmade'⟩ := evaluate_retold (hheard.trans (hb.symm.trans hheard'.symm)) ha
    exact ⟨hg', (hdeliveries' made hmade').trans (hdeliveries made hmade).symm,
      hafter'.trans hafter.symm⟩

section

variable {r q : PollRecord ε} {stored latest : List Record}
  (h : q.Repeats env root settings r latest) (hq : q.Polled env root settings)
  (hp : env.snapshot root settings r.collection ≠ settings.rulesPath)
include h hq hp

/-- After the move the next poll compares with what is read back of the overlay. -/
theorem Repeats.finds
    (hb : ∀ bytes, q.before.store (env.snapshot root settings r.collection) = some bytes →
      bytes = SnapshotStore.bytesOf (Snapshot.overlay stored latest))
    {kept : List Record} (hg : q.gathered = .ok (.comparison kept latest)) :
    SnapshotStore.loaded r.collection.id
      (some (SnapshotStore.bytesOf (Snapshot.overlay stored latest))) = .ok kept := by
  obtain ⟨hcollection, ⟨poll, hr, -⟩, -, -⟩ := h
  rw [← hcollection] at hp hb ⊢
  obtain ⟨hloaded, -⟩ := hq.compared hp hg hr
  cases hc : q.before.store (env.snapshot root settings q.collection) with
  | none =>
    rw [hc] at hloaded
    cases hloaded
  | some bytes =>
    rw [hc, hb bytes hc] at hloaded
    exact hloaded

/-- It finds no change exactly if the active properties of the latest records are read back as they
were. -/
theorem Repeats.reports
    (hb : ∀ bytes, q.before.store (env.snapshot root settings r.collection) = some bytes →
      bytes = SnapshotStore.bytesOf (Snapshot.overlay stored latest))
    (hd : (latest.map Record.key).Nodup) {kept : List Record}
    (hg : q.gathered = .ok (.comparison kept latest)) (active : List String) :
    Delta.changes kept latest active = [] ↔
      ∀ record ∈ latest, ∃ read, record.reread? = some read ∧
        Delta.changedProperties read.properties record.properties active = [] := by
  rw [Delta.changes_eq_nil_iff]
  refine forall₂_congr fun record hrecord => ?_
  obtain ⟨read, hread, hfound⟩ :=
    SnapshotStore.find?_of_loaded (h.finds hq hp hb hg) (Delta.find?_of_mem hd hrecord)
  rw [Delta.ofRecord?_eq_none_iff hfound, hread]
  refine ⟨fun hnil => ⟨read, rfl, hnil⟩, fun ⟨other, hother, hnil⟩ => ?_⟩
  cases hother
  exact hnil

theorem Repeats.quiet
    (hb : ∀ bytes, q.before.store (env.snapshot root settings r.collection) = some bytes →
      bytes = SnapshotStore.bytesOf (Snapshot.overlay stored latest))
    (hd : (latest.map Record.key).Nodup) (hlegible : ∀ record ∈ latest, record.Legible) :
    q.deliveries = [] := by
  have hcollection := h.collection
  obtain ⟨gathered, hg, hl⟩ := h.received
  have hp' : env.snapshot root settings q.collection ≠ settings.rulesPath := hcollection ▸ hp
  rcases (hq.ends hp').compared_or_seeded h.succeeds hg hl with ⟨kept, poll, hg, hr⟩ | ⟨-, hnone⟩
  · have hloaded := h.finds hq hp hb hg
    have hunchanged : Unchanged kept latest := by
      intro record hrecord
      obtain ⟨read, hread, hfound⟩ :=
        SnapshotStore.find?_of_loaded hloaded (Delta.find?_of_mem hd hrecord)
      have hsame := (Record.legible_iff.mp (hlegible record hrecord)).symm.trans hread
      cases hsame
      exact ⟨record, hfound, .refl record⟩
    obtain ⟨-, -, -, hdeliveries⟩ := hq.compared hp' hg hr
    refine hdeliveries [] ?_
    rw [evaluate_of_unchanged env root settings hunchanged, List.append_nil]
  · exact hnone

theorem Repeats.restored
    (hb : q.before.store (env.snapshot root settings r.collection) =
      some (SnapshotStore.bytesOf (Snapshot.overlay stored latest)))
    (hd : (latest.map Record.key).Nodup)
    (hlegible : ∀ record ∈ Snapshot.overlay stored latest, record.Legible) :
    q.after.store (env.snapshot root settings r.collection) =
      some (SnapshotStore.bytesOf (Snapshot.overlay stored latest)) := by
  have hcollection := h.collection
  obtain ⟨kept, poll, hkept, hg, hr⟩ := h.compared hq hp hb
  rw [SnapshotStore.loaded_of_legible hlegible] at hkept
  cases hkept
  obtain ⟨-, -, hafter, -⟩ := hq.compared (hcollection ▸ hp) hg hr
  rw [hcollection] at hafter
  rw [hafter, Snapshot.overlay_of_find? fun record hr => Snapshot.find?_overlay_of_mem stored hd hr]

end

/-- What was attempted before a crash is the beginning of what was going to be attempted. -/
theorem deliveries_of_cut {r : PollRecord ε} {v : World ε Files}
    (h : Cut env root settings r.before r.after v) :
    r.before.deliveries v <+: r.deliveries := by
  obtain ⟨-, ⟨made, hmade⟩, more, hmore⟩ := h
  have hcalls : r.after.calls = r.before.calls ++ (made ++ more) := by
    rw [← hmore, ← hmade, List.append_assoc]
  rw [World.deliveries_of_calls hmade.symm, deliveries, World.deliveries_of_calls hcalls,
    List.filterMap_append]
  exact List.prefix_append _ _

section

variable {r q : PollRecord ε} {stored latest : List Record} {poll : Poll}
  (h : q.Repeats env root settings r latest) (hq : q.Polled env root settings)
  (hr : r.Polled env root settings)
  (hp : env.snapshot root settings r.collection ≠ settings.rulesPath)
  (hg : r.gathered = .ok (.comparison stored latest)) (hresult : r.result = .ok poll)
include h hq hr hp hg hresult

/-- The next poll after one that came to its end. Either its snapshot holds the overlay, or it was
moved aside because the overlay cannot be read. -/
theorem Repeats.resumes_ended
    (hb : q.before.store (env.snapshot root settings r.collection) =
        r.after.store (env.snapshot root settings r.collection) ∨
      SnapshotStore.loaded r.collection.id
          (r.after.store (env.snapshot root settings r.collection)) = .error .json ∧
        q.before.store (env.snapshot root settings r.collection) = none) :
    r.Resumes env root settings q stored latest (some r.result, r.after) := by
  obtain ⟨-, -, hafter, -⟩ := hr.compared hp hg hresult
  rw [hafter] at hb
  have hheld : ∀ bytes, q.before.store (env.snapshot root settings r.collection) = some bytes →
      bytes = SnapshotStore.bytesOf (Snapshot.overlay stored latest) := by
    intro bytes hbytes
    rcases hb with hkept | ⟨-, hnone⟩
    · exact Option.some.inj (hbytes.symm.trans hkept)
    · rw [hnone] at hbytes
      cases hbytes
  refine ⟨List.sublist_append_left _ _, List.prefix_rfl, fun _ _ => rfl, fun hl => (by cases hl),
    fun _ hd hg' => h.reports hq hp hheld hd hg' _, fun _ => h.quiet hq hp hheld,
    fun hd hlegible => ?_⟩
  rcases hlegible with hl | hlegible
  · cases hl
  rcases hb with hkept | ⟨hjson, -⟩
  · rw [h.restored hq hp hkept hd hlegible, hafter]
  · rw [SnapshotStore.loaded_of_legible hlegible] at hjson
    cases hjson

/-- The next poll after one that was cut short. Its snapshot holds what the first one found. -/
theorem Repeats.resumes_cut {v : World ε Files} (hcut : Cut env root settings r.before r.after v)
    (hb : q.before.store (env.snapshot root settings r.collection) =
      r.before.store (env.snapshot root settings r.collection))
    {e : ε} (he : env.accepting.Gives (q.heard env root settings).env
      (env.evaluation root settings r.collection stored latest (r.heard env root settings)) e) :
    r.Resumes env root settings q stored latest (none, v) := by
  obtain ⟨hcompared, hdeliveries, hstored⟩ := h.again hr hq hp hg hresult hb he
  exact ⟨hdeliveries ▸ List.sublist_append_right _ _, deliveries_of_cut hcut,
    fun c hc => (hcut.keeps c).trans ((hr.ends hp).held_of_ne hc).symm,
    fun _ => ⟨hcompared, hdeliveries⟩, fun hl => absurd rfl hl, fun hl => absurd rfl hl,
    fun _ _ => hstored⟩

end

end PollRecord

/-- A poll of stored records whose process dies at one of its steps or later, and the first poll of
its snapshot that succeeds after that, in any run from what is left of the snapshot. If the second
poll is given the same records, it resumes the first one. One that was cut short is evaluated again,
so the answers to this evaluation have to be the same; what becomes of its deliveries may differ. -/
theorem Session.resumes_history {r : PollRecord ε} (hr : r.Polled env root settings)
    (hp : env.snapshot root settings r.collection ≠ settings.rulesPath)
    {stored latest : List Record} (hg : r.gathered = .ok (.comparison stored latest)) {poll : Poll}
    (hresult : r.result = .ok poll) (torn : Option ByteArray) (left : Nat)
    {session : Option Session} {directives : List Directive} {w : World ε Files}
    (hw : w.store (env.snapshot root settings r.collection) =
      (r.wreck env root settings torn left).2.store (env.snapshot root settings r.collection))
    {a b : List (PollRecord ε)} {q : PollRecord ε}
    (h : history env root settings session directives w = a ++ q :: b)
    (ha : ∀ p ∈ a, env.snapshot root settings p.collection =
      env.snapshot root settings r.collection → ¬p.Succeeds)
    (hq : q.Repeats env root settings r latest)
    (he : (r.wreck env root settings torn left).1 = none →
      ∃ e, env.accepting.Gives (q.heard env root settings).env
        (env.evaluation root settings r.collection stored latest (r.heard env root settings)) e) :
    r.Resumes env root settings q stored latest (r.wreck env root settings torn left) := by
  have hpolled : ∀ p ∈ a ++ q :: b, p.Polled env root settings :=
    fun p hmem => polled_history env root settings (h ▸ hmem)
  have hqpolled := hpolled q (by simp)
  have hchain := chain_history env root settings session directives w
  rw [h] at hchain
  -- What the crash left is still there when the next poll begins, unless it cannot be read.
  have hstays := hchain.init.stays hp (fun p hmem => hpolled p (by simp [hmem])) ha
  rw [← hchain.split.1.store, hw] at hstays
  rcases hr.wreck hg torn left with hended | ⟨v, hdied, hcut⟩
  · rw [hended] at hstays ⊢
    exact hq.resumes_ended hqpolled hr hp hg hresult hstays
  · rw [hdied] at hstays he ⊢
    obtain ⟨e, hgives⟩ := he rfl
    obtain ⟨hloaded, -⟩ := hr.compared hp hg hresult
    rw [hcut.keeps, hloaded] at hstays
    -- The first poll could read it.
    have hkept := hstays.resolve_right fun ⟨hjson, _⟩ => by cases hjson
    exact hq.resumes_cut hqpolled hr hp hg hresult hcut hkept hgives

end

/-! ### A crash in a write -/

/-- A poll that finds a new record in an empty snapshot. -/
def postPoll : PollRecord Nat :=
  postSession.record postEnvironment "store" postSettings postCollection emptyWorld

/-- What is left of it when its process dies in the write: a bracket beside the snapshot. -/
def postWreck : Option (Except SessionError Poll) × World Nat Files :=
  postPoll.wreck postEnvironment "store" postSettings (some "[".toUTF8) 9

/-- The delivery was attempted, the snapshot is as it was, and beside it is what was written. -/
theorem postWreck_torn :
    postWreck.1 = none ∧ (emptyWorld.deliveries postWreck.2).length = 1 ∧
      postWreck.2.store "store/c1.json" = some "[]".toUTF8 ∧
      postWreck.2.store "store/c1.json.tmp" = some "[".toUTF8 :=
  ⟨rfl, rfl, rfl, rfl⟩

theorem start_post (w : World Nat Files) :
    Session.start (postEnvironment.surroundings "store" postSettings) w = (.ok postSession, w) := by
  have hparsed : RuleFile.ofText? (RuleFile.text [("c-1", [postEntry])]) =
      some [("c-1", [postEntry])] := by
    rw [RuleFile.ofText?, RuleFile.text, Draft.ofText?_pretty]
    rfl
  exact Session.start_of_text rfl rfl hparsed (fun _ _ => rfl) rfl

/-- The same poll after the restart, in the world that the crash left. -/
def postAgain : PollRecord Nat :=
  postSession.record postEnvironment "store" postSettings postCollection postWreck.2

theorem history_postWreck :
    Session.history postEnvironment "store" postSettings none [.restart, .cycle] postWreck.2 =
      [postAgain] := by
  have hstart : Session.obey (postEnvironment.surroundings "store" postSettings) none .restart
      postWreck.2 = ((some postSession, none), postWreck.2) := bind_run (start_post _)
  have hpolls : Session.directivePolls postEnvironment "store" postSettings (some postSession)
      .cycle postWreck.2 = [postAgain] := Session.polls_singleton _ _ _ _ _ _
  rw [Session.history_cons _ _ _ hstart, Session.history, hpolls]
  rfl

/-- After a crash in the write, the delivery is attempted again and the record is stored. -/
theorem resumes_post :
    postWreck.1 = none ∧
      postPoll.Resumes postEnvironment "store" postSettings postAgain [] [noted "a"] postWreck := by
  have hresult : postPoll.result = .ok (.evaluated 1 1) := rfl
  refine ⟨rfl, Session.resumes_history (r := postPoll) (a := []) (b := []) ⟨_, _, _, rfl⟩
    (snapshot_ne_rulesPath _ _ postSettings postCollection (by decide)) rfl hresult
    (some "[".toUTF8) 9 rfl history_postWreck (by simp) ?_ ?_⟩
  · exact ⟨rfl, ⟨.evaluated 1 1, rfl, nofun⟩, ⟨.comparison [] [noted "a"], rfl, rfl⟩, rfl⟩
  · exact fun _ => ⟨_, rfl, rfl⟩

/-! ### A price that is reported again -/

/-- A price that is read back as another one is reported once more, although the poll before came to
its end. -/
theorem changes_reread_priced :
    (priced price).reread? = some (priced nextPrice) ∧
      (Delta.changes [priced nextPrice] [priced price] ["Price"]).get? "r1" =
        some (.propertyChanged [("Price", .number (.double nextPrice))]
          [("Price", .number (.double price))]) :=
  ⟨reread?_priced, rfl⟩

end RecordWatch
