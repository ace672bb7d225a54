import RecordWatch.Proofs.Session.History
import RecordWatch.Proofs.Session.Indifference

/-! What a poll asks and is told. The exchanges of a poll are recorded by an environment that keeps
them beside its state. An environment that gives the same answers, asked for them in the same order,
brings a poll of the same collection to the same result, whatever else there is in its world. -/

namespace RecordWatch

/-- What an environment is asked. -/
inductive Request where
  | query (collection : String) (properties : Option (List String)) (filter : Option Json)
  | items (record property : String)
  | update (record : String) (properties : Json)
  | notify (delivery : Delivery)
  | now
  | rules
  | rulesModified
  | sees (path : String)
  | reads (path : String)
  | breaks (path : String)
  | moves (path : String)

/-- What a request is answered with. -/
def Request.Answer : Request → Type
  | .query _ _ _ => Except ApiError (List Record)
  | .items _ _ => Except ApiError (List Json)
  | .update _ _ => Except ApiError Unit
  | .notify _ => Except DeliveryError Unit
  | .now => Moment
  | .rules => Except FileError ByteArray
  | .rulesModified => Except FileError Int
  | .sees _ => Bool
  | .reads _ => Bool
  | .breaks _ => Option (Option ByteArray)
  | .moves _ => Bool

/-- A request and its answer. -/
abbrev Exchange := (request : Request) × request.Answer

namespace Environment

variable {ε : Type}

/-- The answer of an environment. -/
def reply (env : Environment ε) : (request : Request) → StateM ε request.Answer
  | .query collection properties filter => env.query collection properties filter
  | .items record property => env.items record property
  | .update record properties => env.update record properties
  | .notify delivery => env.notify delivery
  | .now => env.now
  | .rules => env.rules
  | .rulesModified => env.rulesModified
  | .sees path => env.sees path
  | .reads path => env.reads path
  | .breaks path => env.breaks path
  | .moves path => env.moves path

/-- An answer that is recorded together with its request. -/
def recorded (request : Request) (step : StateM ε request.Answer) :
    StateM (ε × List Exchange) request.Answer := fun e =>
  ((step e.1).1, (step e.1).2, e.2 ++ [⟨request, (step e.1).1⟩])

/-- The same environment, which also records what it was asked and what it answered. -/
def recording (env : Environment ε) : Environment (ε × List Exchange) where
  query collection properties filter :=
    recorded (.query collection properties filter) (env.query collection properties filter)
  items record property := recorded (.items record property) (env.items record property)
  update record properties := recorded (.update record properties) (env.update record properties)
  notify delivery := recorded (.notify delivery) (env.notify delivery)
  now := recorded .now env.now
  rules := recorded .rules env.rules
  rulesModified := recorded .rulesModified env.rulesModified
  sees path := recorded (.sees path) (env.sees path)
  reads path := recorded (.reads path) (env.reads path)
  breaks path := recorded (.breaks path) (env.breaks path)
  moves path := recorded (.moves path) (env.moves path)

theorem reply_recording (env : Environment ε) (request : Request) :
    env.recording.reply request = recorded request (env.reply request) := by
  cases request <;> rfl

/-- Whether an environment gives some answers, asked for them one after the other, and is then in
another state. -/
def Gives (env : Environment ε) : ε → List Exchange → ε → Prop
  | e, [], e' => e = e'
  | e, ⟨request, answer⟩ :: rest, e' =>
    (env.reply request e).1 = answer ∧ env.Gives (env.reply request e).2 rest e'

theorem gives_append (env : Environment ε) {e e' : ε} {first second : List Exchange} :
    env.Gives e (first ++ second) e' ↔
      ∃ middle, env.Gives e first middle ∧ env.Gives middle second e' := by
  induction first generalizing e with
  | nil => exact ⟨fun h => ⟨e, rfl, h⟩, fun ⟨middle, he, h⟩ => (he : e = middle) ▸ h⟩
  | cons exchange rest ih =>
    refine ⟨fun ⟨ha, h⟩ => ?_, fun ⟨middle, ⟨ha, hr⟩, h⟩ => ⟨ha, ih.mpr ⟨middle, hr, h⟩⟩⟩
    obtain ⟨middle, hr, hs⟩ := ih.mp h
    exact ⟨middle, ⟨ha, hr⟩, hs⟩

end Environment

/-- What a poll asked and was told. -/
def PollRecord.exchanges {ε : Type} (env : Environment ε) (root : String) (settings : Settings)
    (r : PollRecord ε) : List Exchange :=
  ((r.session.poll (env.recording.surroundings root settings) r.collection).run
    ⟨(r.before.env, []), r.before.store, r.before.calls⟩).2.env.2

/-- Recording changes nothing but the record. -/
theorem Environment.alike_recording {ε : Type} (env : Environment ε) :
    Environment.Alike (fun (e : ε × List Exchange) v => e.1 = v) env.recording env := by
  constructor <;> intros <;> rintro ⟨e, exchanges⟩ v rfl <;>
    exact ⟨by first | rfl | trivial, rfl⟩

/-! ### Replaying what was told -/

section

variable {ε ε' α β : Type}

/-- In an environment that gives what the first computation was told, the second one comes to the
same and makes the same calls; it leads from files that `pre` relates to files that `post`
relates. -/
def Replays (env' : Environment ε') (pre : Files → Files → Prop) (post : α → Files → Files → Prop)
    (p : StateM (World (ε × List Exchange) Files) α) (q : StateM (World ε' Files) α) : Prop :=
  ∀ w, ∃ exchanges made,
    (p w).2.env.2 = w.env.2 ++ exchanges ∧ (p w).2.calls = w.calls ++ made ∧
      ∀ w' e', pre w.store w'.store → env'.Gives w'.env exchanges e' →
        ∃ files, q w' = ((p w).1, ⟨e', files, w'.calls ++ made⟩) ∧
          post (p w).1 (p w).2.store files

namespace Replays

variable {env' : Environment ε'} {pre : Files → Files → Prop} {mid : α → Files → Files → Prop}
  {post : β → Files → Files → Prop}

theorem bind {p : StateM (World (ε × List Exchange) Files) α} {q : StateM (World ε' Files) α}
    {f : α → StateM (World (ε × List Exchange) Files) β} {g : α → StateM (World ε' Files) β}
    (h : Replays env' pre mid p q) (hf : ∀ a, Replays env' (mid a) post (f a) (g a)) :
    Replays env' pre post (p >>= f) (q >>= g) := by
  intro w
  obtain ⟨first, made, hfirst, hmade, hq⟩ := h w
  obtain ⟨second, more, hsecond, hmore, hg⟩ := hf (p w).1 (p w).2
  refine ⟨first ++ second, made ++ more, ?_, ?_, fun w' e' hpre hgives => ?_⟩
  · rw [← List.append_assoc, ← hfirst]
    exact hsecond
  · rw [← List.append_assoc, ← hmade]
    exact hmore
  · obtain ⟨e, hgives, hgives'⟩ := env'.gives_append.mp hgives
    obtain ⟨files, hrun, hmid⟩ := hq w' e hpre hgives
    obtain ⟨files', hrun', hpost⟩ := hg ⟨e, files, w'.calls ++ made⟩ e' hmid hgives'
    refine ⟨files', ?_, hpost⟩
    rw [bind_run hrun, hrun', ← List.append_assoc]
    rfl

/-- A step on the files asks nothing. -/
theorem touch {step : Files → β × Files}
    (h : ∀ files files', pre files files' → (step files').1 = (step files).1 ∧
      post (step files).1 (step files).2 (step files').2) :
    Replays env' pre post (World.touch (ε := ε × List Exchange) step)
      (World.touch (ε := ε') step) := by
  intro w
  refine ⟨[], [], (List.append_nil _).symm, (List.append_nil _).symm, ?_⟩
  rintro w' e' hpre (rfl : w'.env = e')
  obtain ⟨hresult, hpost⟩ := h _ _ hpre
  refine ⟨(step w'.store).2, ?_, hpost⟩
  rw [List.append_nil]
  exact Prod.ext hresult rfl

theorem pure {b : β} (h : ∀ files files', pre files files' → post b files files') :
    Replays env' pre post (Pure.pure b : StateM (World (ε × List Exchange) Files) β)
      (Pure.pure b : StateM (World ε' Files) β) := by
  have htouch : Replays env' pre post
      (World.touch fun files => (b, files) : StateM (World (ε × List Exchange) Files) β)
      (World.touch fun files => (b, files)) :=
    touch fun files files' hpre => ⟨rfl, h files files' hpre⟩
  exact htouch

theorem ambient (env : Environment ε) (env' : Environment ε') (pre : Files → Files → Prop)
    (request : Request) :
    Replays env' pre (fun _ => pre) (World.ambient (env.recording.reply request))
      (World.ambient (env'.reply request)) := by
  intro w
  rw [env.reply_recording]
  refine ⟨[⟨request, (env.reply request w.env.1).1⟩], [], rfl, (List.append_nil _).symm, ?_⟩
  rintro w' e' hpre ⟨ha, rfl⟩
  refine ⟨w'.store, ?_, hpre⟩
  rw [List.append_nil]
  exact Prod.ext ha rfl

theorem call (env : Environment ε) (env' : Environment ε') (pre : Files → Files → Prop)
    (call : Call) (request : Request) :
    Replays env' pre (fun _ => pre) (World.call call (env.recording.reply request))
      (World.call call (env'.reply request)) := by
  intro w
  rw [env.reply_recording]
  refine ⟨[⟨request, (env.reply request w.env.1).1⟩], [call], rfl, rfl, ?_⟩
  rintro w' e' hpre ⟨ha, rfl⟩
  exact ⟨w'.store, Prod.ext ha rfl, hpre⟩

/-- Computations that keep the files related. -/
def likeness (env' : Environment ε') (pre : Files → Files → Prop) :
    Likeness (StateM (World (ε × List Exchange) Files)) (StateM (World ε' Files)) where
  rel := Replays env' pre fun _ => pre
  pure _ := pure fun _ _ hpre => hpre
  map _ h := h.bind fun _ => pure fun _ _ hpre => hpre
  bind h hf := h.bind hf

theorem likeness_touch {env' : Environment ε'} {pre : Files → Files → Prop}
    {step : Files → α × Files}
    (h : ∀ files files', pre files files' →
      (step files').1 = (step files).1 ∧ pre (step files).2 (step files').2) :
    (likeness (ε := ε) env' pre).rel (World.touch step) (World.touch step) := by
  show Replays env' pre (fun _ => pre) (World.touch step) (World.touch step)
  exact touch h

end Replays

/-! ### Replaying a poll -/

/-- Files that are the same at a path. -/
def Files.SameAt (path : String) (files files' : Files) : Prop := files path = files' path

namespace Files.SameAt

variable {path : String} {files files' : Files}

theorem found (h : SameAt path files files') (seen : Bool) :
    (Files.found path seen files').1 = (Files.found path seen files).1 := by
  rw [Files.found, Files.found, ← h]

theorem contents (h : SameAt path files files') (readable : Bool) :
    (Files.contents path readable files').1 = (Files.contents path readable files).1 := by
  rw [Files.contents, Files.contents, ← h]

/-- A write beside a path leaves files the same there, and makes them the same where it succeeds. -/
theorem written (h : SameAt path files files') {beside : String} (hne : path ≠ beside)
    (bytes : ByteArray) (broken : Option (Option ByteArray)) :
    (Files.written beside bytes broken files').1 = (Files.written beside bytes broken files).1 ∧
      SameAt path (Files.written beside bytes broken files).2
        (Files.written beside bytes broken files').2 ∧
      ((Files.written beside bytes broken files).1 = .ok () →
        SameAt beside (Files.written beside bytes broken files).2
          (Files.written beside bytes broken files').2) := by
  have hset : ∀ files : Files, Function.update files beside (some bytes) beside = some bytes :=
    fun files => Function.update_self _ _ _
  refine ⟨?_, ?_, ?_⟩
  · cases broken <;> rfl
  · rw [SameAt, written_of_ne hne, written_of_ne hne]
    exact h
  · cases broken with
    | none => exact fun _ => (hset files).trans (hset files').symm
    | some left => exact fun hok => by cases hok

/-- A move to a path of what is the same leaves files the same there. -/
theorem moved_to (h : SameAt path files files') {source : String}
    (hs : SameAt source files files') (movable : Bool) :
    (Files.moved source path movable files').1 = (Files.moved source path movable files).1 ∧
      SameAt path (Files.moved source path movable files).2
        (Files.moved source path movable files').2 := by
  have hset : ∀ (files : Files) bytes,
      Function.update (Function.update files source none) path (some bytes) path = some bytes :=
    fun files bytes => Function.update_self _ _ _
  rw [Files.moved, Files.moved, ← hs]
  split
  · cases files source with
    | none => exact ⟨rfl, h⟩
    | some bytes => exact ⟨rfl, (hset files bytes).trans (hset files' bytes).symm⟩
  · exact ⟨rfl, h⟩

/-- So does a move from there to another path. -/
theorem moved_from (h : SameAt path files files') {target : String} (hne : path ≠ target)
    (movable : Bool) :
    (Files.moved path target movable files').1 = (Files.moved path target movable files).1 ∧
      SameAt path (Files.moved path target movable files).2
        (Files.moved path target movable files').2 := by
  have hgone : ∀ (files : Files) bytes,
      Function.update (Function.update files path none) target (some bytes) path = none :=
    fun files bytes => (Function.update_of_ne hne _ _).trans (Function.update_self _ _ _)
  rw [Files.moved, Files.moved, ← h]
  split
  · cases files path with
    | none => exact ⟨rfl, h⟩
    | some bytes => exact ⟨rfl, (hgone files bytes).trans (hgone files' bytes).symm⟩
  · exact ⟨rfl, h⟩

end Files.SameAt

section

variable (env : Environment ε) (env' : Environment ε') (root : String) (settings : Settings)

theorem answers_recording (path : String) :
    Environment.Answers (Replays.likeness (ε := ε) env' (Files.SameAt path)) env.recording
      env' where
  query _ _ _ := Replays.call env env' _ _ (.query _ _ _)
  items _ _ := Replays.call env env' _ _ (.items _ _)
  now := Replays.ambient env env' _ .now
  rules := Replays.ambient env env' _ .rules
  rulesModified := Replays.ambient env env' _ .rulesModified
  sees _ := Replays.ambient env env' _ (.sees _)
  reads _ := Replays.ambient env env' _ (.reads _)
  breaks _ := Replays.ambient env env' _ (.breaks _)
  moves _ := Replays.ambient env env' _ (.moves _)

/-- What is written beside a snapshot is moved in its place; what was beside it before does not
matter. -/
theorem replays_save (path beside : String) (hne : path ≠ beside) (bytes : ByteArray) :
    Replays (ε := ε) env' (Files.SameAt path) (fun _ => Files.SameAt path)
      (do
        match ← World.write env.recording beside bytes with
        | .error _ => return .error .io
        | .ok _ =>
          match ← World.rename env.recording beside path with
          | .error _ => return .error .io
          | .ok _ => return .ok () : StateM _ (Except StoreError Unit))
      (do
        match ← World.write env' beside bytes with
        | .error _ => return .error .io
        | .ok _ =>
          match ← World.rename env' beside path with
          | .error _ => return .error .io
          | .ok _ => return .ok ()) := by
  have hwrite : Replays env' (Files.SameAt path)
      (fun result files files' => Files.SameAt path files files' ∧
        (result = .ok () → Files.SameAt beside files files'))
      (World.write env.recording beside bytes) (World.write env' beside bytes) := by
    rw [World.write_eq, World.write_eq]
    exact (Replays.ambient env env' _ (.breaks beside)).bind fun broken =>
      .touch fun files files' h => h.written hne bytes broken
  have hrename : Replays env' (fun files files' => Files.SameAt path files files' ∧
        (Except.ok () = (.ok () : Except FileError Unit) → Files.SameAt beside files files'))
      (fun _ => Files.SameAt path) (World.rename env.recording beside path)
      (World.rename env' beside path) := by
    rw [World.rename_eq, World.rename_eq]
    exact (Replays.ambient env env' _ (.moves beside)).bind fun movable =>
      .touch fun files files' h => h.1.moved_to (h.2 rfl) movable
  refine hwrite.bind fun written => ?_
  cases written with
  | error error => exact .pure fun _ _ h => h.1
  | ok _ =>
    refine hrename.bind fun moved => ?_
    cases moved with
    | error error => exact .pure fun _ _ h => h
    | ok _ => exact .pure fun _ _ h => h

theorem store_recording (collection : String) :
    SnapshotStore.Alike
      (Replays.likeness (ε := ε) env' (Files.SameAt ((env'.store root settings).path collection)))
      (env.recording.store root settings) (env'.store root settings) collection where
  contains := (answers_recording env env' _).contains root settings fun seen =>
    Replays.likeness_touch fun _ _ h => ⟨h.found seen, h⟩
  load := (answers_recording env env' _).load root settings fun readable =>
    Replays.likeness_touch fun _ _ h => ⟨h.contents readable, h⟩
  save _ := replays_save env env' _ _ ((env'.store root settings).path_ne_beside _ _) _
  quarantine := (answers_recording env env' _).quarantine root settings fun movable =>
    Replays.likeness_touch fun _ _ h =>
      h.moved_from ((env'.store root settings).path_ne_aside _ _) movable

/-- A poll is replayed by a session with the same lookback. -/
theorem replays_poll {session session' : Session} {collection : Collection}
    (hl : session.lookback settings collection.id = session'.lookback settings collection.id) :
    Replays env' (Files.SameAt (env'.snapshot root settings collection))
      (fun _ => Files.SameAt (env'.snapshot root settings collection))
      (session.poll (env.recording.surroundings root settings) collection).run
      (session'.poll (env'.surroundings root settings) collection).run := by
  have halike : Surroundings.Alike
      (Replays.likeness (ε := ε) env' (Files.SameAt (env'.snapshot root settings collection)))
      (env.recording.surroundings root settings) (env'.surroundings root settings) collection :=
    (answers_recording env env' _).surroundings root settings
      (fun _ => Replays.call env env' _ _ (.notify _)) collection
  exact halike.poll (store_recording env env' root settings collection.id) hl

end

namespace PollRecord

variable {env : Environment ε} {env' : Environment ε'} {root : String} {settings : Settings}

/-- The run that a poll is the record of. -/
theorem Polled.run {r : PollRecord ε} (h : r.Polled env root settings) :
    (r.session.poll (env.surroundings root settings) r.collection).run r.before =
      (r.result, r.after) := by
  obtain ⟨session, collection, w, rfl⟩ := h
  rfl

/-- Two polls of a collection, of which the second is told what the first is told, come to the same,
make the same calls and leave the same snapshot. -/
theorem Polled.replayed {r : PollRecord ε} {r' : PollRecord ε'} (h : r.Polled env root settings)
    (h' : r'.Polled env' root settings) (hc : r'.collection = r.collection)
    (hl : r.session.lookback settings r.collection.id =
      r'.session.lookback settings r.collection.id)
    (hfile : r.before.store (env.snapshot root settings r.collection) =
      r'.before.store (env.snapshot root settings r.collection)) {e : ε'}
    (hg : env'.Gives r'.before.env (r.exchanges env root settings) e) :
    r.result = r'.result ∧
      (∃ made, r.after.calls = r.before.calls ++ made ∧
        r'.after.calls = r'.before.calls ++ made) ∧
      r.after.store (env.snapshot root settings r.collection) =
        r'.after.store (env.snapshot root settings r.collection) := by
  have hpoll := h.run
  have hpoll' := h'.run
  rw [hc] at hpoll'
  -- The recording environment polls as the plain one does.
  obtain ⟨hresult, hmatch⟩ := env.alike_recording.poll root settings r.session r.collection
    ⟨(r.before.env, []), r.before.store, r.before.calls⟩ r.before ⟨rfl, rfl, rfl⟩
  obtain ⟨exchanges, made, hexchanges, hmade, hreplay⟩ := replays_poll env env' root settings hl
    ⟨(r.before.env, []), r.before.store, r.before.calls⟩
  have htold : r.exchanges env root settings = exchanges := hexchanges
  rw [htold] at hg
  obtain ⟨files, hrun, hsame⟩ := hreplay _ e hfile hg
  rw [hpoll] at hresult hmatch
  rw [hpoll'] at hrun
  have hresult' : r'.result = _ := congrArg Prod.fst hrun
  have hafter' : r'.after = _ := congrArg Prod.snd hrun
  refine ⟨hresult.symm.trans hresult'.symm, ⟨made, hmatch.calls.symm.trans hmade, ?_⟩, ?_⟩
  · rw [hafter']
  · rw [hafter', ← hmatch.store]
    exact hsame

end PollRecord

end

end RecordWatch
