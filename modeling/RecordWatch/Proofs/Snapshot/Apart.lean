import RecordWatch.Proofs.Session.Mortal

/-! Snapshots apart. What is done to one collection leaves the snapshot of another, also where it
fails or where the process dies in it; and the files that are left beside a snapshot or aside of it
are taken for no snapshot. -/

namespace RecordWatch

/-! ### Operations in processes that may die -/

/-- An operation of a store on a collection. -/
inductive StoreOperation where
  | contains
  | load
  | save (records : List Record)
  | merge (latest : List Record)
  | quarantine

/-- Does an operation; its result is not looked at. -/
def StoreOperation.perform {m : Type → Type} [Monad m] (store : SnapshotStore m)
    (collection : String) : StoreOperation → m Unit
  | contains => do let _ ← store.contains collection
  | load => do let _ ← store.load collection
  | save records => do let _ ← store.save collection records
  | merge latest => do let _ ← store.merge collection latest
  | quarantine => do let _ ← store.quarantine collection

theorem SnapshotStore.Alike.perform {m n : Type → Type} [Monad m] [Monad n] {L : Likeness m n}
    {s : SnapshotStore m} {t : SnapshotStore n} {collection : String}
    (h : SnapshotStore.Alike L s t collection) (operation : StoreOperation) :
    L.rel (operation.perform s collection) (operation.perform t collection) := by
  cases operation with
  | contains => exact L.bind h.contains fun _ => L.pure _
  | load => exact L.bind h.load fun _ => L.pure _
  | save records => exact L.bind (h.save records) fun _ => L.pure _
  | merge latest => exact L.bind (h.merge latest) fun _ => L.pure _
  | quarantine => exact L.bind h.quarantine fun _ => L.pure _

/-- An operation, the number of file operations after which its process dies, and what a write
leaves in which it dies. -/
structure Attempt where
  operation : StoreOperation
  left : Nat
  torn : Option ByteArray

section

variable {ε α : Type}

namespace Mortal

/-- The file at a path is left as it is, whether the process dies or not. -/
def Spares (path : String) (p : Mortal (World ε Files) α) : Prop :=
  ∀ w left, (p.run (w, left)).2.1.store path = w.store path

namespace Spares

variable {path : String}

theorem pure (a : α) : Spares path (Pure.pure a : Mortal (World ε Files) α) := fun _ _ => rfl

theorem step {ruin : World ε Files → World ε Files} {q : StateM (World ε Files) α}
    (hr : ∀ w, (ruin w).store path = w.store path) (hq : ∀ w, (q w).2.store path = w.store path) :
    Spares path (.step ruin q) := by
  intro w left
  cases left with
  | zero => exact hr w
  | succ left => exact hq w

theorem bind {β : Type} {p : Mortal (World ε Files) α} {f : α → Mortal (World ε Files) β}
    (h : Spares path p) (hf : ∀ a, Spares path (f a)) : Spares path (p >>= f) := by
  intro w left
  have hheld := h w left
  cases hp : p.run (w, left) with
  | mk result s =>
    rw [hp] at hheld
    cases result with
    | none =>
      rw [dead_run hp]
      exact hheld
    | some a =>
      rw [alive_run hp]
      exact (hf a s.1 s.2).trans hheld

end Spares

end Mortal

variable (ε) in
/-- Computations that spare a path. -/
def Likeness.spares (path : String) :
    Likeness (Mortal (World ε Files)) (Mortal (World ε Files)) where
  rel p _ := p.Spares path
  pure := .pure
  map f h := by
    rw [map_eq_pure_bind]
    exact h.bind fun a => .pure (f a)
  bind h hf := h.bind hf

variable (env : Environment ε) (root : String) (settings : Settings)

theorem spares_read (torn : Option ByteArray) (path other : String) :
    Mortal.Spares path ((env.mortal root settings torn).store.disk.read other) :=
  .step (fun _ => rfl) fun w =>
    congrFun (Relates.keeps (quiet_read env settings w other) ⟨rfl, rfl⟩).1 path

theorem spares_write (torn : Option ByteArray) {path other : String} (h : path ≠ other)
    (bytes : ByteArray) :
    Mortal.Spares path ((env.mortal root settings torn).store.disk.write other bytes) := by
  refine .step (fun w => Function.update_of_ne h _ _) fun w => ?_
  show (World.write env other bytes w).2.store path = _
  rw [World.write_eq]
  exact Files.written_of_ne h bytes (env.breaks other w.env).1 w.store

theorem spares_rename (torn : Option ByteArray) {path source target : String} (hs : path ≠ source)
    (ht : path ≠ target) :
    Mortal.Spares path ((env.mortal root settings torn).store.disk.rename source target) := by
  refine .step (fun _ => rfl) fun w => ?_
  show (World.rename env source target w).2.store path = _
  rw [World.rename_eq]
  exact Files.moved_of_ne hs ht (env.moves source w.env).1 w.store

/-- Where their snapshots differ, an operation on one collection spares that of the other. -/
theorem alike_spares (torn : Option ByteArray) {c d : String}
    (hne : (env.store root settings).path d ≠ (env.store root settings).path c) :
    SnapshotStore.Alike (Likeness.spares ε ((env.store root settings).path d))
      (env.mortal root settings torn).store (env.mortal root settings torn).store c := by
  let L := Likeness.spares ε ((env.store root settings).path d)
  have hbeside := (env.store root settings).path_ne_beside d c
  have haside := (env.store root settings).path_ne_aside d c
  refine ⟨.step (fun _ => rfl) fun _ => rfl, L.load (spares_read env root settings torn _ _),
    fun records => L.save ?_ ?_, L.quarantine ?_⟩
  · exact spares_write env root settings torn hbeside _
  · exact spares_rename env root settings torn hbeside hne
  · exact spares_rename env root settings torn hne haside

/-- The world after an attempt. -/
def Attempt.after (collection : String) (w : World ε Files) (attempt : Attempt) : World ε Files :=
  ((attempt.operation.perform (env.mortal root settings attempt.torn).store collection).run
    (w, attempt.left)).2.1

theorem Attempt.store_after {c d : String}
    (hne : (env.store root settings).path d ≠ (env.store root settings).path c)
    (attempt : Attempt) (w : World ε Files) :
    (attempt.after env root settings c w).store ((env.store root settings).path d) =
      w.store ((env.store root settings).path d) :=
  (alike_spares env root settings attempt.torn hne).perform attempt.operation w attempt.left

theorem Attempt.store_afterAll {c d : String}
    (hne : (env.store root settings).path d ≠ (env.store root settings).path c)
    (attempts : List Attempt) (w : World ε Files) :
    (attempts.foldl (Attempt.after env root settings c) w).store
      ((env.store root settings).path d) = w.store ((env.store root settings).path d) := by
  induction attempts generalizing w with
  | nil => rfl
  | cons attempt rest ih =>
    rw [List.foldl_cons, ih]
    exact Attempt.store_after env root settings hne attempt w

/-! ### What a store tells of a collection -/

namespace SnapshotStore

/-- What a store with some files tells of a collection, for a state of the environment. -/
def tells (collection : String) (files : Files) (e : ε) :
    Bool × Except StoreError (List Record) :=
  (((env.store root settings).contains collection ⟨e, files, []⟩).1,
    ((env.store root settings).load collection ⟨e, files, []⟩).1)

/-- It tells nothing that the collection's snapshot does not hold. -/
theorem tells_congr {collection : String} {files files' : Files}
    (h : files ((env.store root settings).path collection) =
      files' ((env.store root settings).path collection)) :
    tells env root settings collection files = tells env root settings collection files' := by
  let S : Files → Files → Prop := fun files files' =>
    files ((env.store root settings).path collection) =
      files' ((env.store root settings).path collection)
  have hanswers : Environment.Answers (Likeness.relates (World.Agree S)) env env :=
    ⟨fun _ _ _ => relates_call _ _, fun _ _ => relates_call _ _, relates_ambient _,
      relates_ambient _, relates_ambient _, fun _ => relates_ambient _, fun _ => relates_ambient _,
      fun _ => relates_ambient _, fun _ => relates_ambient _⟩
  have hcontains : Relates (World.Agree S) Eq ((env.store root settings).contains collection)
      ((env.store root settings).contains collection) :=
    hanswers.contains root settings fun seen s t hst =>
      ⟨congrArg (fun content : Option ByteArray => seen && content.isSome) hst.store, hst⟩
  have hload : Relates (World.Agree S) Eq ((env.store root settings).load collection)
      ((env.store root settings).load collection) := by
    refine hanswers.load root settings fun readable s t hst => ⟨?_, hst⟩
    show (Files.contents _ readable s.store).1 = (Files.contents _ readable t.store).1
    rw [Files.contents, Files.contents, hst.store]
  funext e
  have hst : World.Agree S ⟨e, files, []⟩ ⟨e, files', []⟩ := ⟨rfl, rfl, h⟩
  rw [tells, tells, (hcontains _ _ hst).1, (hload _ _ hst).1]

/-- Snapshots are apart. Attempts of operations on one collection, however they end, change nothing
of what the store tells of a collection whose id is another without dashes; and whatever is left in
the file that a snapshot is first written to, or in the one that it is moved aside to, changes
nothing of what the store tells of any collection. -/
theorem snapshots_apart :
    (∀ c d : String, '/' ∉ (plainId c).toList → '/' ∉ (plainId d).toList →
      plainId c ≠ plainId d → ∀ (attempts : List Attempt) (w : World ε Files),
      tells env root settings d (attempts.foldl (Attempt.after env root settings c) w).store =
        tells env root settings d w.store) ∧
    ∀ (c d : String) (files : Files) (content : Option ByteArray),
      tells env root settings d (Function.update files
        (Path.withExtension ((env.store root settings).path c) "json.tmp") content) =
          tells env root settings d files ∧
      tells env root settings d (Function.update files
        (Path.withExtension ((env.store root settings).path c) "json.corrupt") content) =
          tells env root settings d files := by
  refine ⟨fun c d hc hd hne attempts w => ?_, fun c d files content => ⟨?_, ?_⟩⟩
  · rw [slash_mem_plainId] at hc hd
    have hpath : (env.store root settings).path d ≠ (env.store root settings).path c :=
      fun heq => hne (((env.store root settings).path_inj hd hc).mp heq).symm
    exact tells_congr env root settings (Attempt.store_afterAll env root settings hpath attempts w)
  · refine tells_congr env root settings ?_
    rw [Function.update_of_ne ((env.store root settings).path_ne_beside d c)]
  · refine tells_congr env root settings ?_
    rw [Function.update_of_ne ((env.store root settings).path_ne_aside d c)]

/-- A store that has a note of a collection whose id is `.json`. -/
def dotFiles : Files :=
  Function.update (fun _ => none) "store/.json.json" (some (bytesOf [noted "a"]))

/-- Snapshots of the empty id are first written where those of `.json` are. One process dies as it
writes there, one merges and one moves its snapshot aside, and the note is still told. -/
theorem snapshots_apart_dots :
    Path.withExtension "store/.json" "json.tmp" =
        Path.withExtension "store/.json.json" "json.tmp" ∧
      tells (Environment.answering (fun _ => .ok []) []) "store" ⟨"rules", 3600, 600⟩ ".json"
        ([⟨.save [noted "b"], 0, some (bytesOf [])⟩, ⟨.merge [noted "b"], 3, none⟩,
          ⟨.quarantine, 1, none⟩].foldl (Attempt.after (Environment.answering (fun _ => .ok []) [])
            "store" ⟨"rules", 3600, 600⟩ "") ⟨0, dotFiles, []⟩).store 0 =
        (true, .ok [noted "a"]) := by
  have hpath : ((Environment.answering (fun _ => .ok []) []).store "store"
      ⟨"rules", 3600, 600⟩).path ".json" = "store/.json.json" := by decide
  have hlegible : ∀ record ∈ [noted "a"], record.Legible := by
    intro record hr
    rw [List.mem_singleton.mp hr]
    exact legible_noted "a"
  obtain ⟨hkept, -⟩ := snapshots_apart (Environment.answering (fun _ => .ok []) []) "store"
    ⟨"rules", 3600, 600⟩
  refine ⟨by decide, ?_⟩
  have hloaded : loaded ".json" (dotFiles "store/.json.json") = .ok [noted "a"] := by
    rw [dotFiles, Function.update_self, loaded_of_legible hlegible]
  rw [hkept "" ".json" (by decide) (by decide) (by decide), tells, contains_run, load_run, hpath]
  · dsimp only
    rw [hloaded]
    rfl
  · rw [hpath]
    decide

end SnapshotStore

end

end RecordWatch
