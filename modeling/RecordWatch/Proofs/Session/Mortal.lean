import RecordWatch.Proofs.Session.Failure

/-! A process that may die. It has some steps left, every operation on the world takes one, and
where none is left it dies; a write in which it dies may leave anything at its path. A poll that
compares either comes to its end before the process dies, or leaves every snapshot as it found it
and has made no other calls than it was going to make. -/

namespace RecordWatch

/-- A computation of a process with some steps left. A dead process has no result. -/
abbrev Mortal (σ : Type) := OptionT (StateM (σ × Nat))

namespace Mortal

variable {σ α β : Type}

/-- A step, if one is left. Where the process dies instead, `ruin` is what becomes of the state. -/
def step (ruin : σ → σ) (p : StateM σ α) : Mortal σ α :=
  OptionT.mk fun (s, left) =>
    match left with
    | 0 => (none, ruin s, 0)
    | left + 1 => (some (p s).1, (p s).2, left)

theorem alive_run {p : Mortal σ α} {f : α → Mortal σ β} {s s' : σ × Nat} {a : α}
    (h : p.run s = (some a, s')) : (p >>= f).run s = (f a).run s' := by
  rw [OptionT.run_bind]
  exact bind_run h

theorem dead_run {p : Mortal σ α} {f : α → Mortal σ β} {s s' : σ × Nat}
    (h : p.run s = (none, s')) : (p >>= f).run s = (none, s') := by
  rw [OptionT.run_bind]
  exact bind_run h

end Mortal

section

variable {σ : Type}

/-- Files in the hands of a mortal process; `spoil` is what a write does in which it dies. -/
def Disk.mortal (disk : Disk (StateM σ)) (spoil : String → σ → σ) : Disk (Mortal σ) where
  isFile path := .step id (disk.isFile path)
  read path := .step id (disk.read path)
  write path bytes := .step (spoil path) (disk.write path bytes)
  rename source target := .step id (disk.rename source target)
  makeDirectories path := .step id (disk.makeDirectories path)
  modified path := .step id (disk.modified path)

/-- What a mortal process works with: each of its operations is a step. -/
def Surroundings.mortal (s : Surroundings (StateM σ)) (spoil : String → σ → σ) :
    Surroundings (Mortal σ) where
  source :=
    { query := fun collection properties filter =>
        .step id (s.source.query collection properties filter)
      items := fun record property => .step id (s.source.items record property)
      update := fun record properties => .step id (s.source.update record properties) }
  store := ⟨s.store.disk.mortal spoil, s.store.root⟩
  notify delivery := .step id (s.notify delivery)
  now := .step id s.now
  log event := .step id (s.log event)
  settings := s.settings

end

/-- The world with a file that a write has torn. -/
def World.tear {ε : Type} (torn : Option ByteArray) (path : String) (w : World ε Files) :
    World ε Files :=
  { w with store := Function.update w.store path torn }

section

variable {ε α β : Type} (env : Environment ε) (root : String) (settings : Settings)
  (torn : Option ByteArray)

/-- What a mortal process works with whose death in a write leaves `torn`. -/
def Environment.mortal : Surroundings (Mortal (World ε Files)) :=
  (env.surroundings root settings).mortal (World.tear torn)

/-- The snapshot of every collection is the same in both worlds. -/
def World.Keeps (w v : World ε Files) : Prop :=
  ∀ c : String, v.store ((env.store root settings).path c) =
    w.store ((env.store root settings).path c)

/-- What is left of a run from `w` to `u` that is cut short at `v`. -/
structure Cut (w u v : World ε Files) : Prop where
  keeps : World.Keeps env root settings w v
  begun : w.calls <+: v.calls
  ahead : v.calls <+: u.calls

/-- From a world, the run of a mortal process ends as the other one does or is cut short. -/
structure Shadows (p : Mortal (World ε Files) α) (q : StateM (World ε Files) α)
    (w : World ε Files) : Prop where
  calls : w.calls <+: (q w).2.calls
  run (left : Nat) : (∃ rest, p.run (w, left) = (some (q w).1, (q w).2, rest)) ∨
    ∃ v rest, p.run (w, left) = (none, v, rest) ∧ Cut env root settings w (q w).2 v

variable {env root settings torn}

theorem World.Keeps.trans {w v u : World ε Files} (h : World.Keeps env root settings w v)
    (h' : World.Keeps env root settings v u) : World.Keeps env root settings w u :=
  fun c => (h' c).trans (h c)

namespace Shadows

theorem step {ruin : World ε Files → World ε Files} {q : StateM (World ε Files) α}
    {w : World ε Files} (hq : w.calls <+: (q w).2.calls)
    (hr : World.Keeps env root settings w (ruin w)) (hc : (ruin w).calls = w.calls) :
    Shadows env root settings (.step ruin q) q w := by
  refine ⟨hq, fun left => ?_⟩
  cases left with
  -- Here the process dies: what counts is that `ruin` makes no call and spares the snapshots.
  | zero => exact .inr ⟨_, _, rfl, hr, hc ▸ List.prefix_rfl, by rwa [hc]⟩
  | succ left => exact .inl ⟨_, rfl⟩

theorem pure (a : α) (w : World ε Files) :
    Shadows env root settings (Pure.pure a) (Pure.pure a) w :=
  ⟨List.prefix_rfl, fun _ => .inl ⟨_, rfl⟩⟩

/-- A process that gets through the first part is cut short in the second one where this leaves the
snapshots as they were before the first. -/
theorem bind {p : Mortal (World ε Files) α} {q : StateM (World ε Files) α}
    {f : α → Mortal (World ε Files) β} {g : α → StateM (World ε Files) β} {w : World ε Files}
    (h : Shadows env root settings p q w) (hk : World.Keeps env root settings w (q w).2)
    (hf : ∀ a w', q w = (a, w') → Shadows env root settings (f a) (g a) w') :
    Shadows env root settings (p >>= f) (q >>= g) w := by
  cases hq : q w with
  | mk a w' =>
    have hnext := hf a w' hq
    obtain ⟨hcalls, hrun⟩ := h
    rw [hq] at hcalls hrun hk
    have hend : (q >>= g) w = g a w' := bind_run hq
    refine ⟨?_, fun left => ?_⟩
    · rw [hend]
      exact hcalls.trans hnext.calls
    · rw [hend]
      rcases hrun left with ⟨rest, hp⟩ | ⟨v, rest, hp, hcut⟩
      · rw [Mortal.alive_run hp]
        -- What is left after the first part decides about the second.
        rcases hnext.run rest with hlives | ⟨v, rest, hdies, hcut⟩
        · exact .inl hlives
        · exact .inr ⟨v, rest, hdies, hk.trans hcut.keeps, hcalls.trans hcut.begun, hcut.ahead⟩
      · rw [Mortal.dead_run hp]
        exact .inr ⟨v, rest, rfl, hcut.keeps, hcut.begun, hcut.ahead.trans hnext.calls⟩

theorem bind_pure {p : Mortal (World ε Files) α} {q : StateM (World ε Files) α}
    {f : α → Mortal (World ε Files) β} {g : α → StateM (World ε Files) β} {w : World ε Files}
    (h : Shadows env root settings p q w)
    (hf : ∀ a, ∃ b, f a = Pure.pure b ∧ g a = Pure.pure b) :
    Shadows env root settings (p >>= f) (q >>= g) w := by
  obtain ⟨b, hfb, hgb⟩ := hf (q w).1
  have hend : (q >>= g) w = (b, (q w).2) := (bind_run rfl).trans (congrFun hgb _)
  refine ⟨?_, fun left => ?_⟩
  · rw [hend]
    exact h.calls
  · rw [hend]
    rcases h.run left with ⟨rest, hp⟩ | ⟨v, rest, hp, hcut⟩
    · rw [Mortal.alive_run hp, hfb]
      exact .inl ⟨rest, rfl⟩
    · rw [Mortal.dead_run hp]
      exact .inr ⟨v, rest, rfl, hcut⟩

end Shadows

variable (env root settings) in
/-- Computations of a mortal process whose like keeps every snapshot. -/
def Likeness.mortal : Likeness (Mortal (World ε Files)) (StateM (World ε Files)) where
  rel p q := ∀ w, Shadows env root settings p q w ∧ World.Keeps env root settings w (q w).2
  pure a w := ⟨.pure a w, fun _ => rfl⟩
  map f h w := by
    rw [map_eq_pure_bind, map_eq_pure_bind]
    exact ⟨(h w).1.bind_pure fun a => ⟨f a, rfl, rfl⟩, (h w).2⟩
  bind h hf w := ⟨(h w).1.bind (h w).2 fun a w' _ => (hf a w').1, (h w).2.trans (hf _ _).2⟩

/-! ### Steps of a poll -/

theorem mortal_call (call : Call) (step : StateM ε α) :
    (Likeness.mortal env root settings).rel (.step id (World.call call step))
      (World.call call step) :=
  fun w => ⟨.step (List.prefix_append w.calls [call]) (fun _ => rfl) rfl, fun _ => rfl⟩

theorem mortal_quiet {q : StateM (World ε Files) α} (h : ∀ w, (Likeness.quiet w).rel q q) :
    (Likeness.mortal env root settings).rel (.step id q) q := by
  intro w
  obtain ⟨hstore, hcalls⟩ := Relates.keeps (h w) ⟨rfl, rfl⟩
  exact ⟨.step (hcalls ▸ List.prefix_rfl) (fun _ => rfl) rfl, fun _ => congrFun hstore _⟩

variable (env root settings torn) in
theorem alike_mortal (collection : Collection) :
    Surroundings.Alike (Likeness.mortal env root settings) (env.mortal root settings torn)
      (env.surroundings root settings) collection := by
  let L := Likeness.mortal env root settings
  have hlog : ∀ event, L.rel ((env.mortal root settings torn).log event)
      ((env.surroundings root settings).log event) :=
    fun _ => mortal_quiet fun w => (Likeness.quiet w).pure _
  refine ⟨fun _ => mortal_call _ _,
    ⟨fun _ _ => mortal_call _ _, mortal_quiet fun w => quiet_ambient w _, hlog⟩,
    fun rule record change fired => ?_, rfl⟩
  exact L.bind (L.perform (fun _ => mortal_call _ _) hlog rule.actions record change) fun _ =>
    L.bind (hlog _) fun _ => L.pure _

variable (torn) in
theorem mortal_contains (collection : String) :
    (Likeness.mortal env root settings).rel
      ((env.mortal root settings torn).store.contains collection)
      ((env.store root settings).contains collection) :=
  mortal_quiet fun _ => Relates.of_keeps fun _ h => h

variable (torn) in
theorem mortal_load (collection : String) :
    (Likeness.mortal env root settings).rel
      ((env.mortal root settings torn).store.load collection)
      ((env.store root settings).load collection) :=
  (Likeness.mortal env root settings).load (mortal_quiet fun w => quiet_read env settings w _)

namespace Shadows

variable (torn) in
theorem write {path : String} (hp : ∀ c : String, (env.store root settings).path c ≠ path)
    (bytes : ByteArray) (w : World ε Files) :
    Shadows env root settings (.step (World.tear torn path) (World.write env path bytes))
        (World.write env path bytes) w ∧
      World.Keeps env root settings w (World.write env path bytes w).2 := by
  have htear : World.Keeps env root settings w (World.tear torn path w) := by
    intro c
    simp only [World.tear, Function.update_of_ne (hp c)]
  rw [World.write_eq]
  exact ⟨.step List.prefix_rfl htear rfl,
    fun c => Files.written_of_ne (hp c) bytes (env.breaks path w.env).1 w.store⟩

theorem rename (source target : String) (w : World ε Files) :
    Shadows env root settings (.step id (World.rename env source target))
      (World.rename env source target) w := by
  rw [World.rename_eq]
  exact .step List.prefix_rfl (fun _ => rfl) rfl

/-- A snapshot is saved by a write beside it, which leaves it whatever becomes of the write, and by
a move, which is the last step. -/
theorem save (collection : String) (records : List Record) (w : World ε Files) :
    Shadows env root settings ((env.mortal root settings torn).store.save collection records)
      ((env.store root settings).save collection records) w := by
  have hbeside := fun other => (env.store root settings).path_ne_beside other collection
  have hpath : (env.mortal root settings torn).store.path collection =
      (env.store root settings).path collection := rfl
  rw [SnapshotStore.save, SnapshotStore.save, hpath]
  generalize Path.withExtension ((env.store root settings).path collection) "json.tmp" = beside
    at hbeside ⊢
  obtain ⟨hwrite, hkeeps⟩ :=
    write torn hbeside (Record.listText records).toUTF8 w
  refine hwrite.bind hkeeps fun written w' _ => ?_
  cases written with
  -- The temporary file may be torn now, but it is no snapshot.
  | error error => exact .pure _ _
  | ok _ =>
    refine (rename beside ((env.store root settings).path collection) _).bind_pure fun moved => ?_
    cases moved <;> exact ⟨_, rfl, rfl⟩

theorem merge (collection : Collection) (latest : List Record) (w : World ε Files) :
    Shadows env root settings ((env.mortal root settings torn).merge collection latest).run
      ((env.surroundings root settings).merge collection latest).run w := by
  suffices hmerge : Shadows env root settings
      ((env.mortal root settings torn).store.merge collection.id latest)
      ((env.store root settings).merge collection.id latest) w from
    hmerge.bind_pure fun merged => ⟨_, rfl, rfl⟩
  obtain ⟨hload, hkeeps⟩ := mortal_load torn collection.id w
  refine hload.bind hkeeps fun loaded w' _ => ?_
  cases loaded with
  | ok stored =>
    refine (Shadows.pure stored w').bind (fun _ => rfl) fun stored w' _ => ?_
    exact (save collection.id _ w').bind_pure fun saved => by cases saved <;> exact ⟨_, rfl, rfl⟩
  | error error =>
    cases error with
    | notFound _ =>
      refine (Shadows.pure [] w').bind (fun _ => rfl) fun stored w' _ => ?_
      exact (save collection.id _ w').bind_pure fun saved => by cases saved <;> exact ⟨_, rfl, rfl⟩
    | io => exact .pure _ _
    | json => exact .pure _ _

theorem run_bind {γ : Type} {p : ExceptT γ (Mortal (World ε Files)) α}
    {q : ExceptT γ (StateM (World ε Files)) α} {f : α → ExceptT γ (Mortal (World ε Files)) β}
    {g : α → ExceptT γ (StateM (World ε Files)) β} {w w' : World ε Files} {a : α}
    (h : Shadows env root settings p.run q.run w) (hq : q.run w = (.ok a, w'))
    (hk : World.Keeps env root settings w w')
    (hf : Shadows env root settings (f a).run (g a).run w') :
    Shadows env root settings (p >>= f).run (q >>= g).run w := by
  rw [ExceptT.run_bind, ExceptT.run_bind]
  refine h.bind (by rw [hq]; exact hk) fun result v hrun => ?_
  rw [hq] at hrun
  cases hrun
  exact hf

theorem lift_bind {γ : Type} {p : Mortal (World ε Files) α} {q : StateM (World ε Files) α}
    {f : α → ExceptT γ (Mortal (World ε Files)) β} {g : α → ExceptT γ (StateM (World ε Files)) β}
    {w w' : World ε Files} {a : α} (h : Shadows env root settings p q w) (hq : q w = (a, w'))
    (hk : World.Keeps env root settings w w')
    (hf : Shadows env root settings (f a).run (g a).run w') :
    Shadows env root settings (liftM p >>= f).run (liftM q >>= g).run w := by
  refine run_bind (p := liftM p) (q := liftM q) ?_ ?_ hk hf
  · show Shadows env root settings (Except.ok <$> p) (Except.ok <$> q) w
    rw [map_eq_pure_bind, map_eq_pure_bind]
    exact h.bind_pure fun a => ⟨.ok a, rfl, rfl⟩
  · exact congrArg (fun result : α × World ε Files => (Except.ok result.1, result.2)) hq

theorem stored {collection : Collection} {stored : List Record} {w asked : World ε Files}
    (h : ((env.surroundings root settings).stored collection).run w =
      (.ok (.records stored), asked)) :
    Shadows env root settings ((env.mortal root settings torn).stored collection).run
      ((env.surroundings root settings).stored collection).run w := by
  have hcases := stored_cases env root settings collection w
  rw [h] at hcases
  cases hcases with
  | @loaded _ seen read hc hl =>
    obtain ⟨hcontains, hsees⟩ := mortal_contains torn collection.id w
    obtain ⟨hload, hreads⟩ := mortal_load torn collection.id seen
    rw [hc] at hsees
    rw [hl] at hreads
    refine lift_bind hcontains hc hsees ?_
    refine lift_bind hload hl hreads ?_
    exact .pure _ _

variable (torn) in
/-- A poll that compares: the move at the end of the merge is its last step. -/
theorem poll {session : Session} {collection : Collection} {stored latest : List Record}
    {w asked heard : World ε Files}
    (hs : ((env.surroundings root settings).stored collection).run w =
      (.ok (.records stored), asked))
    (hq : (env.surroundings root settings).fetch collection
      (some (session.lookback settings collection.id)) asked = (some latest, heard)) :
    Shadows env root settings (session.poll (env.mortal root settings torn) collection).run
      (session.poll (env.surroundings root settings) collection).run w := by
  obtain ⟨hheld, -⟩ := stored_quiet hs fun h => by cases h
  obtain ⟨hfetch, hkept⟩ := (alike_mortal env root settings torn collection).fetch
    (some (session.lookback settings collection.id)) asked
  rw [hq] at hkept
  refine run_bind (Shadows.stored hs) hs hheld (lift_bind hfetch hq hkept ?_)
  cases he : (env.surroundings root settings).evaluate collection stored latest heard with
  | mk poll evaluated =>
    obtain ⟨hevaluate, hkeeps⟩ :=
      (alike_mortal env root settings torn collection).evaluate stored latest heard
    rw [he] at hkeeps
    refine lift_bind hevaluate he hkeeps ?_
    rw [ExceptT.run_bind, ExceptT.run_bind]
    -- After the merge the poll only returns, so it cannot be cut short with the snapshot replaced.
    refine (merge collection latest evaluated).bind_pure fun merged => ?_
    cases merged <;> exact ⟨_, rfl, rfl⟩

end Shadows

end

end RecordWatch
