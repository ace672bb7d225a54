import RecordWatch.Proofs.Evaluation.Simulation
import RecordWatch.Session

/-! Sessions in two surroundings. What is alike for one collection (its query, the lookups, the
firing of its rules, the clock and the operations on its snapshot) makes its poll alike; what is
alike for all of them, and for the rules file, makes cycles alike. -/

namespace RecordWatch

section

variable {m n : Type → Type} [Monad m] [Monad n] (L : Likeness m n)

/-! ### Stores -/

/-- Two stores that are alike for a collection. -/
structure SnapshotStore.Alike (s : SnapshotStore m) (t : SnapshotStore n) (collection : String) :
    Prop where
  contains : L.rel (s.contains collection) (t.contains collection)
  load : L.rel (s.load collection) (t.load collection)
  save (records : List Record) : L.rel (s.save collection records) (t.save collection records)
  quarantine : L.rel (s.quarantine collection) (t.quarantine collection)

namespace Likeness

variable {disk : Disk m} {disk' : Disk n}

theorem readText {path : String} (h : L.rel (disk.read path) (disk'.read path)) :
    L.rel (disk.readText path) (disk'.readText path) := by
  refine L.bind h fun content => ?_
  cases content with
  | error error => exact L.pure _
  | ok bytes =>
    dsimp only
    split <;> exact L.pure _

theorem load {root collection : String}
    (h : L.rel (disk.read ((⟨disk, root⟩ : SnapshotStore m).path collection))
      (disk'.read ((⟨disk, root⟩ : SnapshotStore m).path collection))) :
    L.rel ((⟨disk, root⟩ : SnapshotStore m).load collection)
      ((⟨disk', root⟩ : SnapshotStore n).load collection) := by
  refine L.bind (L.readText h) fun content => ?_
  cases content with
  | error error => cases error <;> exact L.pure _
  | ok text =>
    dsimp only
    split <;> exact L.pure _

theorem save {root collection : String} {records : List Record}
    (hw : L.rel
      (disk.write (Path.withExtension ((⟨disk, root⟩ : SnapshotStore m).path collection) "json.tmp")
        (Record.listText records).toUTF8)
      (disk'.write (Path.withExtension ((⟨disk, root⟩ : SnapshotStore m).path collection)
        "json.tmp") (Record.listText records).toUTF8))
    (hr : L.rel
      (disk.rename (Path.withExtension ((⟨disk, root⟩ : SnapshotStore m).path collection)
        "json.tmp") ((⟨disk, root⟩ : SnapshotStore m).path collection))
      (disk'.rename (Path.withExtension ((⟨disk, root⟩ : SnapshotStore m).path collection)
        "json.tmp") ((⟨disk, root⟩ : SnapshotStore m).path collection))) :
    L.rel ((⟨disk, root⟩ : SnapshotStore m).save collection records)
      ((⟨disk', root⟩ : SnapshotStore n).save collection records) := by
  refine L.bind hw fun written => ?_
  cases written with
  | error error => exact L.pure _
  | ok _ =>
    refine L.bind hr fun moved => ?_
    cases moved with
    | error error => exact L.pure _
    | ok _ => exact L.pure _

theorem quarantine {root collection : String}
    (h : L.rel
      (disk.rename ((⟨disk, root⟩ : SnapshotStore m).path collection)
        (Path.withExtension ((⟨disk, root⟩ : SnapshotStore m).path collection) "json.corrupt"))
      (disk'.rename ((⟨disk, root⟩ : SnapshotStore m).path collection)
        (Path.withExtension ((⟨disk, root⟩ : SnapshotStore m).path collection)
          "json.corrupt"))) :
    L.rel ((⟨disk, root⟩ : SnapshotStore m).quarantine collection)
      ((⟨disk', root⟩ : SnapshotStore n).quarantine collection) := by
  refine L.bind h fun moved => ?_
  cases moved with
  | error error => exact L.pure _
  | ok _ => exact L.pure _

end Likeness

theorem SnapshotStore.Alike.merge {L : Likeness m n} {s : SnapshotStore m} {t : SnapshotStore n}
    {collection : String} (h : SnapshotStore.Alike L s t collection) (latest : List Record) :
    L.rel (s.merge collection latest) (t.merge collection latest) := by
  refine L.bind h.load fun loaded => ?_
  cases loaded with
  | ok records =>
    exact L.bind (L.pure records) fun stored => L.bind (h.save _) fun saved => by
      cases saved <;> exact L.pure _
  | error error =>
    cases error with
    | notFound _ =>
      exact L.bind (L.pure []) fun stored => L.bind (h.save _) fun saved => by
        cases saved <;> exact L.pure _
    | io => exact L.pure _
    | json => exact L.pure _

/-! ### Deliveries -/

/-- Where deliveries and the log are alike, so are the actions of a rule. -/
theorem Likeness.perform {notify : Notifier m} {notify' : Notifier n} {log : Event → m Unit}
    {log' : Event → n Unit} (hn : ∀ delivery, L.rel (notify delivery) (notify' delivery))
    (hl : ∀ event, L.rel (log event) (log' event)) (actions : Actions) (record : String)
    (change : ChangeSet) :
    L.rel (actions.perform notify log record change)
      (actions.perform notify' log' record change) := by
  refine L.foldlM (fun outcome delivery _ => ?_) _
  refine L.bind (L.bind (hn delivery) fun result => ?_) fun result => L.pure _
  cases result with
  | ok _ => exact L.bind (hl _) fun _ => L.pure _
  | error error => exact L.bind (hl _) fun _ => L.pure _

/-! ### Polls -/

/-- Two surroundings that are alike for a collection, apart from their files. What is asked of the
deliveries is only that each rule fires alike, whatever becomes of them. -/
structure Surroundings.Alike (s : Surroundings m) (t : Surroundings n) (collection : Collection) :
    Prop where
  query (filter : Option Json) :
    L.rel (s.source.query collection.id collection.filterProperties filter)
      (t.source.query collection.id collection.filterProperties filter)
  context : Context.Alike L s.context t.context
  fire (rule : Rule) (record : String) (change : ChangeSet) (fired : Nat) :
    L.rel
      (do
        let outcome ← rule.actions.perform s.notify s.log record change
        s.log (.ruleFired collection.id rule.uid record outcome.delivered outcome.failed)
        return fired)
      (do
        let outcome ← rule.actions.perform t.notify t.log record change
        t.log (.ruleFired collection.id rule.uid record outcome.delivered outcome.failed)
        return fired)
  settings : s.settings = t.settings

namespace Surroundings.Alike

variable {L} {s : Surroundings m} {t : Surroundings n} {collection : Collection}

theorem log (h : Surroundings.Alike L s t collection) (event : Event) :
    L.rel (s.log event) (t.log event) :=
  h.context.log event

theorem fireRules (h : Surroundings.Alike L s t collection) (fired : Nat)
    (entry : String × ChangeSet) :
    L.rel (s.fireRules collection fired entry) (t.fireRules collection fired entry) := by
  refine L.foldlM (fun fired rule _ => ?_) fired
  refine L.bind (h.context.fires entry.1 entry.2 rule.trigger) fun verdict => ?_
  cases verdict with
  | true => exact h.fire rule entry.1 entry.2 (fired + 1)
  | false => exact L.pure _

/-- Changes are found, evaluated and delivered alike. -/
theorem evaluate (h : Surroundings.Alike L s t collection) (stored latest : List Record) :
    L.rel (s.evaluate collection stored latest) (t.evaluate collection stored latest) := by
  refine L.bind (L.forM fun event _ => h.log event) fun _ => L.bind (h.log _) fun _ => ?_
  exact L.bind (L.foldlM (fun fired entry _ => h.fireRules fired entry) 0) fun fired => L.pure _

theorem fetch (h : Surroundings.Alike L s t collection) (lookback : Option Json) :
    L.rel (s.fetch collection lookback) (t.fetch collection lookback) := by
  refine L.bind (h.query _) fun answer => ?_
  cases answer with
  | ok records => exact L.pure _
  | error error => exact L.bind (h.log _) fun _ => L.pure _

theorem merge (hs : SnapshotStore.Alike L s.store t.store collection.id) (latest : List Record) :
    L.rel (s.merge collection latest).run (t.merge collection latest).run :=
  L.bind (hs.merge latest) fun _ => L.pure _

theorem stored (h : Surroundings.Alike L s t collection)
    (hs : SnapshotStore.Alike L s.store t.store collection.id) :
    L.rel (s.stored collection).run (t.stored collection).run := by
  refine L.run_bind (L.run_lift hs.contains) fun contained => ?_
  cases contained with
  | false => exact L.run_pure _
  | true =>
    refine L.run_bind (L.run_lift hs.load) fun loaded => ?_
    have hskip : ∀ error : StoreError, L.rel
        (do
          s.log (.snapshotSkipped collection.id error.message)
          return .unusable : ExceptT SessionError m Stored).run
        (do
          t.log (.snapshotSkipped collection.id error.message)
          return .unusable : ExceptT SessionError n Stored).run := fun error =>
      L.run_bind (L.run_lift (h.log _)) fun _ => L.run_pure _
    cases loaded with
    | ok records => exact L.run_pure _
    | error error =>
      cases error with
      | notFound _ => exact hskip _
      | io => exact hskip _
      | json =>
        refine L.run_bind (L.run_lift hs.quarantine) fun moved => ?_
        cases moved with
        | ok aside => exact L.run_bind (L.run_lift (h.log _)) fun _ => L.run_pure _
        | error error => exact L.run_throw _

/-- Sessions with the same lookback poll a collection alike. -/
theorem poll (h : Surroundings.Alike L s t collection)
    (hs : SnapshotStore.Alike L s.store t.store collection.id) {session session' : Session}
    (hl : session.lookback s.settings collection.id =
      session'.lookback s.settings collection.id) :
    L.rel (session.poll s collection).run (session'.poll t collection).run := by
  refine L.run_bind (h.stored hs) fun stored => ?_
  cases stored with
  | unusable => exact L.run_pure _
  | missing =>
    refine L.run_bind (L.run_lift (h.fetch none)) fun answer => ?_
    cases answer with
    | none => exact L.run_pure _
    | some records =>
      refine L.run_bind (merge hs records) fun merged => ?_
      exact L.run_bind (L.run_lift (h.log _)) fun _ => L.run_pure _
  | records stored =>
    dsimp only
    rw [← h.settings, ← hl]
    refine L.run_bind (L.run_lift (h.fetch _)) fun answer => ?_
    cases answer with
    | none => exact L.run_pure _
    | some records =>
      refine L.run_bind (L.run_lift (h.evaluate stored records)) fun poll => ?_
      exact L.run_bind (merge hs records) fun _ => L.run_pure _

end Surroundings.Alike

/-! ### Cycles -/

/-- Two surroundings in which the rules file is found alike. -/
structure Surroundings.RulesAlike (s : Surroundings m) (t : Surroundings n) : Prop where
  modified : L.rel (s.disk.modified s.settings.rulesPath) (t.disk.modified s.settings.rulesPath)
  read : L.rel (s.disk.read s.settings.rulesPath) (t.disk.read s.settings.rulesPath)
  now : L.rel s.now t.now
  log (event : Event) : L.rel (s.log event) (t.log event)
  settings : s.settings = t.settings

namespace Surroundings.RulesAlike

variable {L} {s : Surroundings m} {t : Surroundings n}

theorem readRules (h : Surroundings.RulesAlike L s t) :
    L.rel (readRules s.disk s.settings.rulesPath)
      (RecordWatch.readRules t.disk s.settings.rulesPath) := by
  refine L.bind (L.readText h.read) fun content => ?_
  cases content with
  | error error => exact L.pure _
  | ok text =>
    dsimp only
    split <;> exact L.pure _

/-- The rules are read again alike. -/
theorem reload (h : Surroundings.RulesAlike L s t) (session : Session) :
    L.rel (session.reload s) (session.reload t) := by
  rw [Session.reload, Session.reload, ← h.settings]
  refine L.bind h.modified fun modified => ?_
  cases modified with
  | error error => exact L.bind (h.log _) fun _ => L.pure _
  | ok time =>
    dsimp only
    split
    · exact L.pure _
    · refine L.bind h.readRules fun rules => ?_
      cases rules with
      | ok collections => exact L.bind (h.log _) fun _ => L.pure _
      | error error => exact L.bind (h.log _) fun _ => L.pure _

/-- Sessions start alike. -/
theorem start (h : Surroundings.RulesAlike L s t) :
    L.rel (Session.start s) (Session.start t) := by
  rw [Session.start, Session.start, ← h.settings]
  refine L.bind h.modified fun modified => L.bind h.readRules fun rules => ?_
  cases rules with
  | error error => exact L.pure _
  | ok collections =>
    exact L.bind (L.forM fun collection _ => h.log _) fun _ =>
      L.bind h.now fun now => L.pure _

/-- Cycles go alike if every collection is polled alike. -/
theorem cycle (h : Surroundings.RulesAlike L s t)
    (hpoll : ∀ (session : Session) (collection : Collection),
      L.rel (session.poll s collection).run (session.poll t collection).run) (session : Session) :
    L.rel (session.cycle s) (session.cycle t) := by
  refine L.bind (h.reload session) fun reloaded => ?_
  have hall : L.rel (reloaded.pollAll s).run (reloaded.pollAll t).run := by
    refine L.run_foldlM (fun progress collection _ => ?_) _
    refine L.run_bind (L.run_lift h.now) fun now => ?_
    exact L.run_bind (hpoll reloaded collection) fun poll => L.run_pure _
  refine L.bind hall fun result => ?_
  cases result with
  | error error => exact L.pure _
  | ok progress => exact L.bind (h.log _) fun _ => L.pure _

end Surroundings.RulesAlike

end

/-! ### Related states -/

section

variable {σ τ : Type} {R : σ → τ → Prop}

/-- Two surroundings that answer alike in related states, apart from their files. -/
structure Surroundings.Related (R : σ → τ → Prop) (s : Surroundings (StateM σ))
    (t : Surroundings (StateM τ)) : Prop where
  query (collection : String) (properties : Option (List String)) (filter : Option Json) :
    Relates R Eq (s.source.query collection properties filter)
      (t.source.query collection properties filter)
  items (record property : String) :
    Relates R Eq (s.source.items record property) (t.source.items record property)
  notify (delivery : Delivery) : Relates R Eq (s.notify delivery) (t.notify delivery)
  now : Relates R Eq s.now t.now
  log (event : Event) : Relates R Eq (s.log event) (t.log event)
  settings : s.settings = t.settings

namespace Surroundings.Related

variable {s : Surroundings (StateM σ)} {t : Surroundings (StateM τ)}

theorem context (h : Surroundings.Related R s t) : Context.Related R s.context t.context :=
  ⟨h.items, h.now, h.log⟩

theorem alike (h : Surroundings.Related R s t) (collection : Collection) :
    Surroundings.Alike (.relates R) s t collection where
  query _ := h.query _ _ _
  context := h.context.alike
  fire rule record change fired := by
    have hperform := (Likeness.relates R).perform h.notify h.log rule.actions record change
    exact hperform.bind_eq fun outcome => (h.log _).bind_eq fun _ => .pure rfl
  settings := h.settings

theorem fireRules (h : Surroundings.Related R s t) (collection : Collection) (fired : Nat)
    (entry : String × ChangeSet) :
    Relates R Eq (s.fireRules collection fired entry) (t.fireRules collection fired entry) :=
  (h.alike collection).fireRules fired entry

theorem evaluate (h : Surroundings.Related R s t) (collection : Collection)
    (stored latest : List Record) :
    Relates R Eq (s.evaluate collection stored latest) (t.evaluate collection stored latest) :=
  (h.alike collection).evaluate stored latest

theorem fetch (h : Surroundings.Related R s t) (collection : Collection) (lookback : Option Json) :
    Relates R Eq (s.fetch collection lookback) (t.fetch collection lookback) :=
  (h.alike collection).fetch lookback

end Surroundings.Related

end

end RecordWatch
