import RecordWatch.Proofs.Session.Answers

/-! Deliveries that fail. Nothing that a session does depends on what becomes of a delivery but the
outcome it logs: in two environments that differ in this alone, the same deliveries are attempted,
the same is asked of the record store, and every cycle leaves the same behind. -/

namespace RecordWatch

/-! ### The tally of a dispatch -/

section

variable {σ : Type}

theorem Outcome.total_add (outcome : Outcome) (result : Except DeliveryError Unit) :
    (outcome.add result).delivered + (outcome.add result).failed =
      outcome.delivered + outcome.failed + 1 := by
  cases result with
  | ok _ =>
    show outcome.delivered + 1 + outcome.failed = _
    omega
  | error error => rfl

/-- Each of a list of deliveries is counted once. -/
theorem total_attempts (notify : Notifier (StateM σ)) (log : Event → StateM σ Unit)
    (deliveries : List Delivery) (outcome : Outcome) (s : σ) :
    let total := (deliveries.foldlM (fun (outcome : Outcome) (delivery : Delivery) => do
      return outcome.add (← delivery.attempt notify log)) outcome s).1
    total.delivered + total.failed =
      outcome.delivered + outcome.failed + deliveries.length := by
  induction deliveries generalizing outcome s with
  | nil => rfl
  | cons delivery rest ih =>
    rw [List.foldlM_cons]
    refine (ih (outcome.add (delivery.attempt notify log s).1) _).trans ?_
    rw [Outcome.total_add, List.length_cons]
    omega

/-- There is one delivery for each webhook, script and email. -/
theorem Actions.length_deliveries (actions : Actions) (record : String) (change : ChangeSet) :
    (actions.deliveries record change).length =
      actions.webhooks.length + actions.scripts.length + actions.emails.length := by
  simp [Actions.deliveries, Nat.add_assoc]

theorem Actions.total_perform (actions : Actions) (notify : Notifier (StateM σ))
    (log : Event → StateM σ Unit) (record : String) (change : ChangeSet) (s : σ) :
    (actions.perform notify log record change s).1.delivered +
        (actions.perform notify log record change s).1.failed =
      actions.webhooks.length + actions.scripts.length + actions.emails.length := by
  rw [← actions.length_deliveries record change]
  exact (total_attempts notify log _ ⟨0, 0⟩ s).trans (Nat.zero_add _)

end

section

variable {ε ε' : Type}

/-- Two environments that give the same answers in related states, except to deliveries: these
leave the states related, whether or not they succeed. -/
structure Environment.Alike (R : ε → ε' → Prop) (env : Environment ε) (env' : Environment ε') :
    Prop where
  query (collection : String) (properties : Option (List String)) (filter : Option Json) :
    Relates R Eq (env.query collection properties filter) (env'.query collection properties filter)
  items (record property : String) :
    Relates R Eq (env.items record property) (env'.items record property)
  notify (delivery : Delivery) :
    Relates R (fun _ _ => True) (env.notify delivery) (env'.notify delivery)
  now : Relates R Eq env.now env'.now
  rules : Relates R Eq env.rules env'.rules
  rulesModified : Relates R Eq env.rulesModified env'.rulesModified
  sees (path : String) : Relates R Eq (env.sees path) (env'.sees path)
  reads (path : String) : Relates R Eq (env.reads path) (env'.reads path)
  breaks (path : String) : Relates R Eq (env.breaks path) (env'.breaks path)
  moves (path : String) : Relates R Eq (env.moves path) (env'.moves path)

/-- Two worlds with related environments, the same files and the same calls. -/
structure World.Matches (R : ε → ε' → Prop) (w : World ε Files) (w' : World ε' Files) : Prop where
  env : R w.env w'.env
  store : w.store = w'.store
  calls : w.calls = w'.calls

/-! ### Steps of a world -/

section

variable {α β : Type} {R : ε → ε' → Prop} {Q : α → β → Prop}

theorem matches_ambient {p : StateM ε α} {q : StateM ε' β} (h : Relates R Q p q) :
    Relates (World.Matches R) Q (World.ambient p) (World.ambient q) := by
  intro w w' hw
  obtain ⟨hresult, henv⟩ := h w.env w'.env hw.env
  exact ⟨hresult, henv, hw.store, hw.calls⟩

theorem matches_call (call : Call) {p : StateM ε α} {q : StateM ε' β} (h : Relates R Q p q) :
    Relates (World.Matches R) Q (World.call call p) (World.call call q) := by
  intro w w' hw
  obtain ⟨hresult, henv⟩ := h w.env w'.env hw.env
  exact ⟨hresult, henv, hw.store, congrArg (· ++ [call]) hw.calls⟩

theorem matches_touch (step : Files → α × Files) :
    Relates (World.Matches R) Eq (World.touch (ε := ε) step) (World.touch (ε := ε') step) := by
  intro w w' hw
  refine ⟨congrArg (fun files => (step files).1) hw.store, hw.env, ?_, hw.calls⟩
  exact congrArg (fun files => (step files).2) hw.store

end

namespace Environment.Alike

variable {R : ε → ε' → Prop} {env : Environment ε} {env' : Environment ε'}

/-- Everything but deliveries is answered alike. -/
theorem answers (h : Environment.Alike R env env') :
    Environment.Answers (.relates (World.Matches R)) env env' where
  query _ _ _ := matches_call _ (h.query _ _ _)
  items _ _ := matches_call _ (h.items _ _)
  now := matches_ambient h.now
  rules := matches_ambient h.rules
  rulesModified := matches_ambient h.rulesModified
  sees _ := matches_ambient (h.sees _)
  reads _ := matches_ambient (h.reads _)
  breaks _ := matches_ambient (h.breaks _)
  moves _ := matches_ambient (h.moves _)

variable (root : String) (settings : Settings)

theorem attempt (h : Environment.Alike R env env') (delivery : Delivery) :
    Relates (World.Matches R) (fun _ _ => True)
      (delivery.attempt (env.surroundings root settings).notify
        (env.surroundings root settings).log)
      (delivery.attempt (env'.surroundings root settings).notify
        (env'.surroundings root settings).log) := by
  refine (matches_call (.delivery delivery) (h.notify delivery)).bind fun result result' _ => ?_
  cases result <;> cases result' <;> exact .pure trivial

/-- The actions of a rule are performed alike, whatever becomes of the deliveries. -/
theorem perform (h : Environment.Alike R env env') (actions : Actions) (record : String)
    (change : ChangeSet) :
    Relates (World.Matches R) (fun _ _ => True)
      (actions.perform (env.surroundings root settings).notify
        (env.surroundings root settings).log record change)
      (actions.perform (env'.surroundings root settings).notify
        (env'.surroundings root settings).log record change) := by
  refine .foldlM (fun outcome other delivery _ _ => ?_) trivial
  exact (h.attempt root settings delivery).bind fun _ _ _ => .pure trivial

theorem surroundings (h : Environment.Alike R env env') (collection : Collection) :
    Surroundings.Alike (.relates (World.Matches R)) (env.surroundings root settings)
      (env'.surroundings root settings) collection where
  query filter := h.answers.query collection.id collection.filterProperties filter
  context := ⟨h.answers.items, h.answers.now, fun _ => .pure rfl⟩
  fire rule record change _ :=
    (h.perform root settings rule.actions record change).bind fun _ _ _ => .pure rfl
  settings := rfl

theorem store (h : Environment.Alike R env env') (collection : String) :
    SnapshotStore.Alike (.relates (World.Matches R)) (env.store root settings)
      (env'.store root settings) collection :=
  h.answers.store root settings collection fun _ _ => matches_touch _

/-- A poll goes alike. -/
theorem poll (h : Environment.Alike R env env') (session : Session) (collection : Collection) :
    Relates (World.Matches R) Eq
      (session.poll (env.surroundings root settings) collection).run
      (session.poll (env'.surroundings root settings) collection).run :=
  (h.surroundings root settings collection).poll (h.store root settings collection.id) rfl

/-- A cycle goes alike. -/
theorem cycle (h : Environment.Alike R env env') (session : Session) :
    Relates (World.Matches R) Eq (session.cycle (env.surroundings root settings))
      (session.cycle (env'.surroundings root settings)) :=
  (h.answers.rulesFile root settings).cycle (h.poll root settings) session

end Environment.Alike

/-! ### Runs -/

/-- One cycle of a run: what it came to, and the session and the world that it left behind. -/
structure CycleRecord (ε : Type) where
  result : Except SessionError CycleSummary
  session : Session
  world : World ε Files

namespace Session

/-- Some cycles one after the other, each by the session that the one before left behind. -/
def cycles (env : Environment ε) (root : String) (settings : Settings) :
    Nat → Session → World ε Files → List (CycleRecord ε)
  | 0, _, _ => []
  | n + 1, session, w =>
    let ((next, result), w') := session.cycle (env.surroundings root settings) w
    ⟨result, next, w'⟩ :: cycles env root settings n next w'

theorem cycles_succ {env : Environment ε} {root : String} {settings : Settings}
    {session next : Session} {result : Except SessionError CycleSummary} {w w' : World ε Files}
    (h : session.cycle (env.surroundings root settings) w = ((next, result), w')) (n : Nat) :
    session.cycles env root settings (n + 1) w =
      ⟨result, next, w'⟩ :: next.cycles env root settings n w' := by
  rw [cycles, h]

end Session

/-- Two cycles that came to the same and left the same behind: the session with its entries of
successful polls, the files, and the calls made so far, deliveries among them. -/
structure CycleRecord.Same (r : CycleRecord ε) (r' : CycleRecord ε') : Prop where
  result : r.result = r'.result
  session : r.session = r'.session
  store : r.world.store = r'.world.store
  calls : r.world.calls = r'.world.calls

theorem Environment.Alike.cycles {R : ε → ε' → Prop} {env : Environment ε} {env' : Environment ε'}
    (h : Environment.Alike R env env') (root : String) (settings : Settings) (n : Nat)
    (session : Session) {w : World ε Files} {w' : World ε' Files} (hw : World.Matches R w w') :
    List.Forall₂ CycleRecord.Same (session.cycles env root settings n w)
      (session.cycles env' root settings n w') := by
  induction n generalizing session w w' with
  | zero => exact .nil
  | succ n ih =>
    obtain ⟨hresult, hworld⟩ := h.cycle root settings session w w' hw
    cases hrun : session.cycle (env.surroundings root settings) w with
    | mk outcome v =>
      cases hrun' : session.cycle (env'.surroundings root settings) w' with
      | mk outcome' v' =>
        rw [hrun, hrun'] at hresult hworld
        obtain ⟨next, result⟩ := outcome
        cases hresult
        rw [Session.cycles_succ hrun, Session.cycles_succ hrun']
        exact .cons ⟨rfl, rfl, hworld.store, hworld.calls⟩ (ih next hworld)

/-- Where two environments differ only in what becomes of deliveries, every cycle of two runs from
the same state comes to the same, leaves the same behind and has made the same calls; and every
dispatch counts each webhook, script and email of the rule once, as delivered or as failed. -/
theorem Session.unmoved_by_failures {R : ε → ε' → Prop} {env : Environment ε}
    {env' : Environment ε'} (h : Environment.Alike R env env') (root : String)
    (settings : Settings) (n : Nat) (session : Session) {w : World ε Files} {w' : World ε' Files}
    (hw : World.Matches R w w') :
    List.Forall₂ CycleRecord.Same (session.cycles env root settings n w)
        (session.cycles env' root settings n w') ∧
      ∀ {σ : Type} (actions : Actions) (notify : Notifier (StateM σ)) (log : Event → StateM σ Unit)
        (record : String) (change : ChangeSet) (s : σ),
        (actions.perform notify log record change s).1.delivered +
            (actions.perform notify log record change s).1.failed =
          actions.webhooks.length + actions.scripts.length + actions.emails.length :=
  ⟨h.cycles root settings n session hw, fun actions => actions.total_perform⟩

end

/-- A rule that posts every new record. -/
def postEntry : RuleEntry where
  uid := none
  filterProperties := []
  contentFilter := none
  trigger := .object [("created", .object [])]
  actions := ⟨["http://hook"], [], []⟩

/-- A session with that rule. -/
def postSession : Session := ⟨[⟨"c1", [postEntry.toRule 0]⟩], some 0, [], default⟩

/-- An environment with one record, in which every delivery succeeds. -/
def postEnvironment : Environment Nat :=
  .answering (fun _ => .ok [noted "a"]) [("c-1", [postEntry])]

/-- The same environment, but every delivery fails. -/
def deafEnvironment : Environment Nat :=
  { postEnvironment with notify := fun _ => return .error (.webhook "http://hook" "refused") }

theorem alike_deafEnvironment : Environment.Alike Eq postEnvironment deafEnvironment := by
  constructor <;> intros <;> rintro s t rfl <;> exact ⟨by first | rfl | trivial, rfl⟩

/-- The world before the first record is there. -/
def emptyWorld : World Nat Files :=
  ⟨0, Function.update (fun _ => none) "store/c1.json" (some "[]".toUTF8), []⟩

/-- The record is found and its delivery fails, in a run of which nothing else is different. -/
theorem unmoved_by_failures_post :
    (postSession.cycles deafEnvironment "store" ⟨"rules", 3600, 600⟩ 1 emptyWorld).map
        CycleRecord.result = [.ok ⟨1, 0, 1, 1⟩] ∧
      List.Forall₂ CycleRecord.Same
        (postSession.cycles postEnvironment "store" ⟨"rules", 3600, 600⟩ 1 emptyWorld)
        (postSession.cycles deafEnvironment "store" ⟨"rules", 3600, 600⟩ 1 emptyWorld) :=
  ⟨rfl, (Session.unmoved_by_failures alike_deafEnvironment "store" ⟨"rules", 3600, 600⟩ 1
    postSession ⟨rfl, rfl, rfl⟩).1⟩

end RecordWatch
