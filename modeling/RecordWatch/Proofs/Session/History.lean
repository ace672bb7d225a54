import RecordWatch.Proofs.Session.Gathering

/-! Runs of the listener. It is told to run a cycle or to restart, and its history is the list of
all polls, each with the worlds it went through. The polls of a run follow one another: between them
only the environment moves. -/

namespace RecordWatch

/-- What the listener is told to do: one cycle, or to start again on the same files. -/
inductive Directive where
  | cycle
  | restart

/-- One poll: the session that made it, when it began, and the worlds before it, where it asked its
query and after it. -/
structure PollRecord (ε : Type) where
  session : Session
  collection : Collection
  began : Instant
  before : World ε Files
  asked : World ε Files
  gathered : Except SessionError Gathered
  result : Except SessionError Poll
  after : World ε Files

namespace Session

section

variable {m : Type → Type} [Monad m]

/-- One directive. A session that ended stays ended until the restart; so does one that could not
start. -/
def obey (s : Surroundings m) : Option Session → Directive →
    m (Option Session × Option (Except SessionError CycleSummary))
  | _, .restart => do
    match ← start s with
    | .ok session => return (some session, none)
    | .error _ => return (none, none)
  | none, .cycle => return (none, none)
  | some session, .cycle => do
    let (session, result) ← session.cycle s
    return (match result with
      | .ok _ => some session
      | .error _ => none, some result)

/-- The results of the cycles among a list of directives, in order. -/
def obeyAll (s : Surroundings m) : Option Session → List Directive →
    m (List (Except SessionError CycleSummary))
  | _, [] => return []
  | session, directive :: rest => do
    let (session, result) ← obey s session directive
    let results ← obeyAll s session rest
    return result.toList ++ results

end

section

variable {m n : Type → Type} [Monad m] [Monad n] {L : Likeness m n} {s : Surroundings m}
  {t : Surroundings n}

/-- A directive is obeyed alike if every collection is polled alike. -/
theorem obey_alike (h : Surroundings.RulesAlike L s t)
    (hpoll : ∀ (session : Session) (collection : Collection),
      L.rel (session.poll s collection).run (session.poll t collection).run)
    (session : Option Session) (directive : Directive) :
    L.rel (obey s session directive) (obey t session directive) := by
  cases directive with
  | restart =>
    have hrestart : L.rel (obey s none .restart) (obey t none .restart) := by
      refine L.bind h.start fun started => ?_
      cases started <;> exact L.pure _
    cases session <;> exact hrestart
  | cycle =>
    cases session with
    | none => exact L.pure _
    | some session => exact L.bind (h.cycle hpoll session) fun _ => L.pure _

theorem obeyAll_alike (h : Surroundings.RulesAlike L s t)
    (hpoll : ∀ (session : Session) (collection : Collection),
      L.rel (session.poll s collection).run (session.poll t collection).run)
    (session : Option Session) (directives : List Directive) :
    L.rel (obeyAll s session directives) (obeyAll t session directives) := by
  induction directives generalizing session with
  | nil => exact L.pure _
  | cons directive rest ih =>
    refine L.bind (obey_alike h hpoll session directive) fun obeyed => ?_
    exact L.bind (ih obeyed.1) fun _ => L.pure _

end

section

variable {ε : Type} (env : Environment ε) (root : String) (settings : Settings)

/-- The poll of a collection from a world. -/
def record (session : Session) (collection : Collection) (w : World ε Files) : PollRecord ε :=
  let s := env.surroundings root settings
  let before := (s.now w).2
  { session
    collection
    began := (s.now w).1.instant
    before
    asked := ((s.stored collection).run before).2
    gathered := ((session.gather s collection).run before).1
    result := ((session.poll s collection).run before).1
    after := ((session.poll s collection).run before).2 }

/-- The polls of some collections, one after the other; an error ends them. -/
def polls (session : Session) : List Collection → World ε Files → List (PollRecord ε)
  | [], _ => []
  | collection :: rest, w =>
    let r := session.record env root settings collection w
    r ::
      match r.result with
      | .ok _ => session.polls rest r.after
      | .error _ => []

/-- The polls of one directive. -/
def directivePolls (session : Option Session) (directive : Directive) (w : World ε Files) :
    List (PollRecord ε) :=
  match session, directive with
  | some session, .cycle =>
    let (session, w) := session.reload (env.surroundings root settings) w
    session.polls env root settings session.collections w
  | _, _ => []

/-- The polls of a list of directives. -/
def history (session : Option Session) : List Directive → World ε Files → List (PollRecord ε)
  | [], _ => []
  | directive :: rest, w =>
    let ((next, _), w') := obey (env.surroundings root settings) session directive w
    directivePolls env root settings session directive w ++ history next rest w'

end

end Session

namespace PollRecord

section

variable {ε : Type} (env : Environment ε) (root : String) (settings : Settings)

/-- The record of a poll that took place. -/
def Polled (r : PollRecord ε) : Prop :=
  ∃ (session : Session) (collection : Collection) (w : World ε Files),
    r = session.record env root settings collection w

/-- Polls that follow one another from a world; between them files stay as they are. -/
inductive Chain (env : Environment ε) : World ε Files → List (PollRecord ε) → Prop where
  | nil (w : World ε Files) : Chain env w []
  | cons {w : World ε Files} {r : PollRecord ε} {rest : List (PollRecord ε)}
    (hw : World.Follows env w r.before) (hr : Chain env r.after rest) : Chain env w (r :: rest)

theorem Chain.weaken {w w' : World ε Files} {records : List (PollRecord ε)}
    (h : World.Follows env w w') (hc : Chain env w' records) : Chain env w records := by
  cases hc with
  | nil => exact .nil w
  | cons hw hr => exact .cons (h.trans hw) hr

end

end PollRecord

namespace Session

section

variable {ε : Type} (env : Environment ε) (root : String) (settings : Settings)

/-- The world after some polls from a world. -/
def final (w : World ε Files) (records : List (PollRecord ε)) : World ε Files :=
  (records.getLast?.map PollRecord.after).getD w

theorem final_cons (w : World ε Files) (r : PollRecord ε) (rest : List (PollRecord ε)) :
    final w (r :: rest) = final r.after rest := by
  cases rest with
  | nil => rfl
  | cons next rest => rw [final, final, List.getLast?_cons_cons, List.getLast?_cons]; rfl

theorem chain_append {w : World ε Files} {records more : List (PollRecord ε)}
    (h : PollRecord.Chain env w records) (hm : PollRecord.Chain env (final w records) more) :
    PollRecord.Chain env w (records ++ more) := by
  induction h with
  | nil w => exact hm
  | @cons w r rest hw hr ih =>
    rw [final_cons] at hm
    exact .cons hw (ih hm)

/-- A file that every poll keeps is kept by all of them. -/
theorem kept_of_chain {w : World ε Files} {records : List (PollRecord ε)}
    (hc : PollRecord.Chain env w records) {path : String}
    (h : ∀ r ∈ records, r.after.store path = r.before.store path) :
    (final w records).store path = w.store path := by
  induction hc with
  | nil w => rfl
  | @cons w r rest hw _ ih =>
    rw [final_cons, ih fun r hr => h r (List.mem_cons_of_mem _ hr), h r List.mem_cons_self,
      hw.store]

theorem final_follows {w w' : World ε Files} (h : World.Follows env w w')
    (records : List (PollRecord ε)) :
    World.Follows env (final w records) (final w' records) := by
  rw [final, final]
  cases records.getLast? with
  | none => exact h
  | some r => exact .refl env r.after

/-- The progress after some more polls; an error ends them. -/
def advance (progress : Progress) (records : List (PollRecord ε)) :
    Except SessionError Progress :=
  records.foldlM (fun (progress : Progress) r =>
    r.result.map (progress.add r.collection.id r.began)) progress

theorem advance_ok {r : PollRecord ε} {poll : Poll} (h : r.result = .ok poll)
    (progress : Progress) (rest : List (PollRecord ε)) :
    advance progress (r :: rest) = advance (progress.add r.collection.id r.began poll) rest := by
  rw [advance, List.foldlM_cons, h]
  rfl

theorem advance_error {r : PollRecord ε} {error : SessionError} (h : r.result = .error error)
    (progress : Progress) (rest : List (PollRecord ε)) :
    advance progress (r :: rest) = .error error := by
  rw [advance, List.foldlM_cons, h]
  rfl

theorem polls_ok {session : Session} {collection : Collection} {w : World ε Files} {poll : Poll}
    (h : (session.record env root settings collection w).result = .ok poll)
    (rest : List Collection) :
    session.polls env root settings (collection :: rest) w =
      session.record env root settings collection w ::
        session.polls env root settings rest
          (session.record env root settings collection w).after := by
  rw [polls]
  simp only [h]

theorem polls_error {session : Session} {collection : Collection} {w : World ε Files}
    {error : SessionError}
    (h : (session.record env root settings collection w).result = .error error)
    (rest : List Collection) :
    session.polls env root settings (collection :: rest) w =
      [session.record env root settings collection w] := by
  rw [polls]
  simp only [h]

theorem polls_singleton (session : Session) (collection : Collection) (w : World ε Files) :
    session.polls env root settings [collection] w =
      [session.record env root settings collection w] := by
  cases h : (session.record env root settings collection w).result with
  | error error => exact polls_error env root settings h []
  | ok poll => exact polls_ok env root settings h []

/-- Folding over the collections makes the polls that are recorded and counts their results. -/
theorem foldlM_polls (session : Session) (collections : List Collection) (progress : Progress)
    (w : World ε Files) :
    ((collections.foldlM (fun (progress : Progress) (collection : Collection) => do
        let now ← ((env.surroundings root settings).now : StateM (World ε Files) Moment)
        return progress.add collection.id now.instant
          (← session.poll (env.surroundings root settings) collection)) progress :
        ExceptT SessionError (StateM (World ε Files)) Progress)).run w =
      (advance progress (session.polls env root settings collections w),
        final w (session.polls env root settings collections w)) := by
  induction collections generalizing progress w with
  | nil => rfl
  | cons collection rest ih =>
    rw [List.foldlM_cons]
    cases hp : (session.poll (env.surroundings root settings) collection).run
        (session.record env root settings collection w).before with
    | mk result after =>
      have hresult : (session.record env root settings collection w).result = result :=
        congrArg Prod.fst hp
      have hafter : (session.record env root settings collection w).after = after :=
        congrArg Prod.snd hp
      have hnow : (env.surroundings root settings).now w =
          (((env.surroundings root settings).now w).1,
            (session.record env root settings collection w).before) := rfl
      cases result with
      | error error =>
        rw [polls_error env root settings hresult, advance_error hresult, final_cons, hafter]
        exact error_run ((lift_run hnow).trans (error_run hp))
      | ok poll =>
        rw [polls_ok env root settings hresult, advance_ok hresult, final_cons, hafter]
        exact (ok_run ((lift_run hnow).trans (ok_run hp))).trans (ih _ _)

/-- What the polls of a cycle come to. -/
def tally (session : Session) (records : List (PollRecord ε)) : Except SessionError Progress :=
  advance ⟨⟨0, 0, 0, 0⟩, session.lastSuccess⟩ records

/-- A cycle makes the polls of the rules in force; only a cycle that ends well moves the starts of
successful polls on. -/
theorem cycle_run {session reloaded : Session} {w w' : World ε Files}
    (h : session.reload (env.surroundings root settings) w = (reloaded, w')) :
    session.cycle (env.surroundings root settings) w =
      (match tally reloaded (reloaded.polls env root settings reloaded.collections w') with
        | .error error => (reloaded, .error error)
        | .ok progress =>
          ({ reloaded with lastSuccess := progress.succeeded }, .ok progress.summary),
        final w' (reloaded.polls env root settings reloaded.collections w')) := by
  have hpolls : (reloaded.pollAll (env.surroundings root settings)).run w' =
      (tally reloaded (reloaded.polls env root settings reloaded.collections w'),
        final w' (reloaded.polls env root settings reloaded.collections w')) :=
    foldlM_polls env root settings reloaded reloaded.collections _ w'
  rw [cycle, bind_run h, bind_run hpolls]
  cases tally reloaded (reloaded.polls env root settings reloaded.collections w') <;> rfl

theorem obey_cycle {session reloaded : Session} {w w' : World ε Files}
    (h : session.reload (env.surroundings root settings) w = (reloaded, w')) :
    obey (env.surroundings root settings) (some session) .cycle w =
      (match tally reloaded (reloaded.polls env root settings reloaded.collections w') with
        | .error error => (none, some (.error error))
        | .ok progress => (some { reloaded with lastSuccess := progress.succeeded },
          some (.ok progress.summary)),
        final w' (reloaded.polls env root settings reloaded.collections w')) := by
  rw [obey, bind_run (cycle_run env root settings h)]
  cases tally reloaded (reloaded.polls env root settings reloaded.collections w') <;> rfl

theorem record_before (session : Session) (collection : Collection) (w : World ε Files) :
    World.Follows env w (session.record env root settings collection w).before :=
  ⟨.single (.now _), rfl⟩

theorem chain_polls (session : Session) (collections : List Collection) (w : World ε Files) :
    PollRecord.Chain env w (session.polls env root settings collections w) := by
  induction collections generalizing w with
  | nil => exact .nil w
  | cons collection rest ih =>
    rw [polls]
    refine .cons (record_before env root settings session collection w) ?_
    split
    · exact ih _
    · exact .nil _

theorem obey_follows (session : Option Session) (directive : Directive) (w : World ε Files) :
    PollRecord.Chain env w (directivePolls env root settings session directive w) ∧
      World.Follows env (final w (directivePolls env root settings session directive w))
        (obey (env.surroundings root settings) session directive w).2 := by
  cases directive with
  | restart =>
    have hstart := start_follows env root settings w
    have hpolls : directivePolls env root settings session .restart w = [] := by
      cases session <;> rfl
    rw [hpolls]
    refine ⟨.nil w, ?_⟩
    have hobey : (obey (env.surroundings root settings) session .restart w).2 =
        (start (env.surroundings root settings) w).2 := by
      cases hs : start (env.surroundings root settings) w with
      | mk result w' =>
        rw [obey, bind_run hs]
        cases result <;> rfl
    rw [hobey]
    exact hstart
  | cycle =>
    cases session with
    | none => exact ⟨.nil w, .refl env w⟩
    | some session =>
      cases hr : session.reload (env.surroundings root settings) w with
      | mk reloaded w' =>
        have hfollows : World.Follows env w w' := by
          have := reload_follows env root settings session w
          rwa [hr] at this
        rw [obey_cycle env root settings hr, directivePolls, hr]
        exact ⟨(chain_polls env root settings reloaded reloaded.collections w').weaken env hfollows,
          final_follows env hfollows _⟩

/-- The polls of a run follow one another. -/
theorem chain_history (session : Option Session) (directives : List Directive) (w : World ε Files) :
    PollRecord.Chain env w (history env root settings session directives w) := by
  induction directives generalizing session w with
  | nil => exact .nil w
  | cons directive rest ih =>
    obtain ⟨hc, hf⟩ := obey_follows env root settings session directive w
    exact chain_append env hc ((ih _ _).weaken env hf)

theorem history_cons {session next : Option Session} {directive : Directive}
    {result : Option (Except SessionError CycleSummary)} {w w' : World ε Files}
    (h : obey (env.surroundings root settings) session directive w = ((next, result), w'))
    (rest : List Directive) :
    history env root settings session (directive :: rest) w =
      directivePolls env root settings session directive w ++
        history env root settings next rest w' := by
  rw [history, h]

theorem mem_polls_cons {session : Session} {collection : Collection} {rest : List Collection}
    {w : World ε Files} {r : PollRecord ε} :
    r ∈ session.polls env root settings (collection :: rest) w ↔
      r = session.record env root settings collection w ∨
        (∃ poll, (session.record env root settings collection w).result = .ok poll) ∧
          r ∈ session.polls env root settings rest
            (session.record env root settings collection w).after := by
  cases hr : (session.record env root settings collection w).result with
  | error error => simp [polls_error env root settings hr]
  | ok poll => simp [polls_ok env root settings hr]

theorem polled_polls {session : Session} {collections : List Collection} {w : World ε Files}
    {r : PollRecord ε} (h : r ∈ session.polls env root settings collections w) :
    r.Polled env root settings := by
  induction collections generalizing w with
  | nil => cases h
  | cons collection rest ih =>
    rcases (mem_polls_cons env root settings).mp h with rfl | ⟨-, h⟩
    · exact ⟨session, collection, w, rfl⟩
    · exact ih h

theorem collection_of_mem_polls {session : Session} {collections : List Collection}
    {w : World ε Files} {r : PollRecord ε}
    (h : r ∈ session.polls env root settings collections w) : r.collection ∈ collections := by
  induction collections generalizing w with
  | nil => cases h
  | cons collection rest ih =>
    rcases (mem_polls_cons env root settings).mp h with rfl | ⟨-, h⟩
    · exact List.mem_cons_self
    · exact List.mem_cons_of_mem _ (ih h)

theorem session_of_mem_polls {session : Session} {collections : List Collection}
    {w : World ε Files} {r : PollRecord ε}
    (h : r ∈ session.polls env root settings collections w) : r.session = session := by
  induction collections generalizing w with
  | nil => cases h
  | cons collection rest ih =>
    rcases (mem_polls_cons env root settings).mp h with rfl | ⟨-, h⟩
    · rfl
    · exact ih h

/-- The polls of a cycle are those of its collections in order; only an error cuts them short. -/
theorem polls_collections (session : Session) (collections : List Collection) (w : World ε Files) :
    (session.polls env root settings collections w).map PollRecord.collection <+: collections ∧
      ∀ progress total,
        advance progress (session.polls env root settings collections w) = .ok total →
          (session.polls env root settings collections w).map PollRecord.collection =
            collections := by
  induction collections generalizing w with
  | nil => exact ⟨List.prefix_rfl, fun _ _ _ => rfl⟩
  | cons collection rest ih =>
    have hfirst : (session.record env root settings collection w).collection = collection := rfl
    cases hr : (session.record env root settings collection w).result with
    | error error =>
      rw [polls_error env root settings hr, List.map_singleton, hfirst]
      refine ⟨⟨rest, rfl⟩, fun progress total h => ?_⟩
      rw [advance_error hr] at h
      cases h
    | ok poll =>
      rw [polls_ok env root settings hr, List.map_cons, hfirst]
      obtain ⟨hinit, hall⟩ := ih (session.record env root settings collection w).after
      refine ⟨List.cons_prefix_cons.mpr ⟨rfl, hinit⟩, fun progress total h => ?_⟩
      rw [advance_ok hr] at h
      rw [hall _ total h]

/-- Where an error ends a cycle, the last of its polls made it. -/
theorem polls_of_error {session : Session} {collections : List Collection} {w : World ε Files}
    {progress : Progress} {error : SessionError}
    (h : advance progress (session.polls env root settings collections w) = .error error) :
    ∃ init r, session.polls env root settings collections w = init ++ [r] ∧
      r.result = .error error := by
  induction collections generalizing progress w with
  | nil => cases h
  | cons collection rest ih =>
    cases hr : (session.record env root settings collection w).result with
    | error other =>
      rw [polls_error env root settings hr, advance_error hr] at h
      cases h
      exact ⟨[], _, polls_error env root settings hr rest, hr⟩
    | ok poll =>
      rw [polls_ok env root settings hr, advance_ok hr] at h
      obtain ⟨init, r, hpolls, hresult⟩ := ih h
      exact ⟨_ :: init, r, by rw [polls_ok env root settings hr, hpolls]; rfl, hresult⟩

theorem polled_history {session : Option Session} {directives : List Directive} {w : World ε Files}
    {r : PollRecord ε} (h : r ∈ history env root settings session directives w) :
    r.Polled env root settings := by
  induction directives generalizing session w with
  | nil => cases h
  | cons directive rest ih =>
    rcases List.mem_append.mp h with h | h
    · unfold directivePolls at h
      split at h
      · exact polled_polls env root settings h
      · cases h
    · exact ih h

end

end Session

end RecordWatch
