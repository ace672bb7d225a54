import RecordWatch.Proofs.Session.Isolation
import RecordWatch.Proofs.Session.NothingLost

/-! The versions of a rules file. Between cycles the file may be rewritten, removed or put back as
it was; a session looks at it when it starts and at the start of each cycle, and reads it only when
its modification time is a new one. As no time stands for two texts, the rules in force are always
those of the last version that was seen and that could be parsed. -/

namespace RecordWatch

/-! ### A rules file with a past -/

/-- A version of a rules file: when it was modified, and its content. -/
structure Version where
  modified : Int
  bytes : ByteArray

/-- The rules of a version, if it can be parsed. -/
def Version.rules? (v : Version) : Option RuleFile :=
  (String.fromUTF8? v.bytes).bind RuleFile.ofText?

/-- A rules file, which may be missing, and the versions that there have been. -/
structure Versions where
  current : Option Version
  past : List Version

namespace Versions

/-- What may happen to a rules file. A modification time is never used for two contents, and an
earlier version comes back with its time. -/
inductive Edit : Versions → Versions → Prop where
  | rewrite {vs : Versions} (v : Version)
    (h : ∀ other ∈ vs.past, other.modified = v.modified → other.bytes = v.bytes) :
    Edit vs ⟨some v, v :: vs.past⟩
  | remove (vs : Versions) : Edit vs ⟨none, vs.past⟩
  | restore {vs : Versions} {v : Version} (h : v ∈ vs.past) : Edit vs ⟨some v, vs.past⟩

/-- Any number of edits, one after the other. -/
def Edits : Versions → Versions → Prop := Relation.ReflTransGen Edit

/-- The file is one of its versions, and these are told apart by their times. -/
structure Dated (vs : Versions) : Prop where
  current : ∀ v ∈ vs.current, v ∈ vs.past
  unique : ∀ v ∈ vs.past, ∀ other ∈ vs.past, v.modified = other.modified → v = other

/-- An edit keeps the times of versions apart and forgets none. -/
theorem Edit.dated {vs next : Versions} (h : Edit vs next) (hd : vs.Dated) :
    next.Dated ∧ vs.past ⊆ next.past := by
  cases h with
  | rewrite v hv =>
    have hsame : ∀ other ∈ vs.past, other.modified = v.modified → other = v := by
      intro other hother htime
      have hbytes := hv other hother htime
      cases other
      cases v
      cases htime
      cases hbytes
      rfl
    refine ⟨⟨fun u hu => ?_, fun u hu other hother htime => ?_⟩, List.subset_cons_self v vs.past⟩
    · cases hu
      exact List.mem_cons_self
    · rcases List.mem_cons.mp hu with rfl | hold
      · rcases List.mem_cons.mp hother with rfl | hold'
        · rfl
        · exact (hsame other hold' htime.symm).symm
      · rcases List.mem_cons.mp hother with rfl | hold'
        · exact hsame u hold htime
        · exact hd.unique u hold other hold' htime
  | remove =>
    refine ⟨⟨fun u hu => ?_, hd.unique⟩, List.Subset.refl _⟩
    cases hu
  | restore hv =>
    refine ⟨⟨fun u hu => ?_, hd.unique⟩, List.Subset.refl _⟩
    cases hu
    exact hv

theorem Edits.dated {vs next : Versions} (h : Edits vs next) (hd : vs.Dated) :
    next.Dated ∧ vs.past ⊆ next.past := by
  induction h with
  | refl => exact ⟨hd, List.Subset.refl _⟩
  | tail _ hedit ih =>
    obtain ⟨hmiddle, hsubset⟩ := ih
    obtain ⟨hnext, hmore⟩ := hedit.dated hmiddle
    exact ⟨hnext, List.Subset.trans hsubset hmore⟩

end Versions

/-! ### Reading the rules -/

section

variable {ε : Type} (env : Environment ε) (root : String) (settings : Settings)

namespace Environment

/-- A step that leaves the rules file alone. -/
def beside {α : Type} (step : StateM ε α) : StateM (ε × Versions) α := fun e =>
  ((step e.1).1, (step e.1).2, e.2)

/-- An environment in which the rules are those of a file with a past. -/
def versioned : Environment (ε × Versions) where
  query collection properties filter := beside (env.query collection properties filter)
  items record property := beside (env.items record property)
  update record properties := beside (env.update record properties)
  notify delivery := beside (env.notify delivery)
  now := beside env.now
  rules e := (match e.2.current with
    | some v => .ok v.bytes
    | none => .error .notFound, e)
  rulesModified e := (match e.2.current with
    | some v => .ok v.modified
    | none => .error .notFound, e)
  sees path := beside (env.sees path)
  reads path := beside (env.reads path)
  breaks path := beside (env.breaks path)
  moves path := beside (env.moves path)

/-- What is kept by everything in such an environment that does not depend on the first part. -/
theorem answers_versioned (vs : Versions) :
    Environment.Answers
      (.relates fun s t : World (ε × Versions) Files => s = t ∧ s.env.2 = vs)
      env.versioned env.versioned := by
  constructor <;> intros <;> exact .of_keeps fun _ h => h

end Environment

namespace Session

/-- A session after a look at the rules file. -/
def reread (session : Session) : Option Version → Session
  | none => session
  | some v =>
    if session.rulesModified = some v.modified then session
    else
      match v.rules? with
      | some file =>
        { session with collections := file.collections, rulesModified := some v.modified }
      | none => { session with rulesModified := some v.modified }

theorem modified_versioned (w : World (ε × Versions) Files) :
    (env.versioned.surroundings root settings).disk.modified settings.rulesPath w =
      (match w.env.2.current with
        | some v => .ok v.modified
        | none => .error .notFound, w) := by
  show (env.versioned.disk settings.rulesPath).modified settings.rulesPath w = _
  rw [Environment.disk_rulesModified]
  rfl

theorem readRules_versioned (w : World (ε × Versions) Files) :
    readRules (env.versioned.surroundings root settings).disk settings.rulesPath w =
      (match w.env.2.current.bind Version.rules? with
        | some file => .ok file.collections
        | none => .error (.rules settings.rulesPath), w) := by
  have hread : (env.versioned.surroundings root settings).disk.read settings.rulesPath w =
      (match w.env.2.current with
        | some v => .ok v.bytes
        | none => .error .notFound, w) := by
    show (env.versioned.disk settings.rulesPath).read settings.rulesPath w = _
    rw [Environment.disk_rules _ rfl]
    rfl
  have htext : (env.versioned.surroundings root settings).disk.readText settings.rulesPath w =
      (match w.env.2.current with
        | some v => SnapshotStore.textOf (some v.bytes)
        | none => .error .notFound, w) := by
    rw [Disk.readText, bind_run hread]
    cases w.env.2.current with
    | none => rfl
    | some v =>
      dsimp only
      rw [SnapshotStore.textOf]
      cases String.fromUTF8? v.bytes <;> rfl
  rw [readRules, bind_run htext]
  cases w.env.2.current with
  | none => rfl
  | some v =>
    dsimp only
    rw [Option.bind_some, Version.rules?, SnapshotStore.textOf]
    cases String.fromUTF8? v.bytes with
    | none => rfl
    | some text =>
      rw [Option.bind_some]
      dsimp only
      cases RuleFile.ofText? text <;> rfl

theorem reload_versioned (session : Session) (w : World (ε × Versions) Files) :
    session.reload (env.versioned.surroundings root settings) w =
      (session.reread w.env.2.current, w) := by
  have hmodified := modified_versioned env root settings w
  have hrules := readRules_versioned env root settings w
  rw [reload, surroundings_settings, bind_run hmodified]
  -- Nothing happens to the file between the two steps, so both see the same version.
  cases hcurrent : w.env.2.current with
  | none => rfl
  | some v =>
    rw [hcurrent, Option.bind_some] at hrules
    rw [reread]
    dsimp only
    split
    · rfl
    · rw [bind_run hrules]
      cases v.rules? <;> rfl

/-- A session starts on a file that can be parsed. -/
theorem start_versioned {session : Session} {w w' : World (ε × Versions) Files}
    (h : start (env.versioned.surroundings root settings) w = (.ok session, w')) :
    w'.env.2 = w.env.2 ∧ ∃ v file, w.env.2.current = some v ∧ v.rules? = some file ∧
      session.collections = file.collections ∧ session.rulesModified = some v.modified := by
  have hmodified := modified_versioned env root settings w
  have hrules := readRules_versioned env root settings w
  have hkept : (start (env.versioned.surroundings root settings) w).2.env.2 = w.env.2 :=
    Relates.keeps ((env.answers_versioned w.env.2).rulesFile root settings).start rfl
  rw [h] at hkept
  refine ⟨hkept, ?_⟩
  rw [start, surroundings_settings, bind_run hmodified, bind_run hrules] at h
  cases hcurrent : w.env.2.current with
  | none =>
    rw [hcurrent] at h
    cases h
  | some v =>
    rw [hcurrent, Option.bind_some] at h
    cases hfile : v.rules? with
    | none =>
      rw [hfile] at h
      cases h
    | some file =>
      rw [hfile] at h
      cases h
      exact ⟨v, file, rfl, hfile, rfl, rfl⟩

theorem start_of_parsed {w : World (ε × Versions) Files} {v : Version} {file : RuleFile}
    (hc : w.env.2.current = some v) (hf : v.rules? = some file) :
    ∃ session w', start (env.versioned.surroundings root settings) w = (.ok session, w') ∧
      session.collections = file.collections := by
  have hmodified := modified_versioned env root settings w
  have hrules := readRules_versioned env root settings w
  rw [hc, Option.bind_some, hf] at hrules
  rw [start, surroundings_settings, bind_run hmodified, bind_run hrules]
  exact ⟨_, _, rfl, rfl⟩

theorem cycle_versioned (session : Session) (w : World (ε × Versions) Files) :
    (session.cycle (env.versioned.surroundings root settings) w).2.env.2 = w.env.2 := by
  have hanswers := env.answers_versioned w.env.2
  have hpoll : ∀ (session : Session) (collection : Collection),
      Relates (fun s t => s = t ∧ s.env.2 = w.env.2) Eq
        (session.poll (env.versioned.surroundings root settings) collection).run
        (session.poll (env.versioned.surroundings root settings) collection).run :=
    fun _ collection =>
      (hanswers.surroundings root settings (fun _ => .of_keeps fun _ h => h) collection).poll
        (hanswers.store root settings collection.id fun _ _ => .of_keeps fun _ h => h) rfl
  exact Relates.keeps ((hanswers.rulesFile root settings).cycle hpoll session) rfl

end Session

end

/-! ### The rules in force -/

/-- The last version among those seen that can be parsed, and its rules. A look at the file sees no
version while it is missing. -/
def Governs (seen : List (Option Version)) (v : Version) (file : RuleFile) : Prop :=
  ∃ before after, seen = before ++ some v :: after ∧ v.rules? = some file ∧
    ∀ other, some other ∈ after → other.rules? = none

namespace Governs

variable {seen : List (Option Version)} {v : Version} {file : RuleFile}

theorem last (h : v.rules? = some file) : Governs (seen ++ [some v]) v file :=
  ⟨seen, [], rfl, h, fun _ hmem => by cases hmem⟩

theorem skip (h : Governs seen v file) {current : Option Version}
    (hc : ∀ other ∈ current, other.rules? = none) : Governs (seen ++ [current]) v file := by
  obtain ⟨before, after, rfl, hv, hafter⟩ := h
  refine ⟨before, after ++ [current], List.append_assoc .., hv, fun other hmem => ?_⟩
  rcases List.mem_append.mp hmem with hmem | hmem
  · exact hafter other hmem
  · exact hc other (List.mem_singleton.mp hmem).symm

end Governs

namespace Session

/-- A session follows the rules file: its rules are those that govern, and the time it remembers is
that of a version which, if it can be parsed, is the one that governs. -/
structure Obeys (session : Session) (seen : List (Option Version)) (past : List Version) :
    Prop where
  rules : ∃ v file, Governs seen v file ∧ session.collections = file.collections
  remembered : ∃ v ∈ past, session.rulesModified = some v.modified ∧
    ∀ file, v.rules? = some file →
      Governs seen v file ∧ session.collections = file.collections

theorem Obeys.mono {session : Session} {seen : List (Option Version)} {past more : List Version}
    (h : session.Obeys seen past) (hm : past ⊆ more) : session.Obeys seen more := by
  obtain ⟨v, hv, hremembered⟩ := h.remembered
  exact ⟨h.rules, v, hm hv, hremembered⟩

/-- A version that cannot be parsed changes no rules, whether its time is a new one or not. -/
theorem reread_of_unparsed (session : Session) {v : Version} (h : v.rules? = none) :
    (session.reread (some v)).collections = session.collections ∧
      (session.reread (some v)).rulesModified = some v.modified := by
  rw [reread, h]
  split
  · exact ⟨rfl, by assumption⟩
  · exact ⟨rfl, rfl⟩

/-- After a look at a version that can be parsed, its rules are in force. -/
theorem Obeys.reread_of_parsed {session : Session} {seen : List (Option Version)}
    {past : List Version} (h : session.Obeys seen past) {v : Version}
    (hd : Versions.Dated ⟨some v, past⟩) {file : RuleFile} (hfile : v.rules? = some file) :
    (session.reread (some v)).collections = file.collections ∧
      (session.reread (some v)).rulesModified = some v.modified := by
  rw [Session.reread, hfile]
  split
  · rename_i hsame
    obtain ⟨u, hu, htime, hparsed⟩ := h.remembered
    -- The time is the remembered one, so the version is the remembered one.
    obtain rfl : u = v := by
      rw [htime] at hsame
      exact hd.unique u hu v (hd.current v rfl) (Option.some.inj hsame)
    exact ⟨(hparsed file hfile).2, htime⟩
  · exact ⟨rfl, rfl⟩

theorem Obeys.reread {session : Session} {seen : List (Option Version)} {past : List Version}
    (h : session.Obeys seen past) {current : Option Version}
    (hd : Versions.Dated ⟨current, past⟩) :
    (session.reread current).Obeys (seen ++ [current]) past := by
  obtain ⟨v, file, hgoverns, hforce⟩ := h.rules
  cases current with
  | none =>
    have hnone : ∀ other ∈ (none : Option Version), other.rules? = none := by
      intro other hother
      cases hother
    obtain ⟨u, hu, htime, hparsed⟩ := h.remembered
    refine ⟨⟨v, file, hgoverns.skip hnone, hforce⟩, u, hu, htime, fun file hfile => ?_⟩
    obtain ⟨hgoverns, hforce⟩ := hparsed file hfile
    exact ⟨hgoverns.skip hnone, hforce⟩
  | some w =>
    have hw : w ∈ past := hd.current w rfl
    cases hfile : w.rules? with
    | none =>
      obtain ⟨hkept, htime⟩ := reread_of_unparsed session hfile
      have hnone : ∀ other ∈ some w, other.rules? = none := by
        intro other hother
        cases hother
        exact hfile
      refine ⟨⟨v, file, hgoverns.skip hnone, hkept.trans hforce⟩, w, hw, htime, ?_⟩
      intro file' hfile'
      cases hfile.symm.trans hfile'
    | some rules =>
      obtain ⟨hput, htime⟩ := h.reread_of_parsed hd hfile
      refine ⟨⟨w, rules, .last hfile, hput⟩, w, hw, htime, fun file' hfile' => ?_⟩
      obtain rfl : rules = file' := Option.some.inj (hfile.symm.trans hfile')
      exact ⟨.last hfile, hput⟩

end Session

/-! ### Runs -/

section

variable {ε : Type} {env : Environment ε} {root : String} {settings : Settings}

namespace Session

/-- The rules of a cycle are those from its start, and so is the time it remembers. -/
theorem cycle_reread {session next : Session} {result : Except SessionError CycleSummary}
    {w w' : World (ε × Versions) Files}
    (h : session.cycle (env.versioned.surroundings root settings) w = ((next, result), w')) :
    next.collections = (session.reread w.env.2.current).collections ∧
      next.rulesModified = (session.reread w.env.2.current).rulesModified := by
  rw [cycle_run _ root settings (reload_versioned env root settings session w)] at h
  obtain ⟨hnext, -⟩ := Prod.mk.inj h
  split at hnext
  · cases hnext
    exact ⟨rfl, rfl⟩
  · cases hnext
    exact ⟨rfl, rfl⟩

variable (env root settings) in
/-- A session that was started and has come through some cycles, the world it left, and what it saw
of the rules file. Between cycles the file is edited, and the rest of the world changes in any
way. -/
inductive Ran : Session → World (ε × Versions) Files → List (Option Version) → Prop where
  | start {session : Session} {w w' : World (ε × Versions) Files} (hd : w.env.2.Dated)
    (h : Session.start (env.versioned.surroundings root settings) w = (.ok session, w')) :
    Ran session w' [w.env.2.current]
  | cycle {session next : Session} {w v v' : World (ε × Versions) Files}
    {seen : List (Option Version)} {result : Except SessionError CycleSummary}
    (hr : Ran session w seen) (he : Versions.Edits w.env.2 v.env.2)
    (h : session.cycle (env.versioned.surroundings root settings) v = ((next, result), v')) :
    Ran next v' (seen ++ [v.env.2.current])

/-- Such a session follows the rules file. -/
theorem Ran.obeys {session : Session} {w : World (ε × Versions) Files}
    {seen : List (Option Version)} (h : Ran env root settings session w seen) :
    w.env.2.Dated ∧ session.Obeys seen w.env.2.past := by
  -- The induction is on the run. The times of the versions have to stay apart all along, as the
  -- session knows a version by its time alone.
  induction h with
  | @start session w w' hd h =>
    obtain ⟨hkept, v, file, hcurrent, hfile, hcollections, htime⟩ :=
      start_versioned env root settings h
    have hgoverns : Governs [w.env.2.current] v file := by
      have hlast : Governs ([] ++ [some v]) v file := .last hfile
      rwa [hcurrent]
    rw [hkept]
    refine ⟨hd, ⟨v, file, hgoverns, hcollections⟩, v, hd.current v hcurrent, htime, ?_⟩
    intro file' hfile'
    obtain rfl : file = file' := Option.some.inj (hfile.symm.trans hfile')
    exact ⟨hgoverns, hcollections⟩
  | @cycle session next w v v' seen result _ he h ih =>
    obtain ⟨hd, hobeys⟩ := ih
    obtain ⟨hdated, hmore⟩ := he.dated hd
    have hkept := cycle_versioned env root settings session v
    rw [h] at hkept
    obtain ⟨hcollections, htime⟩ := cycle_reread h
    obtain ⟨hrules, hremembered⟩ := (hobeys.mono hmore).reread hdated
    rw [← hcollections] at hrules hremembered
    rw [← htime] at hremembered
    rw [hkept]
    exact ⟨hdated, hrules, hremembered⟩

/-- The rules in force are those of one version of the rules file as a whole. Whatever happens to
the file between cycles, a cycle polls the collections of the last version that was there at the
start of the session or of a cycle up to this one and that can be parsed; only a fatal error keeps
it from polling all of them. A file that is missing or cannot be parsed changes nothing, and one
that can be parsed is in force from the cycle on that sees it. -/
theorem Ran.rules_in_force {session next : Session} {w v v' : World (ε × Versions) Files}
    {seen : List (Option Version)} {result : Except SessionError CycleSummary}
    (h : Ran env root settings session w seen) (he : Versions.Edits w.env.2 v.env.2)
    (hc : session.cycle (env.versioned.surroundings root settings) v = ((next, result), v')) :
    (∃ u file, Governs (seen ++ [v.env.2.current]) u file ∧
      next.collections = file.collections ∧
      (directivePolls env.versioned root settings (some session) .cycle v).map
        PollRecord.collection <+: file.collections ∧
      (∀ summary, result = .ok summary →
        (directivePolls env.versioned root settings (some session) .cycle v).map
          PollRecord.collection = file.collections)) ∧
    ((∀ u ∈ v.env.2.current, u.rules? = none) → next.collections = session.collections) ∧
    ∀ u ∈ v.env.2.current, ∀ file, u.rules? = some file →
      Governs (seen ++ [v.env.2.current]) u file ∧ next.collections = file.collections := by
  obtain ⟨hd, hobeys⟩ := h.obeys
  obtain ⟨hdated, hmore⟩ := he.dated hd
  obtain ⟨hcollections, -⟩ := cycle_reread hc
  have hreload := reload_versioned env root settings session v
  have hpolls : directivePolls env.versioned root settings (some session) .cycle v =
      (session.reread v.env.2.current).polls env.versioned root settings
        (session.reread v.env.2.current).collections v := by
    rw [directivePolls, hreload]
  obtain ⟨hinit, hall⟩ := polls_collections env.versioned root settings
    (session.reread v.env.2.current) (session.reread v.env.2.current).collections v
  obtain ⟨u, file, hgoverns, hforce⟩ := ((hobeys.mono hmore).reread hdated).rules
  refine ⟨⟨u, file, hgoverns, hcollections.trans hforce, ?_, fun summary hsummary => ?_⟩, ?_, ?_⟩
  · rw [hpolls, ← hforce]
    exact hinit
  · rw [cycle_run _ root settings hreload] at hc
    obtain ⟨hresult, -⟩ := Prod.mk.inj hc
    cases htally : tally (session.reread v.env.2.current)
        ((session.reread v.env.2.current).polls env.versioned root settings
          (session.reread v.env.2.current).collections v) with
    | error error =>
      rw [htally, hsummary] at hresult
      cases hresult
    | ok total =>
      rw [hpolls, ← hforce]
      exact hall _ total htally
  · intro hnone
    rw [hcollections]
    cases hcurrent : v.env.2.current with
    | none => rfl
    | some u => exact (reread_of_unparsed session (hnone u hcurrent)).1
  · intro u hu rules hrules
    have hcurrent : v.env.2.current = some u := hu
    rw [hcollections, hcurrent]
    refine ⟨.last hrules, ?_⟩
    have hdated' : Versions.Dated ⟨some u, v.env.2.past⟩ := hcurrent ▸ hdated
    exact ((hobeys.mono hmore).reread_of_parsed hdated' hrules).1

end Session

end

/-- A version of the rules file that holds one rule. -/
def doneVersion : Version := ⟨0, (RuleFile.text [("c-1", [doneEntry])]).toUTF8⟩

/-- A later version that is no list of rules: it ends after a bracket. -/
def brokenVersion : Version := ⟨1, "[".toUTF8⟩

theorem rules?_doneVersion : doneVersion.rules? = some [("c-1", [doneEntry])] := by
  rw [Version.rules?, doneVersion, fromUTF8?_toUTF8, Option.bind_some]
  exact ofText?_doneEntry

theorem rules?_brokenVersion : brokenVersion.rules? = none := by
  rw [Version.rules?, brokenVersion, fromUTF8?_toUTF8, Option.bind_some]
  decide +kernel

/-- A world without snapshots in which the rules file has a past. -/
def versionedWorld (vs : Versions) : World (Nat × Versions) Files := ⟨(0, vs), fun _ => none, []⟩

theorem dated_doneVersion : Versions.Dated ⟨some doneVersion, [doneVersion]⟩ := by
  refine ⟨fun v hv => ?_, fun v hv other hother _ => ?_⟩
  · cases hv
    exact List.mem_cons_self
  · rw [List.mem_singleton.mp hv, List.mem_singleton.mp hother]

/-- A session that starts on the first version keeps its collection in the cycle that sees the
second. -/
theorem Session.rules_in_force_broken :
    ∃ (session next : Session) (result : Except SessionError CycleSummary)
      (w v v' : World (Nat × Versions) Files),
      Ran (.answering (fun _ => .ok []) []) "store" postSettings session w [some doneVersion] ∧
      Versions.Edits w.env.2 v.env.2 ∧ v.env.2.current = some brokenVersion ∧
      session.cycle ((Environment.answering (fun _ => .ok []) []).versioned.surroundings "store"
        postSettings) v = ((next, result), v') ∧
      next.collections = [doneCollection] := by
  obtain ⟨session, w, hstart, hcollections⟩ := start_of_parsed
    (.answering (fun _ => .ok []) []) "store" postSettings
    (w := versionedWorld ⟨some doneVersion, [doneVersion]⟩) rfl rules?_doneVersion
  have hran := Ran.start dated_doneVersion hstart
  obtain ⟨hkept, -⟩ := start_versioned _ "store" postSettings hstart
  have hedits : Versions.Edits w.env.2 ⟨some brokenVersion, [brokenVersion, doneVersion]⟩ := by
    rw [hkept]
    refine .single (.rewrite brokenVersion fun other hother htime => ?_)
    rw [List.mem_singleton.mp hother] at htime
    cases htime
  -- The world is kept as a variable, so that the cycle is not evaluated.
  obtain ⟨v, hv⟩ : ∃ v, v = versionedWorld ⟨some brokenVersion, [brokenVersion, doneVersion]⟩ :=
    ⟨_, rfl⟩
  have hedits' : Versions.Edits w.env.2 v.env.2 := hv ▸ hedits
  cases hc : session.cycle ((Environment.answering (fun _ => .ok []) []).versioned.surroundings
      "store" postSettings) v with
  | mk ended v' =>
    obtain ⟨next, result⟩ := ended
    obtain ⟨-, hbroken, -⟩ := Ran.rules_in_force hran hedits' hc
    refine ⟨session, next, result, w, v, v', hran, hedits', by rw [hv]; rfl, hc, ?_⟩
    refine (hbroken fun u hu => ?_).trans hcollections
    rw [hv] at hu
    cases hu
    exact rules?_brokenVersion

end RecordWatch
