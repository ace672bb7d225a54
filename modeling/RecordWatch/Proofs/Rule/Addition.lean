import RecordWatch.Program
import RecordWatch.Proofs.Rule.Text
import RecordWatch.Proofs.Snapshot.Store

/-! Adding a rule to the rules file. A trigger with problems and a file that cannot be read leave
the file as it was. Otherwise the file is written anew with the rule behind those of the first
spelling of its collection. If all rules are legible, they are read back, and no rule gets another
name or place exactly if those under later spellings of the collection are copies of the new one. -/

namespace RecordWatch

/-- A disk whose files are all in the store; the environment makes directories. -/
def Environment.wholeDisk {ε : Type} (env : Environment ε)
    (makes : String → StateM ε (Except FileError Unit)) : Disk (StateM (World ε Files)) where
  isFile := World.isFile env
  read := World.read env
  write := World.write env
  rename := World.rename env
  makeDirectories path := World.ambient (makes path)
  modified _ := World.ambient env.rulesModified

namespace RuleFile

/-- The rules of a file with a content; a file that is missing has none. -/
def stored (path : String) : Option ByteArray → Except AdditionError RuleFile
  | none => .ok []
  | some bytes =>
    match String.fromUTF8? bytes with
    | none => .error (.unreadable path)
    | some text =>
      match ofText? text with
      | none => .error (.invalid path)
      | some file => .ok file

theorem stored_eq_ok_iff {path : String} {bytes : ByteArray} {file : RuleFile} :
    stored path (some bytes) = .ok file ↔ (String.fromUTF8? bytes).bind ofText? = some file := by
  rw [stored]
  cases String.fromUTF8? bytes with
  | none => simp
  | some text => cases h : ofText? text <;> simp [h]

theorem sorted_of_stored {path : String} {content : Option ByteArray} {file : RuleFile}
    (h : stored path content = .ok file) : file.Sorted := by
  cases content with
  | none =>
    cases h
    exact List.Pairwise.nil
  | some bytes =>
    obtain ⟨text, -, htext⟩ := Option.bind_eq_some_iff.mp (stored_eq_ok_iff.mp h)
    obtain ⟨draft, -, hdraft⟩ := Option.bind_eq_some_iff.mp htext
    exact (readable_of_ofDraft? hdraft).sorted

/-- The bytes that a rules file is stored as. -/
def bytes (file : RuleFile) : ByteArray := file.text.toUTF8

/-- The rules in force are read back as they were stored exactly if the file is legible. -/
theorem collections_stored_iff {file : RuleFile} (hs : file.Sorted) (path : String) :
    (stored path (some file.bytes)).map collections = .ok file.collections ↔ file.Legible := by
  rw [← collections_of_text_iff hs, stored, bytes, fromUTF8?_toUTF8]
  dsimp only
  cases ofText? file.text with
  | none => exact iff_of_false (by rintro ⟨⟩) (by rintro ⟨⟩)
  | some read => simp [Except.map]

section

variable {ε : Type}

/-- The rule may be added: its trigger is free of problems, and the file is read. -/
structure Accepts (env : Environment ε) (path : String) (entry : RuleEntry) (w : World ε Files)
    (file : RuleFile) : Prop where
  trigger : (Trigger.ofJson entry.trigger).problems = []
  reads : (env.reads path w.env).1 = true
  stored : stored path (w.store path) = .ok file

/-- What adding a rule may come to. Only a disk that fails stops a rule that may be added. -/
inductive Outcome (env : Environment ε) (makes : String → StateM ε (Except FileError Unit))
    (path collection : String) (entry : RuleEntry) (w : World ε Files) :
    Except AdditionError Unit × World ε Files → Prop where
  | refused {error : AdditionError} {w' : World ε Files}
    (h : ∀ file, ¬Accepts env path entry w file) (hs : w'.store = w.store) :
    Outcome env makes path collection entry w (.error error, w')
  | stopped {file : RuleFile} {error : AdditionError} {w' : World ε Files}
    (h : Accepts env path entry w file)
    (hf : env.Sound → ¬∀ parent e, (makes parent e).1 = .ok ())
    (hs : ∀ other, other ≠ path → w'.store other = w.store other) :
    Outcome env makes path collection entry w (.error error, w')
  | added {file : RuleFile} {w' : World ε Files} (h : Accepts env path entry w file)
    (hs : w'.store = Function.update w.store path (some (file.append collection entry).bytes)) :
    Outcome env makes path collection entry w (.ok (), w')

variable (env : Environment ε) (makes : String → StateM ε (Except FileError Unit))

/-- Reading the rules that a rule is added to. -/
theorem readOrEmpty_run (path : String) (w : World ε Files) :
    readOrEmpty (env.wholeDisk makes) path w =
      (if (env.reads path w.env).1 then stored path (w.store path) else .error (.unreadable path),
        { w with env := (env.reads path w.env).2 }) := by
  refine (bind_run (SnapshotStore.readText_of_read env rfl w)).trans ?_
  split
  · cases w.store path with
    | none => rfl
    | some bytes =>
      rw [SnapshotStore.textOf, stored]
      cases String.fromUTF8? bytes with
      | none => rfl
      | some text =>
        dsimp only
        cases ofText? text <;> rfl
  · rfl

/-- What writing a rules file may come to. -/
def Writes (path : String) (file : RuleFile) (w : World ε Files) :
    Except AdditionError Unit × World ε Files → Prop
  | (.ok _, w') => w'.store = Function.update w.store path (some file.bytes)
  | (.error _, w') =>
    (env.Sound → ¬∀ parent e, (makes parent e).1 = .ok ()) ∧
      ∀ other, other ≠ path → w'.store other = w.store other

theorem writes_bytes (path : String) (file : RuleFile) (w : World ε Files) :
    Writes env makes path file w
      ((World.write env path file.bytes >>= fun result =>
        return result.mapError fun _ => AdditionError.unwritable path) w) := by
  have hwrite := SnapshotStore.write_run env path file.bytes w
  cases hb : (env.breaks path w.env).1 with
  | none =>
    rw [hb] at hwrite
    rw [bind_run hwrite]
    exact rfl
  | some left =>
    rw [hb] at hwrite
    rw [bind_run hwrite]
    refine ⟨fun hs => ?_, fun other ho => Function.update_of_ne ho _ _⟩
    rw [hs.breaks] at hb
    cases hb

theorem writes (path : String) (file : RuleFile) (w : World ε Files) :
    Writes env makes path file w (write (env.wholeDisk makes) path file w) := by
  rw [write]
  cases Path.parent? path with
  | none => exact writes_bytes env makes path file w
  | some parent =>
    have hmake : (env.wholeDisk makes).makeDirectories parent w =
      ((makes parent w.env).1, { w with env := (makes parent w.env).2 }) := rfl
    cases hm : (makes parent w.env).1 with
    | ok made =>
      rw [hm] at hmake
      show Writes env makes path file w
        (((env.wholeDisk makes).makeDirectories parent >>= _) w)
      rw [bind_run hmake]
      exact writes_bytes env makes path file { w with env := (makes parent w.env).2 }
    | error error =>
      rw [hm] at hmake
      show Writes env makes path file w
        (((env.wholeDisk makes).makeDirectories parent >>= _) w)
      rw [bind_run hmake]
      refine ⟨fun _ hmakes => ?_, fun _ _ => rfl⟩
      rw [hmakes] at hm
      cases hm

theorem add_outcome (path collection : String) (entry : RuleEntry) (w : World ε Files) :
    Outcome env makes path collection entry w
      (add (env.wholeDisk makes) path collection entry w) := by
  have hread := readOrEmpty_run env makes path w
  rw [add]
  cases ht : (Trigger.ofJson entry.trigger).problems with
  | cons problem rest =>
    refine .refused (fun file h => ?_) rfl
    rw [h.trigger] at ht
    cases ht
  | nil =>
    dsimp only
    cases hr : (env.reads path w.env).1 with
    | false =>
      rw [hr, if_neg Bool.false_ne_true] at hread
      rw [bind_run hread]
      refine .refused (fun file h => ?_) rfl
      rw [h.reads] at hr
      cases hr
    | true =>
      rw [hr, if_pos rfl] at hread
      cases hs : stored path (w.store path) with
      | error error =>
        rw [hs] at hread
        rw [bind_run hread]
        refine .refused (fun file h => ?_) rfl
        rw [h.stored] at hs
        cases hs
      | ok file =>
        rw [hs] at hread
        rw [bind_run hread]
        have hwrites := writes env makes path (file.append collection entry)
          { w with env := (env.reads path w.env).2 }
        dsimp only
        cases hw : write (env.wholeDisk makes) path (file.append collection entry)
            { w with env := (env.reads path w.env).2 } with
        | mk result w' =>
          rw [hw] at hwrites
          cases result with
          | ok written => exact .added ⟨ht, hr, hs⟩ hwrites
          | error error => exact .stopped ⟨ht, hr, hs⟩ hwrites.1 hwrites.2

end

/-! ### Checking the rules -/

theorem problems_eq_nil_iff {id : String} {rules : List Rule} :
    Platform.problems ⟨id, rules⟩ = [] ↔ ∀ rule ∈ rules, rule.trigger.problems = [] :=
  List.flatMap_eq_nil_iff

/-- The rules in force have no problems exactly if the triggers in the file have none. -/
theorem problems_collections_iff (file : RuleFile) :
    file.collections.flatMap Platform.problems = [] ↔
      file.All fun entry => (Trigger.ofJson entry.trigger).problems = [] := by
  have hrules : ∀ id, (∀ rule ∈ (file.merged.get? id).getD [], rule.trigger.problems = []) ↔
      ∀ entry ∈ file.entriesOf id, (Trigger.ofJson entry.trigger).problems = [] := by
    intro id
    rw [get?_merged, rulesOf?_getD]
    exact forall_mem_numbered (P := fun trigger => trigger.problems = []) 0 _
  rw [all_iff, collections, List.flatMap_eq_nil_iff, List.forall_mem_map]
  simp only [← hrules]
  constructor
  · intro h id
    cases hget : file.merged.get? id with
    | none => simp
    | some rules =>
      exact problems_eq_nil_iff.mp (h _ ((Fields.get?_eq_some_iff file.sorted_merged).mp hget))
  · rintro h ⟨id, rules⟩ hlisted
    have hrules := h id
    rw [(Fields.get?_eq_some_iff file.sorted_merged).mpr hlisted] at hrules
    exact problems_eq_nil_iff.mpr hrules

/-- The rules in force are those of a file that is there and can be read. -/
theorem readRules_iff {ε : Type} {env : Environment ε}
    {makes : String → StateM ε (Except FileError Unit)} {path : String} {w : World ε Files}
    {collections : List Collection} :
    (readRules (env.wholeDisk makes) path w).1 = .ok collections ↔
      (env.reads path w.env).1 = true ∧ (w.store path).isSome ∧
        (stored path (w.store path)).map RuleFile.collections = .ok collections := by
  have hdisk : (env.wholeDisk makes).read path = World.read env path := rfl
  have hread := SnapshotStore.readText_of_read env hdisk w
  rw [readRules, bind_run hread]
  cases (env.reads path w.env).1 with
  | false => exact iff_of_false (by rintro ⟨⟩) (by rintro ⟨⟨⟩, -⟩)
  | true =>
    rw [if_pos rfl]
    cases w.store path with
    | none => exact iff_of_false (by rintro ⟨⟩) (by rintro ⟨-, ⟨⟩, -⟩)
    | some bytes =>
      rw [SnapshotStore.textOf, stored]
      cases String.fromUTF8? bytes with
      | none => exact iff_of_false (by rintro ⟨⟩) (by rintro ⟨-, -, ⟨⟩⟩)
      | some text =>
        dsimp only
        cases ofText? text with
        | none => exact iff_of_false (by rintro ⟨⟩) (by rintro ⟨-, -, ⟨⟩⟩)
        | some file =>
          exact ⟨fun h => ⟨rfl, rfl, congrArg Except.ok (Except.ok.inj h)⟩,
            fun h => congrArg Except.ok (Except.ok.inj h.2.2)⟩

end RuleFile

/-- The rules pass a check if they can be read and no trigger has a problem. -/
theorem Platform.checkRules_iff {σ : Type} {platform : Platform (StateM σ)} {config : Config}
    {w : σ} : (platform.checkRules config w).1 = .ok () ↔
      ∃ collections, (readRules platform.disk config.rulesPath w).1 = .ok collections ∧
        collections.flatMap problems = [] := by
  cases hr : readRules platform.disk config.rulesPath w with
  | mk result after =>
    rw [checkRules, bind_run hr]
    cases result with
    | error error => exact iff_of_false (by rintro ⟨⟩) (by rintro ⟨_, ⟨⟩, -⟩)
    | ok collections =>
      have hpass : ∀ other, (Except.ok collections : Except SessionError _) = .ok other ↔
          collections = other := fun _ => Except.ok.injEq _ _ |>.to_iff
      simp only [hpass, exists_eq_left']
      cases hp : collections.flatMap problems with
      | nil => exact iff_of_true rfl rfl
      | cons problem rest => exact iff_of_false (by rintro ⟨⟩) (by rintro ⟨⟩)

namespace RuleFile

/-- What is at the path of a rules file after a rule was added to it. -/
structure Added (path : String) (file : RuleFile) (collection : String) (entry : RuleEntry)
    (content : Option ByteArray) : Prop where
  written : content = some (file.append collection entry).bytes
  /-- The new rule stands behind the rules of the first spelling of its collection. -/
  own : (file.append collection entry).merged.get? (plainId collection) =
    some (numbered 0 (file.firstEntries (plainId collection) ++
      entry :: file.laterEntries (plainId collection)))
  others {id : String} (h : id ≠ plainId collection) :
    (file.append collection entry).merged.get? id = file.merged.get? id
  /-- The rules in force are read back as they were written exactly if all are legible. -/
  read : (stored path content).map collections = .ok (file.append collection entry).collections ↔
    file.Legible ∧ entry.Legible
  /-- Then the new rule is the last of its collection, and every other rule is as it was with its
  name, exactly if the rules under later spellings of the collection are copies of the new one. -/
  last (hf : file.Legible) (he : entry.Legible) :
    (stored path content).map collections = .ok (file.collectionsWith collection entry) ↔
      ∀ other ∈ file.laterEntries (plainId collection), other.Same entry

theorem added {file : RuleFile} (hs : file.Sorted) (path collection : String)
    (entry : RuleEntry) :
    Added path file collection entry (some (file.append collection entry).bytes) := by
  have hread : (stored path (some (file.append collection entry).bytes)).map collections =
      .ok (file.append collection entry).collections ↔ file.Legible ∧ entry.Legible :=
    (collections_stored_iff (sorted_append hs collection entry) path).trans
      (all_append_iff hs collection entry)
  refine ⟨rfl, get?_merged_append hs collection entry,
    fun h => get?_merged_append_ne hs h entry, hread, fun hf he => ?_⟩
  rw [hread.mpr ⟨hf, he⟩, Except.ok.injEq, collections_append_iff hs]

section

variable {ε : Type} {env : Environment ε} {makes : String → StateM ε (Except FileError Unit)}
  {path : String}

/-- A check that passes with one content of the rules file passes with another. -/
def KeepsCheck (env : Environment ε) (makes : String → StateM ε (Except FileError Unit))
    (path : String) (before after : Option ByteArray) : Prop :=
  ∀ (platform : Platform (StateM (World ε Files))) (config : Config) (v v' : World ε Files),
    platform.disk = env.wholeDisk makes → config.rulesPath = path →
    v.store path = before → v'.store path = after → (env.reads path v'.env).1 = true →
    (platform.checkRules config v).1 = .ok () → (platform.checkRules config v').1 = .ok ()

theorem keepsCheck_added {before after : Option ByteArray} {file : RuleFile} {collection : String}
    {entry : RuleEntry} (hb : stored path before = .ok file)
    (ht : (Trigger.ofJson entry.trigger).problems = [])
    (ha : Added path file collection entry after) (hf : file.Legible) (he : entry.Legible) :
    KeepsCheck env makes path before after := by
  rintro platform config v v' hd rfl rfl rfl hr hpass
  rw [Platform.checkRules_iff, hd] at hpass ⊢
  obtain ⟨rules, hrules, hnone⟩ := hpass
  obtain ⟨-, -, hstored⟩ := readRules_iff.mp hrules
  rw [hb] at hstored
  cases hstored
  have hthere : (v'.store config.rulesPath).isSome := by
    rw [ha.written]
    rfl
  refine ⟨(file.append collection entry).collections,
    readRules_iff.mpr ⟨hr, hthere, ha.read.mpr ⟨hf, he⟩⟩, ?_⟩
  rw [problems_collections_iff] at hnone ⊢
  exact (all_append_iff (sorted_of_stored hb) collection entry).mpr ⟨hnone, ht⟩

/-- A trigger with problems and a file that is not read leave every file as it was. Otherwise the
rule is added unless the disk fails, and no other file changes. -/
theorem adds_rule (env : Environment ε) (makes : String → StateM ε (Except FileError Unit))
    (path collection : String) (entry : RuleEntry) (w : World ε Files) :
    ∃ result w', add (env.wholeDisk makes) path collection entry w = (result, w') ∧
      (∀ other, other ≠ path → w'.store other = w.store other) ∧
      ((Trigger.ofJson entry.trigger).problems ≠ [] ∨ (env.reads path w.env).1 = false ∨
          (∃ error, stored path (w.store path) = .error error) →
        (∃ error, result = .error error) ∧ w'.store = w.store) ∧
      ∀ file, Accepts env path entry w file →
        (env.Sound → (∀ parent e, (makes parent e).1 = .ok ()) → result = .ok ()) ∧
        (result = .ok () → Added path file collection entry (w'.store path) ∧
          (file.Legible → entry.Legible →
            KeepsCheck env makes path (w.store path) (w'.store path))) := by
  have houtcome := add_outcome env makes path collection entry w
  have hrefuses : (Trigger.ofJson entry.trigger).problems ≠ [] ∨ (env.reads path w.env).1 = false ∨
      (∃ error, stored path (w.store path) = .error error) →
      ∀ file, ¬Accepts env path entry w file := by
    rintro (ht | hr | ⟨error, hs⟩) file h
    · exact ht h.trigger
    · rw [h.reads] at hr
      cases hr
    · rw [h.stored] at hs
      cases hs
  cases hadd : add (env.wholeDisk makes) path collection entry w with
  | mk result w' =>
    rw [hadd] at houtcome
    refine ⟨result, w', rfl, ?_⟩
    cases houtcome with
    | refused h hs =>
      refine ⟨fun other _ => by rw [hs], fun _ => ⟨⟨_, rfl⟩, hs⟩, fun file hfile => ?_⟩
      exact absurd hfile (h file)
    | stopped h hf hs =>
      refine ⟨hs, fun hrefused => absurd h (hrefuses hrefused _), fun file _ => ⟨?_, by rintro ⟨⟩⟩⟩
      exact fun hsound hmakes => absurd hmakes (hf hsound)
    | @added file _ h hs =>
      refine ⟨fun other ho => by rw [hs, Function.update_of_ne ho],
        fun hrefused => absurd h (hrefuses hrefused _), fun file' h' => ?_⟩
      refine ⟨fun _ _ => rfl, fun _ => ?_⟩
      have hsame : file' = file := Except.ok.inj (h'.stored.symm.trans h.stored)
      subst hsame
      have hadded := added (sorted_of_stored h.stored) path collection entry
      rw [hs, Function.update_self]
      exact ⟨hadded, fun hf he => keepsCheck_added h.stored h.trigger hadded hf he⟩

end

/-- A rule without an id that watches for new records. -/
def unnamed : RuleEntry where
  uid := none
  filterProperties := []
  contentFilter := none
  trigger := .object [("created", .object [])]
  actions := .nothing

theorem exact_unnamed : unnamed.trigger.Exact 3 :=
  ⟨by decide, List.pairwise_singleton _ _, ⟨by decide, List.Pairwise.nil, trivial⟩, trivial⟩

theorem legible_unnamed (uid : Option String) : RuleEntry.Legible { unnamed with uid } :=
  RuleEntry.legible_of_exact (fun _ h => by cases h) exact_unnamed

/-- A file that spells a collection in two ways and lists a rule without an id under either. -/
def twofold : RuleFile := [("a-b", [unnamed]), ("ab", [unnamed])]

theorem legible_twofold : twofold.Legible := by
  have hone : ∀ entry ∈ [unnamed], entry.Legible :=
    List.forall_mem_singleton.mpr (legible_unnamed none)
  exact List.forall_mem_cons.mpr ⟨hone, List.forall_mem_singleton.mpr hone⟩

theorem stored_twofold : stored "rules.json" (some twofold.bytes) = .ok twofold := by
  have hsorted : twofold.Sorted :=
    List.pairwise_pair.mpr (show "a-b" < "ab" by decide +kernel)
  have hunnamed : unnamed.reread? = some unnamed :=
    RuleEntry.reread?_of_exact (fun _ h => by cases h) exact_unnamed
  have hread : twofold.reread? = some twofold := by
    simp [twofold, reread?, hunnamed]
  rw [stored_eq_ok_iff, bytes, fromUTF8?_toUTF8, Option.bind_some, ofText?_text hsorted, hread]

/-- A rule that is added under the second spelling of a collection goes before the rule there and
gives it another name. -/
theorem adds_rule_twofold :
    let env := Environment.answering (fun _ => .ok []) twofold
    let makes := fun _ => (return .ok () : StateM Nat (Except FileError Unit))
    let entry := { unnamed with uid := some "new" }
    let w : World Nat Files := ⟨0, fun _ => some twofold.bytes, []⟩
    Accepts env "rules.json" entry w twofold ∧ twofold.Legible ∧ entry.Legible ∧
      ∃ w', add (env.wholeDisk makes) "rules.json" "ab" entry w = (.ok (), w') ∧
        ((stored "rules.json" (w'.store "rules.json")).map collections).map
            (List.map fun listed => (listed.id, listed.rules.map Rule.uid)) =
          .ok [("ab", ["rule-0", "new", "rule-2"])] ∧
        (stored "rules.json" (w'.store "rules.json")).map collections ≠
          .ok (twofold.collectionsWith "ab" entry) := by
  intro env makes entry w
  have haccepts : Accepts env "rules.json" entry w twofold := ⟨by decide, rfl, stored_twofold⟩
  have hentry : entry.Legible := legible_unnamed (some "new")
  obtain ⟨result, w', hadd, -, -, hadded⟩ := adds_rule env makes "rules.json" "ab" entry w
  obtain ⟨hsucceeds, hadded⟩ := hadded twofold haccepts
  have hok := hsucceeds (Environment.sound_answering _ _) fun _ _ => rfl
  obtain ⟨hadded, -⟩ := hadded hok
  refine ⟨haccepts, legible_twofold, hentry, w', hok ▸ hadd, ?_, fun hlast => ?_⟩
  · have hnames : (twofold.append "ab" entry).collections.map
        (fun listed => (listed.id, listed.rules.map Rule.uid)) =
        [("ab", ["rule-0", "new", "rule-2"])] := by
      decide +kernel
    rw [hadded.read.mpr ⟨legible_twofold, hentry⟩, Except.map, hnames]
  · have hlater : unnamed ∈ twofold.laterEntries (plainId "ab") :=
      List.mem_singleton_self unnamed
    have hsame := (hadded.last legible_twofold hentry).mp hlast unnamed hlater
    have hname := congrArg Rule.uid (hsame 0)
    exact absurd hname (by decide)

end RuleFile

end RecordWatch
