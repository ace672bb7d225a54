import RecordWatch.Proofs.Delta.Ascending
import RecordWatch.Rule.Addition

/-! How a rules file lists a collection. The rules of a collection are those under every spelling of
its id, in the order of the spellings, and each is numbered by its place among them. A rule that is
added goes behind the rules of the first spelling, so it is the last of its collection only if no
other spelling lists rules. -/

namespace RecordWatch

/-! ### Rules by place -/

namespace RuleEntry

/-- Wherever they stand, the entries are the same rule. -/
def Same (a b : RuleEntry) : Prop := ∀ index, a.toRule index = b.toRule index

/-- The name of a rule that has no id. -/
def placeName (index : Nat) : String := "rule-" ++ toString index

theorem placeName_inj {i j : Nat} : placeName i = placeName j ↔ i = j := by
  refine ⟨fun h => ?_, fun h => h ▸ rfl⟩
  have hdigits : Nat.toDigits 10 i = Nat.toDigits 10 j := by
    rw [placeName, placeName, String.append_right_inj, Nat.toString_eq_repr,
      Nat.toString_eq_repr] at h
    rw [← Nat.toList_repr, h, Nat.toList_repr]
  rw [← @Nat.ofDigitChars_ten_toDigits i, hdigits, Nat.ofDigitChars_ten_toDigits]

variable {a b : RuleEntry}

theorem uid_toRule (entry : RuleEntry) (index : Nat) :
    (entry.toRule index).uid = entry.uid.getD (placeName index) := rfl

/-- Rules with the same id that are the same in one place are the same everywhere. -/
theorem same_of_uid (hu : a.uid = b.uid) {index : Nat} (h : a.toRule index = b.toRule index) :
    a.Same b := by
  have htrigger := congrArg Rule.trigger h
  have hactions := congrArg Rule.actions h
  have hproperties := congrArg Rule.filterProperties h
  have hfilter := congrArg Rule.contentFilter h
  intro other
  simp only [toRule] at htrigger hactions hproperties hfilter ⊢
  rw [hu, htrigger, hactions, hproperties, hfilter]

/-- Two rules have the same name in one place although only one of them has an id: that id is the
name of the place. -/
theorem uid_of_toRule_eq {index : Nat} (h : a.toRule index = b.toRule index)
    (hu : a.uid ≠ b.uid) :
    a.uid = none ∧ b.uid = some (placeName index) ∨
      a.uid = some (placeName index) ∧ b.uid = none := by
  have hname := congrArg Rule.uid h
  rw [uid_toRule, uid_toRule] at hname
  cases ha : a.uid with
  | none =>
    cases hb : b.uid with
    | none => exact absurd (ha.trans hb.symm) hu
    | some v =>
      rw [ha, hb] at hname
      exact .inl ⟨rfl, congrArg some hname.symm⟩
  | some u =>
    cases hb : b.uid with
    | none =>
      rw [ha, hb] at hname
      exact .inr ⟨congrArg some hname, rfl⟩
    | some v =>
      rw [ha, hb] at hname
      exact absurd (ha.trans ((congrArg some hname).trans hb.symm)) hu

/-- Only the name of a place can come and go as an id there. -/
theorem uid_iff_of_toRule_eq {index : Nat} (h : a.toRule index = b.toRule index) {u : String}
    (hu : placeName index ≠ u) : a.uid = some u ↔ b.uid = some u := by
  by_cases heq : a.uid = b.uid
  · rw [heq]
  · rcases uid_of_toRule_eq h heq with ⟨ha, hb⟩ | ⟨ha, hb⟩ <;> simp [ha, hb, hu]

end RuleEntry

namespace RuleFile

open RuleEntry (placeName placeName_inj same_of_uid uid_of_toRule_eq uid_iff_of_toRule_eq)

/-- The rules of entries that are numbered from a place on. -/
def numbered (start : Nat) : List RuleEntry → List Rule
  | [] => []
  | entry :: rest => entry.toRule start :: numbered (start + 1) rest

theorem numbered_append (start : Nat) (entries more : List RuleEntry) :
    numbered start (entries ++ more) =
      numbered start entries ++ numbered (start + entries.length) more := by
  induction entries generalizing start with
  | nil => rfl
  | cons entry rest ih =>
    rw [List.cons_append, numbered, ih, List.length_cons, Nat.add_assoc, Nat.add_comm 1]
    rfl

theorem length_numbered (start : Nat) (entries : List RuleEntry) :
    (numbered start entries).length = entries.length := by
  induction entries generalizing start with
  | nil => rfl
  | cons entry rest ih => rw [numbered, List.length_cons, ih, List.length_cons]

theorem forall_mem_numbered {P : Trigger → Prop} (start : Nat) (entries : List RuleEntry) :
    (∀ rule ∈ numbered start entries, P rule.trigger) ↔
      ∀ entry ∈ entries, P (Trigger.ofJson entry.trigger) := by
  induction entries generalizing start with
  | nil => simp [numbered]
  | cons entry rest ih =>
    rw [numbered, List.forall_mem_cons, List.forall_mem_cons, ih]
    rfl

theorem extend_eq (rules : List Rule) (entries : List RuleEntry) :
    extend rules entries = rules ++ numbered rules.length entries := by
  induction entries generalizing rules with
  | nil => exact (List.append_nil rules).symm
  | cons entry rest ih =>
    show extend (rules ++ [entry.toRule rules.length]) rest = _
    rw [ih, numbered, List.append_assoc, List.singleton_append, List.length_append,
      List.length_singleton]

/-! ### Rules that move -/

theorem shift_nil {first last : RuleEntry} {start : Nat}
    (h : numbered start [first] = numbered start ([] ++ [last])) :
    first.toRule start = last.toRule start := (List.cons.inj h).1

theorem shift_cons {first last next : RuleEntry} {later : List RuleEntry} {start : Nat}
    (h : numbered start (first :: next :: later) = numbered start (next :: later ++ [last])) :
    first.toRule start = next.toRule start ∧
      numbered (start + 1) (next :: later) = numbered (start + 1) (later ++ [last]) :=
  List.cons.inj h

/-- Rules that move by one place hand on an id that names none of the places. -/
theorem uid_iff_of_shift {u : String} {first last : RuleEntry} {later : List RuleEntry}
    {start : Nat} (hu : ∀ index, start ≤ index → placeName index ≠ u)
    (h : numbered start (first :: later) = numbered start (later ++ [last])) :
    first.uid = some u ↔ last.uid = some u := by
  induction later generalizing first start with
  | nil => exact uid_iff_of_toRule_eq (shift_nil h) (hu start (Nat.le_refl _))
  | cons next later ih =>
    obtain ⟨hfirst, hrest⟩ := shift_cons h
    rw [uid_iff_of_toRule_eq hfirst (hu start (Nat.le_refl _))]
    exact ih (fun index hi => hu index (Nat.le_of_succ_le hi)) hrest

/-- Where the first and the last have the same id, so have all between them: an id that comes or
goes names the place where it does, and from there on it names none. -/
theorem uid_eq_of_shift {first last : RuleEntry} {later : List RuleEntry} {start : Nat}
    (hu : first.uid = last.uid)
    (h : numbered start (first :: later) = numbered start (later ++ [last])) :
    ∀ entry ∈ later, entry.uid = last.uid := by
  induction later generalizing first start with
  | nil => simp
  | cons next later ih =>
    obtain ⟨hfirst, hrest⟩ := shift_cons h
    by_cases hnext : first.uid = next.uid
    · have hlast := hnext.symm.trans hu
      exact List.forall_mem_cons.mpr ⟨hlast, ih hlast hrest⟩
    · have hgone : ∀ index, start + 1 ≤ index → placeName index ≠ placeName start :=
        fun index hi heq => by
          have := placeName_inj.mp heq
          omega
      have hkept := uid_iff_of_shift hgone hrest
      rw [← hu] at hkept
      rcases uid_of_toRule_eq hfirst hnext with ⟨hnone, hsome⟩ | ⟨hsome, hnone⟩
      · rw [hnone, hsome] at hkept
        simp at hkept
      · rw [hnone, hsome] at hkept
        simp at hkept

theorem same_of_shift {first last : RuleEntry} {later : List RuleEntry} {start : Nat}
    (hu : first.uid = last.uid)
    (h : numbered start (first :: later) = numbered start (later ++ [last])) :
    ∀ entry ∈ later, entry.Same first := by
  have huids := uid_eq_of_shift hu h
  induction later generalizing first start with
  | nil => simp
  | cons next later ih =>
    obtain ⟨hfirst, hrest⟩ := shift_cons h
    obtain ⟨hnext, huids⟩ := List.forall_mem_cons.mp huids
    have hsame : next.Same first := same_of_uid (hnext.trans hu.symm) hfirst.symm
    refine List.forall_mem_cons.mpr ⟨hsame, fun other hother index => ?_⟩
    rw [ih hnext hrest huids other hother index, hsame index]

/-- The rules behind a rule may change places with it exactly if they are copies of it. -/
theorem numbered_shift_iff (entry : RuleEntry) (later : List RuleEntry) (start : Nat) :
    numbered start (entry :: later) = numbered start (later ++ [entry]) ↔
      ∀ other ∈ later, other.Same entry := by
  refine ⟨same_of_shift rfl, fun h => ?_⟩
  induction later generalizing start with
  | nil => rfl
  | cons next later ih =>
    obtain ⟨hnext, hlater⟩ := List.forall_mem_cons.mp h
    have hrest := ih (start + 1) hlater
    rw [numbered] at hrest
    rw [numbered, numbered, List.cons_append, numbered, ← hrest, hnext start, hnext (start + 1)]

/-! ### The rules of a collection -/

/-- A file as far as it lists a collection, under each spelling of its id. -/
def spellings (file : RuleFile) (id : String) : RuleFile :=
  file.filter fun listed => plainId listed.1 = id

theorem spellings_append_singleton (file : RuleFile) (key id : String)
    (entries : List RuleEntry) :
    spellings (file ++ [(key, entries)]) id =
      file.spellings id ++ if plainId key = id then [(key, entries)] else [] := by
  simp only [spellings, List.filter_append, List.filter_cons, List.filter_nil, decide_eq_true_eq]

/-- The entries of a collection, in the order of the spellings. -/
def entriesOf (file : RuleFile) (id : String) : List RuleEntry :=
  (file.spellings id).flatMap Prod.snd

/-- The rules of a collection, if the file lists it. -/
def rulesOf? (file : RuleFile) (id : String) : Option (List Rule) :=
  if file.spellings id = [] then none else some (numbered 0 (file.entriesOf id))

theorem rulesOf?_getD (file : RuleFile) (id : String) :
    (file.rulesOf? id).getD [] = numbered 0 (file.entriesOf id) := by
  rw [rulesOf?, entriesOf]
  split
  · next hnone => rw [hnone]; rfl
  · rfl

theorem sorted_merged (file : RuleFile) : file.merged.Sorted :=
  List.foldlRecOn file _ List.Pairwise.nil fun _ h _ _ => h.put _ _

theorem merged_append_singleton (file : RuleFile) (id : String) (entries : List RuleEntry) :
    merged (file ++ [(id, entries)]) = file.merged.put (plainId id)
      (extend ((file.merged.get? (plainId id)).getD []) entries) := by
  rw [merged, List.foldl_append]
  rfl

/-- The rules in force for a collection are those of its entries. -/
theorem get?_merged (file : RuleFile) (id : String) : file.merged.get? id = file.rulesOf? id := by
  induction file using List.reverseRecOn with
  | nil => rfl
  | append_singleton file listed ih =>
    obtain ⟨key, entries⟩ := listed
    rw [merged_append_singleton, Fields.get?_put]
    rw [rulesOf?, entriesOf, spellings_append_singleton]
    by_cases h : plainId key = id
    · subst h
      have hlisted : spellings file (plainId key) ++ [(key, entries)] ≠ [] := by simp
      rw [if_pos rfl, if_pos rfl, if_neg hlisted, ih, rulesOf?_getD, extend_eq, length_numbered,
        List.flatMap_append, List.flatMap_singleton, numbered_append, Nat.zero_add, entriesOf]
    · rw [if_neg h, if_neg h, List.append_nil, ih]
      rfl

theorem rules_of_mem_collections {file : RuleFile} {collection : Collection}
    (h : collection ∈ file.collections) :
    collection.rules = numbered 0 (file.entriesOf collection.id) := by
  obtain ⟨⟨id, rules⟩, hlisted, rfl⟩ := List.mem_map.mp h
  rw [← rulesOf?_getD, ← get?_merged, (Fields.get?_eq_some_iff file.sorted_merged).mpr hlisted]
  rfl

/-! ### One more rule -/

variable {file : RuleFile}

/-- The entries under the first spelling of a collection's id. -/
def firstEntries (file : RuleFile) (id : String) : List RuleEntry :=
  ((file.spellings id).take 1).flatMap Prod.snd

/-- The entries under the other spellings of a collection's id. -/
def laterEntries (file : RuleFile) (id : String) : List RuleEntry :=
  ((file.spellings id).drop 1).flatMap Prod.snd

theorem entriesOf_eq (file : RuleFile) (id : String) :
    file.entriesOf id = file.firstEntries id ++ file.laterEntries id := by
  rw [firstEntries, laterEntries, ← List.flatMap_append, List.take_append_drop, entriesOf]

/-- A rule is added under the first spelling of its collection's id, or else under the id as it is
given. -/
theorem listedId_eq (file : RuleFile) (collection : String) :
    file.listedId collection =
      ((file.spellings (plainId collection)).head?.map Prod.fst).getD collection := by
  rw [listedId, Fields.names, List.find?_map, spellings, List.head?_filter]
  rfl

theorem plainId_listedId (file : RuleFile) (collection : String) :
    plainId (file.listedId collection) = plainId collection := by
  rw [listedId]
  cases h : file.names.find? fun id => plainId id = plainId collection with
  | none => rfl
  | some id => simpa using List.find?_some h

theorem sorted_append (h : file.Sorted) (collection : String) (entry : RuleEntry) :
    (file.append collection entry).Sorted := h.put _ _

/-- Other collections are listed as before. -/
theorem spellings_append_ne (h : file.Sorted) {collection id : String}
    (hne : id ≠ plainId collection) (entry : RuleEntry) :
    (file.append collection entry).spellings id = file.spellings id := by
  have hother : ¬plainId (file.listedId collection) = id := by
    rw [plainId_listedId]
    exact hne.symm
  refine (Fields.filter_put h (fun key => plainId key = id) _ _).trans ?_
  rw [if_neg (by simpa using hother)]
  rfl

theorem spellings_append (h : file.Sorted) (collection : String) (entry : RuleEntry) :
    (file.append collection entry).spellings (plainId collection) =
      Fields.put (file.listedId collection)
        ((Fields.get? file (file.listedId collection)).getD [] ++ [entry])
        (file.spellings (plainId collection)) := by
  refine (Fields.filter_put h (fun key => plainId key = plainId collection) _ _).trans ?_
  rw [if_pos (by simpa using plainId_listedId file collection)]
  rfl

/-- The new rule stands behind those of the first spelling and before those of the others. -/
theorem entriesOf_append (h : file.Sorted) (collection : String) (entry : RuleEntry) :
    (file.append collection entry).entriesOf (plainId collection) =
      file.firstEntries (plainId collection) ++
        entry :: file.laterEntries (plainId collection) := by
  have hlisted := listedId_eq file collection
  rw [entriesOf, spellings_append h, firstEntries, laterEntries]
  cases hs : file.spellings (plainId collection) with
  | nil =>
    rw [hs] at hlisted
    have hnone : Fields.get? file collection = none :=
      Option.eq_none_iff_forall_ne_some.mpr fun entries hentries => by
        have hmem : (collection, entries) ∈ file.spellings (plainId collection) :=
          List.mem_filter.mpr ⟨Fields.get?_eq_some_mem hentries, by simp⟩
        rw [hs] at hmem
        cases hmem
    rw [hlisted, List.head?_nil, Option.map_none, Option.getD_none, hnone]
    rfl
  | cons first rest =>
    obtain ⟨key, entries⟩ := first
    rw [hs] at hlisted
    have hsome : Fields.get? file key = some entries :=
      (Fields.get?_eq_some_iff h).mpr (List.mem_filter.mp (hs ▸ List.mem_cons_self)).1
    rw [hlisted, List.head?_cons, Option.map_some, Option.getD_some, hsome, Option.getD_some,
      Fields.put, if_neg (String.lt_irrefl key), if_pos rfl]
    simp

/-- A collection that gets a rule is listed. -/
theorem spellings_append_ne_nil (h : file.Sorted) (collection : String) (entry : RuleEntry) :
    (file.append collection entry).spellings (plainId collection) ≠ [] := by
  intro hnil
  have hentries := entriesOf_append h collection entry
  rw [entriesOf, hnil] at hentries
  simp at hentries

/-- The rules in force for a collection with one more rule. -/
theorem get?_merged_append (h : file.Sorted) (collection : String) (entry : RuleEntry) :
    (file.append collection entry).merged.get? (plainId collection) =
      some (numbered 0 (file.firstEntries (plainId collection) ++
        entry :: file.laterEntries (plainId collection))) := by
  rw [get?_merged, rulesOf?, if_neg (spellings_append_ne_nil h collection entry),
    entriesOf_append h]

theorem get?_merged_append_ne (h : file.Sorted) {collection id : String}
    (hne : id ≠ plainId collection) (entry : RuleEntry) :
    (file.append collection entry).merged.get? id = file.merged.get? id := by
  rw [get?_merged, get?_merged, rulesOf?, rulesOf?, entriesOf, entriesOf,
    spellings_append_ne h hne]

/-! ### All rules of a file -/

/-- Every rule of the file is as `P` says. -/
def All (P : RuleEntry → Prop) (file : RuleFile) : Prop :=
  ∀ listed ∈ file, ∀ entry ∈ listed.2, P entry

theorem mem_entriesOf {id : String} {entry : RuleEntry} :
    entry ∈ file.entriesOf id ↔ ∃ listed ∈ file, plainId listed.1 = id ∧ entry ∈ listed.2 := by
  simp [entriesOf, spellings, and_assoc]

theorem all_iff {P : RuleEntry → Prop} :
    file.All P ↔ ∀ id, ∀ entry ∈ file.entriesOf id, P entry := by
  constructor
  · intro h id entry hentry
    obtain ⟨listed, hlisted, -, hmem⟩ := mem_entriesOf.mp hentry
    exact h listed hlisted entry hmem
  · intro h listed hlisted entry hentry
    exact h (plainId listed.1) entry (mem_entriesOf.mpr ⟨listed, hlisted, rfl, hentry⟩)

theorem all_append_iff (h : file.Sorted) {P : RuleEntry → Prop} (collection : String)
    (entry : RuleEntry) : (file.append collection entry).All P ↔ file.All P ∧ P entry := by
  have hsplit : ∀ {entries : List RuleEntry}, entries = file.entriesOf (plainId collection) →
      ((∀ other ∈ (file.append collection entry).entriesOf (plainId collection), P other) ↔
        (∀ other ∈ entries, P other) ∧ P entry) := by
    rintro entries rfl
    rw [entriesOf_append h, entriesOf_eq]
    simp only [List.forall_mem_append, List.forall_mem_cons]
    exact ⟨fun ⟨hf, he, hl⟩ => ⟨⟨hf, hl⟩, he⟩, fun ⟨⟨hf, hl⟩, he⟩ => ⟨hf, he, hl⟩⟩
  rw [all_iff, all_iff]
  constructor
  · intro hall
    refine ⟨fun id => ?_, ((hsplit rfl).mp (hall _)).2⟩
    by_cases hid : id = plainId collection
    · exact hid ▸ ((hsplit rfl).mp (hall _)).1
    · rw [entriesOf, ← spellings_append_ne h hid entry]
      exact hall id
  · rintro ⟨hall, hentry⟩ id
    by_cases hid : id = plainId collection
    · exact hid ▸ (hsplit rfl).mpr ⟨hall _, hentry⟩
    · rw [entriesOf, spellings_append_ne h hid]
      exact hall id

/-! ### The last rule of a collection -/

/-- The collections of a file with one more rule as the last of its collection. -/
def collectionsWith (file : RuleFile) (collection : String) (entry : RuleEntry) :
    List Collection :=
  let rules := (file.merged.get? (plainId collection)).getD []
  (file.merged.put (plainId collection) (rules ++ [entry.toRule rules.length])).map
    fun (id, rules) => ⟨id, rules⟩

theorem collections_inj {a b : Fields (List Rule)} :
    (a.map fun (id, rules) => (⟨id, rules⟩ : Collection)) =
      b.map (fun (id, rules) => ⟨id, rules⟩) ↔ a = b :=
  List.map_inj_right fun (_, _) (_, _) heq => by
    cases heq
    rfl

/-- Putting a rule behind its collection renumbers nothing. -/
theorem collectionsWith_eq (file : RuleFile) (collection : String) (entry : RuleEntry) :
    file.collectionsWith collection entry =
      (file.merged.put (plainId collection)
        (numbered 0 (file.entriesOf (plainId collection) ++ [entry]))).map
        fun (id, rules) => ⟨id, rules⟩ := by
  rw [collectionsWith, get?_merged, rulesOf?_getD, length_numbered, numbered_append, Nat.zero_add]
  rfl

/-- A rule that is added is the last of its collection, and all else is as it was, exactly if the
rules under later spellings of the collection are copies of it. -/
theorem collections_append_iff (h : file.Sorted) (collection : String) (entry : RuleEntry) :
    (file.append collection entry).collections = file.collectionsWith collection entry ↔
      ∀ other ∈ file.laterEntries (plainId collection), other.Same entry := by
  have hget := get?_merged_append h collection entry
  have hnumbered : (file.append collection entry).merged = file.merged.put (plainId collection)
        (numbered 0 (file.entriesOf (plainId collection) ++ [entry])) ↔
      numbered 0 (file.firstEntries (plainId collection) ++
        entry :: file.laterEntries (plainId collection)) =
      numbered 0 (file.entriesOf (plainId collection) ++ [entry]) := by
    constructor
    · intro heq
      rw [heq, Fields.get?_put_self] at hget
      exact (Option.some.inj hget).symm
    · intro heq
      rw [heq] at hget
      refine (sorted_merged _).ext_get? (file.sorted_merged.put _ _) fun id => ?_
      by_cases hid : id = plainId collection
      · rw [hid, hget, Fields.get?_put_self]
      · rw [get?_merged_append_ne h hid, Fields.get?_put_ne (Ne.symm hid)]
  rw [collectionsWith_eq, collections, collections_inj, hnumbered, entriesOf_eq, List.append_assoc,
    numbered_append, numbered_append, List.append_right_inj, numbered_shift_iff]

end RuleFile

end RecordWatch
