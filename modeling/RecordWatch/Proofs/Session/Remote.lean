import RecordWatch.Proofs.Rule.Filters
import RecordWatch.Proofs.Session.Outcome

/-! A remote record store. Its records are created and edited at any instants and never deleted; a
change carries a stamp that lags behind its instant by at most some padding. A query returns exactly
the records that its filter matches, as they are at one moment. What is stored of a collection is
fresh since an instant if only records with later stamps, up to the padding, may be missing; then
the overlay with all records stamped since then mirrors the collection. -/

namespace RecordWatch

/-- A record of the remote store and the stamp of its last change. -/
structure Entry where
  record : Record
  stamp : Int

/-- The remote store as part of the environment: its time, its records by collection and key, and
which records match a content filter. Times and stamps are in nanoseconds. -/
structure Remote (ε : Type) where
  time : ε → Int
  current : ε → String → String → Option Entry
  content : Json → Record → Prop

/-! ### Filters -/

namespace Json

theorem eq_of_same_string {s : String} {value : Json} (h : (Json.string s).same value = true) :
    value = .string s := by
  cases value with
  | string s' => rw [beq_iff_eq.mp h]
  | _ => cases h

theorem eq_of_same_object {fields : Fields Json} {value : Json}
    (h : (Json.object fields).same value = true) :
    ∃ others, value = .object others ∧ sameFields fields others = true := by
  cases value with
  | object others => exact ⟨others, rfl, h⟩
  | _ => cases h

theorem eq_nil_of_sameFields {others : Fields Json} (h : sameFields [] others = true) :
    others = [] := by
  cases others with
  | nil => rfl
  | cons _ _ => cases h

theorem eq_cons_of_sameFields {name : String} {value : Json} {fields others : Fields Json}
    (h : sameFields ((name, value) :: fields) others = true) :
    ∃ other rest, others = (name, other) :: rest ∧ value.same other = true ∧
      sameFields fields rest = true := by
  cases others with
  | nil => cases h
  | cons first rest =>
    obtain ⟨name', other⟩ := first
    simp only [sameFields, Bool.and_eq_true, beq_iff_eq] at h
    obtain ⟨⟨rfl, hvalue⟩, hrest⟩ := h
    exact ⟨other, rest, rfl, hvalue, hrest⟩

end Json

/-- A filter that is equal to a lookback filter is that filter; it has no numbers. -/
theorem Lookback.eq_of_same {t : Instant} {filter : Json}
    (h : (Lookback.since t).same filter = true) : filter = Lookback.since t := by
  obtain ⟨fields, rfl, hfields⟩ := Json.eq_of_same_object h
  obtain ⟨range, rest, rfl, hrange, hrest⟩ := Json.eq_cons_of_sameFields hfields
  obtain ⟨bounds, rfl, hbounds⟩ := Json.eq_of_same_object hrange
  obtain ⟨bound, more, rfl, hbound, hmore⟩ := Json.eq_cons_of_sameFields hbounds
  obtain ⟨timestamp, others, rfl, htimestamp, hothers⟩ := Json.eq_cons_of_sameFields hrest
  rw [Json.eq_of_same_string hbound, Json.eq_nil_of_sameFields hmore,
    Json.eq_of_same_string htimestamp, Json.eq_nil_of_sameFields hothers]
  rfl

namespace Collection

variable {collection : Collection}

theorem filterProperties_none (h : ∀ rule ∈ collection.rules, rule.filterProperties = []) :
    collection.filterProperties = none := by
  have hnil : collection.rules.flatMap Rule.filterProperties = [] :=
    List.flatMap_eq_nil_iff.mpr h
  rw [filterProperties, hnil]
  rfl

/-- Without a lookback filter a rule without a filter asks for everything. -/
theorem filter?_none (h : ∃ rule ∈ collection.rules, rule.contentFilter = none) :
    collection.filter? none = none := by
  have hne : collection.rules.isEmpty = false :=
    List.isEmpty_eq_false_iff_exists_mem.mpr (h.imp fun _ hr => hr.1)
  have hneeds : ∃ rule ∈ collection.rules, rule.effectiveFilter? none = none :=
    h.imp fun rule hr => ⟨hr.1, by rw [Rule.effectiveFilter?, hr.2]; rfl⟩
  rw [filter?, hne, if_neg Bool.false_ne_true, filters?_eq_none_iff.mpr hneeds]
  rfl

/-- The lookback filter is among the filters if a rule falls back to it. -/
theorem since_mem_filters? {t : Instant} {rules : List Rule}
    (h : ∃ rule ∈ rules, rule.contentFilter = none) :
    ∃ all, filters? (some (Lookback.since t)) rules = some all ∧ Lookback.since t ∈ all := by
  cases hall : filters? (some (Lookback.since t)) rules with
  | none =>
    obtain ⟨rule, -, hnone⟩ := filters?_eq_none_iff.mp hall
    rw [Rule.effectiveFilter?] at hnone
    cases hf : rule.contentFilter <;> rw [hf] at hnone <;> cases hnone
  | some all =>
    obtain ⟨rule, hr, hnone⟩ := h
    obtain ⟨filter, heffective, other, ho, hsame⟩ := (combines_filters? hall).covered hr
    rw [Rule.effectiveFilter?, hnone] at heffective
    obtain rfl := Option.some.inj heffective
    exact ⟨all, rfl, Lookback.eq_of_same hsame ▸ ho⟩

end Collection

namespace Remote

variable {ε : Type} (remote : Remote ε) (padding : Int)

/-- The store has moved on. A key has its old record, or one that was changed in between. -/
structure Moves (e e' : ε) : Prop where
  time : remote.time e ≤ remote.time e'
  current (collection key : String) :
    remote.current e' collection key = remote.current e collection key ∨
      ∃ entry t, remote.current e' collection key = some entry ∧
        remote.time e ≤ t ∧ t ≤ remote.time e' ∧ t - padding ≤ entry.stamp ∧ entry.stamp ≤ t

/-- What a filter matches: the lookback filter the records stamped since its instant, a list of
filters what any of them matches, and content filters what the store says. -/
inductive Matches (entry : Entry) : Json → Prop where
  | content {filter : Json} (h : remote.content filter entry.record) : Matches entry filter
  | since (t : Instant) (h : t.nanoseconds ≤ entry.stamp) : Matches entry (Lookback.since t)
  | any {filters : List Json} {filter : Json} (hf : filter ∈ filters) (h : Matches entry filter) :
    Matches entry (.object [("or", .array filters)])

/-- What a query with a filter, or without one, asks for. -/
def Covers (entry : Entry) : Option Json → Prop
  | none => True
  | some filter => remote.Matches entry filter

/-- An environment whose record store is the remote one. The clock tells the time of the store; each
record is kept under its key; and a query for all properties is answered at one moment. -/
structure Law (env : Environment ε) : Prop where
  step {e e' : ε} (h : env.Step e e') : remote.Moves padding e e'
  clock (e : ε) : remote.time e ≤ (env.now e).1.instant.nanoseconds ∧
    (env.now e).1.instant.nanoseconds ≤ remote.time (env.now e).2
  key {e : ε} {collection key : String} {entry : Entry}
    (h : remote.current e collection key = some entry) : entry.record.key = key
  answer {e : ε} {collection : String} {filter : Option Json} {latest : List Record}
    (h : (env.query collection none filter e).1 = .ok latest) :
    ∃ moment, remote.Moves padding e moment ∧
      remote.Moves padding moment (env.query collection none filter e).2 ∧
      ∀ record, record ∈ latest ↔ ∃ entry,
        remote.current moment collection record.key = some entry ∧ entry.record = record ∧
          remote.Covers entry filter

variable {remote padding}

theorem Moves.refl (e : ε) : remote.Moves padding e e := ⟨Int.le_refl _, fun _ _ => .inl rfl⟩

theorem Moves.trans {e e' e'' : ε} (h : remote.Moves padding e e')
    (h' : remote.Moves padding e' e'') : remote.Moves padding e e'' := by
  refine ⟨Int.le_trans h.time h'.time, fun collection key => ?_⟩
  rcases h'.current collection key with hsame | ⟨entry, t, he, hlow, hhigh, hstamp⟩
  · rcases h.current collection key with hsame' | ⟨entry, t, he, hlow, hhigh, hstamp⟩
    · exact .inl (hsame.trans hsame')
    · exact .inr ⟨entry, t, hsame.trans he, hlow, Int.le_trans hhigh h'.time, hstamp⟩
  · exact .inr ⟨entry, t, he, Int.le_trans h.time hlow, hhigh, hstamp⟩

/-- Nothing is deleted. -/
theorem Moves.exists_current {e e' : ε} (h : remote.Moves padding e e') {collection key : String}
    {entry : Entry} (he : remote.current e collection key = some entry) :
    ∃ entry, remote.current e' collection key = some entry := by
  rcases h.current collection key with hsame | ⟨changed, t, hchanged, -⟩
  · exact ⟨entry, hsame.trans he⟩
  · exact ⟨changed, hchanged⟩

theorem Law.moves {env : Environment ε} (hlaw : remote.Law padding env) {e e' : ε}
    (h : env.Reaches e e') : remote.Moves padding e e' := by
  induction h with
  | refl => exact .refl e
  | tail _ hstep ih => exact ih.trans (hlaw.step hstep)

/-- A collection with a rule without a filter asks for every record stamped since the lookback. -/
theorem covers_filter? {collection : Collection}
    (h : ∃ rule ∈ collection.rules, rule.contentFilter = none) {t : Instant} {entry : Entry}
    (ht : t.nanoseconds ≤ entry.stamp) :
    remote.Covers entry (collection.filter? (some (Lookback.since t))) := by
  have hne : collection.rules.isEmpty = false :=
    List.isEmpty_eq_false_iff_exists_mem.mpr (h.imp fun _ hr => hr.1)
  obtain ⟨all, hall, hmem⟩ := @Collection.since_mem_filters? t _ h
  rw [Collection.filter?, hne, if_neg Bool.false_ne_true, hall]
  match all, hmem with
  | [filter], hmem =>
    rw [← List.mem_singleton.mp hmem]
    exact .since t ht
  | first :: second :: rest, hmem => exact .any hmem (.since t ht)

/-! ### What is stored of a collection -/

variable (remote padding)

/-- The stored records are the remote ones. -/
def Mirrors (collection : String) (stored : List Record) (e : ε) : Prop :=
  ∀ key, Delta.find? stored key = (remote.current e collection key).map Entry.record

/-- Only records that were changed since an instant may differ from the stored ones. -/
structure Fresh (collection : String) (since : Int) (stored : List Record) (e : ε) : Prop where
  past : since ≤ remote.time e
  kept {key : String} {entry : Entry} (h : remote.current e collection key = some entry) :
    Delta.find? stored key = some entry.record ∨ since - padding ≤ entry.stamp
  known {key : String} {record : Record} (h : Delta.find? stored key = some record) :
    ∃ entry, remote.current e collection key = some entry

variable {remote padding} {collection : String} {since : Int} {stored latest : List Record}
  {e e' : ε}

theorem Fresh.moves (h : remote.Fresh padding collection since stored e)
    (hm : remote.Moves padding e e') : remote.Fresh padding collection since stored e' := by
  refine ⟨Int.le_trans h.past hm.time, fun {key entry} he => ?_, fun {key record} hk => ?_⟩
  · -- What changed on the way changed after `since`, so its stamp lags by the padding at most.
    rcases hm.current collection key with hsame | ⟨changed, t, hchanged, hlow, -, hstamp, -⟩
    · exact h.kept (hsame ▸ he)
    · rw [hchanged] at he
      cases he
      have := h.past
      exact .inr (by omega)
  · obtain ⟨entry, he⟩ := h.known hk
    exact hm.exists_current he

/-- What mirrors the collection is fresh since any instant before. -/
theorem Mirrors.fresh (h : remote.Mirrors collection stored e) (hle : since ≤ remote.time e) :
    remote.Fresh padding collection since stored e := by
  refine ⟨hle, fun {key entry} he => .inl ?_, fun {key record} hk => ?_⟩
  · rw [h key, he]
    rfl
  · rw [h key] at hk
    obtain ⟨entry, he, -⟩ := Option.map_eq_some_iff.mp hk
    exact ⟨entry, he⟩

/-- If every record is stored as it is or asked for, the overlay with the answer mirrors the
collection. -/
theorem mirrors_overlay {filter : Option Json}
    (hkey : ∀ {key entry}, remote.current e collection key = some entry → entry.record.key = key)
    (ha : ∀ record, record ∈ latest ↔ ∃ entry,
      remote.current e collection record.key = some entry ∧ entry.record = record ∧
        remote.Covers entry filter)
    (hknown : ∀ {key record}, Delta.find? stored key = some record →
      ∃ entry, remote.current e collection key = some entry)
    (hkept : ∀ {key entry}, remote.current e collection key = some entry →
      Delta.find? stored key = some entry.record ∨ remote.Covers entry filter) :
    remote.Mirrors collection (Snapshot.overlay stored latest) e := by
  intro key
  rw [Snapshot.find?_overlay]
  cases hl : Delta.find? latest key with
  | some record =>
    obtain ⟨hmem, rfl⟩ := Delta.find?_some hl
    obtain ⟨entry, he, rfl, -⟩ := (ha record).mp hmem
    rw [he]
    rfl
  | none =>
    rw [Option.none_or]
    cases he : remote.current e collection key with
    | none =>
      cases hs : Delta.find? stored key with
      | none => rfl
      | some record =>
        obtain ⟨entry, hentry⟩ := hknown hs
        rw [he] at hentry
        cases hentry
    | some entry =>
      rcases hkept he with hs | hcovers
      · exact hs
      · have hentry : entry.record.key = key := hkey he
        have hmem : entry.record ∈ latest :=
          (ha entry.record).mpr ⟨entry, hentry ▸ he, rfl, hcovers⟩
        have hnot := Delta.find?_eq_none.mp hl
        exact absurd (List.mem_map.mpr ⟨entry.record, hmem, hentry⟩) hnot

end Remote

end RecordWatch
