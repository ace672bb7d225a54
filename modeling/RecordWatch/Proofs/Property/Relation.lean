import RecordWatch.Comparable
import RecordWatch.Property.Decode
import RecordWatch.Proofs.Json.Bare

/-! Relations in raw values. Which records a value relates to, whether it says that there are more,
and the id to look them up by are the same in values that differ only in numbers; so the lists of
two such values differ only by the answers to lookups. -/

namespace RecordWatch

/-! ### Reading a relation -/

theorem Kind.name_of_ofName? {name : String} {kind : Kind} (h : ofName? name = some kind) :
    kind.name = name := by
  rw [ofName?] at h
  have hname := List.find?_some h
  exact beq_iff_eq.mp hname

namespace Payload

theorem split_eq_ok {raw payload : Json} {tag : String} :
    split raw = .ok (tag, payload) ↔
      (raw.field? "type").bind Json.string? = some tag ∧ raw.field? tag = some payload := by
  cases raw with
  | object fields =>
    rw [split, Json.field?, Json.field?]
    cases ht : (Fields.get? fields "type").bind Json.string? with
    | none => exact iff_of_false (fun h => by cases h) fun h => by cases h.1
    | some name =>
      dsimp only
      cases hp : Fields.get? fields name with
      | none =>
        refine iff_of_false (fun h => by cases h) ?_
        rintro ⟨hname, hpayload⟩
        cases hname
        rw [hp] at hpayload
        cases hpayload
      | some value =>
        constructor
        · intro h
          cases h
          exact ⟨rfl, hp⟩
        · rintro ⟨hname, hpayload⟩
          cases hname
          cases hp.symm.trans hpayload
          rfl
  | _ => exact iff_of_false (fun h => by cases h) fun h => by cases h.1

theorem required_eq_ok {α β : Type} {tag : String} {value : Option α} {f : α → β} {b : β} :
    required tag (value.map f) = .ok b ↔ ∃ a, value = some a ∧ f a = b := by
  cases value with
  | none =>
    refine iff_of_false (fun h => by cases h) ?_
    rintro ⟨_, h, -⟩
    cases h
  | some a =>
    constructor
    · intro h
      exact ⟨a, rfl, Except.ok.inj h⟩
    · rintro ⟨a', h, rfl⟩
      cases h
      rfl

theorem decode_eq_relation {raw : Json} {ids : List String} {more : Bool} :
    decode raw = .ok (.relation ids more) ↔
      (raw.field? "type").bind Json.string? = some "relation" ∧
        (raw.field? "relation").bind (Json.list? reference?) = some ids ∧ hasMore raw = more := by
  constructor
  · intro h
    cases hs : split raw with
    | error error =>
      rw [decode, hs] at h
      cases h
    | ok parts =>
      obtain ⟨tag, payload⟩ := parts
      obtain ⟨htag, hpayload⟩ := split_eq_ok.mp hs
      cases hk : Kind.ofName? tag with
      | none =>
        simp only [decode, hs, hk, bind, Except.bind] at h
        cases h
      | some kind =>
        have hname := Kind.name_of_ofName? hk
        -- A payload of any other kind is no relation.
        cases kind with
        | relation =>
          subst hname
          simp only [decode, hs, hk, bind, Except.bind] at h
          obtain ⟨ids', hids, heq⟩ := required_eq_ok.mp h
          cases heq
          exact ⟨htag, Option.bind_eq_some_iff.mpr ⟨payload, hpayload, hids⟩, rfl⟩
        | formula =>
          simp only [decode, hs, hk, bind, Except.bind] at h
          cases hf : formulaOf payload <;> rw [hf] at h <;> cases h
        | rollup =>
          simp only [decode, hs, hk, bind, Except.bind] at h
          cases hr : rollupOf payload <;> rw [hr] at h <;> cases h
        | _ =>
          simp only [decode, hs, hk, bind, Except.bind] at h
          obtain ⟨_, -, heq⟩ := required_eq_ok.mp h
          cases heq
  · rintro ⟨htype, hids, hmore⟩
    obtain ⟨payload, hpayload, hids⟩ := Option.bind_eq_some_iff.mp hids
    rw [decode, split_eq_ok.mpr ⟨htype, hpayload⟩]
    exact required_eq_ok.mpr ⟨ids, hids, by rw [hmore]⟩

end Payload

theorem Property.decode_eq_ok {raw : Json} {id : Option String} {payload : Payload} :
    decode raw = .ok ⟨id, payload⟩ ↔
      (raw.field? "id").bind Json.string? = id ∧ Payload.decode raw = .ok payload := by
  rw [decode]
  cases Payload.decode raw with
  | error error => exact iff_of_false (fun h => by cases h) fun h => by cases h.2
  | ok payload =>
    constructor
    · intro h
      cases h
      exact ⟨rfl, rfl⟩
    · rintro ⟨rfl, h⟩
      cases h
      rfl

/-! ### Values that differ only in numbers -/

namespace Json

theorem field?_bare (name : String) (value : Json) :
    value.bare.field? name = (value.field? name).map bare := by
  cases value with
  | object fields =>
    show Fields.get? (bareFields fields) name = (Fields.get? fields name).map bare
    induction fields with
    | nil => rfl
    | cons field rest ih =>
      obtain ⟨key, item⟩ := field
      rw [bareFields, Fields.get?_cons, Fields.get?_cons, ih]
      split <;> rfl
  | _ => rfl

theorem string?_bare (value : Json) : value.bare.string? = value.string? := by
  cases value <;> rfl

theorem bool?_bare (value : Json) : value.bare.bool? = value.bool? := by
  cases value <;> rfl

theorem field?_bind_bare {α : Type} {read : Json → Option α}
    (h : ∀ value : Json, read value.bare = read value) (name : String) (value : Json) :
    (value.bare.field? name).bind read = (value.field? name).bind read := by
  rw [field?_bare]
  cases value.field? name with
  | none => rfl
  | some item => exact h item

theorem reference?_object (fields : Fields Json) :
    Payload.reference? (.object fields) = ((Json.object fields).field? "id").bind string? := by
  rw [Payload.reference?, members?, List.map_singleton, field?]
  cases Fields.get? fields "id" <;> rfl

theorem reference?_bare (value : Json) :
    Payload.reference? value.bare = Payload.reference? value := by
  cases value with
  | object fields =>
    rw [bare, reference?_object, reference?_object, ← bare, field?_bind_bare string?_bare]
  | array items =>
    match items with
    | [] => rfl
    | [item] => exact string?_bare item
    | _ :: _ :: _ => rfl
  | _ => rfl

theorem list?_bare {α : Type} {read : Json → Option α}
    (h : ∀ value : Json, read value.bare = read value) (value : Json) :
    value.bare.list? read = value.list? read := by
  cases value with
  | array items =>
    show (bareItems items).mapM read = items.mapM read
    induction items with
    | nil => rfl
    | cons item rest ih => rw [bareItems, List.mapM_cons, List.mapM_cons, h, ih]
  | _ => rfl

end Json

theorem Property.decode_relation_bare {raw : Json} {id : Option String} {ids : List String}
    {more : Bool} :
    decode raw.bare = .ok ⟨id, .relation ids more⟩ ↔ decode raw = .ok ⟨id, .relation ids more⟩ := by
  simp only [decode_eq_ok, Payload.decode_eq_relation, Payload.hasMore,
    Json.field?_bind_bare Json.string?_bare, Json.field?_bind_bare Json.bool?_bare,
    Json.field?_bind_bare (Json.list?_bare Json.reference?_bare)]

/-! ### The list of a relation -/

/-- With these answers to lookups, the raw value is a relation to the records of these ids. -/
def Json.LinksTo (raw : Json) (lookup : String → Except ApiError (List Json))
    (ids : List String) : Prop :=
  ∃ id shown more, Property.decode raw = .ok ⟨id, .relation shown more⟩ ∧
    Property.comparable (m := Id) lookup ⟨id, .relation shown more⟩ = .ok (.list ids)

/-- The raw value is a relation that shows these ids and says that there are more, to be looked up
by this id. -/
def Json.CutShort (raw : Json) (id : String) (shown : List String) : Prop :=
  Property.decode raw = .ok ⟨some id, .relation shown true⟩

/-- Relations with different lists, in values that differ only in numbers, are cut short and show
the same; what is looked up differs. -/
theorem Json.LinksTo.cutShort {raw raw' : Json}
    {lookup lookup' : String → Except ApiError (List Json)} {ids ids' : List String}
    (h : raw.LinksTo lookup ids) (h' : raw'.LinksTo lookup' ids')
    (hb : raw.bare = raw'.bare) (hne : ids ≠ ids') :
    ∃ id shown, raw.CutShort id shown ∧ raw'.CutShort id shown ∧ lookup id ≠ lookup' id := by
  obtain ⟨id, shown, more, hdecode, hlist⟩ := h
  obtain ⟨id', shown', more', hdecode', hlist'⟩ := h'
  have hsame := hdecode
  rw [← Property.decode_relation_bare, hb, Property.decode_relation_bare, hdecode'] at hsame
  cases hsame
  cases more with
  | false =>
    cases hlist
    cases hlist'
    exact absurd rfl hne
  | true =>
    cases id with
    | none => cases hlist
    | some id =>
      refine ⟨id, shown, hdecode, hdecode', fun hlookup => hne ?_⟩
      rw [Property.comparable] at hlist hlist'
      dsimp only at hlist hlist'
      rw [hlookup, hlist'] at hlist
      cases hlist
      rfl

end RecordWatch
