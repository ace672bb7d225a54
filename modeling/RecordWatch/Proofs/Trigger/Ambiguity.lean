import RecordWatch.Evaluation
import RecordWatch.Proofs.Fields
import RecordWatch.Trigger.Reader

/-! Nodes whose keys are those of no production. The reader looks for `and`, `or` and `created` in
this order and reads the first that it finds as if it were all of the node; only a node without
them has to account for each of its keys. So an ambiguous node is refused exactly if it has none of
the three, or if the first of them is a group that cannot be read. -/

namespace RecordWatch.Trigger

/-! ### The grammar of nodes -/

/-- A production of the grammar of trigger nodes. -/
inductive Production where
  | and
  | or
  | created
  | property (kind : Kind)

/-- The keys of a node of a production. -/
def Production.keys : Production → List String
  | .and => ["and"]
  | .or => ["or"]
  | .created => ["created"]
  | .property kind => ["property", kind.name]

/-- Whether the keys of a node are those of a production. -/
def Produced (fields : Fields Json) : Prop :=
  ∃ production : Production, ∀ key, key ∈ Fields.names fields ↔ key ∈ production.keys

/-- The keys that decide what a node is, in the order in which they are looked for. -/
def heads : List String := ["and", "or", "created"]

/-- The entry that decides what a node is. -/
def head? (fields : Fields Json) : Option (String × Json) :=
  heads.findSome? fun key => (Fields.get? fields key).map (key, ·)

/-- A deciding entry that is a group, but no array with a node in it. -/
def Malformed (head : String × Json) : Prop :=
  head.1 ≠ "created" ∧ ∀ item rest, head.2 ≠ .array (item :: rest)

/-- The values that stand in a trigger where a node is expected: the whole, and what is listed
under the group that decides such a node. -/
inductive Stands (raw : Json) : Json → Prop
  | root : Stands raw raw
  | child {fields : Fields Json} {key : String} {items : List Json} {item : Json}
      (parent : Stands raw (.object fields)) (group : head? fields = some (key, .array items))
      (listed : key ≠ "created") (member : item ∈ items) : Stands raw item

/-- A node that is invalid, is counted among the problems of the trigger, and is logged and does
not hold whatever has changed. -/
def Refused (raw node : Json) : Prop :=
  ∃ problem, ofJson node = .invalid problem ∧ problem ∈ (ofJson raw).problems ∧
    ∀ {m : Type → Type} [Monad m] (context : Context m) (record : String) (change : ChangeSet),
      (ofJson node).fires context record change = do
        context.log (.invalidNode record problem.message)
        return false

/-! ### What is read -/

theorem group?_eq (key : String) (fields : Fields Json) :
    group? key fields = (Fields.get? fields key).map (childrenOf key) := by
  induction fields with
  | nil => rfl
  | cons field rest ih =>
    obtain ⟨name, value⟩ := field
    rw [group?, Fields.get?_cons]
    split
    · rfl
    · exact ih

/-- The node that a deciding entry makes. -/
def ofHead : String × Json → Trigger
  | (key, value) =>
    if key = "created" then .created
    else
      match childrenOf key value with
      | .ok children => if key = "and" then .and children else .or children
      | .error problem => .invalid problem

theorem head?_eq_none {fields : Fields Json} (h : head? fields = none) :
    ∀ key ∈ heads, Fields.get? fields key = none := by
  intro key hk
  have hnone := List.findSome?_eq_none_iff.mp h key hk
  rwa [Option.map_eq_none_iff] at hnone

theorem head?_eq_some {fields : Fields Json} {head : String × Json}
    (h : head? fields = some head) :
    head.1 ∈ heads ∧ Fields.get? fields head.1 = some head.2 := by
  obtain ⟨key, hk, hhead⟩ := List.exists_of_findSome?_eq_some h
  obtain ⟨value, hv, rfl⟩ := Option.map_eq_some_iff.mp hhead
  exact ⟨hk, hv⟩

/-- The deciding entry decides, whatever stands beside it. -/
theorem ofJson_of_head {fields : Fields Json} {head : String × Json}
    (h : head? fields = some head) : ofJson (.object fields) = ofHead head := by
  rw [ofJson, group?_eq, group?_eq]
  cases ha : Fields.get? fields "and" with
  | some value =>
    obtain rfl : ("and", value) = head := by simpa [head?, heads, ha] using h
    cases hc : childrenOf "and" value <;> simp [ofHead, hc]
  | none =>
    cases ho : Fields.get? fields "or" with
    | some value =>
      obtain rfl : ("or", value) = head := by simpa [head?, heads, ha, ho] using h
      cases hc : childrenOf "or" value <;> simp [ofHead, hc]
    | none =>
      cases hc : Fields.get? fields "created" with
      | some value =>
        obtain rfl : ("created", value) = head := by simpa [head?, heads, ha, ho, hc] using h
        simp [ofHead, leaf, hc]
      | none => simp [head?, heads, ha, ho, hc] at h

/-- The deciding entry of a node is the one of the node that has no other. -/
theorem head?_singleton {fields : Fields Json} {head : String × Json}
    (h : head? fields = some head) : head? [head] = some head := by
  obtain ⟨key, value⟩ := head
  have hk : key ∈ heads := (head?_eq_some h).1
  simp only [heads, List.mem_cons, List.not_mem_nil, or_false] at hk
  rcases hk with rfl | rfl | rfl <;> rfl

theorem ofJson_of_no_head {fields : Fields Json} (h : head? fields = none) :
    ofJson (.object fields) = leaf fields := by
  have hnone := head?_eq_none h
  rw [ofJson, group?_eq, group?_eq, hnone "and" (by decide), hnone "or" (by decide)]
  rfl

/-- A property is read only from a node that has the keys of a property, and no other. -/
theorem produced_of_conditionOf {fields : Fields Json} {condition : Condition}
    (hp : "property" ∈ Fields.names fields) (h : conditionOf fields = .ok condition) :
    Produced fields := by
  rw [conditionOf] at h
  split at h
  · next name raw hentries =>
    split at h
    · next kind hkind =>
      have hname : kind.name = name := by simpa using List.find?_some hkind
      refine ⟨.property kind, fun key => ?_⟩
      have hrest : key ∈ Fields.names fields ∧ key ≠ "property" ↔ key = name := by
        rw [← List.mem_singleton, ← List.map_singleton (f := Prod.fst) (a := (name, raw)),
          ← hentries]
        simp [Fields.names]
      rw [Production.keys, List.mem_cons, List.mem_singleton, hname]
      refine ⟨fun hk => ?_, ?_⟩
      · by_cases he : key = "property"
        · exact .inl he
        · exact .inr (hrest.mp ⟨hk, he⟩)
      · rintro (rfl | hk)
        · exact hp
        · exact (hrest.mpr hk).1
    · cases h
  · cases h
  · cases h

/-- A node that nothing decides is invalid unless its keys are those of a property. -/
theorem invalid_of_no_head {fields : Fields Json} (h : head? fields = none)
    (ha : ¬Produced fields) : ∃ problem, ofJson (.object fields) = .invalid problem := by
  rw [ofJson_of_no_head h, leaf, head?_eq_none h "created" (by decide)]
  cases hp : Fields.get? fields "property" with
  | none => exact ⟨_, rfl⟩
  | some value =>
    have hmem : "property" ∈ Fields.names fields :=
      List.mem_map.mpr ⟨_, Fields.get?_eq_some_mem hp, rfl⟩
    cases value with
    | string name =>
      cases hc : conditionOf fields with
      | ok condition => exact absurd (produced_of_conditionOf hmem hc) ha
      | error problem => exact ⟨.condition name problem, by simp⟩
    | _ => exact ⟨_, rfl⟩

/-- What an entry decides is invalid if it is a group that cannot be read, and only then. -/
theorem ofHead_invalid_iff (head : String × Json) :
    (∃ problem, ofHead head = .invalid problem) ↔ Malformed head := by
  obtain ⟨key, value⟩ := head
  by_cases hk : key = "created"
  · simp [ofHead, Malformed, hk]
  · cases value with
    | array items =>
      cases items with
      | nil => simp [ofHead, Malformed, childrenOf, hk]
      | cons item rest => by_cases ha : key = "and" <;> simp [ofHead, Malformed, childrenOf, hk, ha]
    | _ => simp [ofHead, Malformed, childrenOf, hk]

/-! ### What is wrong with the whole -/

theorem ofItems_eq (items : List Json) : ofItems items = items.map ofJson := by
  induction items with
  | nil => rfl
  | cons item rest ih => rw [ofItems, ih, List.map_cons]

theorem mem_problemsOf {children : List Trigger} {problem : TriggerProblem} :
    problem ∈ problemsOf children ↔ ∃ child ∈ children, problem ∈ child.problems := by
  induction children with
  | nil => simp [problemsOf]
  | cons child rest ih => simp [problemsOf, ih]

/-- What is wrong with a listed node is wrong with the group. -/
theorem mem_problems_ofHead {key : String} {items : List Json} {item : Json}
    {problem : TriggerProblem} (hk : key ≠ "created") (hi : item ∈ items)
    (hp : problem ∈ (ofJson item).problems) :
    problem ∈ (ofHead (key, .array items)).problems := by
  obtain ⟨first, rest, rfl⟩ := List.exists_cons_of_ne_nil (List.ne_nil_of_mem hi)
  have hmem : problem ∈ problemsOf ((first :: rest).map ofJson) :=
    mem_problemsOf.mpr ⟨_, List.mem_map_of_mem hi, hp⟩
  rw [List.map_cons, ← ofItems_eq] at hmem
  by_cases ha : key = "and" <;> simpa [ofHead, hk, ha, childrenOf, problems] using hmem

/-- What is wrong with a node of a trigger is wrong with the trigger. -/
theorem Stands.mem_problems {raw node : Json} (h : Stands raw node) {problem : TriggerProblem}
    (hp : problem ∈ (ofJson node).problems) : problem ∈ (ofJson raw).problems := by
  induction h with
  | root => exact hp
  | child parent group listed member ih =>
    refine ih ?_
    rw [ofJson_of_head group]
    exact mem_problems_ofHead listed member hp

/-- An invalid node of a trigger is refused. -/
theorem Stands.refused_iff {raw node : Json} (h : Stands raw node) :
    Refused raw node ↔ ∃ problem, ofJson node = .invalid problem := by
  refine ⟨fun ⟨problem, hp, _⟩ => ⟨problem, hp⟩, ?_⟩
  rintro ⟨problem, hp⟩
  refine ⟨problem, hp, h.mem_problems ?_, fun context record change => ?_⟩
  · rw [hp]
    exact List.mem_singleton_self problem
  · rw [hp, Trigger.fires]

/-- A node of a trigger whose keys are those of no production is refused unless an entry under
`and`, `or` or `created` decides it that can be read; such a node is read as if it had no other
entry. -/
theorem refused_iff_of_ambiguous {raw : Json} {fields : Fields Json}
    (hs : Stands raw (.object fields)) (ha : ¬Produced fields) :
    (Refused raw (.object fields) ↔ ∀ head, head? fields = some head → Malformed head) ∧
      ∀ head, head? fields = some head → ofJson (.object fields) = ofJson (.object [head]) := by
  refine ⟨hs.refused_iff.trans ?_, fun head hh => ?_⟩
  · cases hh : head? fields with
    | none => exact iff_of_true (invalid_of_no_head hh ha) fun head h => by cases h
    | some head =>
      rw [ofJson_of_head hh, ofHead_invalid_iff]
      exact ⟨fun hm other heq => Option.some.inj heq ▸ hm, fun hm => hm head rfl⟩
  · rw [ofJson_of_head hh, ofJson_of_head (head?_singleton hh)]

/-- A property with a condition for each of two kinds. -/
def twofold : Fields Json :=
  [("property", .string "Status"), ("select", .object [("equals", .string "Done")]),
    ("status", .object [("equals", .string "Done")])]

/-- A property beside `created`. -/
def hasty : Fields Json :=
  [("created", .object []), ("property", .string "Status"),
    ("select", .object [("equals", .string "Done")])]

/-- A production has one key at most beside `property`. -/
theorem not_produced {fields : Fields Json} (first second : String)
    (hf : first ∈ Fields.names fields) (hs : second ∈ Fields.names fields)
    (hne : first ≠ second) (hfp : first ≠ "property") (hsp : second ≠ "property") :
    ¬Produced fields := by
  rintro ⟨production, hkeys⟩
  have hfirst := (hkeys first).mp hf
  have hsecond := (hkeys second).mp hs
  cases production <;> simp_all [Production.keys]

theorem not_produced_twofold : ¬Produced twofold :=
  not_produced "select" "status" (by decide) (by decide) (by decide) (by decide) (by decide)

theorem not_produced_hasty : ¬Produced hasty :=
  not_produced "created" "select" (by decide) (by decide) (by decide) (by decide) (by decide)

/-- Of two ambiguous nodes in a group the one with two conditions is refused; the other one holds
of every new record. -/
theorem refused_twofold :
    Refused (.object [("or", .array [.object twofold, .object hasty])]) (.object twofold) ∧
      ¬Refused (.object [("or", .array [.object twofold, .object hasty])]) (.object hasty) ∧
      ∀ (context : Context Id) (record page : String),
        (ofJson (.object hasty)).fires context record (.newPage page) = true := by
  refine ⟨?_, fun hr => ?_, fun context record page => rfl⟩
  · have hs : Stands (.object [("or", .array [.object twofold, .object hasty])])
        (.object twofold) := .child .root rfl (by decide) (by simp)
    exact (refused_iff_of_ambiguous hs not_produced_twofold).1.mpr fun head hh => by cases hh
  · have hs : Stands (.object [("or", .array [.object twofold, .object hasty])])
        (.object hasty) := .child .root rfl (by decide) (by simp)
    have hm : Malformed ("created", .object []) :=
      (refused_iff_of_ambiguous hs not_produced_hasty).1.mp hr _ rfl
    exact hm.1 rfl

end RecordWatch.Trigger
