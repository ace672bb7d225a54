import RecordWatch.Proofs.Property.Relation

/-! Encoded properties. In the format of the record store a property is an object whose `type` names
the field of its payload, and so are a formula, a rollup and a file inside. An encoding may have any
fields that the format does not define, in every object. What is encoded is what is decoded, and
what is decoded has the kind that `type` names. -/

namespace RecordWatch

/-! ### Raw forms -/

namespace Json

variable {α : Type} {Encodes : Json → α → Prop} {read : Json → Option α}

/-- A string. -/
def Text (raw : Json) (text : String) : Prop := raw = .string text

/-- A truth value. -/
def Truth (raw : Json) (value : Bool) : Prop := raw = .bool value

/-- A number whose nearest double is the value. -/
inductive Numeral : Json → Double → Prop where
  | number (n : Number) : Numeral (.number n) n.toDouble

/-- A value that may be null. -/
inductive Nullable (Encodes : Json → α → Prop) : Json → Option α → Prop where
  | null : Nullable Encodes .null none
  | value {raw : Json} {a : α} (h : Encodes raw a) : Nullable Encodes raw (some a)

/-- A member that may be null or absent. -/
inductive Omissible (Encodes : Json → α → Prop) : Option Json → Option α → Prop where
  | absent : Omissible Encodes none none
  | present {raw : Json} {a : Option α} (h : Nullable Encodes raw a) :
    Omissible Encodes (some raw) a

/-- An array, item by item. -/
inductive Listed (Encodes : Json → α → Prop) : Json → List α → Prop where
  | array {items : List Json} {values : List α} (h : List.Forall₂ Encodes items values) :
    Listed Encodes (.array items) values

/-- An object with a string under a name. -/
inductive Naming (name : String) : Json → String → Prop where
  | object {fields : Fields Json} {text : String}
    (h : Fields.get? fields name = some (.string text)) : Naming name (.object fields) text

/-- The raw value has the payload under the tag that its `type` names. -/
structure Names (raw : Json) (tag : String) (payload : Json) : Prop where
  type : raw.field? "type" = some (.string tag)
  payload : raw.field? tag = some payload

/-- The raw value has nothing under the tag that its `type` names. -/
structure Lacks (raw : Json) (tag : String) : Prop where
  type : raw.field? "type" = some (.string tag)
  payload : raw.field? tag = none

/-- The raw value has such a payload under the tag that its `type` names. -/
def Tagged (tag : String) (P : Json → Prop) (raw : Json) : Prop :=
  ∃ payload, raw.Names tag payload ∧ P payload

/-- What is encoded is read, and it is not null. -/
def Reads (Encodes : Json → α → Prop) (read : Json → Option α) : Prop :=
  ∀ ⦃raw a⦄, Encodes raw a → raw ≠ .null ∧ read raw = some a

theorem reads_text : Reads Text string? := by
  rintro raw text rfl
  exact ⟨by simp, rfl⟩

theorem reads_truth : Reads Truth bool? := by
  rintro raw value rfl
  exact ⟨by simp, rfl⟩

theorem reads_numeral : Reads Numeral double? := by
  rintro raw x ⟨n⟩
  exact ⟨by simp, rfl⟩

theorem Reads.nullable (h : Reads Encodes read) {raw : Json} {a : Option α}
    (hraw : Nullable Encodes raw a) : raw.nullable? read = some a := by
  cases hraw with
  | null => rfl
  | value hraw =>
    obtain ⟨hnull, hread⟩ := h hraw
    cases raw with
    | null => exact absurd rfl hnull
    | _ => rw [nullable?, hread, Option.map_some]; exact fun heq => hnull heq

theorem Reads.omissible (h : Reads Encodes read) {raw : Option Json} {a : Option α}
    (hraw : Omissible Encodes raw a) : optional? read raw = some a := by
  cases hraw with
  | absent => rfl
  | present hraw => exact h.nullable hraw

theorem Reads.listed (h : Reads Encodes read) {raw : Json} {values : List α}
    (hraw : Listed Encodes raw values) : raw.list? read = some values := by
  cases hraw with
  | array hitems => exact mapM_eq_some_iff.mpr (hitems.imp fun _ _ hitem => (h hitem).2)

theorem Naming.members? {name : String} {raw : Json} {text : String} (h : Naming name raw text) :
    raw ≠ .null ∧ raw.members? [⟨name, false⟩] = some [some (.string text)] := by
  obtain ⟨h⟩ := h
  refine ⟨by simp, ?_⟩
  rw [Json.members?, List.map_singleton, h]

theorem names_of_split {raw payload : Json} {tag : String}
    (h : Payload.split raw = .ok (tag, payload)) : raw.Names tag payload := by
  obtain ⟨htype, hpayload⟩ := Payload.split_eq_ok.mp h
  obtain ⟨value, hvalue, hstring⟩ := Option.bind_eq_some_iff.mp htype
  cases value with
  | string text =>
    cases hstring
    exact ⟨hvalue, hpayload⟩
  | _ => cases hstring

theorem Names.split {raw payload : Json} {tag : String} (h : raw.Names tag payload) :
    Payload.split raw = .ok (tag, payload) := by
  refine Payload.split_eq_ok.mpr ⟨?_, h.payload⟩
  rw [h.type]
  rfl

theorem Lacks.split {raw : Json} {tag : String} (h : raw.Lacks tag) :
    Payload.split raw = .error (.missingPayload tag) := by
  obtain ⟨htype, hpayload⟩ := h
  cases raw with
  | object fields =>
    rw [field?] at htype hpayload
    rw [Payload.split, htype]
    dsimp only [Option.bind, string?]
    rw [hpayload]
  | _ => cases htype

theorem Tagged.split {tag : String} {P : Json → Prop} {raw : Json} (h : Tagged tag P raw) :
    ∃ payload, Payload.split raw = .ok (tag, payload) ∧ P payload := by
  obtain ⟨payload, hnames, h⟩ := h
  exact ⟨payload, hnames.split, h⟩

/-! ### Writing -/

/-- The value, or null if there is none. -/
def orNull (value : Option Json) : Json := value.getD .null

theorem nullable_orNull {write : α → Json} (h : ∀ a, Encodes (write a) a) (value : Option α) :
    Nullable Encodes (orNull (value.map write)) value := by
  cases value with
  | none => exact .null
  | some a => exact .value (h a)

theorem listed_map {write : α → Json} (h : ∀ a, Encodes (write a) a) (values : List α) :
    Listed Encodes (.array (values.map write)) values :=
  .array (List.forall₂_map_left_iff.mpr (List.forall₂_same.mpr fun a _ => h a))

theorem encodes_text (text : String) : Text (.string text) text := rfl

theorem encodes_truth (value : Bool) : Truth (.bool value) value := rfl

theorem encodes_number (x : Double) : Numeral (.number (.double x)) x := .number (.double x)

variable (extra : Fields Json)

/-- An object with a string under a name. -/
def naming (name text : String) : Json := .object ((name, .string text) :: extra)

theorem naming_naming (name text : String) : Naming name (naming extra name text) text :=
  .object (by rw [Fields.get?_cons, if_pos rfl])

/-- An object with a payload under its tag. -/
def tagged (tag : String) (payload : Json) : Json :=
  .object (("type", .string tag) :: (tag, payload) :: extra)

variable {extra}

theorem field?_tagged {tag : String} {payload : Json} {name : String} (ht : "type" ≠ name)
    (hn : tag ≠ name) : (tagged extra tag payload).field? name = Fields.get? extra name := by
  rw [tagged, field?, Fields.get?_cons, if_neg ht, Fields.get?_cons, if_neg hn]

theorem tagged_tagged {tag : String} (ht : "type" ≠ tag) {P : Json → Prop} {payload : Json}
    (h : P payload) : Tagged tag P (tagged extra tag payload) := by
  refine ⟨payload, ⟨?_, ?_⟩, h⟩
  · rw [tagged, field?, Fields.get?_cons, if_pos rfl]
  · rw [tagged, field?, Fields.get?_cons, if_neg ht, Fields.get?_cons, if_pos rfl]

end Json

open Json

theorem FormulaType.name_of_ofName? {name : String} {type : FormulaType}
    (h : ofName? name = some type) : type.name = name := by
  rw [ofName?] at h
  have hname := List.find?_some h
  exact beq_iff_eq.mp hname

/-- A range of dates. -/
inductive DateRange.Encodes : Json → DateRange → Prop where
  | object {fields : Fields Json} {range : DateRange}
    (hstart : Omissible Text (Fields.get? fields "start") range.start)
    (hfinish : Omissible Text (Fields.get? fields "end") range.finish) :
    Encodes (.object fields) range

theorem DateRange.reads : Reads Encodes ofJson? := by
  rintro raw range ⟨hstart, hfinish⟩
  refine ⟨by simp, ?_⟩
  rw [ofJson?, members?]
  simp only [List.map_cons, List.map_nil, Option.bind_eq_bind, Option.bind_some,
    reads_text.omissible hstart, reads_text.omissible hfinish]
  rfl

/-- The written form of a range of dates. -/
def DateRange.toJson (extra : Fields Json) (range : DateRange) : Json :=
  .object (("start", orNull (range.start.map .string)) ::
    ("end", orNull (range.finish.map .string)) :: extra)

theorem DateRange.encodes_toJson (extra : Fields Json) (range : DateRange) :
    Encodes (range.toJson extra) range :=
  .object (.present (nullable_orNull encodes_text _)) (.present (nullable_orNull encodes_text _))

/-- A person. -/
inductive User.Encodes : Json → User → Prop where
  | object {fields : Fields Json} {user : User}
    (hid : Fields.get? fields "id" = some (.string user.id))
    (hname : Omissible Text (Fields.get? fields "name") user.name) :
    Encodes (.object fields) user

theorem User.reads : Reads Encodes ofJson? := by
  rintro raw user ⟨hid, hname⟩
  refine ⟨by simp, ?_⟩
  rw [ofJson?, members?]
  simp only [List.map_cons, List.map_nil, Option.bind_eq_bind, Option.bind_some, hid,
    reads_text.omissible hname]
  rfl

/-- The written form of a person. -/
def User.toJson (extra : Fields Json) (user : User) : Json :=
  .object (("id", .string user.id) :: ("name", orNull (user.name.map .string)) :: extra)

theorem User.encodes_toJson (extra : Fields Json) (user : User) :
    Encodes (user.toJson extra) user :=
  .object rfl (.present (nullable_orNull encodes_text _))

/-- A file, linked or hosted. -/
def Attachment.Encodes (raw : Json) : Attachment → Prop
  | .external url => Tagged "external" (Naming "url" · url) raw
  | .hosted url => Tagged "file" (Naming "url" · url) raw

theorem Attachment.link?_of_naming {link : Json} {url : String} (h : Naming "url" link url) :
    link? link = some url := by
  rw [link?, h.members?.2]
  rfl

theorem Attachment.ofJson?_of_names {raw link : Json} {hosting : String}
    (h : raw.Names hosting link) : raw ≠ .null ∧ ofJson? raw = ofLink? hosting link := by
  obtain ⟨htype, hlink⟩ := h
  cases raw with
  | object fields =>
    rw [field?] at htype hlink
    refine ⟨by simp, ?_⟩
    rw [ofJson?, htype]
    show (Fields.get? fields hosting).bind (ofLink? hosting) = _
    rw [hlink, Option.bind_some]
  | _ => cases htype

theorem Attachment.reads : Reads (fun raw => Encodes raw) ofJson? := by
  intro raw attachment h
  cases attachment with
  | external url =>
    obtain ⟨link, hnames, hlink⟩ := h
    obtain ⟨hnull, hread⟩ := ofJson?_of_names hnames
    refine ⟨hnull, ?_⟩
    rw [hread, ofLink?, if_pos rfl, link?_of_naming hlink, Option.map_some]
  | hosted url =>
    obtain ⟨link, hnames, hlink⟩ := h
    obtain ⟨hnull, hread⟩ := ofJson?_of_names hnames
    refine ⟨hnull, ?_⟩
    rw [hread, ofLink?, if_neg (by decide), if_pos rfl, link?_of_naming hlink, Option.map_some]

/-- The written form of a file. -/
def Attachment.toJson (extra : Fields Json) : Attachment → Json
  | .external url => tagged extra "external" (naming extra "url" url)
  | .hosted url => tagged extra "file" (naming extra "url" url)

theorem Attachment.encodes_toJson (extra : Fields Json) (attachment : Attachment) :
    Encodes (attachment.toJson extra) attachment := by
  cases attachment with
  | external url => exact tagged_tagged (by decide) (naming_naming extra "url" url)
  | hosted url => exact tagged_tagged (by decide) (naming_naming extra "url" url)

namespace Payload

/-- A run of text, which may leave out a text that is empty. -/
inductive Run : Json → String → Prop where
  | text {fields : Fields Json} {text : String}
    (h : Fields.get? fields "plain_text" = some (.string text)) : Run (.object fields) text
  | empty {fields : Fields Json} (h : Fields.get? fields "plain_text" = none) :
    Run (.object fields) ""

theorem reads_option : Reads (Naming "name") option? := by
  intro raw name h
  refine ⟨h.members?.1, ?_⟩
  rw [option?, h.members?.2]
  rfl

theorem reads_reference : Reads (Naming "id") reference? := by
  intro raw id h
  refine ⟨h.members?.1, ?_⟩
  rw [reference?, h.members?.2]
  rfl

theorem reads_run : Reads Run run? := by
  rintro raw text (h | h)
  · refine ⟨by simp, ?_⟩
    rw [run?, members?]
    simp only [List.map_cons, List.map_nil, Option.bind_eq_bind, Option.bind_some, h]
    rfl
  · refine ⟨by simp, ?_⟩
    rw [run?, members?]
    simp only [List.map_cons, List.map_nil, Option.bind_eq_bind, Option.bind_some, h]

end Payload

/-! ### Payloads -/

/-- The payload of a formula under the name of its type. -/
def FormulaResult.Holds (raw : Json) : FormulaResult → Prop
  | .string value => Nullable Text raw value
  | .number value => Nullable Numeral raw value
  | .boolean value => Nullable Truth raw value
  | .date value => Nullable DateRange.Encodes raw value

/-- The written form of a formula's result under its type. -/
def FormulaResult.payloadJson (extra : Fields Json) : FormulaResult → Json
  | .string value => orNull (value.map .string)
  | .number value => orNull (value.map fun x => .number (.double x))
  | .boolean value => orNull (value.map .bool)
  | .date value => orNull (value.map (DateRange.toJson extra))

theorem FormulaResult.holds_payloadJson (extra : Fields Json) (result : FormulaResult) :
    result.Holds (result.payloadJson extra) := by
  cases result with
  | string value => exact nullable_orNull encodes_text value
  | number value => exact nullable_orNull encodes_number value
  | boolean value => exact nullable_orNull encodes_truth value
  | date value => exact nullable_orNull (DateRange.encodes_toJson extra) value

/-- A formula. -/
def FormulaResult.Encodes (raw : Json) (result : FormulaResult) : Prop :=
  Tagged result.type.name result.Holds raw

/-- The payload of a rollup under the name of its type; the elements of an array stay raw. -/
def RollupResult.Holds (raw : Json) : RollupResult → Prop
  | .number value => Nullable Numeral raw value
  | .date value => Nullable DateRange.Encodes raw value
  | .array elements => raw = .array elements

/-- The written form of a rollup's result under its type. -/
def RollupResult.payloadJson (extra : Fields Json) : RollupResult → Json
  | .number value => orNull (value.map fun x => .number (.double x))
  | .date value => orNull (value.map (DateRange.toJson extra))
  | .array elements => .array elements

theorem RollupResult.holds_payloadJson (extra : Fields Json) (result : RollupResult) :
    result.Holds (result.payloadJson extra) := by
  cases result with
  | number value => exact nullable_orNull encodes_number value
  | date value => exact nullable_orNull (DateRange.encodes_toJson extra) value
  | array elements => rfl

/-- A rollup. -/
def RollupResult.Encodes (raw : Json) (result : RollupResult) : Prop :=
  Tagged result.typeName result.Holds raw

namespace Payload

/-- The payload of a property under the name of its kind. -/
def Holds (raw : Json) : Payload → Prop
  | .checkbox checked => Truth raw checked
  | .number value => Nullable Numeral raw value
  | .select option => Nullable (Naming "name") raw option
  | .status option => Nullable (Naming "name") raw option
  | .date value => Nullable DateRange.Encodes raw value
  | .files attachments => Listed (fun raw => Attachment.Encodes raw) raw attachments
  | .multiSelect options => Listed (Naming "name") raw options
  | .relation ids _ => Listed (Naming "id") raw ids
  | .people users => Listed User.Encodes raw users
  | .richText runs => Listed Run raw runs
  | .title runs => Listed Run raw runs
  | .formula result => result.Encodes raw
  | .rollup result => result.Encodes raw
  | .lastEditedBy user => User.Encodes raw user

/-- The flag beside a relation, which may be left out if there is no more. -/
inductive Flagged : Option Json → Bool → Prop where
  | flag (more : Bool) : Flagged (some (.bool more)) more
  | none : Flagged none false

/-- What stands beside the payload: a relation has a flag there. -/
def Beside (raw : Json) : Payload → Prop
  | .relation _ more => Flagged (raw.field? "has_more") more
  | _ => True

/-- A property without its id. -/
structure Encodes (raw : Json) (payload : Payload) : Prop where
  tagged : Tagged payload.kind.name payload.Holds raw
  beside : payload.Beside raw

/-- The written form of a payload under its kind. -/
def payloadJson (extra : Fields Json) : Payload → Json
  | .checkbox checked => .bool checked
  | .number value => orNull (value.map fun x => .number (.double x))
  | .select option => orNull (option.map (naming extra "name"))
  | .status option => orNull (option.map (naming extra "name"))
  | .date value => orNull (value.map (DateRange.toJson extra))
  | .files attachments => .array (attachments.map (Attachment.toJson extra))
  | .multiSelect options => .array (options.map (naming extra "name"))
  | .relation ids _ => .array (ids.map (naming extra "id"))
  | .people users => .array (users.map (User.toJson extra))
  | .richText runs => .array (runs.map (naming extra "plain_text"))
  | .title runs => .array (runs.map (naming extra "plain_text"))
  | .formula result => tagged extra result.type.name (result.payloadJson extra)
  | .rollup result => tagged extra result.typeName (result.payloadJson extra)
  | .lastEditedBy user => user.toJson extra

theorem run_naming (extra : Fields Json) (text : String) :
    Run (naming extra "plain_text" text) text :=
  .text (by rw [Fields.get?_cons, if_pos rfl])

theorem holds_payloadJson (extra : Fields Json) (payload : Payload) :
    payload.Holds (payload.payloadJson extra) := by
  cases payload with
  | checkbox checked => rfl
  | number value => exact nullable_orNull encodes_number value
  | select option => exact nullable_orNull (naming_naming extra "name") option
  | status option => exact nullable_orNull (naming_naming extra "name") option
  | date value => exact nullable_orNull (DateRange.encodes_toJson extra) value
  | files attachments => exact listed_map (Attachment.encodes_toJson extra) attachments
  | multiSelect options => exact listed_map (naming_naming extra "name") options
  | relation ids more => exact listed_map (naming_naming extra "id") ids
  | people users => exact listed_map (User.encodes_toJson extra) users
  | richText runs => exact listed_map (run_naming extra) runs
  | title runs => exact listed_map (run_naming extra) runs
  | formula result =>
    have htype : "type" ≠ result.type.name := by
      generalize result.type = type
      cases type <;> decide
    exact tagged_tagged htype (result.holds_payloadJson extra)
  | rollup result =>
    have htype : "type" ≠ result.typeName := by
      cases result <;> rw [RollupResult.typeName] <;> decide
    exact tagged_tagged htype (result.holds_payloadJson extra)
  | lastEditedBy user => exact user.encodes_toJson extra

/-- The written form of what stands beside a payload. -/
def besideJson : Payload → Fields Json
  | .relation _ more => [("has_more", .bool more)]
  | _ => []

theorem hasMore_of_flagged {raw : Json} {more : Bool} (h : Flagged (raw.field? "has_more") more) :
    hasMore raw = more := by
  rw [hasMore]
  cases hflag : raw.field? "has_more" <;> rw [hflag] at h <;> cases h <;> rfl

theorem formulaOf_of_encodes {raw : Json} {result : FormulaResult} (h : result.Encodes raw) :
    formulaOf raw = .ok result := by
  obtain ⟨inner, hsplit, hinner⟩ := h.split
  rw [formulaOf, hsplit]
  cases result with
  | string value => exact required_eq_ok.mpr ⟨value, reads_text.nullable hinner, rfl⟩
  | number value => exact required_eq_ok.mpr ⟨value, reads_numeral.nullable hinner, rfl⟩
  | boolean value => exact required_eq_ok.mpr ⟨value, reads_truth.nullable hinner, rfl⟩
  | date value => exact required_eq_ok.mpr ⟨value, DateRange.reads.nullable hinner, rfl⟩

theorem rollupOf_of_encodes {raw : Json} {result : RollupResult} (h : result.Encodes raw) :
    rollupOf raw = .ok result := by
  obtain ⟨inner, hsplit, hinner⟩ := h.split
  rw [rollupOf, hsplit]
  cases result with
  | number value => exact required_eq_ok.mpr ⟨value, reads_numeral.nullable hinner, rfl⟩
  | date value => exact required_eq_ok.mpr ⟨value, DateRange.reads.nullable hinner, rfl⟩
  | array elements =>
    cases hinner
    rfl

/-- What is encoded is what is decoded. -/
theorem decode_of_encodes {raw : Json} {payload : Payload} (h : payload.Encodes raw) :
    decode raw = .ok payload := by
  obtain ⟨inner, hsplit, hinner⟩ := h.tagged.split
  rw [decode, hsplit]
  cases payload with
  | checkbox checked => exact required_eq_ok.mpr ⟨checked, (reads_truth hinner).2, rfl⟩
  | number value => exact required_eq_ok.mpr ⟨value, reads_numeral.nullable hinner, rfl⟩
  | select option => exact required_eq_ok.mpr ⟨option, reads_option.nullable hinner, rfl⟩
  | status option => exact required_eq_ok.mpr ⟨option, reads_option.nullable hinner, rfl⟩
  | date value => exact required_eq_ok.mpr ⟨value, DateRange.reads.nullable hinner, rfl⟩
  | files attachments => exact required_eq_ok.mpr ⟨attachments, Attachment.reads.listed hinner, rfl⟩
  | multiSelect options => exact required_eq_ok.mpr ⟨options, reads_option.listed hinner, rfl⟩
  | relation ids more =>
    have hmore : hasMore raw = more := hasMore_of_flagged h.beside
    exact required_eq_ok.mpr ⟨ids, reads_reference.listed hinner, by rw [hmore]⟩
  | people users => exact required_eq_ok.mpr ⟨users, User.reads.listed hinner, rfl⟩
  | richText runs => exact required_eq_ok.mpr ⟨runs, reads_run.listed hinner, rfl⟩
  | title runs => exact required_eq_ok.mpr ⟨runs, reads_run.listed hinner, rfl⟩
  | formula result =>
    show (formulaOf inner).bind _ = _
    rw [formulaOf_of_encodes hinner]
    rfl
  | rollup result =>
    show (rollupOf inner).bind _ = _
    rw [rollupOf_of_encodes hinner]
    rfl
  | lastEditedBy user => exact required_eq_ok.mpr ⟨user, (User.reads hinner).2, rfl⟩

/-! ### What was decoded -/

theorem split_of_formulaOf {raw : Json} {result : FormulaResult}
    (h : formulaOf raw = .ok result) : ∃ inner, split raw = .ok (result.type.name, inner) := by
  cases hs : split raw with
  | error error =>
    rw [formulaOf, hs] at h
    cases h
  | ok parts =>
    obtain ⟨tag, inner⟩ := parts
    refine ⟨inner, ?_⟩
    cases ht : FormulaType.ofName? tag with
    | none =>
      simp only [formulaOf, hs, ht, bind, Except.bind] at h
      cases h
    | some type =>
      have hname := FormulaType.name_of_ofName? ht
      cases type <;>
      · simp only [formulaOf, hs, ht, bind, Except.bind] at h
        obtain ⟨_, -, rfl⟩ := required_eq_ok.mp h
        rw [← hname]
        rfl

theorem split_of_rollupOf {raw : Json} {result : RollupResult}
    (h : rollupOf raw = .ok result) : ∃ inner, split raw = .ok (result.typeName, inner) := by
  cases hs : split raw with
  | error error =>
    rw [rollupOf, hs] at h
    cases h
  | ok parts =>
    obtain ⟨tag, inner⟩ := parts
    refine ⟨inner, ?_⟩
    simp only [rollupOf, hs, bind, Except.bind] at h
    split at h
    · obtain ⟨_, -, rfl⟩ := required_eq_ok.mp h
      rfl
    · obtain ⟨_, -, rfl⟩ := required_eq_ok.mp h
      rfl
    · obtain ⟨_, -, rfl⟩ := required_eq_ok.mp h
      rfl
    · cases h

/-- The result of a formula or a rollup is decoded from what stands under the kind. -/
def DecodedFrom (inner : Json) : Payload → Prop
  | .formula result => formulaOf inner = .ok result
  | .rollup result => rollupOf inner = .ok result
  | _ => True

/-- What is decoded has the kind that is named. -/
theorem split_of_decode {raw : Json} {payload : Payload} (h : decode raw = .ok payload) :
    ∃ inner, split raw = .ok (payload.kind.name, inner) ∧ payload.DecodedFrom inner := by
  cases hs : split raw with
  | error error =>
    rw [decode, hs] at h
    cases h
  | ok parts =>
    obtain ⟨tag, inner⟩ := parts
    refine ⟨inner, ?_⟩
    cases hk : Kind.ofName? tag with
    | none =>
      simp only [decode, hs, hk, bind, Except.bind] at h
      cases h
    | some kind =>
      have hname := Kind.name_of_ofName? hk
      cases kind with
      | formula =>
        simp only [decode, hs, hk, bind, Except.bind] at h
        cases hf : formulaOf inner with
        | error error =>
          rw [hf] at h
          cases h
        | ok result =>
          rw [hf] at h
          cases h
          exact ⟨by rw [← hname]; rfl, hf⟩
      | rollup =>
        simp only [decode, hs, hk, bind, Except.bind] at h
        cases hr : rollupOf inner with
        | error error =>
          rw [hr] at h
          cases h
        | ok result =>
          rw [hr] at h
          cases h
          exact ⟨by rw [← hname]; rfl, hr⟩
      | _ =>
        simp only [decode, hs, hk, bind, Except.bind] at h
        obtain ⟨_, -, rfl⟩ := required_eq_ok.mp h
        exact ⟨by rw [← hname]; rfl, trivial⟩

end Payload

namespace Property

/-! ### Encodings -/

/-- A property in the format of the record store. -/
structure Encodes (raw : Json) (property : Property) : Prop where
  id : Omissible Text (raw.field? "id") property.id
  payload : property.payload.Encodes raw

/-- The written form of a property, with extra fields in every object. -/
def toJson (extra : Fields Json) (property : Property) : Json :=
  tagged (("id", orNull (property.id.map .string)) :: property.payload.besideJson ++ extra)
    property.payload.kind.name (property.payload.payloadJson extra)

theorem encodes_toJson (extra : Fields Json) (property : Property) :
    Encodes (property.toJson extra) property := by
  obtain ⟨id, payload⟩ := property
  have hnames : "type" ≠ payload.kind.name ∧ payload.kind.name ≠ "id" ∧
      payload.kind.name ≠ "has_more" := by
    generalize payload.kind = kind
    cases kind <;> decide
  refine ⟨?_, tagged_tagged hnames.1 (payload.holds_payloadJson extra), ?_⟩
  · rw [toJson, field?_tagged (by decide) hnames.2.1]
    exact .present (nullable_orNull encodes_text id)
  · cases payload with
    | relation ids more =>
      rw [Payload.Beside, toJson, field?_tagged (by decide) hnames.2.2]
      exact .flag more
    | _ => trivial

theorem decode_of_encodes {raw : Json} {property : Property} (h : Encodes raw property) :
    decode raw = .ok property := by
  refine decode_eq_ok.mpr ⟨?_, Payload.decode_of_encodes h.payload⟩
  have hid := h.id
  cases hfield : raw.field? "id" with
  | none =>
    rw [hfield] at hid
    generalize property.id = id at hid
    cases hid
    rfl
  | some value =>
    rw [hfield] at hid
    generalize property.id = id at hid
    obtain ⟨⟩ | ⟨⟨⟩ | ⟨rfl⟩⟩ := hid <;> rfl

theorem decode_of_lacks {raw : Json} {tag : String} (h : raw.Lacks tag) :
    decode raw = .error (.missingPayload tag) := by
  rw [decode, Payload.decode, h.split]
  rfl

theorem decode_of_inner_lacks {raw inner : Json} {kind : Kind} {tag : String}
    (hk : kind = .formula ∨ kind = .rollup) (h : raw.Names kind.name inner)
    (hinner : inner.Lacks tag) : decode raw = .error (.missingPayload tag) := by
  rcases hk with rfl | rfl
  · rw [decode, Payload.decode, h.split]
    show ((Payload.formulaOf inner).bind _).bind _ = _
    rw [Payload.formulaOf, hinner.split]
    rfl
  · rw [decode, Payload.decode, h.split]
    show ((Payload.rollupOf inner).bind _).bind _ = _
    rw [Payload.rollupOf, hinner.split]
    rfl

/-- The tag of a property and those inside it are the names of what was decoded. -/
structure Labelled (raw inner : Json) (payload : Payload) : Prop where
  kind : raw.Names payload.kind.name inner
  formula {result : FormulaResult} (h : payload = .formula result) :
    ∃ value, inner.Names result.type.name value
  rollup {result : RollupResult} (h : payload = .rollup result) :
    ∃ value, inner.Names result.typeName value

theorem labelled_of_decode {raw : Json} {property : Property} (h : decode raw = .ok property) :
    ∃ inner, Labelled raw inner property.payload := by
  obtain ⟨id, payload⟩ := property
  obtain ⟨inner, hsplit, hinner⟩ := Payload.split_of_decode (decode_eq_ok.mp h).2
  refine ⟨inner, names_of_split hsplit, ?_, ?_⟩
  · rintro result rfl
    obtain ⟨value, hvalue⟩ := Payload.split_of_formulaOf hinner
    exact ⟨value, names_of_split hvalue⟩
  · rintro result rfl
    obtain ⟨value, hvalue⟩ := Payload.split_of_rollupOf hinner
    exact ⟨value, names_of_split hvalue⟩

/-- Every property has encodings with any extra fields, and what is encoded is what is decoded. What
is decoded is labelled with its kind, and nothing is decoded where the payload of a label is
missing. -/
theorem recovers_payload :
    (∀ extra property, Encodes (property.toJson extra) property) ∧
      (∀ raw property, Encodes raw property → decode raw = .ok property) ∧
      (∀ raw property, decode raw = .ok property → ∃ inner, Labelled raw inner property.payload) ∧
      (∀ raw tag, raw.Lacks tag → decode raw = .error (.missingPayload tag)) ∧
      ∀ raw inner (kind : Kind) tag, kind = .formula ∨ kind = .rollup → raw.Names kind.name inner →
        inner.Lacks tag → decode raw = .error (.missingPayload tag) :=
  ⟨encodes_toJson, fun _ _ => decode_of_encodes, fun _ _ => labelled_of_decode,
    fun _ _ => decode_of_lacks, fun _ _ _ _ => decode_of_inner_lacks⟩

/-- A formula of this type, among fields that the format does not define. -/
def rawFormula (type : String) : Json :=
  .object [("checkbox", .bool true),
    ("formula", .object [("date", .object [("start", .string "2024-05-01"), ("time_zone", .null)]),
      ("number", .integer 3), ("type", .string type)]),
    ("has_more", .bool true), ("id", .string "f1"), ("type", .string "formula")]

/-- The property of that formula if it is a date. -/
def dated : Property := ⟨some "f1", .formula (.date (some ⟨some "2024-05-01", none⟩))⟩

theorem encodes_rawFormula : Encodes (rawFormula "date") dated where
  id := .present (.value rfl)
  payload := by
    refine ⟨⟨_, ⟨rfl, rfl⟩, ⟨_, ⟨rfl, rfl⟩, .value ?_⟩⟩, trivial⟩
    exact .object (.present (.value rfl)) .absent

theorem recovers_payload_rawFormula :
    (Encodes (rawFormula "date") dated ∧ decode (rawFormula "date") = .ok dated) ∧
      (∃ inner, Labelled (rawFormula "date") inner dated.payload) ∧
      (∃ inner, (rawFormula "string").Names "formula" inner ∧ inner.Lacks "string" ∧
        decode (rawFormula "string") = .error (.missingPayload "string")) ∧
      ((Json.object [("number", .integer 3), ("type", .string "checkbox")]).Lacks "checkbox" ∧
        decode (.object [("number", .integer 3), ("type", .string "checkbox")]) =
          .error (.missingPayload "checkbox")) := by
  obtain ⟨-, hdecodes, hlabels, hmissing, hinner⟩ := recovers_payload
  have hdated := hdecodes _ _ encodes_rawFormula
  have hlacks : (Json.object [("number", .integer 3), ("type", .string "checkbox")]).Lacks
      "checkbox" := ⟨rfl, rfl⟩
  refine ⟨⟨encodes_rawFormula, hdated⟩, hlabels _ _ hdated, ⟨_, ⟨rfl, rfl⟩, ⟨rfl, rfl⟩, ?_⟩,
    hlacks, hmissing _ _ hlacks⟩
  exact hinner _ _ .formula _ (.inl rfl) ⟨rfl, rfl⟩ ⟨rfl, rfl⟩

end Property

end RecordWatch
