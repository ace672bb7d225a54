import RecordWatch.Proofs.Json.Drafts
import RecordWatch.Proofs.Json.Parsing
import RecordWatch.Record

/-! Snapshots read back. A snapshot's text is read record by record: a record comes back with its id
and times as they were, and it comes back whole exactly when its own text does. Such a record is
legible. -/

namespace RecordWatch

namespace Record

/-- A draft with the members of a record is read as the record if its properties are read. -/
theorem ofDraft?_of_members {draft properties : Draft} {id : String}
    {created edited : Option String}
    (h : draft.members?
      [⟨"id", false⟩, ⟨"created_time", true⟩, ⟨"last_edited_time", true⟩, ⟨"properties", true⟩] =
      some [some (.string id), created.map .string, edited.map .string, some properties]) :
    ofDraft? draft =
      (properties.map? Draft.toJson?).map fun fields => ⟨id, created, edited, fields⟩ := by
  have htime : ∀ time : Option String,
      Draft.optional? Draft.string? (time.map .string) = some time := by
    intro time
    cases time <;> rfl
  rw [ofDraft?, h]
  simp only [Option.bind_eq_bind, Option.bind_some, htime]
  rw [Draft.orElse?]
  cases Draft.map? Draft.toJson? properties <;> rfl

/-- What the text of a record among others is read as. -/
def reread? (r : Record) : Option Record :=
  ((Draft.toFields? (Json.redraftFields 3 r.properties)).map Fields.ofList).map fun properties =>
    { r with properties }

theorem ofDraft?_redraft (r : Record) : ofDraft? (r.toJson.redraft 1) = r.reread? := by
  obtain ⟨id, created, edited, properties⟩ := r
  have hproperties : Draft.map? Draft.toJson? ((Json.object properties).redraft 2) =
      (Draft.toFields? (Json.redraftFields 3 properties)).map Fields.ofList := by
    rw [Json.redraft, if_pos (by decide), Draft.map?, Draft.mapM_toJson?]
    cases Draft.toFields? (Json.redraftFields (2 + 1) properties) <;> rfl
  have hmembers : (Json.redraft 1 (toJson ⟨id, created, edited, properties⟩)).members?
      [⟨"id", false⟩, ⟨"created_time", true⟩, ⟨"last_edited_time", true⟩, ⟨"properties", true⟩] =
      some [some (.string id), created.map .string, edited.map .string,
        some ((Json.object properties).redraft 2)] := by
    cases created <;> cases edited <;> rfl
  rw [reread?, ← hproperties, ofDraft?_of_members hmembers]

/-- The names of the properties ascend, and so do those of every object in their values. -/
def Ordered (r : Record) : Prop := (Json.object r.properties).Ordered

/-- An ordered record is read from its written form as it was. -/
theorem ofDraft?_ofJson {r : Record} (h : r.Ordered) : ofDraft? (.ofJson r.toJson) = some r := by
  obtain ⟨id, created, edited, properties⟩ := r
  have hmembers : (Draft.ofJson (toJson ⟨id, created, edited, properties⟩)).members?
      [⟨"id", false⟩, ⟨"created_time", true⟩, ⟨"last_edited_time", true⟩, ⟨"properties", true⟩] =
      some [some (.string id), created.map .string, edited.map .string,
        some (.ofJson (.object properties))] := by
    cases created <;> cases edited <;> rfl
  rw [ofDraft?_of_members hmembers, Draft.ofJson, Draft.map?, Draft.mapM_toJson?,
    Draft.toFields?_ofFields h.2, Option.bind_eq_bind, Option.bind_some,
    Fields.ofList_of_sorted h.1]
  rfl

/-- A record that was read is ordered. -/
theorem ordered_of_ofDraft? {draft : Draft} {r : Record} (h : ofDraft? draft = some r) :
    r.Ordered := by
  obtain ⟨members, -, h⟩ := Option.bind_eq_some_iff.mp h
  split at h
  · next id created edited properties =>
    obtain ⟨id, -, h⟩ := Option.bind_eq_some_iff.mp h
    obtain ⟨created, -, h⟩ := Option.bind_eq_some_iff.mp h
    obtain ⟨edited, -, h⟩ := Option.bind_eq_some_iff.mp h
    obtain ⟨fields, hfields, h⟩ := Option.bind_eq_some_iff.mp h
    cases h
    cases properties with
    | none =>
      cases hfields
      exact ⟨List.Pairwise.nil, trivial⟩
    | some properties => exact Draft.ordered_of_map? hfields
  · cases h

/-- The text of a snapshot is read record by record. -/
theorem listOfText?_listText (records : List Record) :
    listOfText? (listText records) = records.mapM reread? := by
  rw [listText, listOfText?, Draft.ofText?_pretty, Json.redraft, if_pos (by decide),
    Json.redraftItems_eq, List.map_map]
  show (records.map fun r => r.toJson.redraft 1).mapM ofDraft? = _
  rw [List.mapM_map]
  exact congrArg (records.mapM ·) (funext ofDraft?_redraft)

theorem reread?_key {r r' : Record} (h : r.reread? = some r') : r'.key = r.key := by
  obtain ⟨properties, -, rfl⟩ := Option.map_eq_some_iff.mp h
  rfl

/-- A snapshot that is read back has the records of the same keys in the same places. -/
theorem listOfText?_listText_some {records read : List Record}
    (h : listOfText? (listText records) = some read) :
    List.Forall₂ (fun r r' => r.reread? = some r') records read := by
  rw [listOfText?_listText] at h
  exact mapM_eq_some_iff.mp h

theorem keys_of_listOfText? {records read : List Record}
    (h : listOfText? (listText records) = some read) :
    read.map key = records.map key := by
  have hread := listOfText?_listText_some h
  clear h
  induction hread with
  | nil => rfl
  | cons hrecord _ ih => rw [List.map_cons, List.map_cons, reread?_key hrecord, ih]

/-! ### Legible records -/

/-- The record is read back from its text. -/
def Legible (r : Record) : Prop := listOfText? (listText [r]) = some [r]

theorem legible_iff {r : Record} : r.Legible ↔ r.reread? = some r := by
  rw [Legible, listOfText?_listText]
  cases h : r.reread? <;> simp [h]

theorem Legible.ordered {r : Record} (h : r.Legible) : r.Ordered :=
  ordered_of_ofDraft? ((ofDraft?_redraft r).trans (legible_iff.mp h))

/-- A record with sorted properties and exact values is legible. -/
theorem legible_of_exact {r : Record} (hs : r.properties.Sorted)
    (h : Json.ExactFields 3 r.properties) : r.Legible := by
  rw [legible_iff, reread?, h.toFields?, Option.map_some, Fields.ofList_of_sorted hs]
  rfl

/-- Legible records are read back together. -/
theorem listOfText?_of_legible {records : List Record} (h : ∀ r ∈ records, r.Legible) :
    listOfText? (listText records) = some records := by
  rw [listOfText?_listText]
  induction records with
  | nil => rfl
  | cons r records ih =>
    rw [List.mapM_cons, legible_iff.mp (h r List.mem_cons_self),
      ih fun r hr => h r (List.mem_cons_of_mem _ hr)]
    rfl

end Record

/-- A record with a note. -/
def noted (text : String) : Record where
  id := "n-1"
  createdTime := none
  lastEditedTime := none
  properties := [("Note", .string text)]

theorem legible_noted (text : String) : (noted text).Legible :=
  Record.legible_of_exact (List.pairwise_singleton _ _) ⟨trivial, trivial⟩

/-- The bytes of a text spell it. -/
theorem fromUTF8?_toUTF8 (text : String) : String.fromUTF8? text.toUTF8 = some text :=
  dif_pos text.isValidUTF8

end RecordWatch
