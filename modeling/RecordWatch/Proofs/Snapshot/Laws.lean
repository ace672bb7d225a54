import RecordWatch.Proofs.Distinct
import RecordWatch.Proofs.Snapshot.Store

/-! The laws of overlaying. An overlay is determined by what it does to the keys, to the last record
of a key and to all other records; overlaying one result after the other is overlaying both at once,
and a second time changes nothing. So do merges, as far as what they store is read back. -/

namespace RecordWatch

namespace Snapshot

variable {stored latest kept : List Record}

/-- The last record of its key is the one that is found. -/
theorem find?_of_last {records : List Record} {position : Nat} {record : Record}
    (h : records[position]? = some record)
    (hl : record.key ∉ (records.drop (position + 1)).map Record.key) :
    Delta.find? records record.key = some record := by
  obtain ⟨hlt, hrecord⟩ := List.getElem?_eq_some_iff.mp h
  have hsplit : records = records.take position ++ [record] ++ records.drop (position + 1) := by
    rw [← hrecord, List.take_append_getElem hlt, List.take_append_drop]
  rw [hsplit, Delta.find?_append, Delta.find?_eq_none.mpr hl, Option.none_or,
    Delta.find?_append_singleton, if_pos rfl]

/-- The keys of the latest records that no stored record has, as they first appear. -/
def newKeys (stored latest : List Record) : List String :=
  distinct ((latest.map Record.key).filter (· ∉ stored.map Record.key))

theorem mem_newKeys {key : String} : key ∈ newKeys stored latest ↔
    key ∈ latest.map Record.key ∧ key ∉ stored.map Record.key := by
  rw [newKeys, mem_distinct, List.mem_filter, decide_eq_true_iff]

theorem notMem_drop_of_nodup {names : List String} (hd : names.Nodup) {position : Nat}
    {name : String} (h : names[position]? = some name) : name ∉ names.drop (position + 1) := by
  intro hmem
  obtain ⟨later, hlater⟩ := List.mem_iff_getElem?.mp hmem
  rw [List.getElem?_drop] at hlater
  have heq := List.getElem?_inj (List.getElem?_eq_some_iff.mp h).1 hd |>.mp (h.trans hlater.symm)
  omega

/-- What is kept of stored records that the latest ones are overlaid on. -/
structure Overlays (stored latest kept : List Record) : Prop where
  /-- Every position keeps its key; new keys are appended as they first appear, each once. -/
  keys : kept.map Record.key = stored.map Record.key ++ newKeys stored latest
  last {key : String} (h : key ∈ latest.map Record.key) :
    Delta.find? kept key = Delta.find? latest key
  others {position : Nat} {record : Record} (hr : stored[position]? = some record)
    (h : record.key ∉ latest.map Record.key ∨
      record.key ∈ (stored.drop (position + 1)).map Record.key) : kept[position]? = some record

theorem keys_overlay (stored latest : List Record) :
    (overlay stored latest).map Record.key =
      stored.map Record.key ++ newKeys stored latest := by
  rw [newKeys, ← appendNew_eq]
  induction latest using List.reverseRecOn with
  | nil => rfl
  | append_singleton latest record ih =>
    rw [overlay_append_singleton, keys_put, ih, List.map_append, List.map_singleton,
      appendNew_append_singleton]

/-- A record that is not the last of its key, or whose key is another, stays where it is. -/
theorem getElem?_put {records : List Record} {position : Nat} {other : Record}
    (h : records[position]? = some other) (record : Record)
    (hne : other.key ≠ record.key ∨
      other.key ∈ (records.drop (position + 1)).map Record.key) :
    (put records record)[position]? = some other := by
  cases hp : lastPosition? record.key (records.map Record.key) with
  | some last =>
    obtain ⟨hlast, hafter⟩ := lastPosition?_some hp
    rw [put_eq_set hp, List.getElem?_set_ne, h]
    rintro rfl
    -- The position of `other` is the last one of the key of `record`.
    rw [List.getElem?_map, h, Option.map_some, Option.some.injEq] at hlast
    rw [← List.map_drop, ← hlast] at hafter
    rcases hne with hne | hmem
    · exact hne hlast
    · exact hafter hmem
  | none =>
    obtain ⟨hlt, -⟩ := List.getElem?_eq_some_iff.mp h
    rw [put_eq_append hp, List.getElem?_append_left hlt, h]

theorem overlays_overlay (stored latest : List Record) :
    Overlays stored latest (overlay stored latest) where
  keys := keys_overlay stored latest
  last h := by
    obtain ⟨record, hr⟩ := Option.isSome_iff_exists.mp (Delta.find?_isSome.mpr h)
    rw [find?_overlay, hr, Option.some_or]
  others {position record} hr h := by
    obtain ⟨hlt, -⟩ := List.getElem?_eq_some_iff.mp hr
    induction latest using List.reverseRecOn with
    | nil => exact hr
    | append_singleton latest last ih =>
      rw [overlay_append_singleton]
      rw [List.map_append, List.mem_append, List.map_singleton, List.mem_singleton, not_or] at h
      refine getElem?_put (ih (h.imp_left And.left)) last (h.imp And.right fun hafter => ?_)
      -- The keys after the position are still there.
      rw [List.map_drop] at hafter ⊢
      rw [keys_overlay, List.drop_append_of_le_length (by rw [List.length_map]; omega)]
      exact List.mem_append_left _ hafter

namespace Overlays

/-- A record whose key the latest records have, and no later record, is the last of these. -/
theorem find?_latest (h : Overlays stored latest kept) {position : Nat} {record : Record}
    (hr : kept[position]? = some record) (hk : record.key ∈ latest.map Record.key)
    (hl : record.key ∉ (kept.map Record.key).drop (position + 1)) :
    Delta.find? latest record.key = some record := by
  rw [← h.last hk]
  exact find?_of_last hr (by rwa [List.map_drop])

/-- Any other record was stored at its position. -/
theorem getElem?_stored (h : Overlays stored latest kept) {position : Nat} {record : Record}
    (hr : kept[position]? = some record) (hn : record.key ∉ latest.map Record.key ∨
      record.key ∈ (kept.map Record.key).drop (position + 1)) :
    stored[position]? = some record := by
  have hkey : (kept.map Record.key)[position]? = some record.key := by simp [hr]
  rw [h.keys] at hkey hn
  by_cases hlt : position < stored.length
  · have hold : stored[position]? = some stored[position] := List.getElem?_eq_getElem hlt
    rw [List.getElem?_append_left (by rwa [List.length_map]), List.getElem?_map, hold,
      Option.map_some, Option.some.injEq] at hkey
    have hstored : record.key ∈ stored.map Record.key := by
      rw [← hkey]
      exact List.mem_map_of_mem (List.getElem_mem hlt)
    have hkept := h.others hold (by
      rw [hkey, List.map_drop]
      refine hn.imp_right fun hmem => ?_
      rw [List.drop_append_of_le_length (by rw [List.length_map]; omega)] at hmem
      exact (List.mem_append.mp hmem).resolve_right fun hnew => (mem_newKeys.mp hnew).2 hstored)
    rw [hold, ← hkept, hr]
  · -- A new key is one of the latest records and occurs once, so this cannot be.
    have hlength : (stored.map Record.key).length ≤ position := by
      rw [List.length_map]
      omega
    rw [List.getElem?_append_right hlength] at hkey
    rcases hn with hn | hn
    · exact absurd (mem_newKeys.mp (List.mem_of_getElem? hkey)).1 hn
    · rw [List.drop_append, List.drop_eq_nil_of_le (by omega), List.nil_append,
        show position + 1 - (stored.map Record.key).length =
          position - (stored.map Record.key).length + 1 by omega] at hn
      exact absurd hn (notMem_drop_of_nodup (nodup_distinct _) hkey)

/-- What was stored and the latest records decide what stands at a position. -/
theorem getElem?_eq_some {other : List Record} (h : Overlays stored latest kept)
    (h' : Overlays stored latest other) {position : Nat} {record : Record}
    (hr : kept[position]? = some record) : other[position]? = some record := by
  have hkeys : kept.map Record.key = other.map Record.key := h.keys.trans h'.keys.symm
  have hkey : (other.map Record.key)[position]? = some record.key := by
    rw [← hkeys, List.getElem?_map, hr, Option.map_some]
  rw [List.getElem?_map, Option.map_eq_some_iff] at hkey
  obtain ⟨record', hr', hkey⟩ := hkey
  rw [hr']
  by_cases hn : record.key ∉ latest.map Record.key ∨
      record.key ∈ (kept.map Record.key).drop (position + 1)
  · -- Both are the record that was stored there.
    have hold := h.getElem?_stored hr hn
    rw [← hold, h'.getElem?_stored hr' (by rwa [hkey, ← hkeys])]
  · -- Both are the last of the latest records with the key.
    rw [not_or, not_not] at hn
    have hlast := h.find?_latest hr hn.1 hn.2
    rw [← hlast, ← hkey, h'.find?_latest hr' (by rw [hkey]; exact hn.1)
      (by rw [hkey, ← hkeys]; exact hn.2)]

theorem unique {other : List Record} (h : Overlays stored latest kept)
    (h' : Overlays stored latest other) : kept = other := by
  refine List.ext_getElem? fun position => ?_
  cases hr : kept[position]? with
  | some record => exact (h.getElem?_eq_some h' hr).symm
  | none =>
    cases hr' : other[position]? with
    | some record =>
      rw [h'.getElem?_eq_some h hr'] at hr
      cases hr
    | none => rfl

end Overlays

/-- Overlaying one result after the other is overlaying both at once. -/
theorem overlay_append (stored latest more : List Record) :
    overlay stored (latest ++ more) = overlay (overlay stored latest) more := by
  simp only [overlay_eq_foldl, List.foldl_append]

/-- Overlaying a result again changes nothing. -/
theorem overlay_overlay_self (stored latest : List Record) :
    overlay (overlay stored latest) latest = overlay stored latest := by
  have hknown : newKeys (overlay stored latest) latest = [] := by
    refine List.eq_nil_iff_forall_not_mem.mpr fun key hk => ?_
    obtain ⟨hlatest, hnot⟩ := mem_newKeys.mp hk
    exact hnot (mem_keys_overlay.mpr (.inr hlatest))
  have hself : Overlays (overlay stored latest) latest (overlay stored latest) :=
    ⟨by rw [hknown, List.append_nil], (overlays_overlay stored latest).last, fun hr _ => hr⟩
  exact (overlays_overlay _ latest).unique hself

end Snapshot

/-! ### Merges -/

namespace SnapshotStore

section

variable {ε : Type} {env : Environment ε} {root : String} {settings : Settings}
  {collection : String}

/-- Where no file operation fails, a merge stores the overlay. -/
theorem merge_of_sound (hs : env.Sound)
    (hp : (env.store root settings).path collection ≠ settings.rulesPath) {w : World ε Files}
    {stored : List Record}
    (hb : base? collection (w.store ((env.store root settings).path collection)) = some stored)
    (latest : List Record) :
    ∃ w', (env.store root settings).merge collection latest w =
        (.ok (Snapshot.overlay stored latest), w') ∧
      w'.store ((env.store root settings).path collection) =
        some (bytesOf (Snapshot.overlay stored latest)) := by
  have hmerged := merge_spec hp latest w
  generalize (env.store root settings).merge collection latest w = merged at hmerged ⊢
  cases hmerged with
  | failed hf _ =>
    rw [hf hs] at hb
    cases hb
  | @stored other w' hb' hl =>
    rw [hb] at hb'
    cases hb'
    exact ⟨w', rfl, by rw [hl.held, Function.update_self]⟩

/-- Records that are read back as they were written are what the next merge starts from. -/
theorem base?_bytesOf (collection : String) {kept : List Record}
    (h : Record.listOfText? (Record.listText kept) = some kept) :
    base? collection (some (bytesOf kept)) = some kept := by
  rw [base?, loaded, bytesOf, fromUTF8?_toUTF8]
  dsimp only
  rw [h]
  rfl

variable (env root settings collection) in
/-- The world after merges of one result after the other, whether they succeed or not. -/
def mergeAll (results : List (List Record)) (w : World ε Files) : World ε Files :=
  results.foldl (fun w latest => ((env.store root settings).merge collection latest w).2) w

/-- The records that a snapshot is loaded as have different keys. -/
def Distinct (content : Option ByteArray) : Prop :=
  ∀ collection records, loaded collection content = .ok records →
    (records.map Record.key).Nodup

theorem distinct_bytesOf {records : List Record} (h : (records.map Record.key).Nodup) :
    Distinct (some (bytesOf records)) := by
  intro collection read hl
  rw [loaded_bytesOf, ← Record.listOfText?_listText] at hl
  cases hr : Record.listOfText? (Record.listText records) with
  | none =>
    rw [hr] at hl
    cases hl
  | some read' =>
    rw [hr] at hl
    cases hl
    rwa [Record.keys_of_listOfText? hr]

/-- A merge keeps the keys of a snapshot different, whatever goes wrong. -/
theorem distinct_merge (hp : (env.store root settings).path collection ≠ settings.rulesPath)
    {w : World ε Files} (hw : Distinct (w.store ((env.store root settings).path collection)))
    (latest : List Record) :
    Distinct (((env.store root settings).merge collection latest w).2.store
      ((env.store root settings).path collection)) := by
  have hmerged := merge_spec hp latest w
  generalize (env.store root settings).merge collection latest w = merged at hmerged ⊢
  cases hmerged with
  | failed _ hl => rwa [hl.held]
  | @stored stored w' hb hl =>
    rw [hl.held, Function.update_self]
    refine distinct_bytesOf (Snapshot.nodup_overlay ?_ latest)
    rcases loaded_of_base? hb with ⟨-, rfl⟩ | hl
    · exact List.nodup_nil
    · exact hw _ _ hl

theorem distinct_mergeAll (hp : (env.store root settings).path collection ≠ settings.rulesPath)
    (results : List (List Record)) {w : World ε Files}
    (hw : Distinct (w.store ((env.store root settings).path collection))) :
    Distinct ((mergeAll env root settings collection results w).store
      ((env.store root settings).path collection)) := by
  induction results generalizing w with
  | nil => exact hw
  | cons latest rest ih =>
    rw [mergeAll, List.foldl_cons]
    exact ih (distinct_merge hp hw latest)

variable (env root settings collection) in
/-- What a merge of the latest records leaves, and what the next merge makes of it if the records
that were stored are read back. -/
structure Leaves (w : World ε Files) (stored latest kept : List Record) (w' : World ε Files) :
    Prop where
  file : w'.store ((env.store root settings).path collection) = some (bytesOf kept)
  overlays : Snapshot.Overlays stored latest kept
  next (hr : Record.listOfText? (Record.listText kept) = some kept) (more : List Record) :
    ∃ both after once, (env.store root settings).merge collection more w' = (.ok both, after) ∧
      (env.store root settings).merge collection (latest ++ more) w = (.ok both, once) ∧
      after.store ((env.store root settings).path collection) =
        once.store ((env.store root settings).path collection)
  again (hr : Record.listOfText? (Record.listText kept) = some kept) :
    ∃ after, (env.store root settings).merge collection latest w' = (.ok kept, after) ∧
      after.store ((env.store root settings).path collection) =
        w'.store ((env.store root settings).path collection)

/-- Merging is a lawful overlay. Where no file operation fails, a merge keeps the keys in their
places, and of each key the last of the latest records; two merges are one of both results, and the
same merge again changes nothing. Snapshots that only merges have made have each key once. While a
merge goes through the latest records, its index points at records of the keys. -/
theorem merges_lawfully
    (hp : (env.store root settings).path collection ≠ settings.rulesPath) :
    (env.Sound → ∀ (w : World ε Files) (stored latest : List Record),
      base? collection (w.store ((env.store root settings).path collection)) = some stored →
      ∃ kept w', (env.store root settings).merge collection latest w = (.ok kept, w') ∧
        Leaves env root settings collection w stored latest kept w') ∧
    (∀ (results : List (List Record)) (w : World ε Files),
      w.store ((env.store root settings).path collection) = none →
      Distinct ((mergeAll env root settings collection results w).store
        ((env.store root settings).path collection))) ∧
    ∀ (stored done : List Record) (key : String) (position : Nat),
      (done.foldl Snapshot.Indexed.put (.ofRecords stored)).index.get? key = some position →
      ∃ record, (done.foldl Snapshot.Indexed.put (.ofRecords stored)).records[position]? =
        some record ∧ record.key = key := by
  refine ⟨fun hs w stored latest hb => ?_, fun results w hnone => ?_,
    fun stored done key position hi => ?_⟩
  · obtain ⟨w', hmerge, hfile⟩ := merge_of_sound hs hp hb latest
    refine ⟨_, w', hmerge, hfile, Snapshot.overlays_overlay stored latest, fun hr more => ?_,
      fun hr => ?_⟩
    · have hb' := base?_bytesOf collection hr
      rw [← hfile] at hb'
      obtain ⟨after, hafter, hfile'⟩ := merge_of_sound hs hp hb' more
      obtain ⟨once, honce, hfile''⟩ := merge_of_sound hs hp hb (latest ++ more)
      rw [Snapshot.overlay_append] at honce hfile''
      exact ⟨_, after, once, hafter, honce, hfile'.trans hfile''.symm⟩
    · have hb' := base?_bytesOf collection hr
      rw [← hfile] at hb'
      obtain ⟨after, hafter, hfile'⟩ := merge_of_sound hs hp hb' latest
      rw [Snapshot.overlay_overlay_self] at hafter hfile'
      exact ⟨after, hafter, hfile'.trans hfile.symm⟩
  · refine distinct_mergeAll hp results fun _ records hl => ?_
    rw [hnone] at hl
    cases hl
  · exact ((Snapshot.Indexed.valid_ofRecords stored).foldl done).1.points hi

end

/-- A store whose snapshot has two versions of a note. -/
def versionFiles : Files :=
  Function.update (fun _ => none) "store/c1.json" (some (bytesOf [noted "a", noted "b"]))

/-- A note of another record. -/
def otherNote : Record := { noted "d" with id := "n-2" }

/-- A third version replaces the second one, and the other note is appended. -/
theorem merges_lawfully_notes :
    (∃ w', ((Environment.answering (fun _ => .ok []) []).store "store"
        ⟨"rules", 3600, 600⟩).merge "c-1" [noted "c", otherNote] ⟨0, versionFiles, []⟩ =
          (.ok [noted "a", noted "c", otherNote], w') ∧
      Leaves (Environment.answering (fun _ => .ok []) []) "store" ⟨"rules", 3600, 600⟩ "c-1"
        ⟨0, versionFiles, []⟩ [noted "a", noted "b"] [noted "c", otherNote]
        [noted "a", noted "c", otherNote] w') ∧
    Distinct ((mergeAll (Environment.answering (fun _ => .ok []) []) "store"
      ⟨"rules", 3600, 600⟩ "c-1" [[noted "a", noted "b"], [noted "c"]]
      ⟨0, fun _ => none, []⟩).store "store/c1.json") := by
  have hlegible : ∀ record ∈ [noted "a", noted "b"], record.Legible := by
    intro record hr
    rcases List.mem_pair.mp hr with rfl | rfl <;> exact legible_noted _
  have hpath : ((Environment.answering (fun _ => .ok []) []).store "store"
      ⟨"rules", 3600, 600⟩).path "c-1" = "store/c1.json" := by decide
  have hb : base? "c-1" (versionFiles (((Environment.answering (fun _ => .ok []) []).store "store"
      ⟨"rules", 3600, 600⟩).path "c-1")) = some [noted "a", noted "b"] := by
    rw [hpath, versionFiles, Function.update_self, base?, loaded_of_legible hlegible]
    rfl
  obtain ⟨hmerge, hdistinct, -⟩ := @merges_lawfully Nat (Environment.answering (fun _ => .ok []) [])
    "store" ⟨"rules", 3600, 600⟩ "c-1" (by rw [hpath]; decide)
  obtain ⟨kept, w', hm, hl⟩ := hmerge (Environment.sound_answering _ _)
    ⟨0, versionFiles, []⟩ _ [noted "c", otherNote] hb
  have hkept : kept = [noted "a", noted "c", otherNote] :=
    hl.overlays.unique (Snapshot.overlays_overlay _ _)
  rw [hkept] at hm hl
  rw [← hpath]
  exact ⟨⟨w', hm, hl⟩, hdistinct _ _ rfl⟩

end SnapshotStore

end RecordWatch
