import RecordWatch.Snapshot

/-! The paths of a store. The files that a snapshot is written to first, and those it is moved aside
to, end differently from snapshots, so they are none; and ids without slashes have one snapshot each
only if they are the same but for dashes. -/

namespace RecordWatch

theorem plainId_plainId (id : String) : plainId (plainId id) = plainId id := by
  rw [plainId, plainId, String.toList_ofList, List.filter_filter]
  simp only [Bool.and_self]

theorem slash_mem_plainId {id : String} : '/' ∈ (plainId id).toList ↔ '/' ∈ id.toList := by
  rw [plainId, String.toList_ofList, List.mem_filter, and_iff_left (by decide)]

namespace Path

theorem toList_intercalate_append (separator last : String) (texts : List String) :
    ∃ first, (String.intercalate separator (texts ++ [last])).toList = first ++ last.toList := by
  by_cases h : texts = []
  · exact ⟨[], by simp [h]⟩
  · rw [String.intercalate_append_of_ne_nil h (List.cons_ne_nil _ _),
      String.intercalate_singleton, String.toList_append]
    exact ⟨_, rfl⟩

theorem pieces_ne_nil (path : String) : pieces path ≠ [] := by
  rw [pieces, parts, ne_eq, List.map_eq_nil_iff]
  exact List.splitOnP_ne_nil _ _

/-- A path with a new extension ends as the extension does, or with a dot. -/
theorem getLast?_withExtension (path : String) {extension : String} {c : Char}
    (h : extension.toList.getLast? = some c) :
    (withExtension path extension).toList.getLast? = some '.' ∨
      (withExtension path extension).toList.getLast? = some c := by
  rw [withExtension]
  cases hp : (pieces path).reverse with
  | nil => exact absurd (List.reverse_eq_nil_iff.mp hp) (pieces_ne_nil path)
  | cons name before =>
    dsimp only
    split
    · obtain ⟨first, hf⟩ := toList_intercalate_append "/" ".." before.reverse
      rw [hf]
      exact .inl (by simp)
    · obtain ⟨first, hf⟩ :=
        toList_intercalate_append "/" (stem name ++ "." ++ extension) before.reverse
      rw [hf, String.toList_append, List.getLast?_append, List.getLast?_append, h]
      exact .inr rfl

/-- The end of a joined path is that of the inner one. -/
theorem toList_join (base path : String) :
    ∃ first, (join base path).toList = first ++ path.toList := by
  rw [join]
  split
  · exact ⟨[], rfl⟩
  split
  · exact ⟨base.toList, String.toList_append⟩
  · exact ⟨base.toList ++ ['/'], by simp⟩

theorem join_inj {base p q : String} (hp : isAbsolute p = false) (hq : isAbsolute q = false) :
    join base p = join base q ↔ p = q := by
  refine ⟨fun h => ?_, fun h => by rw [h]⟩
  rw [join, join, hp, hq] at h
  simp only [Bool.false_eq_true, if_false] at h
  split at h <;> simpa [← String.toList_inj] using h

end Path

namespace SnapshotStore

variable {m : Type → Type} (store : SnapshotStore m)

theorem getLast?_path (collection : String) :
    (store.path collection).toList.getLast? = some 'n' := by
  obtain ⟨first, h⟩ := Path.toList_join store.root (plainId collection ++ ".json")
  have hend : ".json".toList.getLast? = some 'n' := by decide
  rw [path, h, String.toList_append, List.getLast?_append, List.getLast?_append, hend]
  rfl

/-- A path with an extension that ends differently is no snapshot. -/
theorem path_ne_withExtension (collection other : String) {extension : String} {c : Char}
    (he : extension.toList.getLast? = some c) (hc : c ≠ 'n') :
    store.path collection ≠ Path.withExtension other extension := by
  intro h
  have hn := store.getLast?_path collection
  rw [h] at hn
  rcases Path.getLast?_withExtension other he with hp | hp
  · rw [hn] at hp
    exact absurd hp (by decide)
  · rw [hn, Option.some.injEq] at hp
    exact hc hp.symm

/-- No snapshot stands where another is written first. -/
theorem path_ne_beside (collection other : String) :
    store.path collection ≠ Path.withExtension (store.path other) "json.tmp" := by
  have he : "json.tmp".toList.getLast? = some 'p' := by decide
  exact store.path_ne_withExtension collection _ he (by decide)

/-- No snapshot stands where another is moved aside to. -/
theorem path_ne_aside (collection other : String) :
    store.path collection ≠ Path.withExtension (store.path other) "json.corrupt" := by
  have he : "json.corrupt".toList.getLast? = some 't' := by decide
  exact store.path_ne_withExtension collection _ he (by decide)

theorem isAbsolute_name {id : String} (h : '/' ∉ id.toList) :
    Path.isAbsolute (plainId id ++ ".json") = false := by
  rw [← slash_mem_plainId] at h
  rw [Path.isAbsolute, String.toList_append]
  cases hd : (plainId id).toList with
  | nil => decide
  | cons c rest =>
    rw [hd] at h
    have hc : c ≠ '/' := fun heq => h (heq ▸ List.mem_cons_self)
    simpa using hc

/-- Ids without slashes have the same snapshot only if they differ in dashes alone. -/
theorem path_inj {c d : String} (hc : '/' ∉ c.toList) (hd : '/' ∉ d.toList) :
    store.path c = store.path d ↔ plainId c = plainId d := by
  rw [path, path, Path.join_inj (isAbsolute_name hc) (isAbsolute_name hd)]
  simp [← String.toList_inj]

end SnapshotStore

end RecordWatch
