import RecordWatch.Fields

/-! Fields as finite maps. `put` binds one name and leaves the others as they are, `ofList` keeps
the last binding of each name, and both keep names in strictly ascending order; sorted fields with
the same bindings are the same list. -/

namespace RecordWatch.Fields

variable {α β : Type}

/-- The names ascend strictly, so each of them occurs once. -/
def Sorted (fields : Fields α) : Prop := fields.Pairwise fun a b => a.1 < b.1

@[simp] theorem get?_nil (key : String) : get? ([] : Fields α) key = none := rfl

theorem get?_cons (name : String) (value : α) (rest : Fields α) (key : String) :
    get? ((name, value) :: rest) key = if name = key then some value else get? rest key := by
  simp only [get?, List.lookup_cons]
  by_cases h : name = key
  · subst h
    simp
  · have hk : (key == name) = false := by simpa using Ne.symm h
    rw [if_neg h, hk]

theorem get?_put (fields : Fields α) (name : String) (value : α) (key : String) :
    (put name value fields).get? key = if name = key then some value else fields.get? key := by
  induction fields with
  | nil => exact get?_cons name value [] key
  | cons entry rest ih =>
    obtain ⟨other, old⟩ := entry
    rw [put]
    split
    · rw [get?_cons]
    split
    · next heq =>
      subst heq
      rw [get?_cons, get?_cons]
      split <;> rfl
    · next hne =>
      rw [get?_cons, ih, get?_cons]
      by_cases h : other = key
      · rw [if_pos h, if_neg (fun hk => hne (hk.trans h.symm)), if_pos h]
      · rw [if_neg h, if_neg h]

theorem get?_put_self (fields : Fields α) (name : String) (value : α) :
    (put name value fields).get? name = some value := by
  rw [get?_put, if_pos rfl]

theorem get?_put_ne {name key : String} (h : name ≠ key) (fields : Fields α) (value : α) :
    (put name value fields).get? key = fields.get? key := by
  rw [get?_put, if_neg h]

theorem get?_eq_some_mem {fields : Fields α} {key : String} {value : α}
    (h : fields.get? key = some value) : (key, value) ∈ fields := by
  induction fields with
  | nil => simp at h
  | cons entry rest ih =>
    obtain ⟨name, other⟩ := entry
    rw [get?_cons] at h
    split at h
    · next heq =>
      cases h
      subst heq
      exact List.mem_cons_self
    · exact List.mem_cons_of_mem _ (ih h)

/-! ### Lists of bindings -/

theorem get?_foldl_put (bindings : List (String × α)) (fields : Fields α) (key : String) :
    (bindings.foldl (fun fields (name, value) => put name value fields) fields).get? key =
      (bindings.reverse.lookup key).or (fields.get? key) := by
  induction bindings generalizing fields with
  | nil => rfl
  | cons binding rest ih =>
    obtain ⟨name, value⟩ := binding
    have hlast : List.lookup key [(name, value)] = if name = key then some value else none :=
      get?_cons name value [] key
    rw [List.foldl_cons, ih, List.reverse_cons, List.lookup_append, get?_put, Option.or_assoc,
      hlast]
    split <;> rfl

theorem get?_ofList (bindings : List (String × α)) (key : String) :
    (ofList bindings).get? key = bindings.reverse.lookup key := by
  rw [ofList, get?_foldl_put, get?_nil, Option.or_none]

/-- Bindings that agree with a partial function read as that function on the names bound. -/
theorem get?_ofList_of_agrees {bindings : List (String × α)} {f : String → Option α}
    (h : ∀ binding ∈ bindings, f binding.1 = some binding.2) (key : String) :
    (ofList bindings).get? key = if key ∈ bindings.map Prod.fst then f key else none := by
  rw [get?_ofList]
  cases hl : bindings.reverse.lookup key with
  | none =>
    rw [List.lookup_eq_none_iff] at hl
    rw [if_neg]
    rintro hk
    obtain ⟨binding, hb, rfl⟩ := List.mem_map.mp hk
    simpa using hl binding (List.mem_reverse.mpr hb)
  | some value =>
    have hb : (key, value) ∈ bindings := List.mem_reverse.mp (get?_eq_some_mem hl)
    rw [if_pos (List.mem_map.mpr ⟨_, hb, rfl⟩)]
    exact (h _ hb).symm

/-! ### Order -/

theorem mem_put {fields : Fields α} {name : String} {value : α} {entry : String × α}
    (h : entry ∈ put name value fields) : entry = (name, value) ∨ entry ∈ fields := by
  induction fields with
  | nil => exact .inl (by simpa [put] using h)
  | cons first rest ih =>
    obtain ⟨other, old⟩ := first
    rw [put] at h
    split at h
    · exact List.mem_cons.mp h
    split at h
    · rcases List.mem_cons.mp h with rfl | hr
      · exact .inl rfl
      · exact .inr (List.mem_cons_of_mem _ hr)
    · rcases List.mem_cons.mp h with rfl | hr
      · exact .inr List.mem_cons_self
      · exact (ih hr).imp_right (List.mem_cons_of_mem _)

theorem Sorted.put {fields : Fields α} (h : fields.Sorted) (name : String) (value : α) :
    (put name value fields).Sorted := by
  induction fields with
  | nil => exact List.pairwise_singleton _ _
  | cons entry rest ih =>
    obtain ⟨other, old⟩ := entry
    obtain ⟨hother, hrest⟩ := List.pairwise_cons.mp h
    rw [Fields.put]
    split
    · next hlt =>
      refine List.pairwise_cons.mpr ⟨fun later hl => ?_, h⟩
      rcases List.mem_cons.mp hl with rfl | hl
      · exact hlt
      · exact String.lt_trans hlt (hother later hl)
    split
    · next heq =>
      subst heq
      exact List.pairwise_cons.mpr ⟨hother, hrest⟩
    · next hnlt hne =>
      have hgt : other < name := String.not_le.mp fun hle =>
        hne (String.le_antisymm hle (String.not_lt.mp hnlt))
      refine List.pairwise_cons.mpr ⟨fun later hl => ?_, ih hrest⟩
      rcases mem_put hl with rfl | hl
      · exact hgt
      · exact hother later hl

/-- A binding whose name comes before all others is put at the beginning. -/
theorem put_cons {fields : Fields α} {name : String} (value : α)
    (h : ∀ entry ∈ fields, name < entry.1) : put name value fields = (name, value) :: fields := by
  cases fields with
  | nil => rfl
  | cons entry rest => exact if_pos (h entry List.mem_cons_self)

/-- Among the bindings of some names, one that is put is put in its place, if its name is one of
them. -/
theorem filter_put {fields : Fields α} (h : fields.Sorted) (p : String → Bool) (name : String)
    (value : α) :
    (put name value fields).filter (fun entry => p entry.1) =
      if p name then put name value (fields.filter fun entry => p entry.1)
      else fields.filter fun entry => p entry.1 := by
  induction fields with
  | nil => exact List.filter_cons
  | cons entry rest ih =>
    obtain ⟨other, old⟩ := entry
    obtain ⟨hother, hrest⟩ := List.pairwise_cons.mp h
    rw [put]
    split
    · next hlt =>
      have hfirst : ∀ entry ∈ ((other, old) :: rest).filter fun entry => p entry.1,
          name < entry.1 := by
        intro entry he
        rcases List.mem_cons.mp (List.mem_filter.mp he).1 with rfl | hr
        · exact hlt
        · exact String.lt_trans hlt (hother entry hr)
      rw [List.filter_cons, put_cons value hfirst]
    split
    · next heq =>
      subst heq
      rw [List.filter_cons, List.filter_cons]
      dsimp only
      split
      · rw [put, if_neg (String.lt_irrefl name), if_pos rfl]
      · rfl
    · next hnlt hne =>
      rw [List.filter_cons, List.filter_cons, ih hrest]
      dsimp only
      by_cases hp : p other = true
      · rw [if_pos hp, if_pos hp]
        split
        · rw [put, if_neg hnlt, if_neg hne]
        · rfl
      · rw [if_neg hp, if_neg hp]

theorem sorted_foldl_put (bindings : List (String × α)) {fields : Fields α} (h : fields.Sorted) :
    (bindings.foldl (fun fields (name, value) => put name value fields) fields).Sorted := by
  induction bindings generalizing fields with
  | nil => exact h
  | cons binding rest ih => exact ih (h.put _ _)

theorem sorted_ofList (bindings : List (String × α)) : (ofList bindings).Sorted :=
  sorted_foldl_put bindings List.Pairwise.nil

/-- Every entry is one of the bindings. -/
theorem mem_ofList {bindings : List (String × α)} {entry : String × α}
    (h : entry ∈ ofList bindings) : entry ∈ bindings := by
  rw [ofList] at h
  suffices hfold : ∀ fields : Fields α,
      entry ∈ bindings.foldl (fun fields (name, value) => fields.put name value) fields →
        entry ∈ fields ∨ entry ∈ bindings from
    (hfold [] h).resolve_left List.not_mem_nil
  clear h
  induction bindings with
  | nil => exact fun _ h => .inl h
  | cons binding rest ih =>
    intro fields h
    rcases ih _ h with hput | hrest
    · rcases mem_put hput with rfl | hfields
      · exact .inr List.mem_cons_self
      · exact .inl hfields
    · exact .inr (List.mem_cons_of_mem _ hrest)

/-- A binding whose name comes after all others is put at the end. -/
theorem put_append {fields : Fields α} {name : String} (value : α)
    (h : ∀ entry ∈ fields, entry.1 < name) :
    put name value fields = fields ++ [(name, value)] := by
  induction fields with
  | nil => rfl
  | cons entry rest ih =>
    obtain ⟨other, old⟩ := entry
    have hlt : other < name := h _ List.mem_cons_self
    rw [put, if_neg (String.lt_asymm hlt), if_neg (fun heq => String.ne_of_lt hlt heq.symm),
      ih fun entry he => h entry (List.mem_cons_of_mem _ he), List.cons_append]

theorem foldl_put_of_sorted {bindings : List (String × α)} {fields : Fields α}
    (h : Sorted (fields ++ bindings)) :
    bindings.foldl (fun fields (name, value) => put name value fields) fields =
      fields ++ bindings := by
  induction bindings generalizing fields with
  | nil => rw [List.append_nil]; rfl
  | cons binding rest ih =>
    obtain ⟨name, value⟩ := binding
    have hlt : ∀ entry ∈ fields, entry.1 < name := fun entry he =>
      (List.pairwise_append.mp h).2.2 entry he (name, value) List.mem_cons_self
    rw [List.foldl_cons]
    show List.foldl _ (put name value fields) rest = _
    rw [put_append value hlt, ih, List.append_assoc, List.singleton_append]
    rwa [List.append_assoc, List.singleton_append]

/-- Sorted bindings are sorted fields already. -/
theorem ofList_of_sorted {bindings : List (String × α)} (h : Sorted bindings) :
    ofList bindings = bindings := by
  rw [ofList, foldl_put_of_sorted (by simpa using h), List.nil_append]

end RecordWatch.Fields
