import RecordWatch.Json.Printer
import RecordWatch.Json.Token

/-! The text of a number. It follows the grammar of JSON numbers: whole digits without a leading
zero, a fraction and an exponent, each with at least one digit. So it is read as a word, although
not always as the same number. -/

namespace RecordWatch

/-! ### The grammar -/

/-- A run of at least one decimal digit. -/
def IsDigits (cs : List Char) : Prop := cs ≠ [] ∧ ∀ c ∈ cs, c.isDigit

/-- Digits that start with a zero only if that is all. -/
def IsWhole (cs : List Char) : Prop := IsDigits cs ∧ ∀ rest, cs = '0' :: rest → rest = []

/-- Nothing, or an exponent with a sign. -/
inductive IsExponent : List Char → Prop where
  | absent : IsExponent []
  | signed {sign : Char} {digits : List Char} (hs : sign = '+' ∨ sign = '-')
    (hd : IsDigits digits) :
    IsExponent ('e' :: sign :: digits)

/-- A numeral without a sign. -/
inductive IsUnsigned : List Char → Prop where
  | plain {whole exponent : List Char} (hw : IsWhole whole) (he : IsExponent exponent) :
    IsUnsigned (whole ++ exponent)
  | pointed {whole fraction exponent : List Char} (hw : IsWhole whole) (hf : IsDigits fraction)
    (he : IsExponent exponent) : IsUnsigned (whole ++ '.' :: (fraction ++ exponent))

/-- A numeral with a sign if it is negative. -/
def IsNumeral (cs : List Char) : Prop := IsUnsigned cs ∨ ∃ rest, cs = '-' :: rest ∧ IsUnsigned rest

theorem IsDigits.append {a b : List Char} (ha : IsDigits a) (hb : ∀ c ∈ b, c.isDigit) :
    IsDigits (a ++ b) := by
  refine ⟨List.append_ne_nil_of_left_ne_nil ha.1 b, fun c hc => ?_⟩
  rcases List.mem_append.mp hc with hc | hc
  · exact ha.2 c hc
  · exact hb c hc

/-- The characters of a numeral apart from digits. -/
theorem IsExponent.char {cs : List Char} (h : IsExponent cs) {c : Char} (hc : c ∈ cs) :
    c.isDigit ∨ c ∈ ['-', '+', '.', 'e'] := by
  cases h with
  | absent => simp at hc
  | signed hs hd =>
    rcases List.mem_cons.mp hc with rfl | hc
    · exact .inr (by simp)
    rcases List.mem_cons.mp hc with rfl | hc
    · exact .inr (by rcases hs with rfl | rfl <;> simp)
    · exact .inl (hd.2 c hc)

theorem IsUnsigned.char {cs : List Char} (h : IsUnsigned cs) {c : Char} (hc : c ∈ cs) :
    c.isDigit ∨ c ∈ ['-', '+', '.', 'e'] := by
  cases h with
  | plain hw he =>
    rcases List.mem_append.mp hc with hc | hc
    · exact .inl (hw.1.2 c hc)
    · exact he.char hc
  | pointed hw hf he =>
    rcases List.mem_append.mp hc with hc | hc
    · exact .inl (hw.1.2 c hc)
    rcases List.mem_cons.mp hc with rfl | hc
    · exact .inr (by simp)
    rcases List.mem_append.mp hc with hc | hc
    · exact .inl (hf.2 c hc)
    · exact he.char hc

theorem IsNumeral.char {cs : List Char} (h : IsNumeral cs) {c : Char} (hc : c ∈ cs) :
    c.isDigit ∨ c ∈ ['-', '+', '.', 'e'] := by
  rcases h with h | ⟨rest, rfl, h⟩
  · exact h.char hc
  rcases List.mem_cons.mp hc with rfl | hc
  · exact .inr (by simp)
  · exact h.char hc

theorem IsNumeral.ne_nil {cs : List Char} (h : IsNumeral cs) : cs ≠ [] := by
  rcases h with h | ⟨rest, rfl, -⟩
  · cases h with
    | plain hw => exact List.append_ne_nil_of_left_ne_nil hw.1.1 _
    | pointed hw => exact List.append_ne_nil_of_left_ne_nil hw.1.1 _
  · exact List.cons_ne_nil _ _

/-! ### Reading a numeral -/

theorem decimalDigit?_of_isDigit {c : Char} (h : c.isDigit) :
    decimalDigit? c = some (c.toNat - 48) := by
  simp only [Char.isDigit, ge_iff_le, Bool.and_eq_true, decide_eq_true_eq] at h
  rw [decimalDigit?, if_pos]
  exact h

/-- The leading digits of a run that something else follows are the run. -/
theorem leadingDigits_append {digits rest : List Char} (hd : ∀ c ∈ digits, c.isDigit)
    (hr : ∀ c ∈ rest.head?, c.isDigit = false) :
    leadingDigits (digits ++ rest) = (digits.map fun c => c.toNat - 48, rest) := by
  have htake : rest.takeWhile Char.isDigit = [] ∧ rest.dropWhile Char.isDigit = rest := by
    cases rest with
    | nil => exact ⟨rfl, rfl⟩
    | cons c rest =>
      have hc : c.isDigit = false := hr c rfl
      rw [List.takeWhile_cons, List.dropWhile_cons, hc]
      exact ⟨rfl, rfl⟩
  rw [leadingDigits, List.takeWhile_append_of_pos hd, List.dropWhile_append_of_pos hd, htake.1,
    htake.2, List.append_nil]
  congr 1
  induction digits with
  | nil => rfl
  | cons c digits ih =>
    rw [List.filterMap_cons, decimalDigit?_of_isDigit (hd c List.mem_cons_self), List.map_cons,
      ih fun c hc => hd c (List.mem_cons_of_mem _ hc)]

theorem IsExponent.head {cs : List Char} (h : IsExponent cs) : ∀ c ∈ cs.head?, c = 'e' := by
  cases h with
  | absent => simp
  | signed => simp

theorem IsExponent.read {cs : List Char} (h : IsExponent cs) : (Literal.exponent? cs).isSome := by
  cases h with
  | absent => rfl
  | @signed sign digits hs hd =>
    have hlead : leadingDigits digits = (digits.map fun c => c.toNat - 48, []) := by
      have hnil : ∀ c ∈ ([] : List Char).head?, c.isDigit = false := by simp
      simpa using leadingDigits_append hd.2 hnil
    obtain ⟨hne, -⟩ := hd
    cases digits with
    | nil => exact absurd rfl hne
    | cons c digits => rcases hs with rfl | rfl <;> simp [Literal.exponent?, hlead]

theorem IsWhole.lead {whole rest : List Char} (hw : IsWhole whole)
    (hr : ∀ c ∈ rest.head?, c.isDigit = false) :
    ∃ (d : Nat) (ds : List Nat), leadingDigits (whole ++ rest) = (d :: ds, rest) ∧
      (d = 0 → ds = []) := by
  obtain ⟨⟨hne, hd⟩, hz⟩ := hw
  rw [leadingDigits_append hd hr]
  cases whole with
  | nil => exact absurd rfl hne
  | cons c digits =>
    refine ⟨_, _, congrArg (Prod.mk · rest) List.map_cons, fun h0 => ?_⟩
    have hc := hd c List.mem_cons_self
    simp only [Char.isDigit, ge_iff_le, Bool.and_eq_true, decide_eq_true_eq] at hc
    have hle : 48 ≤ c.toNat := hc.1
    have hzero : c.toNat = '0'.toNat := by
      rw [show '0'.toNat = 48 from rfl]
      omega
    rw [hz digits (by rw [Char.toNat_inj.mp hzero])]
    rfl

/-- What may follow the whole digits. -/
def IsRest (rest : List Char) : Prop :=
  (∀ after, rest ≠ '.' :: after) ∧ (Literal.exponent? rest).isSome ∨
    ∃ (d : Nat) (ds : List Nat) (fraction exponent : List Char), rest = '.' :: fraction ∧
      leadingDigits fraction = (d :: ds, exponent) ∧ (Literal.exponent? exponent).isSome

/-- Whole digits and the rest make a literal, with a sign or without. -/
theorem ofChars?_isSome {cs digits rest : List Char} {d : Nat} {ds : List Nat}
    (hs : cs = '-' :: digits ∨ cs = digits ∧ ∀ rest, digits ≠ '-' :: rest)
    (hlead : leadingDigits digits = (d :: ds, rest)) (hz : d = 0 → ds = []) (hr : IsRest rest) :
    (Literal.ofChars? cs).isSome := by
  unfold Literal.ofChars?
  split
  next negative unsigned hm =>
    have hunsigned : unsigned = digits := by
      rcases hs with rfl | ⟨rfl, hs⟩
      · exact (Prod.mk.inj hm).2.symm
      · split at hm
        · exact absurd rfl (hs _)
        · exact (Prod.mk.inj hm).2.symm
    rw [hunsigned, hlead]
    split
    · next h => simp at h
    · next h =>
      obtain ⟨⟨h0, h1⟩, -⟩ := by simpa using h
      simp [hz h0] at h1
    · next whole after _ h =>
      obtain ⟨rfl, rfl⟩ := Prod.mk.inj h
      rcases hr with ⟨hr, -⟩ | ⟨d, ds, fraction, exponent, hrest, hf, he⟩
      · exact absurd rfl (hr _)
      · obtain ⟨-, rfl⟩ := List.cons.inj hrest
        simpa only [hf, Option.isSome_map] using he
    · next whole after _ hpoint h =>
      obtain ⟨rfl, rfl⟩ := Prod.mk.inj h
      rcases hr with ⟨-, he⟩ | ⟨d, ds, fraction, exponent, rfl, -⟩
      · simpa only [Option.isSome_map] using he
      · exact absurd rfl (hpoint _)

theorem IsUnsigned.read {cs : List Char} (h : IsUnsigned cs) :
    ∃ (d : Nat) (ds : List Nat) (rest : List Char), leadingDigits cs = (d :: ds, rest) ∧
      (d = 0 → ds = []) ∧ IsRest rest := by
  have hexponent : ∀ {exponent : List Char}, IsExponent exponent →
      ∀ c ∈ exponent.head?, c.isDigit = false := fun he c hc => by
    rw [he.head c hc]
    rfl
  cases h with
  | @plain whole exponent hw he =>
    obtain ⟨d, ds, hlead, hz⟩ := hw.lead (hexponent he)
    refine ⟨d, ds, exponent, hlead, hz, .inl ⟨fun after heq => ?_, he.read⟩⟩
    have := he.head '.' (by rw [heq]; rfl)
    contradiction
  | @pointed whole fraction exponent hw hf he =>
    have hpoint : ∀ c ∈ ('.' :: (fraction ++ exponent)).head?, c.isDigit = false := by
      intro c hc
      cases hc
      rfl
    obtain ⟨d, ds, hlead, hz⟩ := hw.lead hpoint
    have hfraction := leadingDigits_append hf.2 (hexponent he)
    obtain ⟨hne, -⟩ := hf
    cases fraction with
    | nil => exact absurd rfl hne
    | cons c fraction =>
      exact ⟨d, ds, _, hlead, hz, .inr ⟨_, _, _, exponent, rfl, hfraction, he.read⟩⟩

theorem IsUnsigned.head {cs : List Char} (h : IsUnsigned cs) : ∀ rest, cs ≠ '-' :: rest := by
  have hwhole : ∀ {whole after rest : List Char}, IsWhole whole → whole ++ after ≠ '-' :: rest := by
    rintro whole after rest ⟨⟨hne, hd⟩, -⟩ heq
    cases whole with
    | nil => exact absurd rfl hne
    | cons c whole =>
      have := hd c List.mem_cons_self
      rw [(List.cons.inj heq).1] at this
      contradiction
  cases h with
  | plain hw => exact fun rest => hwhole hw
  | pointed hw => exact fun rest => hwhole hw

/-- A numeral is read as a literal. -/
theorem IsNumeral.read {cs : List Char} (h : IsNumeral cs) : (Literal.ofChars? cs).isSome := by
  rcases h with h | ⟨digits, rfl, h⟩
  · obtain ⟨d, ds, rest, hlead, hz, hr⟩ := h.read
    exact ofChars?_isSome (.inr ⟨rfl, h.head⟩) hlead hz hr
  · obtain ⟨d, ds, rest, hlead, hz, hr⟩ := h.read
    exact ofChars?_isSome (.inl rfl) hlead hz hr

/-! ### Writing a numeral -/

theorem toDigits_head_zero {n : Nat} {rest : List Char} (h : Nat.toDigits 10 n = '0' :: rest) :
    n = 0 := by
  induction n using Nat.strongRecOn generalizing rest with
  | ind n ih =>
    by_cases hn : n < 10
    · rw [Nat.toDigits_of_lt_base hn] at h
      exact Nat.digitChar_eq_zero.mp (List.cons.inj h).1
    · rw [Nat.toDigits_of_base_le (by decide) (by omega)] at h
      cases hd : Nat.toDigits 10 (n / 10) with
      | nil => exact absurd hd Nat.toDigits_ne_nil
      | cons c cs =>
        rw [hd, List.cons_append] at h
        have := ih (n / 10) (by omega) (by rw [hd, (List.cons.inj h).1])
        omega

theorem isDigits_repr (n : Nat) : IsDigits n.repr.toList := by
  rw [Nat.toList_repr]
  exact ⟨Nat.toDigits_ne_nil, fun c => Nat.isDigit_of_mem_toDigits (by decide) (by decide)⟩

theorem isWhole_repr (n : Nat) : IsWhole n.repr.toList := by
  refine ⟨isDigits_repr n, fun rest h => ?_⟩
  rw [Nat.toList_repr] at h
  rw [toDigits_head_zero h, Nat.toDigits_zero] at h
  exact (List.cons.inj h).2.symm

theorem isWhole_zero : IsWhole ['0'] := isWhole_repr 0

/-- The first digits of a number are a number. -/
theorem IsWhole.take {digits : List Char} (h : IsWhole digits) {count : Nat} (hc : 0 < count) :
    IsWhole (digits.take count) := by
  obtain ⟨⟨hne, hd⟩, hz⟩ := h
  cases digits with
  | nil => exact absurd rfl hne
  | cons c digits =>
    obtain ⟨count, rfl⟩ : ∃ n, count = n + 1 := ⟨count - 1, by omega⟩
    rw [List.take_succ_cons]
    refine ⟨⟨List.cons_ne_nil _ _, fun d hm => ?_⟩, fun rest heq => ?_⟩
    · exact hd d (List.mem_of_mem_take (i := count + 1) (by rwa [List.take_succ_cons]))
    · obtain ⟨rfl, rfl⟩ := List.cons.inj heq
      rw [hz digits rfl, List.take_nil]

theorem IsWhole.append {digits more : List Char} (h : IsWhole digits) (hz : digits ≠ ['0'])
    (hm : ∀ c ∈ more, c.isDigit) : IsWhole (digits ++ more) := by
  refine ⟨h.1.append hm, fun rest heq => ?_⟩
  cases digits with
  | nil => exact absurd rfl h.1.1
  | cons c digits =>
    obtain ⟨rfl, -⟩ := List.cons.inj heq
    exact absurd (by rw [h.2 digits rfl]) hz

namespace Number

@[simp] theorem toList_zeros (count : Nat) : (zeros count).toList = List.replicate count '0' :=
  String.toList_ofList

theorem isDigit_zeros {count : Nat} {c : Char} (h : c ∈ List.replicate count '0') : c.isDigit := by
  rw [List.eq_of_mem_replicate h]
  rfl

@[simp] theorem toList_pointed (digits : String) (whole : Nat) :
    (pointed digits whole).toList =
      digits.toList.take whole ++ '.' :: digits.toList.drop whole := by
  simp [pointed]

/-- Digits around a point, with at least one on either side. -/
theorem isUnsigned_pointed {digits exponent : List Char} (h : IsWhole digits) {count : Nat}
    (hc : 0 < count) (hl : count < digits.length) (he : IsExponent exponent) :
    IsUnsigned (digits.take count ++ '.' :: (digits.drop count ++ exponent)) := by
  refine .pointed (h.take hc) ⟨?_, fun c hm => h.1.2 c (List.mem_of_mem_drop hm)⟩ he
  rw [ne_eq, List.drop_eq_nil_iff]
  omega

theorem isUnsigned_decimalText {digits : Nat} {power : Int} (h : digits ≠ 0 ∨ power = 0) :
    IsUnsigned (decimalText digits power).toList := by
  have hwhole := isWhole_repr digits
  have hlen : 0 < digits.repr.toList.length := List.length_pos_iff.mpr hwhole.1.1
  simp only [decimalText, Nat.toString_eq_repr, ← String.length_toList]
  split
  split
  · next hp =>
    have hpoint : (digits.repr ++ zeros power.toNat ++ ".0").toList =
        (digits.repr.toList ++ List.replicate power.toNat '0') ++ '.' :: (['0'] ++ []) := by
      simp
    rw [hpoint]
    refine .pointed ?_ isWhole_zero.1 .absent
    rcases h with h | rfl
    · refine hwhole.append (fun heq => h ?_) fun c => isDigit_zeros
      rw [Nat.toList_repr] at heq
      exact toDigits_head_zero heq
    · simpa using hwhole
  split
  · next hp hf =>
    generalize hc : (power + digits.repr.toList.length - 1).toNat + 1 = count
    have := isUnsigned_pointed hwhole (show 0 < count by omega) (by omega) .absent
    simpa using this
  · next hp hf =>
    generalize (-(power + digits.repr.toList.length - 1) - 1).toNat = count
    have hf : IsDigits (List.replicate count '0' ++ digits.repr.toList) := by
      refine ⟨by simp, fun c hm => ?_⟩
      rcases List.mem_append.mp hm with hm | hm
      · exact isDigit_zeros hm
      · exact hwhole.1.2 c hm
    simpa using IsUnsigned.pointed isWhole_zero hf .absent
  · generalize power + digits.repr.toList.length - 1 = first
    have he : IsExponent ('e' :: (if 0 ≤ first then '+' else '-') :: first.natAbs.repr.toList) :=
      .signed (by split <;> simp) (isDigits_repr _)
    have hsign : (if 0 ≤ first then "+" else "-").toList = [if 0 ≤ first then '+' else '-'] := by
      split <;> rfl
    split
    · have := IsUnsigned.plain hwhole he
      simpa [hsign] using this
    · have := isUnsigned_pointed hwhole (show 0 < 1 by omega) (by omega) he
      simpa [hsign] using this

end Number

/-! ### The shortest digits -/

namespace Double

theorem significand_pos {x : Double} (hx : x.magnitude ≠ 0) : 0 < x.significand := by
  have : 0 < normal := by decide
  rw [significand]
  split <;> omega

/-- Zero rounds to no other double. -/
theorem interval_low_pos {x : Double} (hx : x.magnitude ≠ 0) : 0 < x.interval.low := by
  have hstep : 0 < Nat.pow 2 x.power := Nat.pow_pos (by decide)
  have hunits : Nat.pow 2 x.power ≤ x.units := Nat.le_mul_of_pos_left _ (significand_pos hx)
  simp only [interval]
  split <;> omega

theorem onGrid_ne_zero {x : Double} (hx : x.magnitude ≠ 0) {power : Int} {digits : Nat}
    (h : onGrid x.interval power = some digits) : digits ≠ 0 := by
  unfold onGrid at h
  extract_lets up unit inside floor lower upper at h
  have hlow : 0 < x.interval.low * up := Nat.mul_pos (interval_low_pos hx) (Nat.pow_pos (by decide))
  have hinside : ∀ c, inside c = true → c ≠ 0 := by
    rintro c hc rfl
    simp only [inside, Nat.zero_mul] at hc
    split at hc
    · simp only [Bool.and_eq_true, decide_eq_true_eq] at hc
      omega
    · simp only [Bool.and_eq_true, decide_eq_true_eq] at hc
      omega
  split at h
  · next hboth =>
    have := hinside floor (Bool.and_eq_true_iff.mp hboth).1
    split at h
    · rwa [← Option.some.inj h]
    split at h
    · rw [← Option.some.inj h]
      exact Nat.succ_ne_zero floor
    · rw [← Option.some.inj h]
      exact Nat.ne_of_gt (Nat.add_pos_left (Nat.pos_of_ne_zero this) _)
  split at h
  · next hfloor =>
    rw [← Option.some.inj h]
    exact hinside floor hfloor
  split at h
  · rw [← Option.some.inj h]
    exact Nat.succ_ne_zero floor
  · simp at h

theorem dropZeros_ne_zero {digits : Nat} {power : Int} (h : digits ≠ 0) :
    (dropZeros digits power).1 ≠ 0 := by
  fun_induction dropZeros digits power with
  | case1 digits power hd ih => exact ih (by omega)
  | case2 digits power hd => exact h

/-- A double that is not zero has digits, or none that are followed by zeros. -/
theorem shortest_ne_zero (x : Double) : x.shortest.1 ≠ 0 ∨ x.shortest.2 = 0 := by
  rw [shortest]
  split
  · exact .inr rfl
  · next hx =>
    dsimp only
    generalize hf : List.findSome? _ (List.range 17) = found
    cases found with
    | none =>
      rw [Option.getD_none, dropZeros]
      exact .inr rfl
    | some found =>
      refine .inl (dropZeros_ne_zero ?_)
      obtain ⟨n, -, hn⟩ := List.exists_of_findSome?_eq_some hf
      obtain ⟨digits, hd, rfl⟩ := Option.map_eq_some_iff.mp hn
      exact onGrid_ne_zero hx hd

end Double

/-! ### The text of a number -/

namespace Number

theorem isUnsigned_unsigned (x : Double) :
    IsUnsigned (if x.magnitude = 0 then "0.0"
      else decimalText x.shortest.1 x.shortest.2).toList := by
  split
  · exact .pointed isWhole_zero isWhole_zero.1 .absent
  · exact isUnsigned_decimalText x.shortest_ne_zero

/-- The text of a number is a numeral. -/
theorem isNumeral_text (n : Number) : IsNumeral n.text.toList := by
  cases n with
  | integer i =>
    rw [text, Int.toString_eq_repr, Int.repr_eq_if]
    have h : ∀ n : Nat, IsUnsigned n.repr.toList := fun n => by
      simpa using IsUnsigned.plain (isWhole_repr n) .absent
    split
    · exact .inl (h _)
    · refine .inr ⟨_, ?_, h (-i).toNat⟩
      rw [String.toList_append]
      rfl
  | double x =>
    have h := isUnsigned_unsigned x
    rw [text, doubleText]
    split
    · refine .inr ⟨_, ?_, h⟩
      rw [String.toList_append]
      rfl
    · exact .inl h

/-- The draft that the text of a number is read as. -/
def redraft (n : Number) : Draft := (Draft.ofWord? n.text.toList).getD .unreadable

theorem ofWord?_text (n : Number) : Draft.ofWord? n.text.toList = some n.redraft := by
  have h : (Draft.ofWord? n.text.toList).isSome := by
    rw [Draft.ofWord?]
    split
    · rfl
    split
    · rfl
    split
    · rfl
    · rw [Option.isSome_map]
      exact n.isNumeral_text.read
  rw [redraft]
  exact (Option.some_get h).symm.trans (by rw [Option.get_eq_getD])

end Number

end RecordWatch
