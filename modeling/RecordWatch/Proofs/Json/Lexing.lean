import RecordWatch.Proofs.Json.Numeral

/-! The tokens of printed text. A word is a token only once the character after it is known, so the
text of a value leaves the lexer settled: it stands in a gap, or in a word that ends with the next
blank or mark. Texts that begin with a blank or a mark go on from any settled lexer. -/

namespace RecordWatch

namespace Json

mutual

/-- The tokens that the text of a value spells. -/
def tokens : Json → List Token
  | .null => [.word .null]
  | .bool b => [.word (.bool b)]
  | .number n => [.word n.redraft]
  | .string s => [.text (some s)]
  | .array items => [.openArray] ++ itemTokens items ++ [.closeArray]
  | .object fields => [.openObject] ++ fieldTokens fields ++ [.closeObject]

/-- The tokens of the items of an array. -/
def itemTokens : List Json → List Token
  | [] => []
  | [item] => tokens item
  | item :: next :: rest => tokens item ++ ([.comma] ++ itemTokens (next :: rest))

/-- The tokens of the fields of an object. -/
def fieldTokens : List (String × Json) → List Token
  | [] => []
  | [(name, value)] => [.text (some name)] ++ ([.colon] ++ tokens value)
  | (name, value) :: next :: rest =>
    [.text (some name)] ++ ([.colon] ++ tokens value) ++ ([.comma] ++ fieldTokens (next :: rest))

end

end Json

namespace Lexer

/-- A character of a word. -/
def IsPlain (c : Char) : Prop := isBlank c = false ∧ c ≠ '"' ∧ mark? c = none

instance (c : Char) : Decidable (IsPlain c) := inferInstanceAs (Decidable (_ ∧ _ ∧ _))

/-- A character that ends a word and is no part of a string. -/
def Delimits (c : Char) : Prop := isBlank c = true ∨ (mark? c).isSome = true

/-- Outside strings, with a word at most begun; once it has ended these are the tokens. -/
inductive Settled : Lexer → List Token → Prop where
  | gap (tokens : List Token) : Settled ⟨tokens, .gap⟩ tokens
  | word {chars : List Char} {draft : Draft} (tokens : List Token)
    (h : Draft.ofWord? chars.reverse = some draft) :
    Settled ⟨tokens, .word chars⟩ (.word draft :: tokens)

namespace Settled

variable {lexer : Lexer} {tokens : List Token}

theorem finish (h : Settled lexer tokens) : lexer.finish = some tokens := by
  cases h with
  | gap => rfl
  | word tokens h =>
    rw [Lexer.finish]
    dsimp only
    rw [h, Option.map_some]

theorem step (h : Settled lexer tokens) {c : Char} (hc : Delimits c) :
    lexer.step c = some (outside tokens c) := by
  cases h with
  | gap => rfl
  | word tokens h =>
    have hend : (isBlank c || decide (c = '"') || (mark? c).isSome) = true := by
      rcases hc with hc | hc <;> simp [hc]
    rw [Lexer.step]
    dsimp only
    rw [if_pos hend, h, Option.map_some]

end Settled

end Lexer

/-! ### Texts -/

/-- A text that spells tokens when it starts in a gap. -/
def Spells (text : String) (tokens : List Token) : Prop :=
  ∀ before, ∃ lexer, text.toList.foldlM Lexer.step ⟨before, .gap⟩ = some lexer ∧
    Lexer.Settled lexer (tokens.reverse ++ before)

/-- A text that spells tokens after any settled lexer. -/
def Continues (text : String) (tokens : List Token) : Prop :=
  ∀ start before, Lexer.Settled start before →
    ∃ lexer, text.toList.foldlM Lexer.step start = some lexer ∧
      Lexer.Settled lexer (tokens.reverse ++ before)

/-- A text that spells tokens after any settled lexer and ends in a gap. -/
def Punctuates (text : String) (tokens : List Token) : Prop :=
  ∀ start before, Lexer.Settled start before →
    text.toList.foldlM Lexer.step start = some ⟨tokens.reverse ++ before, .gap⟩

section

variable {text more : String} {tokens others : List Token}

theorem Continues.spells (h : Continues text tokens) : Spells text tokens :=
  fun before => h _ before (.gap before)

theorem Punctuates.continues (h : Punctuates text tokens) : Continues text tokens :=
  fun start before hs => ⟨_, h start before hs, .gap _⟩

theorem Continues.append (h : Continues text tokens) (hm : Continues more others) :
    Continues (text ++ more) (tokens ++ others) := by
  intro start before hs
  obtain ⟨middle, hrun, hmiddle⟩ := h start before hs
  obtain ⟨lexer, hmore, hl⟩ := hm middle _ hmiddle
  refine ⟨lexer, ?_, ?_⟩
  · rw [String.toList_append, List.foldlM_append, hrun]
    exact hmore
  · rwa [List.reverse_append, List.append_assoc]

theorem Punctuates.append (h : Punctuates text tokens) (hm : Punctuates more others) :
    Punctuates (text ++ more) (tokens ++ others) := by
  intro start before hs
  rw [String.toList_append, List.foldlM_append, h start before hs, List.reverse_append,
    List.append_assoc]
  exact hm _ _ (.gap _)

theorem Punctuates.spells (h : Punctuates text tokens) (hm : Spells more others) :
    Continues (text ++ more) (tokens ++ others) := by
  intro start before hs
  obtain ⟨lexer, hmore, hl⟩ := hm (tokens.reverse ++ before)
  refine ⟨lexer, ?_, ?_⟩
  · rw [String.toList_append, List.foldlM_append, h start before hs]
    exact hmore
  · rwa [List.reverse_append, List.append_assoc]

/-- A text that spells tokens has them. -/
theorem Spells.ofText? (h : Spells text tokens) : Token.ofText? text = some tokens := by
  obtain ⟨lexer, hrun, hl⟩ := h []
  rw [Token.ofText?, hrun]
  show (lexer.finish.bind fun t => some t.reverse) = _
  rw [hl.finish, List.append_nil, Option.bind_some, List.reverse_reverse]

end

/-! ### Marks and blanks -/

theorem blanks_gap {cs : List Char} (h : ∀ c ∈ cs, Lexer.isBlank c = true) (before : List Token) :
    cs.foldlM Lexer.step ⟨before, .gap⟩ = some ⟨before, .gap⟩ := by
  induction cs with
  | nil => rfl
  | cons c cs ih =>
    rw [List.foldlM_cons, Lexer.Settled.step (.gap before) (.inl (h c List.mem_cons_self)),
      Lexer.outside, if_pos (h c List.mem_cons_self)]
    exact ih fun c hc => h c (List.mem_cons_of_mem _ hc)

theorem punctuates_blanks {text : String} {c : Char} {cs : List Char} (ht : text.toList = c :: cs)
    (h : ∀ c ∈ text.toList, Lexer.isBlank c = true) : Punctuates text [] := by
  intro start before hs
  rw [ht] at h ⊢
  rw [List.foldlM_cons, hs.step (.inl (h c List.mem_cons_self)), Lexer.outside,
    if_pos (h c List.mem_cons_self)]
  exact blanks_gap (fun c hc => h c (List.mem_cons_of_mem _ hc)) before

theorem punctuates_mark {text : String} {c : Char} {token : Token} (ht : text.toList = [c])
    (hb : Lexer.isBlank c = false) (hq : c ≠ '"') (h : Lexer.mark? c = some token) :
    Punctuates text [token] := by
  intro start before hs
  rw [ht, List.foldlM_cons, hs.step (.inr (by rw [h]; rfl)), Lexer.outside,
    if_neg (by rw [hb]; decide), if_neg hq, h]
  rfl

theorem punctuates_newline (depth : Nat) : Punctuates (Json.newline depth) [] := by
  have ht : (Json.newline depth).toList = '\n' :: List.replicate (2 * depth) ' ' := by
    simp [Json.newline]
  refine punctuates_blanks ht fun c hc => ?_
  rw [ht] at hc
  rcases List.mem_cons.mp hc with rfl | hc
  · rfl
  · rw [List.eq_of_mem_replicate hc]
    rfl

theorem punctuates_comma : Punctuates "," [.comma] := punctuates_mark rfl rfl (by decide) rfl

theorem punctuates_colon : Punctuates ": " [.colon] :=
  have hmark : Punctuates ":" [.colon] := punctuates_mark rfl rfl (by decide) rfl
  have hblank : Punctuates " " [] := punctuates_blanks rfl (List.all_eq_true.mp rfl)
  hmark.append hblank

/-! ### Words and strings -/

theorem word_more {cs : List Char} (h : ∀ c ∈ cs, Lexer.IsPlain c) (before : List Token)
    (chars : List Char) :
    cs.foldlM Lexer.step ⟨before, .word chars⟩ = some ⟨before, .word (cs.reverse ++ chars)⟩ := by
  induction cs generalizing chars with
  | nil => rfl
  | cons c cs ih =>
    obtain ⟨hb, hq, hm⟩ := h c List.mem_cons_self
    have hstep : Lexer.step ⟨before, .word chars⟩ c = some ⟨before, .word (c :: chars)⟩ := by
      simp [Lexer.step, hb, hq, hm]
    rw [List.foldlM_cons, hstep]
    show cs.foldlM Lexer.step ⟨before, .word (c :: chars)⟩ = _
    rw [ih fun c hc => h c (List.mem_cons_of_mem _ hc), List.reverse_cons, List.append_assoc]
    rfl

/-- A text of plain characters is one word. -/
theorem spells_word {text : String} {draft : Draft} (hne : text.toList ≠ [])
    (h : text.toList.all (Lexer.IsPlain ·)) (hd : Draft.ofWord? text.toList = some draft) :
    Spells text [.word draft] := by
  intro before
  replace h := fun c hc => of_decide_eq_true (List.all_eq_true.mp h c hc)
  cases ht : text.toList with
  | nil => exact absurd ht hne
  | cons c cs =>
    rw [ht] at h hd
    obtain ⟨hb, hq, hm⟩ := h c List.mem_cons_self
    have hstep : Lexer.step ⟨before, .gap⟩ c = some ⟨before, .word [c]⟩ := by
      simp [Lexer.step, Lexer.outside, hb, hq, hm]
    refine ⟨⟨before, .word (cs.reverse ++ [c])⟩, ?_, ?_⟩
    · rw [List.foldlM_cons, hstep]
      exact word_more (fun c hc => h c (List.mem_cons_of_mem _ hc)) before [c]
    · refine .word before ?_
      rw [List.reverse_append, List.reverse_reverse]
      exact hd

theorem isPlain_of_isDigit {c : Char} (h : c.isDigit) : Lexer.IsPlain c := by
  refine ⟨?_, ?_, ?_⟩
  · cases hb : Lexer.isBlank c with
    | false => rfl
    | true =>
      simp only [Lexer.isBlank, Bool.or_eq_true, decide_eq_true_eq] at hb
      rcases hb with ((rfl | rfl) | rfl) | rfl <;> exact absurd h (by decide)
  · rintro rfl
    exact absurd h (by decide)
  · cases hm : Lexer.mark? c with
    | none => rfl
    | some token =>
      unfold Lexer.mark? at hm
      split at hm <;> first
        | exact absurd h (by decide)
        | cases hm

theorem spells_number (n : Number) : Spells n.text [.word n.redraft] := by
  refine spells_word n.isNumeral_text.ne_nil
    (List.all_eq_true.mpr fun c hc => decide_eq_true ?_) n.ofWord?_text
  rcases n.isNumeral_text.char hc with h | h
  · exact isPlain_of_isDigit h
  · simp only [List.mem_cons, List.not_mem_nil, or_false] at h
    rcases h with rfl | rfl | rfl | rfl <;> exact ⟨rfl, by decide, rfl⟩

theorem pushUnit_of_lt (spelling : Spelling) {unit : Nat} (h : unit < 0xd800) :
    spelling.pushUnit unit = spelling.push (Char.ofNat unit) := by
  rw [Spelling.pushUnit, if_neg (by omega), if_neg (by omega)]

theorem spells_null : Spells "null" [.word .null] := spells_word (by decide) (by decide) rfl

theorem spells_true : Spells "true" [.word (.bool true)] :=
  spells_word (by decide) (by decide) rfl

theorem spells_false : Spells "false" [.word (.bool false)] :=
  spells_word (by decide) (by decide) rfl

theorem hexadecimalDigit?_hexDigit {n : Nat} (h : n < 16) :
    hexadecimalDigit? (Json.hexDigit n) = some n := by
  revert n
  decide

/-- The written form of a character is read as that character. -/
theorem escaped_read (c : Char) (before : List Token) (chars : List Char) :
    (Json.escaped c).toList.foldlM Lexer.step ⟨before, .text ⟨chars, none, true⟩⟩ =
      some ⟨before, .text ⟨c :: chars, none, true⟩⟩ := by
  rw [Json.escaped]
  split
  · next h => rw [h]; rfl
  split
  · next h => rw [h]; rfl
  split
  · next h => rw [h]; rfl
  split
  · next h => rw [h]; rfl
  split
  · next h => rw [h]; rfl
  split
  · next h => rw [h]; rfl
  split
  · next h => rw [h]; rfl
  split
  · next h =>
    have h1 := hexadecimalDigit?_hexDigit (show c.toNat / 16 < 16 by omega)
    have h2 := hexadecimalDigit?_hexDigit (show c.toNat % 16 < 16 by omega)
    have hprefix : "\\u00".toList.foldlM Lexer.step ⟨before, .text ⟨chars, none, true⟩⟩ =
        some ⟨before, .unit ⟨chars, none, true⟩ 0 1⟩ := rfl
    have hvalue : c.toNat / 16 * 16 + c.toNat % 16 = c.toNat := by omega
    rw [String.toList_append, List.foldlM_append, hprefix, String.toList_ofList]
    simp [Lexer.step, h1, h2, hvalue, pushUnit_of_lt _ (show c.toNat < 0xd800 by omega),
      Spelling.push]
  · next hq hb _ _ _ _ _ h =>
    rw [String.toList_singleton, List.foldlM_cons]
    simp [Lexer.step, hq, hb, h, Spelling.push]

theorem escaped_read_all (cs : List Char) (before : List Token) (chars : List Char) :
    (cs.flatMap fun c => (Json.escaped c).toList).foldlM Lexer.step
        ⟨before, .text ⟨chars, none, true⟩⟩ =
      some ⟨before, .text ⟨cs.reverse ++ chars, none, true⟩⟩ := by
  induction cs generalizing chars with
  | nil => rfl
  | cons c cs ih =>
    rw [List.flatMap_cons, List.foldlM_append, escaped_read]
    show (cs.flatMap _).foldlM Lexer.step ⟨before, .text ⟨c :: chars, none, true⟩⟩ = _
    rw [ih, List.reverse_cons, List.append_assoc]
    rfl

theorem toList_quoted (s : String) :
    (Json.quoted s).toList =
      '"' :: (s.toList.flatMap fun c => (Json.escaped c).toList) ++ ['"'] := by
  have h : ∀ (cs : List Char) (start : String),
      (cs.foldl (fun text c => text ++ Json.escaped c) start).toList =
        start.toList ++ cs.flatMap fun c => (Json.escaped c).toList := by
    intro cs
    induction cs with
    | nil => simp
    | cons c cs ih =>
      intro start
      rw [List.foldl_cons, ih, String.toList_append, List.flatMap_cons, List.append_assoc]
  rw [Json.quoted, String.foldl_eq_foldl_toList, String.toList_append, h]
  rfl

theorem spells_quoted (s : String) : Spells (Json.quoted s) [.text (some s)] := by
  intro before
  refine ⟨⟨.text (some s) :: before, .gap⟩, ?_, .gap _⟩
  rw [toList_quoted, List.cons_append, List.foldlM_cons]
  show (s.toList.flatMap (fun c => (Json.escaped c).toList) ++ ['"']).foldlM Lexer.step
    ⟨before, .text ⟨[], none, true⟩⟩ = _
  rw [List.foldlM_append, escaped_read_all]
  show some (Lexer.mk
    (.text (some (String.ofList (s.toList.reverse ++ []).reverse)) :: before) .gap) = _
  rw [List.append_nil, List.reverse_reverse, String.ofList_toList]

/-! ### Values -/

/-- A line with a value on it. -/
theorem continues_line {text : String} {tokens : List Token} (depth : Nat)
    (h : Spells text tokens) : Continues (Json.newline depth ++ text) tokens :=
  (punctuates_newline depth).spells h

/-- A line with a field on it. -/
theorem continues_field {text : String} {tokens : List Token} (depth : Nat) (name : String)
    (h : Spells text tokens) : Continues (Json.newline depth ++ Json.quoted name ++ ": " ++ text)
      ([.text (some name)] ++ ([.colon] ++ tokens)) := by
  rw [String.append_assoc]
  exact (continues_line depth (spells_quoted name)).append (punctuates_colon.spells h)

/-- The lines of a container between its marks. -/
theorem spells_container {first last text : String} {opening closing : Token} {tokens : List Token}
    (depth : Nat) (hf : Punctuates first [opening]) (h : Continues text tokens)
    (hl : Punctuates last [closing]) :
    Spells (first ++ text ++ Json.newline depth ++ last) ([opening] ++ tokens ++ [closing]) := by
  have hlast := continues_line depth hl.continues.spells
  have := ((hf.continues.append h).append hlast).spells
  rwa [← String.append_assoc] at this

theorem punctuates_openArray : Punctuates "[" [.openArray] :=
  punctuates_mark rfl rfl (by decide) rfl

theorem punctuates_closeArray : Punctuates "]" [.closeArray] :=
  punctuates_mark rfl rfl (by decide) rfl

theorem punctuates_openObject : Punctuates "\x7b" [.openObject] :=
  punctuates_mark rfl rfl (by decide) rfl

theorem punctuates_closeObject : Punctuates "\x7d" [.closeObject] :=
  punctuates_mark rfl rfl (by decide) rfl

mutual

/-- The pretty text of a value spells its tokens. -/
theorem spells_prettyAt (depth : Nat) : (value : Json) →
    Spells (value.prettyAt depth) value.tokens
  | .null => spells_null
  | .bool true => spells_true
  | .bool false => spells_false
  | .number n => spells_number n
  | .string s => spells_quoted s
  | .array [] => (punctuates_openArray.append punctuates_closeArray).continues.spells
  | .array (item :: rest) =>
    spells_container depth punctuates_openArray (continues_prettyItems (depth + 1) (item :: rest)
      (List.cons_ne_nil _ _))
      punctuates_closeArray
  | .object [] => (punctuates_openObject.append punctuates_closeObject).continues.spells
  | .object (field :: rest) =>
    spells_container depth punctuates_openObject (continues_prettyFields (depth + 1) (field :: rest)
      (List.cons_ne_nil _ _))
      punctuates_closeObject

theorem continues_prettyItems (depth : Nat) : (items : List Json) → items ≠ [] →
    Continues (Json.prettyItems depth items) (Json.itemTokens items)
  | [], h => absurd rfl h
  | [item], _ => continues_line depth (spells_prettyAt depth item)
  | item :: next :: rest, _ => by
    rw [Json.prettyItems, Json.itemTokens, String.append_assoc]
    exact (continues_line depth (spells_prettyAt depth item)).append
      (punctuates_comma.continues.append
        (continues_prettyItems depth (next :: rest) (List.cons_ne_nil _ _)))

theorem continues_prettyFields (depth : Nat) : (fields : List (String × Json)) → fields ≠ [] →
    Continues (Json.prettyFields depth fields) (Json.fieldTokens fields)
  | [], h => absurd rfl h
  | [(name, value)], _ => continues_field depth name (spells_prettyAt depth value)
  | (name, value) :: next :: rest, _ => by
    rw [Json.prettyFields, Json.fieldTokens, String.append_assoc]
    exact (continues_field depth name (spells_prettyAt depth value)).append
      (punctuates_comma.continues.append
        (continues_prettyFields depth (next :: rest) (List.cons_ne_nil _ _)))

end

/-- The tokens of the pretty text of a value. -/
theorem Token.ofText?_pretty (value : Json) : Token.ofText? value.pretty = some value.tokens :=
  (spells_prettyAt 0 value).ofText?

end RecordWatch
