import Mathlib.Data.List.Forall2
import WirelessScan.Json.Numbers

/-!
# Written values are read back

A reader that is given the written form of a value finds the value and stops where the written form
ends (`Reads`). This holds in both layouts and at every depth, so the statement for an array or an
object follows from the statements for what stands in it: `Reads.array` from its items, and
`Reads.record` from the fields in the order in which they come (`Collects`).

A number has no end of its own. So what comes after a value matters, and in a written text it is one
of few things (`Follows`), none of which goes on with a number.
-/

namespace WirelessScan.Json

variable {α β σ : Type} {before rest : List Char} {layout : Layout} {depth : Nat} {v : Value}

/-- Nothing but blanks. -/
def Blanks (cs : List Char) : Prop :=
  ∀ c ∈ cs, isBlank c = true

/-- What stands after a value in a written text: nothing, the next item, the end of an array or an
object, or a line break. -/
def Follows : List Char → Prop
  | [] => True
  | c :: _ => c = ',' ∨ c = ']' ∨ c = '\x7d' ∨ c = '\n'

/-- A reader takes the written form of a value for `a`, after any blanks and before anything that
may follow a value. -/
def Reads (reader : Reader α) (v : Value) (a : α) : Prop :=
  ∀ (layout : Layout) (depth : Nat) (before rest : List Char), Blanks before → Follows rest →
    reader (before ++ (v.write layout depth ++ rest)) = .ok (a, rest)

theorem ok_bind (a : α) (f : α → Except Fault β) : (Except.ok a >>= f) = f a := rfl

/-! ## Blanks -/

theorem blanks_nil : Blanks [] := by
  intro c hc
  cases hc

theorem skipBlanks_append (hbefore : Blanks before) :
    skipBlanks (before ++ rest) = skipBlanks rest :=
  List.dropWhile_append_of_pos hbefore

theorem skipBlanks_cons {c : Char} (hc : isBlank c = false) :
    skipBlanks (c :: rest) = c :: rest := by
  simp [skipBlanks, hc]

theorem blanks_newline (layout : Layout) (depth : Nat) : Blanks (layout.newline depth) := by
  intro c hc
  cases layout with
  | compact => simp [Layout.newline] at hc
  | pretty =>
      rcases List.mem_cons.mp hc with rfl | hspace
      · rfl
      · rw [List.eq_of_mem_replicate hspace]
        rfl

/-! ## Strings -/

theorem hex4_of_control : ∀ n < 0x20,
    hex4 n = ['0', '0', (n / 16).digitChar, (n % 16).digitChar] := by
  decide

theorem hexValue?_digitChar : ∀ d < 16, hexValue? d.digitChar = some d := by
  decide

theorem readHex4_of_values {c₁ c₂ c₃ c₄ : Char} {d₁ d₂ d₃ d₄ : Nat} (h₁ : hexValue? c₁ = some d₁)
    (h₂ : hexValue? c₂ = some d₂) (h₃ : hexValue? c₃ = some d₃) (h₄ : hexValue? c₄ = some d₄)
    (rest : List Char) :
    readHex4 (c₁ :: c₂ :: c₃ :: c₄ :: rest) =
      .ok (((d₁ * 16 + d₂) * 16 + d₃) * 16 + d₄, rest) := by
  have hsize : 4 ≤ c₁.utf8Size + (c₂.utf8Size + (c₃.utf8Size + c₄.utf8Size)) := by
    have := c₁.utf8Size_pos
    have := c₂.utf8Size_pos
    have := c₃.utf8Size_pos
    have := c₄.utf8Size_pos
    omega
  simp [readHex4, hsize, h₁, h₂, h₃, h₄]

theorem readEscape_control {c : Char} (hc : c.toNat < 0x20) :
    readEscape ('u' :: (hex4 c.toNat ++ rest)) = .ok (c, rest) := by
  have hhex : readHex4 (hex4 c.toNat ++ rest) = .ok (c.toNat, rest) := by
    rw [hex4_of_control _ hc]
    have hzero : hexValue? '0' = some 0 := rfl
    have hread := readHex4_of_values hzero hzero (hexValue?_digitChar (c.toNat / 16) (by omega))
      (hexValue?_digitChar (c.toNat % 16) (by omega)) rest
    have hvalue : ((0 * 16 + 0) * 16 + c.toNat / 16) * 16 + c.toNat % 16 = c.toNat := by omega
    rwa [hvalue] at hread
  have hlow : isLowSurrogate c.toNat = false := by
    simp [isLowSurrogate]
    omega
  have hhigh : isHighSurrogate c.toNat = false := by
    simp [isHighSurrogate]
    omega
  simp [readEscape, readUnicodeEscape, hhex, ok_bind, hlow, hhigh, pure, Except.pure]

/-- One character is read from its written form, and costs one step. -/
theorem readChars_escapeChar (c : Char) (fuel : Nat) :
    readChars (fuel + 1) (escapeChar c ++ rest) =
      (do let (s, cs) ← readChars fuel rest; return (c :: s, cs)) := by
  unfold escapeChar
  split
  -- all cases but the last are escapes by letter
  case h_8 =>
      split
      next hcontrol =>
        simp only [List.cons_append, List.nil_append, readChars, readEscape_control hcontrol, ok_bind]
      next hplain =>
        rw [List.singleton_append, readChars]
        · simp [hplain]
        all_goals assumption
  all_goals rfl

theorem readChars_escaped (cs : List Char) {fuel : Nat} (hfuel : cs.length < fuel) :
    readChars fuel (cs.flatMap escapeChar ++ '"' :: rest) = .ok (cs, rest) := by
  induction cs generalizing fuel with
  | nil =>
      obtain ⟨fuel, rfl⟩ := Nat.exists_eq_add_of_lt hfuel
      rfl
  | cons c cs ih =>
      obtain ⟨fuel, rfl⟩ := Nat.exists_eq_add_of_lt hfuel
      rw [List.flatMap_cons, List.append_assoc, readChars_escapeChar, ih (by simp; omega)]
      rfl

theorem escapeChar_ne_nil (c : Char) : escapeChar c ≠ [] := by
  unfold escapeChar
  split
  case h_8 => split <;> simp
  all_goals simp

theorem length_le_length_escaped (cs : List Char) :
    cs.length ≤ (cs.flatMap escapeChar).length := by
  induction cs with
  | nil => simp
  | cons c cs ih =>
      have := List.length_pos_of_ne_nil (escapeChar_ne_nil c)
      simp only [List.flatMap_cons, List.length_append, List.length_cons]
      omega

/-- A string is read from its written form after the opening quote. -/
theorem readString_escaped (s : String) :
    readString (s.toList.flatMap escapeChar ++ '"' :: rest) = .ok (s, rest) := by
  have hfuel : s.toList.length < (s.toList.flatMap escapeChar ++ '"' :: rest).length + 1 := by
    have := length_le_length_escaped s.toList
    simp only [List.length_append]
    omega
  rw [readString, readChars_escaped _ hfuel]
  simp

/-! ## Numbers -/

theorem Follows.takeDigits_eq (hrest : Follows rest) : takeDigits rest = ([], rest) := by
  cases rest with
  | nil => rfl
  | cons c cs =>
      have hc : c.isDigit = false := by
        rcases hrest with rfl | rfl | rfl | rfl <;> rfl
      simp [takeDigits, hc]

theorem Follows.continuesReal_eq (hrest : Follows rest) : continuesReal rest = false := by
  cases rest with
  | nil => rfl
  | cons c cs => rcases hrest with rfl | rfl | rfl | rfl <;> rfl

theorem takeDigits_append {ds : List Char} (hds : ∀ d ∈ ds, d.isDigit = true)
    (hrest : Follows rest) : takeDigits (ds ++ rest) = (ds, rest) := by
  have hstop := hrest.takeDigits_eq
  simp only [takeDigits, Prod.mk.injEq] at hstop
  rw [takeDigits, List.takeWhile_append_of_pos hds, List.dropWhile_append_of_pos hds, hstop.1,
    hstop.2, List.append_nil]

theorem exists_toDigits_eq (n : Nat) :
    ∃ d ds, Nat.toDigits 10 n = d :: ds ∧ d.isDigit = true := by
  obtain ⟨d, ds, hdigits⟩ := List.exists_cons_of_ne_nil (Nat.toDigits_ne_nil (n := n) (b := 10))
  have hmem : d ∈ Nat.toDigits 10 n := by simp [hdigits]
  exact ⟨d, ds, hdigits, Nat.isDigit_of_mem_toDigits (by omega) (by omega) hmem⟩

/-- Only zero is written with a zero in front. -/
theorem eq_zero_of_toDigits_eq {n : Nat} {ds : List Char} (h : Nat.toDigits 10 n = '0' :: ds) :
    n = 0 := by
  induction n using Nat.strongRecOn generalizing ds with
  | ind n ih =>
      by_cases hsmall : n < 10
      · rw [Nat.toDigits_of_lt_base hsmall] at h
        exact Nat.digitChar_eq_zero.mp (List.cons.inj h).1
      · rw [Nat.toDigits_of_base_le (by omega) (by omega)] at h
        obtain ⟨d, front, hfront, -⟩ := exists_toDigits_eq (n / 10)
        rw [hfront, List.cons_append] at h
        obtain ⟨rfl, -⟩ := List.cons.inj h
        have := ih (n / 10) (by omega) hfront
        omega

theorem readUnsigned_toDigits (negative : Bool) {n : Nat} (hn : n < UInt64.size)
    (hrest : Follows rest) :
    readUnsigned negative (Nat.toDigits 10 n ++ rest) =
      if negative then .ok (if n = 0 then .other else .whole (-n), rest)
      else .ok (.whole n, rest) := by
  have hdigits : ∀ d ∈ Nat.toDigits 10 n, d.isDigit = true := fun d hd =>
    Nat.isDigit_of_mem_toDigits (by omega) (by omega) hd
  rw [readUnsigned, takeDigits_append hdigits hrest]
  split
  next h => simp [Nat.toDigits_ne_nil] at h
  next h => simp [Nat.toDigits_ne_nil] at h
  -- a zero in front of other digits
  next ds cs h =>
    obtain ⟨hdigits, rfl⟩ := Prod.mk.inj h
    rw [eq_zero_of_toDigits_eq hdigits] at hdigits
    cases hdigits
  next ds cs _ _ _ h =>
    obtain ⟨rfl, rfl⟩ := Prod.mk.inj h
    have hsize : ¬ UInt64.size ≤ n := by omega
    simp [Nat.ofDigitChars_toDigits, hrest.continuesReal_eq, hsize]

theorem readNumber_writeInt {n : Int} (hn : n.natAbs < UInt64.size) (hrest : Follows rest) :
    readNumber (writeInt n ++ rest) = .ok (.whole n, rest) := by
  rw [writeInt]
  split
  next hnegative =>
    rw [List.cons_append, readNumber, readUnsigned_toDigits true hn hrest]
    have hne : n.natAbs ≠ 0 := by omega
    have hvalue : -(n.natAbs : Int) = n := by omega
    rw [if_pos rfl, if_neg hne, hvalue]
  next hpositive =>
    have hvalue : (n.natAbs : Int) = n := by omega
    obtain ⟨d, ds, hdigits, hdigit⟩ := exists_toDigits_eq n.natAbs
    have hread := readUnsigned_toDigits false hn hrest
    rw [hdigits, List.cons_append] at hread ⊢
    rw [readNumber]
    · rw [hread, if_neg Bool.false_ne_true, hvalue]
    · intro cs hminus
      rw [(List.cons.inj hminus).1] at hdigit
      cases hdigit

theorem exists_writeInt_eq (n : Int) :
    ∃ c cs, writeInt n = c :: cs ∧ (c = '-' ∨ c.isDigit = true) := by
  rw [writeInt]
  split
  · exact ⟨'-', _, rfl, .inl rfl⟩
  · obtain ⟨d, ds, hdigits, hdigit⟩ := exists_toDigits_eq n.natAbs
    exact ⟨d, ds, hdigits, .inr hdigit⟩

/-! ## Scalars -/

theorem isBlank_of_isDigit {c : Char} (hc : c.isDigit = true) : isBlank c = false := by
  apply Bool.eq_false_iff.mpr
  intro hblank
  simp only [isBlank, Bool.or_eq_true, beq_iff_eq] at hblank
  obtain ((rfl | rfl) | rfl) | rfl := hblank <;> cases hc

/-- A written value starts neither with a blank nor with the end of an array. -/
theorem exists_write_eq (v : Value) (layout : Layout) (depth : Nat) :
    ∃ c cs, v.write layout depth = c :: cs ∧ isBlank c = false ∧ c ≠ ']' := by
  cases v with
  | number n =>
      obtain ⟨c, cs, hwrite, rfl | hdigit⟩ := exists_writeInt_eq n
      · exact ⟨'-', cs, hwrite, rfl, by decide⟩
      · refine ⟨c, cs, hwrite, isBlank_of_isDigit hdigit, ?_⟩
        rintro rfl
        cases hdigit
  | string s => exact ⟨'"', _, rfl, rfl, by decide⟩
  | array items => cases items <;> exact ⟨'[', _, rfl, rfl, by decide⟩
  | object fields => cases fields <;> exact ⟨'\x7b', _, rfl, rfl, by decide⟩

theorem skipBlanks_write (v : Value) (layout : Layout) (depth : Nat)
    (hbefore : Blanks before) (rest : List Char) :
    skipBlanks (before ++ (v.write layout depth ++ rest)) = v.write layout depth ++ rest := by
  obtain ⟨c, cs, hwrite, hc, -⟩ := exists_write_eq v layout depth
  rw [skipBlanks_append hbefore, hwrite, List.cons_append, skipBlanks_cons hc]

namespace Reads

variable {reader : Reader α} {a : α}

/-- A value that a reader computes from what another one reads. -/
theorem map (h : Reads reader v a) (f : α → β) {b : β} (hb : f a = b) :
    Reads (fun cs => do let (a, cs) ← reader cs; return (f a, cs)) v b := by
  intro layout depth before rest hbefore hrest
  simp only [h layout depth before rest hbefore hrest, ok_bind, hb]
  rfl

/-- A value that is read into a draft. -/
theorem into (h : Reads reader v a) (draft : σ) (set : σ → α → σ) :
    Reads (fun cs => do let (a, cs) ← reader cs; return (set draft a, cs)) v (set draft a) :=
  h.map (set draft) rfl

/-- A whole number is read between bounds within 64 bits. -/
theorem int {least greatest n : Int} (hleast : -UInt64.size < least)
    (hgreatest : greatest < UInt64.size) (hbounds : least ≤ n ∧ n ≤ greatest) :
    Reads (readInt least greatest) (.number n) n := by
  intro layout depth before rest hbefore hrest
  obtain ⟨c, cs, hwrite, hc⟩ := exists_writeInt_eq n
  have hread := readNumber_writeInt (n := n) (by omega) hrest
  have hfirst : (c == '-' || c.isDigit) = true := by simpa using hc
  rw [readInt, skipBlanks_write _ _ _ hbefore rest, Value.write]
  rw [hwrite, List.cons_append] at hread ⊢
  simp only [hfirst, if_true, hread, ok_bind, hbounds]
  rfl

/-- A number without a sign is read within the range of its width. -/
theorem nat {n size : Nat} (hn : n < size) (hsize : size ≤ UInt64.size) :
    Reads (readInt 0 (size - 1)) (.number n) n :=
  int (by decide) (by omega) (by omega)

theorem text (s : String) : Reads readText (.string s) s := by
  intro layout depth before rest hbefore hrest
  rw [readText, skipBlanks_write _ _ _ hbefore rest, Value.write, writeString]
  simp only [List.cons_append, List.append_assoc, List.nil_append]
  exact readString_escaped s

theorem uint8 (n : UInt8) : Reads readUInt8 (.number n.toNat) n :=
  (nat n.toNat_lt_size (by decide)).map (fun k => UInt8.ofNat k.toNat) UInt8.ofNat_toNat

theorem uint32 (n : UInt32) : Reads readUInt32 (.number n.toNat) n :=
  (nat n.toNat_lt_size (by decide)).map (fun k => UInt32.ofNat k.toNat) UInt32.ofNat_toNat

theorem uint64 (n : UInt64) : Reads readUInt64 (.number n.toNat) n :=
  (nat n.toNat_lt_size (by decide)).map (fun k => UInt64.ofNat k.toNat) UInt64.ofNat_toNat

theorem int32 (n : Int32) : Reads readInt32 (.number n.toInt) n := by
  have h := int (by decide) (by decide) ⟨n.minValue_le_toInt, n.toInt_le⟩
  exact h.map Int32.ofInt (Int32.ofInt_toInt n)

theorem int64 (n : Int64) : Reads readInt64 (.number n.toInt) n := by
  have h := int (by decide) (by decide) ⟨n.minValue_le_toInt, n.toInt_le⟩
  exact h.map Int64.ofInt (Int64.ofInt_toInt n)

end Reads

/-! ## Arrays -/

theorem follows_newline {c : Char} (h : Follows (c :: rest)) :
    Follows (layout.newline depth ++ c :: rest) := by
  cases layout with
  | compact => exact h
  | pretty => exact .inr (.inr (.inr rfl))

theorem follows_writeItems (layout : Layout) (depth : Nat) (vs : List Value) (h : Follows rest) :
    Follows (Value.writeItems layout depth vs ++ rest) := by
  cases vs with
  | nil => exact h
  | cons v vs => exact .inl rfl

theorem nextItem_close (first : Bool) :
    nextItem first (layout.newline depth ++ ']' :: rest) = .ok (none, ']' :: rest) := by
  rw [nextItem, skipBlanks_append (blanks_newline _ _)]
  rfl

/-- The first item of an array is found behind its line break. -/
theorem nextItem_first (v : Value) (hbefore : Blanks before) :
    ∃ cs, nextItem true (before ++ (v.write layout depth ++ rest)) =
      .ok (some (v.write layout depth ++ rest), cs) := by
  have hskip := skipBlanks_write v layout depth hbefore rest
  obtain ⟨c, cs, hwrite, -, hc⟩ := exists_write_eq v layout depth
  rw [hwrite, List.cons_append] at hskip ⊢
  rw [nextItem, hskip]
  split
  next h => cases h
  next h => exact absurd (List.cons.inj h).1 hc
  next h =>
    cases h
    exact ⟨_, rfl⟩

/-- Every other item is found behind a comma and its line break. -/
theorem nextItem_next (v : Value) (hbefore : Blanks before) :
    ∃ cs, nextItem false (',' :: (before ++ (v.write layout depth ++ rest))) =
      .ok (some (v.write layout depth ++ rest), cs) := by
  have hskip := skipBlanks_write v layout depth hbefore rest
  obtain ⟨c, cs, hwrite, -, hc⟩ := exists_write_eq v layout depth
  rw [hwrite, List.cons_append] at hskip ⊢
  rw [nextItem, skipBlanks_cons (by rfl)]
  split
  next h => cases h
  next h => cases h
  next h =>
    cases h
    simp only [Bool.false_eq_true, if_false, beq_self_eq_true, if_true, hskip]
    split
    next h => cases h
    next h => exact absurd (List.cons.inj h).1 hc
    next => exact ⟨_, rfl⟩

section Items

variable {item : Reader α} {a : α}

/-- One item of an array is read, and costs one step. -/
theorem readItems_item {first : Bool} {cs cs' : List Char} (hreads : Reads item v a)
    (hnext : nextItem first cs = .ok (some (v.write layout depth ++ rest), cs'))
    (hrest : Follows rest) (fuel : Nat) :
    readItems item (fuel + 1) first cs =
      (do let (as, cs) ← readItems item fuel false rest; return (a :: as, cs)) := by
  have hitem := hreads layout depth [] rest blanks_nil hrest
  rw [List.nil_append] at hitem
  simp only [readItems, hnext, ok_bind, hitem]

theorem readItems_writeItems {vs : List Value} {as : List α} (h : List.Forall₂ (Reads item) vs as)
    {outer fuel : Nat} (hfuel : vs.length < fuel) :
    readItems item fuel false
        (Value.writeItems layout depth vs ++ (layout.newline outer ++ ']' :: rest)) =
      .ok (as, ']' :: rest) := by
  have hclose : Follows (layout.newline outer ++ ']' :: rest) :=
    follows_newline (.inr (.inl rfl))
  induction h generalizing fuel with
  | nil =>
      obtain ⟨fuel, rfl⟩ := Nat.exists_eq_add_of_lt hfuel
      rw [Value.writeItems, List.nil_append]
      simp only [readItems, nextItem_close, ok_bind]
      rfl
  | @cons v a vs as hreads _ ih =>
      obtain ⟨fuel, rfl⟩ := Nat.exists_eq_add_of_lt hfuel
      obtain ⟨cs', hnext⟩ := nextItem_next v (blanks_newline layout depth)
      have hrest := follows_writeItems layout depth vs hclose
      rw [Value.writeItems]
      simp only [List.cons_append, List.append_assoc]
      rw [readItems_item hreads hnext hrest, ih (by simp; omega)]
      rfl

theorem length_le_length_writeItems (layout : Layout) (depth : Nat) (vs : List Value) :
    vs.length ≤ (Value.writeItems layout depth vs).length := by
  induction vs with
  | nil => simp
  | cons v vs ih =>
      simp only [Value.writeItems, List.length_append, List.length_cons]
      omega

/-- An array is read if its items are. -/
theorem Reads.array {vs : List Value} {as : List α} (h : List.Forall₂ (Reads item) vs as) :
    Reads (readArray item) (.array vs) as := by
  intro layout depth before rest hbefore hrest
  rw [readArray, skipBlanks_write _ _ _ hbefore rest]
  cases h with
  | nil => rfl
  | @cons v a vs as hreads htail =>
      let more := Value.writeItems layout (depth + 1) vs ++ (layout.newline depth ++ ']' :: rest)
      let text := layout.newline (depth + 1) ++ (v.write layout (depth + 1) ++ more)
      have hwrite : Value.write layout depth (.array (v :: vs)) ++ rest = '[' :: text := by
        simp [Value.write, text, more]
      obtain ⟨cs', hnext⟩ := nextItem_first v (blanks_newline layout (depth + 1))
      have hmore : Follows more :=
        follows_writeItems layout (depth + 1) vs (follows_newline (.inr (.inl rfl)))
      have hfuel : vs.length < text.length := by
        have := length_le_length_writeItems layout (depth + 1) vs
        simp only [text, more, List.length_append, List.length_cons]
        omega
      have hitems : readItems item (text.length + 1) true text = .ok (a :: as, ']' :: rest) := by
        rw [readItems_item hreads hnext hmore, readItems_writeItems htail hfuel]
        rfl
      rw [hwrite]
      simp only [hitems, ok_bind]
      rfl

theorem Reads.bytes (bs : List UInt8) : Reads (readArray readUInt8) (.bytes bs) bs := by
  apply Reads.array
  rw [List.forall₂_map_left_iff, List.forall₂_same]
  intro b _
  exact Reads.uint8 b

end Items

/-! ## Records -/

section Fields

variable {field : RecordField σ} {fields : List (RecordField σ)} {draft draft' : σ}

/-- Fields of an object, in the order in which they come, bring a draft from one state to another:
each has a reader that reads its value, and the draft does not have it yet. -/
inductive Collects (fields : List (RecordField σ)) : σ → List (String × Value) → σ → Prop where
  | done {draft : σ} : Collects fields draft [] draft
  | field {draft draft' final : σ} {name : String} {v : Value} {named : List (String × Value)}
      {field : RecordField σ} (hfind : (fields.find? fun f => f.name == name) = some field)
      (hunset : field.isSet draft = false) (hreads : Reads (field.read draft) v draft')
      (hrest : Collects fields draft' named final) :
      Collects fields draft ((name, v) :: named) final

theorem follows_writeFields (layout : Layout) (depth : Nat) (named : List (String × Value))
    (h : Follows rest) :
    Follows (Value.writeFields layout depth named ++ rest) := by
  cases named with
  | nil => exact h
  | cons field named => exact .inl rfl

theorem nextName_close (first : Bool) :
    nextName first (layout.newline depth ++ '\x7d' :: rest) = .ok (none, rest) := by
  rw [nextName, skipBlanks_append (blanks_newline _ _)]
  rfl

theorem nextName_first :
    nextName true (layout.newline depth ++ '"' :: rest) = .ok (some rest, rest) := by
  rw [nextName, skipBlanks_append (blanks_newline _ _)]
  rfl

theorem nextName_next :
    nextName false (',' :: (layout.newline depth ++ '"' :: rest)) = .ok (some rest, rest) := by
  rw [nextName, skipBlanks_cons (by rfl)]
  have hskip : skipBlanks (layout.newline depth ++ '"' :: rest) = '"' :: rest := by
    rw [skipBlanks_append (blanks_newline _ _)]
    rfl
  simp [hskip]

/-- After the colon of a field there are blanks at most. -/
theorem readColon_colon (layout : Layout) (rest : List Char) :
    ∃ before, Blanks before ∧ readColon (layout.colon ++ rest) = .ok (before ++ rest) := by
  cases layout with
  | compact => exact ⟨[], blanks_nil, rfl⟩
  | pretty => exact ⟨[' '], by simp [Blanks, isBlank], rfl⟩

/-- One field of an object is read, and costs one step. -/
theorem readNamedFields_field {first : Bool} {name : String} {cs cs' : List Char}
    (hfind : (fields.find? fun f => f.name == name) = some field)
    (hunset : field.isSet draft = false) (hreads : Reads (field.read draft) v draft')
    (hnext : nextName first cs = .ok (some (name.toList.flatMap escapeChar ++
      '"' :: (layout.colon ++ (v.write layout depth ++ rest))), cs'))
    (hrest : Follows rest) (fuel : Nat) :
    readNamedFields fields (fuel + 1) first draft cs =
      readNamedFields fields fuel false draft' rest := by
  obtain ⟨before, hbefore, hcolon⟩ :=
    readColon_colon layout (v.write layout depth ++ rest)
  have hvalue := hreads layout depth before rest hbefore hrest
  simp only [readNamedFields, hnext, ok_bind, readString_escaped, hfind, hunset, hcolon, hvalue,
    Bool.false_eq_true, if_false]

theorem readNamedFields_writeFields {named : List (String × Value)} {final : σ}
    (h : Collects fields draft named final) {outer fuel : Nat} (hfuel : named.length < fuel) :
    readNamedFields fields fuel false draft
        (Value.writeFields layout depth named ++ (layout.newline outer ++ '\x7d' :: rest)) =
      .ok (final, rest) := by
  have hclose : Follows (layout.newline outer ++ '\x7d' :: rest) :=
    follows_newline (.inr (.inr (.inl rfl)))
  induction h generalizing fuel with
  | done =>
      obtain ⟨fuel, rfl⟩ := Nat.exists_eq_add_of_lt hfuel
      rw [Value.writeFields, List.nil_append]
      simp only [readNamedFields, nextName_close, ok_bind]
      rfl
  | @field draft draft' final name v named field hfind hunset hreads _ ih =>
      obtain ⟨fuel, rfl⟩ := Nat.exists_eq_add_of_lt hfuel
      have hrest := follows_writeFields layout depth named hclose
      rw [Value.writeFields, writeString]
      simp only [List.cons_append, List.append_assoc, List.nil_append]
      rw [readNamedFields_field hfind hunset hreads nextName_next hrest, ih (by simp; omega)]

theorem length_le_length_writeFields (layout : Layout) (depth : Nat)
    (named : List (String × Value)) :
    named.length ≤ (Value.writeFields layout depth named).length := by
  induction named with
  | nil => simp
  | cons field named ih =>
      simp only [Value.writeFields, List.length_append, List.length_cons]
      omega

/-- A record is read out of an object whose fields are collected, if none is missing in the end. -/
theorem Reads.record {named : List (String × Value)} {final : σ} {finish : σ → Option α} {a : α}
    (h : Collects fields draft named final) (hfinish : finish final = some a) :
    Reads (readRecord fields draft finish) (.object named) a := by
  intro layout depth before rest hbefore hrest
  rw [readRecord, skipBlanks_write _ _ _ hbefore rest]
  cases h with
  | done =>
      have hwrite : Value.write layout depth (.object []) ++ rest = '\x7b' :: '\x7d' :: rest := rfl
      have hfields : readNamedFields fields (('\x7d' :: rest).length + 1) true draft
          ('\x7d' :: rest) = .ok (draft, rest) := rfl
      rw [hwrite]
      simp only [hfields, ok_bind, hfinish]
      rfl
  | @field draft draft' final name v named field hfind hunset hreads htail =>
      let more := Value.writeFields layout (depth + 1) named ++
        (layout.newline depth ++ '\x7d' :: rest)
      let text := layout.newline (depth + 1) ++ '"' :: (name.toList.flatMap escapeChar ++
        '"' :: (layout.colon ++ (v.write layout (depth + 1) ++ more)))
      have hwrite : Value.write layout depth (.object ((name, v) :: named)) ++ rest =
          '\x7b' :: text := by
        simp [Value.write, writeString, text, more]
      have hmore : Follows more :=
        follows_writeFields layout (depth + 1) named (follows_newline (.inr (.inr (.inl rfl))))
      have hfuel : named.length < text.length := by
        have := length_le_length_writeFields layout (depth + 1) named
        simp only [text, more, List.length_append, List.length_cons]
        omega
      have hfields : readNamedFields fields (text.length + 1) true draft text =
          .ok (final, rest) := by
        rw [readNamedFields_field hfind hunset hreads nextName_first hmore,
          readNamedFields_writeFields htail hfuel]
      rw [hwrite]
      simp only [hfields, ok_bind, hfinish]
      rfl

end Fields

/-! ## Whole texts -/

/-- A whole text is read if its value is. -/
theorem Reads.read_text {reader : Reader α} {a : α} (h : Reads reader v a) (layout : Layout) :
    read reader (v.text layout) = .ok a := by
  have hreads := h layout 0 [] [] blanks_nil trivial
  rw [List.nil_append, List.append_nil] at hreads
  rw [read, Value.text, String.toList_ofList, hreads]
  rfl

end WirelessScan.Json
