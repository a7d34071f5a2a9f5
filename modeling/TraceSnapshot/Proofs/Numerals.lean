import Mathlib.Data.List.Induction
import Mathlib.Data.Nat.Digits.Defs
import Mathlib.Tactic.Lemma
import TraceSnapshot.Text.Unsigned

/-!
# Numerals

A numeral is spelled in one of three ways, and its value is the positional value of its digits.
Reading a text gives exactly this value if 64 bits hold it, and no text spells two numerals.
-/

namespace TraceSnapshot.Proofs
open Unsigned (Numeral)

/-! ### Digits -/

/-- The digits up to fifteen in the order of their values. -/
def digitRow : Text := "0123456789abcdef".toList

/-- The value of a digit, in either letter case, is its place in the row. What is no digit comes
after all of them. -/
def digitValue (c : Char) : Nat := digitRow.idxOf c.toLower

/-- The last digit counts its value, and every other digit counts the base times what the place
after it does. -/
def positional (base : Nat) (digits : Text) : Nat :=
  Nat.ofDigits base (digits.map digitValue).reverse

/-- Of all ASCII characters a property is shown one by one. -/
lemma forall_char {P : Char → Prop} (hascii : ∀ n < 128, P (Char.ofNat n))
    (hother : ∀ c : Char, 128 ≤ c.toNat → P c) (c : Char) : P c := by
  by_cases h : c.toNat < 128
  · have hc := hascii c.toNat h
    rwa [Char.ofNat_toNat] at hc
  · exact hother c (by omega)

lemma toLower_of_not_ascii {c : Char} (h : 128 ≤ c.toNat) : c.toLower = c := by
  have hlast : 'Z'.toNat = 90 := rfl
  unfold Char.toLower
  rw [dif_neg]
  simp only [ge_iff_le, UInt32.le_iff_toNat_le, Char.toNat_val]
  omega

/-- Beyond ASCII there are no digits. -/
lemma digitValue_of_not_ascii {c : Char} (h : 128 ≤ c.toNat) : digitValue c = 16 := by
  have hrow : (digitRow.all fun d => d.toNat < 128) = true := by decide
  unfold digitValue
  rw [toLower_of_not_ascii h, List.idxOf_eq_length]
  · rfl
  · intro hc
    exact absurd (of_decide_eq_true (List.all_eq_true.1 hrow c hc)) (by omega)

@[simp] lemma digitValue_toLower (c : Char) : digitValue c.toLower = digitValue c :=
  forall_char (P := fun c => digitValue c.toLower = digitValue c) (by decide +kernel)
    (fun _ h => by rw [toLower_of_not_ascii h]) c

lemma digitValue_lt_ten_iff (c : Char) : digitValue c < 10 ↔ c.isDigit := by
  apply forall_char (P := fun c => digitValue c < 10 ↔ c.isDigit)
  · decide +kernel
  · intro c h
    have hnine : '9'.toNat = 57 := rfl
    rw [digitValue_of_not_ascii h, Char.isDigit_iff_toNat]
    omega

lemma digit?_sixteen_of_not_ascii {c : Char} (h : 128 ≤ c.toNat) : Unsigned.digit? 16 c = none := by
  have hnine : '9'.toNat = 57 := rfl
  have hf : 'f'.toNat = 102 := rfl
  have hF : 'F'.toNat = 70 := rfl
  unfold Unsigned.digit?
  simp only [Char.le_def, UInt32.le_iff_toNat_le, Char.toNat_val]
  rw [if_neg (by omega), if_neg (by omega), if_neg (by omega)]
  rfl

lemma digit?_sixteen (c : Char) :
    Unsigned.digit? 16 c = if digitValue c < 16 then some (digitValue c) else none := by
  apply forall_char (P := fun c =>
    Unsigned.digit? 16 c = if digitValue c < 16 then some (digitValue c) else none)
  · decide +kernel
  · intro c h
    rw [digit?_sixteen_of_not_ascii h, digitValue_of_not_ascii h]
    rfl

lemma digit?_eq {base : Nat} (hbase : base ≤ 16) (c : Char) :
    Unsigned.digit? base c = if digitValue c < base then some (digitValue c) else none := by
  have hfilter : Unsigned.digit? base c =
      (Unsigned.digit? 16 c).filter fun value => value < base := by
    unfold Unsigned.digit?
    dsimp only
    rw [Option.filter_filter]
    congr 1
    funext value
    by_cases hvalue : value < base
    · have hvalue' : value < 16 := by omega
      simp [hvalue, hvalue']
    · simp [hvalue]
  rw [hfilter, digit?_sixteen]
  by_cases hvalue : digitValue c < base
  · have hvalue' : digitValue c < 16 := by omega
    simp [hvalue, hvalue']
  · rw [if_neg hvalue]
    split
    · simpa using hvalue
    · rfl

/-! ### Positional values -/

lemma positional_concat (base : Nat) (digits : Text) (c : Char) :
    positional base (digits ++ [c]) = digitValue c + base * positional base digits := by
  unfold positional
  rw [List.map_append, List.reverse_append]
  exact Nat.ofDigits_cons

/-- Leading zeros do not count. -/
lemma positional_zeros_append (base zeros : Nat) (digits : Text) :
    positional base (List.replicate zeros '0' ++ digits) = positional base digits := by
  have hzero : digitValue '0' = 0 := rfl
  unfold positional
  rw [List.map_append, List.map_replicate, hzero, List.reverse_append, List.reverse_replicate,
    Nat.ofDigits_append_replicate_zero]

/-- Nor does the case of letters. -/
lemma positional_map_toLower (base : Nat) (digits : Text) :
    positional base (digits.map Char.toLower) = positional base digits := by
  unfold positional
  simp only [List.map_map, Function.comp_def, digitValue_toLower]

lemma value_eq_positional {base : Nat} {digits : Text} (hbase : base ≤ 16)
    (hdigits : ∀ c ∈ digits, digitValue c < base) :
    Unsigned.value base digits = positional base digits := by
  induction digits using List.reverseRecOn with
  | nil => rfl
  | append_singleton digits c ih =>
    have hc : digitValue c < base := hdigits c (by simp)
    have hrest := ih fun d hd => hdigits d (List.mem_append_left _ hd)
    have hvalue : Unsigned.value base (digits ++ [c]) =
        Unsigned.value base digits * base + (Unsigned.digit? base c).getD 0 := by
      unfold Unsigned.value
      rw [List.foldl_append]
      rfl
    rw [hvalue, hrest, digit?_eq hbase, if_pos hc, positional_concat, Option.getD_some]
    ring

lemma digitValue_digitChar : ∀ n < 16, digitValue (Nat.digitChar n) = n := by decide

/-- The digits of a number have the number as their value. -/
lemma positional_toDigits {base : Nat} (hone : 1 < base) (hbase : base ≤ 16) (n : Nat) :
    positional base (Nat.toDigits base n) = n := by
  induction n using Nat.base_induction base hone with
  | single m hm =>
    rw [Nat.toDigits_of_lt_base hm, ← List.nil_append [m.digitChar], positional_concat,
      digitValue_digitChar m (by omega)]
    rfl
  | digit m k hk hm ih =>
    rw [← Nat.toDigits_append_toDigits hone hm hk, Nat.toDigits_of_lt_base hk, positional_concat,
      ih, digitValue_digitChar k (by omega), Nat.add_comm]

lemma digitValue_lt_of_mem_toDigits {base : Nat} (hone : 1 < base) (hbase : base ≤ 16) (n : Nat) :
    ∀ c ∈ Nat.toDigits base n, digitValue c < base := by
  induction n using Nat.base_induction base hone with
  | single m hm =>
    rw [Nat.toDigits_of_lt_base hm, List.forall_mem_singleton, digitValue_digitChar m (by omega)]
    exact hm
  | digit m k hk hm ih =>
    rw [← Nat.toDigits_append_toDigits hone hm hk, Nat.toDigits_of_lt_base hk]
    intro c hc
    rcases List.mem_append.1 hc with hc | hc
    · exact ih c hc
    · rw [List.mem_singleton.1 hc, digitValue_digitChar k (by omega)]
      exact hk

/-! ### Spelling -/

/-- The three ways to spell a numeral: in hexadecimal after `0x`, in octal after a zero, and in
decimal. -/
inductive Spells : Text → Numeral → Prop
  | hexadecimal {x digits} (hx : x = 'x' ∨ x = 'X') (hne : digits ≠ [])
      (hdigits : ∀ c ∈ digits, digitValue c < 16) : Spells ('0' :: x :: digits) ⟨16, digits⟩
  | octal {digits} (hdigits : ∀ c ∈ digits, digitValue c < 8) : Spells ('0' :: digits) ⟨8, digits⟩
  | decimal {first rest} (hfirst : first ≠ '0')
      (hdigits : ∀ c ∈ first :: rest, digitValue c < 10) :
      Spells (first :: rest) ⟨10, first :: rest⟩

lemma all_isSome_digit?_iff {base : Nat} (hbase : base ≤ 16) {digits : Text} :
    (digits.all fun c => (Unsigned.digit? base c).isSome) = true ↔
      ∀ c ∈ digits, digitValue c < base := by
  rw [List.all_eq_true]
  apply forall₂_congr
  intro c _
  rw [digit?_eq hbase]
  split
  next hc => simp [hc]
  next hc => simp only [Option.isSome_none, Bool.false_eq_true, hc]

/-- A numeral is what its text announces, with digits of its base only. -/
lemma numeral?_eq_some_iff {t : Text} {n : Numeral} : Unsigned.numeral? t = some n ↔
    Unsigned.announced t = n ∧ (∀ c ∈ n.digits, digitValue c < n.base) ∧
      (n.base = 8 ∨ n.digits ≠ []) := by
  have hbase : (Unsigned.announced t).base ≤ 16 := by
    unfold Unsigned.announced
    split <;> simp
  unfold Unsigned.numeral?
  dsimp only
  rw [Option.ite_none_right_eq_some, Bool.and_eq_true, all_isSome_digit?_iff hbase, and_comm,
    Option.some.injEq]
  apply and_congr_right
  rintro rfl
  simp

theorem spells_iff {t : Text} {n : Numeral} : Spells t n ↔ Unsigned.numeral? t = some n := by
  rw [numeral?_eq_some_iff]
  constructor
  · intro h
    cases h with
    | hexadecimal hx hne hdigits =>
      refine ⟨?_, hdigits, .inr hne⟩
      rcases hx with rfl | rfl <;> rfl
    | octal hdigits =>
      refine ⟨?_, hdigits, .inl rfl⟩
      -- The letters that announce a hexadecimal numeral are no octal digits.
      unfold Unsigned.announced
      split
      next heq =>
        cases heq
        exact absurd (hdigits 'x' List.mem_cons_self) (by decide)
      next heq =>
        cases heq
        exact absurd (hdigits 'X' List.mem_cons_self) (by decide)
      next heq =>
        cases heq
        rfl
      next hzero => exact absurd rfl (hzero _)
    | decimal hfirst hdigits =>
      refine ⟨?_, hdigits, .inr (List.cons_ne_nil _ _)⟩
      unfold Unsigned.announced
      split
      next heq => exact absurd (List.cons.inj heq).1 hfirst
      next heq => exact absurd (List.cons.inj heq).1 hfirst
      next heq => exact absurd (List.cons.inj heq).1 hfirst
      next => rfl
  · rintro ⟨rfl, hdigits, hne⟩
    unfold Unsigned.announced at hdigits hne ⊢
    split at hdigits
    next digits => exact .hexadecimal (.inl rfl) (hne.resolve_left (by simp)) hdigits
    next digits => exact .hexadecimal (.inr rfl) (hne.resolve_left (by simp)) hdigits
    next digits => exact .octal hdigits
    next digits hx hX hzero =>
      cases t with
      | nil => exact absurd rfl (hne.resolve_left (by simp))
      | cons first rest =>
        refine .decimal ?_ hdigits
        rintro rfl
        exact hzero rest rfl

lemma spells_decimal_iff {t digits : Text} : Spells t ⟨10, digits⟩ ↔
    digits = t ∧ t ≠ [] ∧ (∀ c ∈ t, c.isDigit) ∧ t.head? ≠ some '0' := by
  simp only [← digitValue_lt_ten_iff]
  constructor
  · intro h
    cases h with
    | decimal hfirst hdigits => exact ⟨rfl, List.cons_ne_nil _ _, hdigits, by simpa using hfirst⟩
  · rintro ⟨rfl, hne, hdigits, hhead⟩
    cases digits with
    | nil => exact absurd rfl hne
    | cons first rest => exact .decimal (fun hzero => hhead (congrArg some hzero)) hdigits

/-! ### Reading -/

/-- What a text is read as. A decimal numeral of too many digits is not read at all, and any other
numeral as its value if this is a number of 64 bits. -/
inductive ReadsAs (t : Text) : Except Unsigned.Overlong (Option Nat) → Prop
  | number {n} (hspells : Spells t n) (hlength : n.base = 10 → n.digits.length ≤ 4300)
      (hvalue : positional n.base n.digits ≤ 2 ^ 64 - 1) :
      ReadsAs t (.ok (some (positional n.base n.digits)))
  | tooLarge {n} (hspells : Spells t n) (hlength : n.base = 10 → n.digits.length ≤ 4300)
      (hvalue : 2 ^ 64 - 1 < positional n.base n.digits) : ReadsAs t (.ok none)
  | overlong {digits} (hspells : Spells t ⟨10, digits⟩) (hlength : 4300 < digits.length) :
      ReadsAs t (.error ⟨digits.length⟩)
  | noNumeral (hnone : ∀ n, ¬ Spells t n) : ReadsAs t (.ok none)

lemma Spells.unique {t : Text} {m n : Numeral} (hm : Spells t m) (hn : Spells t n) : m = n := by
  rw [spells_iff] at hm hn
  exact Option.some.inj (hm.symm.trans hn)

lemma Spells.value_eq {t : Text} {n : Numeral} (h : Spells t n) :
    n.value = positional n.base n.digits := by
  unfold Unsigned.Numeral.value
  cases h with
  | hexadecimal _ _ hdigits => exact value_eq_positional (by simp) hdigits
  | octal hdigits => exact value_eq_positional (by simp) hdigits
  | decimal _ hdigits => exact value_eq_positional (by simp) hdigits

lemma read_of_spells {t : Text} {n : Numeral} (h : Spells t n) : Unsigned.read t =
    if n.base = 10 ∧ 4300 < n.digits.length then .error ⟨n.digits.length⟩
    else if positional n.base n.digits ≤ 2 ^ 64 - 1 then .ok (some (positional n.base n.digits))
    else .ok none := by
  unfold Unsigned.read
  rw [spells_iff.1 h, ← h.value_eq]
  rfl

lemma read_of_not_spells {t : Text} (h : ∀ n, ¬ Spells t n) : Unsigned.read t = .ok none := by
  have hnone : Unsigned.numeral? t = none := by
    rw [Option.eq_none_iff_forall_ne_some]
    intro n hn
    exact h n (spells_iff.2 hn)
  unfold Unsigned.read
  rw [hnone]

lemma ReadsAs.read_eq {t : Text} {r : Except Unsigned.Overlong (Option Nat)} (h : ReadsAs t r) :
    Unsigned.read t = r := by
  cases h with
  | number hspells hlength hvalue =>
    rw [read_of_spells hspells, if_neg (by omega), if_pos hvalue]
  | tooLarge hspells hlength hvalue =>
    rw [read_of_spells hspells, if_neg (by omega), if_neg (by omega)]
  | overlong hspells hlength =>
    rw [read_of_spells hspells, if_pos ⟨rfl, hlength⟩]
  | noNumeral hnone => exact read_of_not_spells hnone

lemma readsAs_read (t : Text) : ReadsAs t (Unsigned.read t) := by
  by_cases hnumeral : ∃ n, Spells t n
  · obtain ⟨n, hspells⟩ := hnumeral
    rw [read_of_spells hspells]
    split
    next hover =>
      obtain ⟨base, digits⟩ := n
      obtain ⟨rfl, hlength⟩ := hover
      exact .overlong hspells hlength
    next hover =>
      have hlength : n.base = 10 → n.digits.length ≤ 4300 := by omega
      split
      next hvalue => exact .number hspells hlength hvalue
      next hvalue => exact .tooLarge hspells hlength (by omega)
  · rw [not_exists] at hnumeral
    rw [read_of_not_spells hnumeral]
    exact .noNumeral hnumeral

/-! ### Every spelling of a number -/

section Forms

variable {n : Nat}

lemma read_of_value {t : Text} {numeral : Numeral} (hspells : Spells t numeral)
    (hlength : numeral.base = 10 → numeral.digits.length ≤ 4300)
    (hvalue : positional numeral.base numeral.digits = n) (hn : n < 2 ^ 64) :
    Unsigned.read t = .ok (some n) := by
  have hread := ReadsAs.number hspells hlength (by omega)
  rw [hread.read_eq, hvalue]

lemma digitValue_lt_of_mem_zeros_append {base zeros : Nat} (hbase : 0 < base) {digits : Text}
    (hdigits : ∀ c ∈ digits, digitValue c < base) :
    ∀ c ∈ List.replicate zeros '0' ++ digits, digitValue c < base := by
  intro c hc
  rcases List.mem_append.1 hc with hc | hc
  · rw [List.eq_of_mem_replicate hc]
    exact hbase
  · exact hdigits c hc

lemma read_hexadecimal (hn : n < 2 ^ 64) {x : Char} (hx : x = 'x' ∨ x = 'X') (zeros : Nat)
    {digits : Text} (hdigits : digits.map Char.toLower = Nat.toDigits 16 n) :
    Unsigned.read ('0' :: x :: (List.replicate zeros '0' ++ digits)) = .ok (some n) := by
  have hne : List.replicate zeros '0' ++ digits ≠ [] := by
    intro hnil
    rw [(List.append_eq_nil_iff.1 hnil).2] at hdigits
    exact Nat.toDigits_ne_nil hdigits.symm
  have hlt : ∀ c ∈ digits, digitValue c < 16 := by
    intro c hc
    have hmem : c.toLower ∈ Nat.toDigits 16 n := hdigits ▸ List.mem_map_of_mem hc
    rw [← digitValue_toLower]
    exact digitValue_lt_of_mem_toDigits (by decide) (by decide) n _ hmem
  have hvalue : positional 16 (List.replicate zeros '0' ++ digits) = n := by
    rw [positional_zeros_append, ← positional_map_toLower, hdigits,
      positional_toDigits (by decide) (by decide)]
  exact read_of_value (.hexadecimal hx hne (digitValue_lt_of_mem_zeros_append (by decide) hlt))
    (by simp) hvalue hn

lemma read_octal (hn : n < 2 ^ 64) (zeros : Nat) :
    Unsigned.read ('0' :: (List.replicate zeros '0' ++ Nat.toDigits 8 n)) = .ok (some n) := by
  have hlt : ∀ c ∈ Nat.toDigits 8 n, digitValue c < 8 :=
    digitValue_lt_of_mem_toDigits (by decide) (by decide) n
  have hvalue : positional 8 (List.replicate zeros '0' ++ Nat.toDigits 8 n) = n := by
    rw [positional_zeros_append, positional_toDigits (by decide) (by decide)]
  exact read_of_value (.octal (digitValue_lt_of_mem_zeros_append (by decide) hlt)) (by simp)
    hvalue hn

lemma head?_toDigits_ne_zero {base : Nat} (hbase : 1 < base) (hn : 0 < n) :
    (Nat.toDigits base n).head? ≠ some '0' := by
  induction n using Nat.base_induction base hbase with
  | single m hm =>
    rw [Nat.toDigits_of_lt_base hm]
    simpa using hn.ne'
  | digit m k hk hm ih =>
    rw [← Nat.toDigits_append_toDigits hbase hm hk, List.head?_append]
    obtain ⟨first, rest, hdigits⟩ := List.exists_cons_of_ne_nil (Nat.toDigits_ne_nil (n := m))
    rw [hdigits] at ih ⊢
    exact ih hm

lemma spells_decimal (hn : 0 < n) : Spells (Text.ofNat n) ⟨10, Text.ofNat n⟩ := by
  have hdigits : ∀ c ∈ Text.ofNat n, c.isDigit :=
    fun _ hc => Nat.isDigit_of_mem_toDigits (by decide) (by decide) hc
  exact spells_decimal_iff.2
    ⟨rfl, Nat.toDigits_ne_nil, hdigits, head?_toDigits_ne_zero (by decide) hn⟩

lemma read_decimal (hn : n < 2 ^ 64) : Unsigned.read (Text.ofNat n) = .ok (some n) := by
  by_cases hpos : 0 < n
  · have hlength : (Nat.toDigits 10 n).length ≤ 20 := by
      rw [Nat.length_toDigits_le_iff (by decide) (by decide)]
      omega
    have hvalue : positional 10 (Text.ofNat n) = n :=
      positional_toDigits (by decide) (by decide) n
    exact read_of_value (spells_decimal hpos) (fun _ => hlength.trans (by decide)) hvalue hn
  · -- Zero is spelled as an octal numeral without digits.
    obtain rfl : n = 0 := by omega
    exact read_of_value (.octal (List.forall_mem_nil _)) (by simp) rfl hn

end Forms

/-- Reading follows the grammar on every text, no text spells two numerals, and a number of 64 bits
is read from its decimal form, from its hexadecimal forms in either letter case and from its octal
forms, with any number of leading zeros in the last two. -/
theorem unsigned_read_exact :
    (∀ t r, Unsigned.read t = r ↔ ReadsAs t r) ∧
    (∀ t m n, Spells t m → Spells t n → m = n) ∧
    ∀ n < 2 ^ 64,
      Unsigned.read (Text.ofNat n) = .ok (some n) ∧
      (∀ x, x = 'x' ∨ x = 'X' → ∀ zeros digits, digits.map Char.toLower = Nat.toDigits 16 n →
        Unsigned.read ('0' :: x :: (List.replicate zeros '0' ++ digits)) = .ok (some n)) ∧
      ∀ zeros, Unsigned.read ('0' :: (List.replicate zeros '0' ++ Nat.toDigits 8 n)) =
        .ok (some n) := by
  refine ⟨?_, fun _ _ _ => Spells.unique, ?_⟩
  · intro t r
    constructor
    · rintro rfl
      exact readsAs_read t
    · exact ReadsAs.read_eq
  · intro n hn
    exact ⟨read_decimal hn, fun _ hx zeros _ => read_hexadecimal hn hx zeros, read_octal hn⟩

/-- Leading zeros and letters of both cases in one numeral. -/
theorem unsigned_read_mixedCase : 255 < 2 ^ 64 ∧
    "fF".toList.map Char.toLower = Nat.toDigits 16 255 ∧
    Unsigned.read "0X00fF".toList = .ok (some 255) :=
  ⟨by decide, by decide,
    (unsigned_read_exact.2.2 255 (by decide)).2.1 'X' (.inr rfl) 2 "fF".toList (by decide)⟩

end TraceSnapshot.Proofs
