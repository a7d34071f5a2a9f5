import Mathlib.Data.List.DropRight
import Mathlib.Tactic.Lemma
import TraceSnapshot.Text.CommaList
import TraceSnapshot.Text.Path

/-!
# What the text operations keep

Trimming, cutting, unquoting and splitting take parts of a text and never add to it. This
file says which characters can be in the parts, and that a comma list is read back from its
items as it was written.
-/

namespace TraceSnapshot.Proofs

/-! ### Trimming -/

lemma trim_sublist (t : Text) : (Text.trim t).Sublist t := by
  have hstart : (Text.trimStart t).Sublist t := List.dropWhile_sublist _
  have hend : (Text.trimEnd (Text.trimStart t)).Sublist (Text.trimStart t) := by
    unfold Text.trimEnd
    rw [← List.reverse_sublist, List.reverse_reverse]
    exact List.dropWhile_sublist _
  exact hend.trans hstart

lemma mem_of_mem_trim {c : Char} {t : Text} (h : c ∈ Text.trim t) : c ∈ t :=
  (trim_sublist t).subset h

lemma mem_of_mem_withoutComment {c : Char} {raw : Text} (h : c ∈ Text.withoutComment raw) :
    c ∈ raw :=
  (List.takeWhile_sublist _).subset h

lemma trimEnd_isPrefix (t : Text) : Text.trimEnd t <+: t := by
  unfold Text.trimEnd
  rw [← List.reverse_suffix, List.reverse_reverse]
  exact List.dropWhile_suffix _

lemma trimEnd_trimEnd (t : Text) : Text.trimEnd (Text.trimEnd t) = Text.trimEnd t := by
  unfold Text.trimEnd
  rw [List.reverse_reverse, List.dropWhile_idempotent]

/-- Trimming at the end uncovers no blank at the start. -/
lemma trimStart_trim (t : Text) : Text.trimStart (Text.trim t) = Text.trim t := by
  have hprefix := trimEnd_isPrefix (Text.trimStart t)
  change Text.trim t <+: Text.trimStart t at hprefix
  unfold Text.trimStart
  rw [List.dropWhile_eq_self_iff]
  intro hlength
  have hstart : 0 < (Text.trimStart t).length := hlength.trans_le hprefix.length_le
  rw [List.IsPrefix.getElem hprefix hlength]
  exact List.dropWhile_get_zero_not _ _ hstart

@[simp] lemma trim_trim (t : Text) : Text.trim (Text.trim t) = Text.trim t := by
  change Text.trimEnd (Text.trimStart (Text.trim t)) = Text.trim t
  rw [trimStart_trim]
  exact trimEnd_trimEnd _

lemma trimStart_append_cons {c : Char} (hc : Text.isBlank c = false) (before after : Text) :
    Text.trimStart (before ++ c :: after) = Text.trimStart before ++ c :: after := by
  unfold Text.trimStart
  rw [List.dropWhile_append]
  split
  next hblank =>
    rw [List.isEmpty_iff.1 hblank, List.dropWhile_cons_of_neg (by simp [hc])]
    rfl
  next => rfl

lemma trimEnd_append_cons {c : Char} (hc : Text.isBlank c = false) (before after : Text) :
    Text.trimEnd (before ++ c :: after) = before ++ c :: Text.trimEnd after := by
  have hreverse : (before ++ c :: after).reverse = after.reverse ++ c :: before.reverse := by simp
  have hstart := trimStart_append_cons hc after.reverse before.reverse
  unfold Text.trimStart at hstart
  unfold Text.trimEnd
  rw [hreverse, hstart]
  simp

/-- A text is blank or has a first character that stops trimming. -/
lemma trimStart_eq_nil_or (t : Text) : Text.trimStart t = [] ∨
    ∃ before c after, t = before ++ c :: after ∧ Text.isBlank c = false ∧
      Text.trimStart t = c :: after := by
  induction t with
  | nil => exact Or.inl rfl
  | cons x t ih =>
    cases hx : Text.isBlank x with
    | false =>
      refine Or.inr ⟨[], x, t, rfl, hx, ?_⟩
      exact List.dropWhile_cons_of_neg (by simp [hx])
    | true =>
      have hstart : Text.trimStart (x :: t) = Text.trimStart t := List.dropWhile_cons_of_pos hx
      rw [hstart]
      rcases ih with hnil | ⟨before, c, after, rfl, hc, hafter⟩
      · exact Or.inl hnil
      · exact Or.inr ⟨x :: before, c, after, rfl, hc, hafter⟩

@[simp] lemma trim_trimStart (t : Text) : Text.trim (Text.trimStart t) = Text.trim t :=
  congrArg Text.trimEnd (List.dropWhile_idempotent _ _)

@[simp] lemma trim_trimEnd (t : Text) : Text.trim (Text.trimEnd t) = Text.trim t := by
  unfold Text.trim
  rcases trimStart_eq_nil_or t with hnil | ⟨before, c, after, rfl, hc, hstart⟩
  · -- A blank text has nothing but blanks in front of its end.
    have hend : Text.trimStart (Text.trimEnd t) = [] := by
      unfold Text.trimStart at hnil ⊢
      rw [List.dropWhile_eq_nil_iff] at hnil ⊢
      exact fun c hc => hnil c ((trimEnd_isPrefix t).subset hc)
    rw [hend, hnil]
  · have hbefore : Text.trimStart before = [] := by
      have happend := trimStart_append_cons hc before after
      rw [hstart] at happend
      exact List.append_left_eq_self.1 happend.symm
    rw [trimEnd_append_cons hc, trimStart_append_cons hc, trimStart_append_cons hc, hbefore]
    change Text.trimEnd ([] ++ c :: Text.trimEnd after) = Text.trimEnd ([] ++ c :: after)
    rw [trimEnd_append_cons hc, trimEnd_append_cons hc, trimEnd_trimEnd]

lemma trim_blank_append {front : Text} (h : ∀ c ∈ front, Text.isBlank c) (t : Text) :
    Text.trim (front ++ t) = Text.trim t := by
  have hstart : Text.trimStart (front ++ t) = Text.trimStart t := List.dropWhile_append_of_pos h
  rw [← trim_trimStart, hstart, trim_trimStart]

lemma trim_append_blank {back : Text} (h : ∀ c ∈ back, Text.isBlank c) (t : Text) :
    Text.trim (t ++ back) = Text.trim t := by
  have hend : Text.trimEnd (t ++ back) = Text.trimEnd t := by
    unfold Text.trimEnd
    rw [List.reverse_append, List.dropWhile_append_of_pos (by simpa using h)]
  rw [← trim_trimEnd, hend, trim_trimEnd]

lemma isBlank_of_trim_eq_nil {t : Text} (h : Text.trim t = []) {c : Char} (hc : c ∈ t) :
    Text.isBlank c := by
  rcases trimStart_eq_nil_or t with hnil | ⟨before, x, after, rfl, hx, hstart⟩
  · exact List.dropWhile_eq_nil_iff.1 hnil c hc
  · unfold Text.trim at h
    rw [hstart, ← List.nil_append (x :: after), trimEnd_append_cons hx] at h
    cases h

/-! ### Cutting -/

lemma cut_eq_none_iff {c : Char} {t : Text} : Text.cut c t = none ↔ c ∉ t := by
  induction t with
  | nil => simp [Text.cut]
  | cons x xs ih =>
    by_cases h : x = c
    · simp [Text.cut, h]
    · simp [Text.cut, h, ih, Ne.symm h]

lemma cut_eq_some_iff {c : Char} {t before after : Text} :
    Text.cut c t = some (before, after) ↔ t = before ++ c :: after ∧ c ∉ before := by
  induction t generalizing before with
  | nil => simp [Text.cut]
  | cons x xs ih =>
    by_cases h : x = c
    · cases before with
      | nil => simp [Text.cut, h]
      | cons y ys =>
        simp only [Text.cut, h, if_true, Option.some.injEq, Prod.mk.injEq, reduceCtorEq, false_and,
          List.cons_append, List.cons.injEq, List.mem_cons, not_or, false_iff, not_and]
        rintro ⟨rfl, -⟩ hne
        exact absurd rfl hne
    · cases before with
      | nil => simp [Text.cut, h]
      | cons y ys =>
        simp only [Text.cut, if_neg h, Option.map_eq_some_iff, Prod.exists, Prod.mk.injEq,
          List.cons.injEq, List.cons_append, List.mem_cons, not_or]
        constructor
        · rintro ⟨before, after, hcut, ⟨rfl, rfl⟩, rfl⟩
          obtain ⟨rfl, hc⟩ := ih.1 hcut
          exact ⟨⟨rfl, rfl⟩, Ne.symm h, hc⟩
        · rintro ⟨⟨rfl, hxs⟩, -, hc⟩
          exact ⟨ys, after, ih.2 ⟨hxs, hc⟩, ⟨rfl, rfl⟩, rfl⟩

/-- What surrounds a text without having the character goes into the outer parts. -/
lemma cut_append_append {c : Char} {front back : Text} (hfront : c ∉ front) (hback : c ∉ back)
    (t : Text) : Text.cut c (front ++ t ++ back) =
      (Text.cut c t).map fun parts => (front ++ parts.1, parts.2 ++ back) := by
  cases hcut : Text.cut c t with
  | none =>
    rw [cut_eq_none_iff] at hcut
    rw [Option.map_none, cut_eq_none_iff]
    simp [hfront, hback, hcut]
  | some parts =>
    obtain ⟨before, after⟩ := parts
    obtain ⟨rfl, hbefore⟩ := cut_eq_some_iff.1 hcut
    rw [Option.map_some, cut_eq_some_iff]
    refine ⟨by simp, ?_⟩
    exact List.not_mem_append hfront hbefore

lemma cutLast_eq_none_iff {c : Char} {t : Text} : Text.cutLast c t = none ↔ c ∉ t := by
  induction t with
  | nil => simp [Text.cutLast]
  | cons x xs ih =>
    cases hxs : Text.cutLast c xs with
    | some parts =>
      have hc : c ∈ xs := by
        by_contra hc
        rw [ih.2 hc] at hxs
        cases hxs
      simp [Text.cutLast, hxs, hc]
    | none =>
      by_cases hx : x = c
      · simp [Text.cutLast, hxs, hx]
      · simp [Text.cutLast, hxs, hx, ih.1 hxs, Ne.symm hx]

lemma cutLast_eq_some_iff {c : Char} {t before after : Text} :
    Text.cutLast c t = some (before, after) ↔ t = before ++ c :: after ∧ c ∉ after := by
  constructor
  · intro h
    induction t generalizing before with
    | nil => simp [Text.cutLast] at h
    | cons x xs ih =>
      cases hxs : Text.cutLast c xs with
      | some parts =>
        obtain ⟨before', after'⟩ := parts
        simp only [Text.cutLast, hxs, Option.some.injEq, Prod.mk.injEq] at h
        obtain ⟨rfl, rfl⟩ := h
        obtain ⟨rfl, hafter⟩ := ih hxs
        exact ⟨rfl, hafter⟩
      | none =>
        by_cases hx : x = c
        · simp only [Text.cutLast, hxs, hx, if_true, Option.some.injEq, Prod.mk.injEq] at h
          obtain ⟨rfl, rfl⟩ := h
          exact ⟨by rw [hx, List.nil_append], cutLast_eq_none_iff.1 hxs⟩
        · simp [Text.cutLast, hxs, hx] at h
  · rintro ⟨rfl, hafter⟩
    induction before with
    | nil =>
      rw [List.nil_append, Text.cutLast, cutLast_eq_none_iff.2 hafter]
      simp
    | cons x before ih => rw [List.cons_append, Text.cutLast, ih]

/-! ### Splitting -/

lemma notMem_of_mem_splitOn {c : Char} {t part : Text} (h : part ∈ t.splitOn c) : c ∉ part := by
  induction t generalizing part with
  | nil => simp_all
  | cons x xs ih =>
    obtain ⟨first, rest, hsplit⟩ := List.exists_cons_of_ne_nil (List.splitOn_ne_nil c xs)
    rw [List.splitOn_cons_eq_if_modifyHead, hsplit] at h
    rw [hsplit] at ih
    by_cases hx : x = c
    · simp only [hx, beq_self_eq_true, if_true, List.mem_cons (a := part)] at h
      rcases h with rfl | h
      · simp
      · exact ih (List.mem_cons.2 h)
    · simp only [beq_iff_eq, hx, if_false, List.modifyHead_cons, List.mem_cons (a := part)] at h
      rcases h with rfl | h
      · simpa [Ne.symm hx] using ih List.mem_cons_self
      · exact ih (List.mem_cons_of_mem _ h)

lemma sublist_of_mem_splitOn {c : Char} {t part : Text} (h : part ∈ t.splitOn c) :
    part.Sublist t := by
  induction t generalizing part with
  | nil => simp_all
  | cons x xs ih =>
    obtain ⟨first, rest, hsplit⟩ := List.exists_cons_of_ne_nil (List.splitOn_ne_nil c xs)
    rw [List.splitOn_cons_eq_if_modifyHead, hsplit] at h
    rw [hsplit] at ih
    by_cases hx : x = c
    · simp only [hx, beq_self_eq_true, if_true, List.mem_cons (a := part)] at h
      rcases h with rfl | h
      · exact List.nil_sublist _
      · exact (ih (List.mem_cons.2 h)).cons _
    · simp only [beq_iff_eq, hx, if_false, List.modifyHead_cons, List.mem_cons (a := part)] at h
      rcases h with rfl | h
      · exact (ih List.mem_cons_self).cons_cons x
      · exact (ih (List.mem_cons_of_mem _ h)).cons _

lemma splitOn_injective (c : Char) : Function.Injective fun t : Text => t.splitOn c := by
  intro t u h
  have hjoin := congrArg [c].intercalate h
  simpa only [List.intercalate_splitOn] using hjoin

lemma mem_intercalate {c : Char} {separator : Text} {parts : List Text}
    (h : c ∈ separator.intercalate parts) : c ∈ separator ∨ ∃ part ∈ parts, c ∈ part := by
  induction parts with
  | nil => simp at h
  | cons part rest ih =>
    by_cases hrest : rest = []
    · subst hrest
      exact Or.inr ⟨part, List.mem_singleton_self _, by simpa using h⟩
    · rw [List.intercalate_cons_of_ne_nil hrest, List.mem_append, List.mem_append] at h
      rcases h with (h | h) | h
      · exact Or.inr ⟨part, List.mem_cons_self, h⟩
      · exact Or.inl h
      · rcases ih h with hseparator | ⟨other, hother, hc⟩
        · exact Or.inl hseparator
        · exact Or.inr ⟨other, List.mem_cons_of_mem _ hother, hc⟩

lemma notMem_intercalate {c : Char} {separator : Text} {parts : List Text}
    (hseparator : c ∉ separator) (h : ∀ part ∈ parts, c ∉ part) :
    c ∉ separator.intercalate parts := by
  intro hc
  rcases mem_intercalate hc with hc | ⟨part, hpart, hc⟩
  · exact hseparator hc
  · exact h part hpart hc

/-! ### Quotes, numbers and slashes -/

lemma mem_of_mem_unquoted {c : Char} {t : Text} (h : c ∈ Text.unquoted t) : c ∈ t := by
  apply mem_of_mem_trim
  unfold Text.unquoted at h
  split at h
  next => simp at h
  next first rest htrim =>
    rw [htrim]
    split at h
    · exact List.mem_cons_of_mem _ (List.dropLast_subset _ h)
    · exact h

lemma ofNat_injective : Function.Injective Text.ofNat := by
  intro m n h
  have hdigits := congrArg (Nat.ofDigitChars 10 · 0) h
  simpa only [Text.ofNat, Nat.ofDigitChars_ten_toDigits] using hdigits

lemma isDigit_of_mem_ofNat {c : Char} {n : Nat} (h : c ∈ Text.ofNat n) : c.isDigit :=
  Nat.isDigit_of_mem_toDigits (by decide) (by decide) h

lemma mem_of_mem_normalize {c : Char} {path : Text} (hc : c ≠ '/')
    (h : c ∈ Path.normalize path) : c ∈ path := by
  obtain ⟨d, hd, hdc⟩ := List.mem_map.1 h
  by_cases hback : d = '\\'
  · rw [if_pos hback] at hdc
    exact absurd hdc.symm hc
  · rw [if_neg hback] at hdc
    exact hdc ▸ hd

lemma notMem_pathJoin {c : Char} {base rel separator : Text} (hbase : c ∉ base) (hrel : c ∉ rel)
    (hseparator : c ∉ separator) : c ∉ Path.join base rel separator := by
  unfold Path.join
  split
  next => exact hbase
  next =>
    split
    next => exact hrel
    next =>
      split
      next => exact hrel
      next =>
        split
        next => exact List.not_mem_append hbase hrel
        next => exact List.not_mem_append (List.not_mem_append hbase hseparator) hrel

/-! ### Comma lists -/

/-- A text that can stand between two commas as an item of its own. -/
structure ListItem (t : Text) : Prop where
  nonempty : t ≠ []
  trimmed : Text.trim t = t
  no_comma : ',' ∉ t

lemma listItem_of_mem_items {t item : Text} (h : item ∈ CommaList.items t) : ListItem item := by
  obtain ⟨hmem, hne⟩ := List.mem_filter.1 h
  obtain ⟨part, hpart, rfl⟩ := List.mem_map.1 hmem
  exact ⟨by simpa using hne, trim_trim part,
    fun hc => notMem_of_mem_splitOn hpart (mem_of_mem_trim hc)⟩

lemma mem_of_mem_items {c : Char} {t item : Text} (h : item ∈ CommaList.items t)
    (hc : c ∈ item) : c ∈ t := by
  obtain ⟨part, hpart, rfl⟩ := List.mem_map.1 (List.mem_filter.1 h).1
  exact (sublist_of_mem_splitOn hpart).subset (mem_of_mem_trim hc)

/-- Items that can stand between commas are read back from their row. -/
lemma items_join {items : List Text} (h : ∀ item ∈ items, ListItem item) :
    CommaList.items (CommaList.join items) = items := by
  unfold CommaList.items CommaList.join
  by_cases hnil : items = []
  · subst hnil
    rfl
  · rw [List.splitOn_intercalate ',' (fun item hitem => (h item hitem).no_comma) hnil,
      List.map_congr_left (g := id) (fun item hitem => (h item hitem).trimmed), List.map_id,
      List.filter_eq_self.2]
    intro item hitem
    simpa using (h item hitem).nonempty

lemma mem_join {c : Char} {items : List Text} (h : c ∈ CommaList.join items) :
    c = ',' ∨ ∃ item ∈ items, c ∈ item := by
  simpa only [List.mem_singleton] using mem_intercalate h

lemma comma_or_blank_of_items_eq_nil {t : Text} (h : CommaList.items t = []) {c : Char}
    (hc : c ∈ t) : c = ',' ∨ Text.isBlank c := by
  have hjoin : CommaList.join (t.splitOn ',') = t := List.intercalate_splitOn ','
  rw [← hjoin] at hc
  rcases mem_join hc with hcomma | ⟨part, hpart, hc⟩
  · exact Or.inl hcomma
  · have hblank := List.filter_eq_nil_iff.1 h _ (List.mem_map_of_mem hpart)
    exact Or.inr (isBlank_of_trim_eq_nil (by simpa using hblank) hc)

end TraceSnapshot.Proofs
