import Mathlib.Data.List.DropRight
import Mathlib.Tactic.Lemma
import TraceSnapshot.Proofs.TextParts

/-!
# What a text lists

A text lists items one after the other, with blanks around them and commas between them, and blanks
alone list nothing. The reader of comma lists decides just this relation, so lists with a comma
between them are read as one. A row of items is read back just if each of them can stand between
commas; the items of a text always can, and the row of them is the form in which the text is
written with nothing to spare.
-/

namespace TraceSnapshot.Proofs

/-- The text lists these items in this order. Blanks list nothing, an item with blanks around it
lists itself, and a comma puts what is listed behind it after what is listed in front of it. -/
inductive Lists : Text → List Text → Prop
  | nothing {t : Text} (hblank : ∀ c ∈ t, Text.isBlank c) : Lists t []
  | item {front t back : Text} (hfront : ∀ c ∈ front, Text.isBlank c) (ht : ListItem t)
      (hback : ∀ c ∈ back, Text.isBlank c) : Lists (front ++ t ++ back) [t]
  | comma {t u : Text} {items others : List Text} (ht : Lists t items) (hu : Lists u others) :
      Lists (t ++ ',' :: u) (items ++ others)

lemma comma_notMem_of_blank {t : Text} (h : ∀ c ∈ t, Text.isBlank c) : ',' ∉ t := by
  intro hcomma
  have hblank := h ',' hcomma
  cases hblank

/-- What trimming takes away is blank. -/
lemma exists_blanks_around_trim (t : Text) : ∃ front back : Text,
    (∀ c ∈ front, Text.isBlank c) ∧ (∀ c ∈ back, Text.isBlank c) ∧
      t = front ++ Text.trim t ++ back := by
  have hstart : t.takeWhile Text.isBlank ++ Text.trimStart t = t := List.takeWhile_append_dropWhile
  have hend : Text.trim t ++ (Text.trimStart t).rtakeWhile Text.isBlank = Text.trimStart t :=
    List.rdropWhile_append_rtakeWhile
  refine ⟨t.takeWhile Text.isBlank, (Text.trimStart t).rtakeWhile Text.isBlank, ?_, ?_, ?_⟩
  · exact fun c hc => List.mem_takeWhile_imp hc
  · exact fun c hc => List.mem_rtakeWhile_imp hc
  · rw [List.append_assoc, hend, hstart]

/-! ### The items of a text -/

lemma items_of_no_comma {t : Text} (h : ',' ∉ t) :
    CommaList.items t = if Text.trim t = [] then [] else [Text.trim t] := by
  unfold CommaList.items
  rw [List.splitOn_eq_singleton h, List.map_singleton]
  split
  next hnil => simp [hnil]
  next hne => simp [hne]

lemma items_append_comma (t u : Text) :
    CommaList.items (t ++ ',' :: u) = CommaList.items t ++ CommaList.items u := by
  unfold CommaList.items
  rw [List.splitOn_append_cons_self, List.map_append, List.filter_append]

lemma Lists.items_eq {t : Text} {items : List Text} (h : Lists t items) :
    CommaList.items t = items := by
  induction h with
  | @nothing t hblank =>
    have htrim : Text.trim t = [] := by
      rw [← List.append_nil t, trim_blank_append hblank]
      rfl
    rw [items_of_no_comma (comma_notMem_of_blank hblank), if_pos htrim]
  | @item front t back hfront ht hback =>
    have hcomma : ',' ∉ front ++ t ++ back := by
      simp [comma_notMem_of_blank hfront, ht.no_comma, comma_notMem_of_blank hback]
    have htrim : Text.trim (front ++ t ++ back) = t := by
      rw [trim_append_blank hback, trim_blank_append hfront, ht.trimmed]
    rw [items_of_no_comma hcomma, htrim, if_neg ht.nonempty]
  | comma _ _ ih ihu => rw [items_append_comma, ih, ihu]

lemma lists_of_no_comma {t : Text} (h : ',' ∉ t) : Lists t (CommaList.items t) := by
  rw [items_of_no_comma h]
  split
  next hnil => exact .nothing fun c hc => isBlank_of_trim_eq_nil hnil hc
  next hne =>
    have hitem : ListItem (Text.trim t) :=
      ⟨hne, trim_trim t, fun hcomma => h (mem_of_mem_trim hcomma)⟩
    obtain ⟨front, back, hfront, hback, ht⟩ := exists_blanks_around_trim t
    have hlists := Lists.item hfront hitem hback
    rwa [← ht] at hlists

lemma lists_join {parts : List Text} (h : ∀ part ∈ parts, ',' ∉ part) :
    Lists (CommaList.join parts) (CommaList.items (CommaList.join parts)) := by
  -- The first comma of the row is the one behind the first part.
  induction parts with
  | nil => exact lists_of_no_comma List.not_mem_nil
  | cons part rest ih =>
    rw [List.forall_mem_cons] at h
    by_cases hrest : rest = []
    · subst hrest
      have hjoin : CommaList.join [part] = part := List.intercalate_singleton
      rw [hjoin]
      exact lists_of_no_comma h.1
    · have hjoin : CommaList.join (part :: rest) = part ++ ',' :: CommaList.join rest := by
        unfold CommaList.join
        rw [List.intercalate_cons_of_ne_nil hrest, List.append_assoc, List.singleton_append]
      rw [hjoin, items_append_comma]
      exact (lists_of_no_comma h.1).comma (ih h.2)

/-- Every text lists its items and nothing else. -/
theorem items_eq_iff_lists {t : Text} {items : List Text} :
    CommaList.items t = items ↔ Lists t items := by
  constructor
  · rintro rfl
    have hjoin : CommaList.join (t.splitOn ',') = t := List.intercalate_splitOn ','
    rw [← hjoin]
    exact lists_join fun part hpart => notMem_of_mem_splitOn hpart
  · exact Lists.items_eq

/-! ### The row of a list of items -/

/-- An item that is read is one that can stand between commas. -/
lemma items_join_eq_self_iff {items : List Text} :
    CommaList.items (CommaList.join items) = items ↔ ∀ item ∈ items, ListItem item := by
  constructor
  · intro h item hitem
    rw [← h] at hitem
    exact listItem_of_mem_items hitem
  · exact items_join

-- An empty item is lost in the row, and an item with a comma becomes two.
example : CommaList.items (CommaList.join [[], "a,b".toList]) = [['a'], ['b']] := by rfl

lemma items_join_items (t : Text) :
    CommaList.items (CommaList.join (CommaList.items t)) = CommaList.items t :=
  items_join fun _ => listItem_of_mem_items

/-- The items that are read are the ones that the text lists, each fit to stand between commas.
Their row lists them again, so nothing is left to change in it, and a list of items is what its row
lists just if each item is fit. Behind a comma the reading starts afresh. -/
theorem comma_lists_have_canonical_form :
    (∀ t items, CommaList.items t = items ↔ Lists t items) ∧
    (∀ t, ∀ item ∈ CommaList.items t, ListItem item) ∧
    (∀ t, CommaList.items (CommaList.join (CommaList.items t)) = CommaList.items t ∧
      CommaList.join (CommaList.items (CommaList.join (CommaList.items t))) =
        CommaList.join (CommaList.items t)) ∧
    (∀ items, CommaList.items (CommaList.join items) = items ↔ ∀ item ∈ items, ListItem item) ∧
    ∀ t u, CommaList.items (t ++ ',' :: u) = CommaList.items t ++ CommaList.items u := by
  refine ⟨fun _ _ => items_eq_iff_lists, fun _ _ => listItem_of_mem_items, fun t => ?_,
    fun _ => items_join_eq_self_iff, items_append_comma⟩
  have hitems := items_join_items t
  exact ⟨hitems, congrArg CommaList.join hitems⟩

/-- A blank inside an item, parts without an item, and a space that is not blank. -/
def unevenRow : Text := " a b ,\t,\x0bc,,\u00a0".toList

theorem comma_lists_have_canonical_form_unevenRow :
    let items := ["a b".toList, ['c'], ['\u00a0']]
    CommaList.items unevenRow = items ∧ Lists unevenRow items ∧ (∀ item ∈ items, ListItem item) ∧
      CommaList.items "a b,c,\u00a0".toList = items ∧
      CommaList.items (unevenRow ++ ',' :: unevenRow) = items ++ items ∧
      ¬ ∀ item ∈ [['a'], " c".toList], ListItem item := by
  intro items
  obtain ⟨hlists, hfit, hrejoined, hrow, hcomma⟩ := comma_lists_have_canonical_form
  have hitems : CommaList.items unevenRow = items := rfl
  have hunfit : CommaList.items "a, c".toList ≠ [['a'], " c".toList] := by decide
  refine ⟨hitems, (hlists unevenRow items).1 hitems, ?_, ?_, ?_, ?_⟩
  · rw [← hitems]
    exact hfit unevenRow
  · exact (hrejoined unevenRow).1
  · rw [hcomma, hitems]
  · exact fun h => hunfit ((hrow [['a'], " c".toList]).2 h)

end TraceSnapshot.Proofs
