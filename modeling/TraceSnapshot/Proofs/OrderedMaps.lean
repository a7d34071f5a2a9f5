import Mathlib.Data.List.Induction
import Mathlib.Data.List.Nodup
import Mathlib.Tactic.Lemma
import TraceSnapshot.OrderedMap

/-!
# Keys and values of ordered maps

An ordered map that is filled pair by pair has its keys in the order in which they occur first,
and at each of them the value of the last pair.
-/

namespace TraceSnapshot.Proofs

/-! ### First occurrences -/

section FirstOccurrences

variable {α : Type} [BEq α] [LawfulBEq α]

lemma eraseDups_concat (xs : List α) (x : α) :
    (xs ++ [x]).eraseDups = if xs.contains x then xs.eraseDups else xs.eraseDups ++ [x] := by
  rw [List.eraseDups_append]
  by_cases h : xs.contains x = true
  · have hnone : [x].removeAll xs = [] := by simp [List.removeAll, List.contains_iff_mem.1 h]
    rw [if_pos h, hnone, List.eraseDups_nil, List.append_nil]
  · have hself : [x].removeAll xs = [x] := by
      rw [List.contains_iff_mem] at h
      simp [List.removeAll, h]
    rw [if_neg h, hself]
    rfl

lemma nodup_eraseDups (xs : List α) : xs.eraseDups.Nodup := by
  induction xs using List.reverseRecOn with
  | nil => exact List.nodup_nil
  | append_singleton xs x ih =>
    rw [eraseDups_concat]
    split
    · exact ih
    · rename_i h
      rw [List.contains_iff_mem] at h
      apply ih.append (List.nodup_singleton x)
      rw [List.disjoint_singleton, List.mem_eraseDups]
      exact h

end FirstOccurrences

/-! ### Keys -/

section OrderedMap

variable {κ α : Type} [DecidableEq κ]

lemma get?_insert (m : OrderedMap κ α) (k x : κ) (a : α) :
    (m.insert k a).get? x = if x = k then some a else m.get? x :=
  m.get?_upsert k x fun _ => a

lemma get?_eq_none_iff {m : OrderedMap κ α} {k : κ} : m.get? k = none ↔ k ∉ m.keys := by
  unfold OrderedMap.get? OrderedMap.keys
  rw [List.lookup_eq_none_iff, List.mem_map]
  constructor
  · rintro h ⟨pair, hpair, rfl⟩
    simpa using h pair hpair
  · intro h pair hpair
    simp only [bne_iff_ne, ne_eq]
    rintro rfl
    exact h ⟨pair, hpair, rfl⟩

/-- Every key has one value, so a lookup finds any pair of the map. -/
lemma get?_eq_some_iff {m : OrderedMap κ α} {k : κ} {a : α} :
    m.get? k = some a ↔ (k, a) ∈ m.pairs := by
  obtain ⟨pairs, hnodup⟩ := m
  change pairs.lookup k = some a ↔ (k, a) ∈ pairs
  induction pairs with
  | nil => simp
  | cons pair rest ih =>
    obtain ⟨x, b⟩ := pair
    rw [List.map_cons, List.nodup_cons] at hnodup
    rw [OrderedMap.lookup_cons, List.mem_cons, Prod.mk.injEq]
    by_cases hk : k = x
    · subst hk
      have habsent : (k, a) ∉ rest := fun hmem => hnodup.1 (List.mem_map.2 ⟨(k, a), hmem, rfl⟩)
      simp [habsent, eq_comm]
    · simp [hk, ih hnodup.2]

lemma get?_eq_of_perm {m m' : OrderedMap κ α} (h : m.pairs.Perm m'.pairs) : m.get? = m'.get? := by
  funext k
  apply Option.ext
  intro a
  rw [get?_eq_some_iff, get?_eq_some_iff, h.mem_iff]

/-- If only what is at one key counts, a traversal of the map comes down to that. -/
lemma flatMap_pairs_of_get? {β : Type} {m : OrderedMap κ α} {k : κ} {a : α} {f : κ × α → List β}
    (h : m.get? k = some a) (hothers : ∀ pair ∈ m.pairs, pair.1 ≠ k → f pair = []) :
    m.pairs.flatMap f = f (k, a) := by
  obtain ⟨before, after, hsplit⟩ := List.append_of_mem (get?_eq_some_iff.1 h)
  have hnew : k ∉ (before ++ after).map Prod.fst := by
    have hnodup := m.nodup
    rw [hsplit, List.map_append, List.map_cons, List.nodup_middle, List.nodup_cons,
      ← List.map_append] at hnodup
    exact hnodup.1
  have hrest : (before ++ after).flatMap f = [] := by
    rw [List.flatMap_eq_nil_iff]
    intro pair hpair
    refine hothers pair ?_ fun hkey => hnew (List.mem_map.2 ⟨pair, hpair, hkey⟩)
    rw [hsplit, List.perm_middle.mem_iff]
    exact List.mem_cons_of_mem _ hpair
  rw [List.flatMap_append, List.append_eq_nil_iff] at hrest
  rw [hsplit, List.flatMap_append, List.flatMap_cons, hrest.1, hrest.2, List.nil_append,
    List.append_nil]

/-- A map is determined by its keys and the values at them. -/
lemma pairs_eq_map_keys (m : OrderedMap κ α) (absent : α) :
    m.pairs = m.keys.map fun k => (k, (m.get? k).getD absent) := by
  unfold OrderedMap.keys
  rw [List.map_map]
  conv_lhs => rw [← List.map_id m.pairs]
  apply List.map_congr_left
  intro pair hpair
  dsimp only [Function.comp_apply]
  rw [get?_eq_some_iff.2 hpair]
  rfl

lemma keys_erase (m : OrderedMap κ α) (k : κ) : (m.erase k).keys = m.keys.filter (· ≠ k) := by
  unfold OrderedMap.keys
  rw [List.filter_map]
  rfl

lemma get?_erase_of_ne {m : OrderedMap κ α} {k x : κ} (h : x ≠ k) :
    (m.erase k).get? x = m.get? x := by
  change (m.pairs.filter fun pair => pair.1 ≠ k).lookup x = m.pairs.lookup x
  induction m.pairs with
  | nil => rfl
  | cons pair rest ih =>
    obtain ⟨y, a⟩ := pair
    by_cases hy : y = k
    · have hx : x ≠ y := fun e => h (e.trans hy)
      rw [List.filter_cons_of_neg (by simpa using hy), OrderedMap.lookup_cons, if_neg hx, ih]
    · rw [List.filter_cons_of_pos (by simpa using hy), OrderedMap.lookup_cons,
        OrderedMap.lookup_cons, ih]

/-! ### Filling a map -/

/-- The map that is filled with the pairs of a list, one after the other. -/
def filled (pairs : List (κ × α)) : OrderedMap κ α :=
  pairs.foldl (fun m pair => m.insert pair.1 pair.2) .empty

lemma filled_concat (pairs : List (κ × α)) (pair : κ × α) :
    filled (pairs ++ [pair]) = (filled pairs).insert pair.1 pair.2 := by
  unfold filled
  rw [List.foldl_append]
  rfl

-- Equality on keys may be given apart from its decision, as it is for texts.
variable [BEq κ] [LawfulBEq κ]

lemma keys_filled (pairs : List (κ × α)) :
    (filled pairs).keys = (pairs.map Prod.fst).eraseDups := by
  induction pairs using List.reverseRecOn with
  | nil => rfl
  | append_singleton pairs pair ih =>
    have hkeys := (filled pairs).keys_upsert pair.1 fun _ => pair.2
    rw [ih] at hkeys
    rw [filled_concat, List.map_append, List.map_singleton, eraseDups_concat]
    refine hkeys.trans ?_
    simp only [List.mem_eraseDups, List.contains_iff_mem]

lemma get?_filled (pairs : List (κ × α)) (k : κ) :
    (filled pairs).get? k = ((pairs.filter fun pair => pair.1 == k).map Prod.snd).getLast? := by
  induction pairs using List.reverseRecOn with
  | nil => rfl
  | append_singleton pairs pair ih =>
    rw [filled_concat, get?_insert, List.filter_append, List.map_append]
    by_cases hk : k = pair.1
    · simp [hk]
    · have hne : ¬ pair.1 = k := fun e => hk e.symm
      rw [if_neg hk, ih]
      simp [hne]

end OrderedMap

end TraceSnapshot.Proofs
