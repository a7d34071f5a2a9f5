import Mathlib.Data.List.Perm.Basic
import Mathlib.Tactic.Lemma
import TraceSnapshot.Canonical

/-!
# Stable sorting

The comparisons of the canonical order are total preorders. Sorting by one of them permutes a
list, and elements that compare equal keep their order. Together with the order of the keys
this leaves only one possible result.
-/

namespace TraceSnapshot.Proofs

section Sorting

variable {α : Type} {cmp : α → α → Ordering}

lemma sortBy_perm (cmp : α → α → Ordering) (xs : List α) : (sortBy cmp xs).Perm xs :=
  List.mergeSort_perm xs _

@[simp] lemma mem_sortBy {a : α} {xs : List α} : a ∈ sortBy cmp xs ↔ a ∈ xs :=
  (sortBy_perm cmp xs).mem_iff

lemma mem_ascending {t : Text} {ts : List Text} : t ∈ Text.ascending ts ↔ t ∈ ts := by
  simp [Text.ascending]

lemma sortBy_eq_self {xs : List α} (h : xs.Pairwise fun a b => (cmp a b).isLE) :
    sortBy cmp xs = xs :=
  List.mergeSort_of_pairwise h

variable [Std.TransCmp cmp]

lemma isLE_total (a b : α) : ((cmp a b).isLE || (cmp b a).isLE) = true := by
  have hswap : cmp b a = (cmp a b).swap := Std.OrientedCmp.eq_swap
  rw [hswap]
  cases cmp a b <;> rfl

lemma pairwise_sortBy (xs : List α) : (sortBy cmp xs).Pairwise fun a b => (cmp a b).isLE :=
  List.pairwise_mergeSort (fun _ _ _ => Std.TransCmp.isLE_trans) isLE_total xs

@[simp] lemma sortBy_sortBy (xs : List α) : sortBy cmp (sortBy cmp xs) = sortBy cmp xs :=
  sortBy_eq_self (pairwise_sortBy xs)

/-- Elements that are in order already keep their order. -/
theorem filter_sortBy {p : α → Bool} {xs : List α}
    (h : (xs.filter p).Pairwise fun a b => (cmp a b).isLE) :
    (sortBy cmp xs).filter p = xs.filter p := by
  have hsub : (xs.filter p).Sublist (sortBy cmp xs) :=
    List.sublist_mergeSort (fun _ _ _ => Std.TransCmp.isLE_trans) isLE_total h List.filter_sublist
  have hfiltered : (xs.filter p).Sublist ((sortBy cmp xs).filter p) := by
    simpa using hsub.filter p
  exact (hfiltered.eq_of_length ((sortBy_perm cmp xs).filter p).length_eq.symm).symm

/-- If no two elements compare equal, the order of a list does not matter. -/
theorem sortBy_eq_of_perm {xs ys : List α} (hperm : xs.Perm ys)
    (hanti : ∀ a ∈ xs, ∀ b ∈ xs, cmp a b = .eq → a = b) : sortBy cmp xs = sortBy cmp ys := by
  have hsorted : (sortBy cmp xs).Perm (sortBy cmp ys) :=
    (sortBy_perm cmp xs).trans (hperm.trans (sortBy_perm cmp ys).symm)
  refine hsorted.eq_of_pairwise ?_ (pairwise_sortBy xs) (pairwise_sortBy ys)
  intro a b ha hb hab hba
  refine hanti a (mem_sortBy.1 ha) b (hperm.mem_iff.2 (mem_sortBy.1 hb)) ?_
  exact Std.OrientedCmp.isLE_antisymm hab hba

end Sorting

lemma pairwise_lt_of_isLE {α : Type} {cmp : α → α → Ordering} {xs : List α}
    (hle : xs.Pairwise fun a b => (cmp a b).isLE) (hne : xs.Pairwise fun a b => cmp a b ≠ .eq) :
    xs.Pairwise fun a b => cmp a b = .lt := by
  apply (hle.and hne).imp
  intro a b hab
  exact (Ordering.isLE_iff_eq_lt_or_eq_eq.1 hab.1).resolve_right hab.2

/-- A sorted list is determined by the elements that compare equal to each element. -/
theorem eq_of_filter_compare_eq {α : Type} {cmp : α → α → Ordering} [Std.TransCmp cmp]
    {xs ys : List α} (hxs : xs.Pairwise fun a b => (cmp a b).isLE)
    (hys : ys.Pairwise fun a b => (cmp a b).isLE)
    (h : ∀ k, xs.filter (fun a => cmp k a = .eq) = ys.filter fun a => cmp k a = .eq) :
    xs = ys := by
  have hself : ∀ a, cmp a a = .eq := fun _ => Std.ReflCmp.compare_self
  induction xs generalizing ys with
  | nil =>
    cases ys with
    | nil => rfl
    | cons b ys => simpa [hself] using h b
  | cons a xs ih =>
    cases ys with
    | nil => simpa [hself] using h a
    | cons b ys =>
      -- Each head occurs in the other list, so neither is greater than the other.
      have hab : (cmp a b).isLE := by
        have hb : b ∈ (a :: xs).filter fun c => cmp b c = .eq := by simp [h b, hself]
        rcases List.mem_cons.1 (List.mem_filter.1 hb).1 with rfl | hb
        · exact Std.ReflCmp.isLE_rfl
        · exact (List.pairwise_cons.1 hxs).1 b hb
      have hba : (cmp b a).isLE := by
        have ha : a ∈ (b :: ys).filter fun c => cmp a c = .eq := by simp [← h a, hself]
        rcases List.mem_cons.1 (List.mem_filter.1 ha).1 with rfl | ha
        · exact Std.ReflCmp.isLE_rfl
        · exact (List.pairwise_cons.1 hys).1 a ha
      have hties : cmp a b = .eq := Std.OrientedCmp.isLE_antisymm hab hba
      have hhead : a = b := by
        have ha := h a
        simp only [List.filter_cons, hself, hties, decide_true, if_true, List.cons.injEq] at ha
        exact ha.1
      subst hhead
      rw [ih (List.pairwise_cons.1 hxs).2 (List.pairwise_cons.1 hys).2]
      intro k
      have hk := h k
      by_cases hka : cmp k a = .eq
      · simpa [List.filter_cons, hka] using hk
      · simpa [List.filter_cons, hka] using hk

lemma transCmp_on {α β : Type} (cmp : β → β → Ordering) [Std.TransCmp cmp] (f : α → β) :
    Std.TransCmp fun a b => cmp (f a) (f b) where
  eq_swap {a b} := (Std.OrientedCmp.eq_swap : cmp (f a) (f b) = (cmp (f b) (f a)).swap)
  isLE_trans {a _ c} h h' := (Std.TransCmp.isLE_trans h h' : (cmp (f a) (f c)).isLE)

/-- A list in the order of its keys is determined by the elements of each key. -/
theorem eq_of_filter_key_eq {α κ : Type} [DecidableEq κ] {cmp : κ → κ → Ordering}
    [Std.TransCmp cmp] [Std.LawfulEqCmp cmp] {key : α → κ} {xs ys : List α}
    (hxs : xs.Pairwise fun a b => (cmp (key a) (key b)).isLE)
    (hys : ys.Pairwise fun a b => (cmp (key a) (key b)).isLE)
    (h : ∀ k, xs.filter (fun a => key a = k) = ys.filter fun a => key a = k) : xs = ys := by
  have := transCmp_on cmp key
  apply eq_of_filter_compare_eq hxs hys
  intro k
  simpa only [Std.LawfulEqCmp.compare_eq_iff_eq, eq_comm (a := key k)] using h (key k)

/-- Elements that compare equal keep their order. -/
theorem filter_sortBy_of_compare_eq {α : Type} {cmp : α → α → Ordering} [Std.TransCmp cmp]
    {p : α → Bool} (h : ∀ a b, p a = true → p b = true → cmp a b = .eq) (xs : List α) :
    (sortBy cmp xs).filter p = xs.filter p := by
  apply filter_sortBy
  apply List.pairwise_of_forall_mem_list
  intro a ha b hb
  rw [h a b (List.mem_filter.1 ha).2 (List.mem_filter.1 hb).2]
  rfl

/-- Sorting forgets the order of a list, except among elements that compare equal. -/
theorem sortBy_eq_of_filter_eq {α : Type} {cmp : α → α → Ordering} [Std.TransCmp cmp]
    {xs ys : List α}
    (h : ∀ k, xs.filter (fun a => cmp k a = .eq) = ys.filter fun a => cmp k a = .eq) :
    sortBy cmp xs = sortBy cmp ys := by
  have hties : ∀ k a b, decide (cmp k a = .eq) = true → decide (cmp k b = .eq) = true →
      cmp a b = .eq := by
    intro k a b hka hkb
    rw [← Std.TransCmp.congr_left (of_decide_eq_true hka)]
    exact of_decide_eq_true hkb
  apply eq_of_filter_compare_eq (pairwise_sortBy xs) (pairwise_sortBy ys)
  intro k
  rw [filter_sortBy_of_compare_eq (hties k), filter_sortBy_of_compare_eq (hties k), h k]

/-! ### The comparisons of the canonical order -/

/-- The kind of an id, in the order of the kinds. -/
def idKind : IdKey → Nat
  | .absent => 0
  | .numeric .. => 1
  | .textual _ => 2

def idNumber : IdKey → Nat
  | .numeric number _ => number
  | _ => 0

def idSpelling : IdKey → Text
  | .absent => []
  | .numeric _ raw => raw
  | .textual raw => raw

/-- Ids are compared by kind, then by number and then by spelling. -/
lemma idKey_compare_eq : IdKey.compare =
    compareLex (compareOn idKind) (compareLex (compareOn idNumber) (compareOn idSpelling)) := by
  funext a b
  cases a <;> cases b <;>
    simp [IdKey.compare, compareLex, compareOn, idKind, idNumber, idSpelling] <;> rfl

instance : Std.TransCmp IdKey.compare := by
  rw [idKey_compare_eq]
  infer_instance

instance : Std.LawfulEqCmp IdKey.compare where
  eq_of_compare {a b} h := by
    cases a <;> cases b <;> simp_all [IdKey.compare, Ordering.then_eq_eq]

instance : Std.TransCmp Register.compare :=
  have := transCmp_on IdKey.compare Register.idKey
  inferInstanceAs (Std.TransCmp (compareLex (compareOn Register.name)
    (compareLex (fun a b => IdKey.compare a.idKey b.idKey) (compareOn Register.order))))

instance : Std.TransCmp MemoryDump.compare :=
  inferInstanceAs (Std.TransCmp
    (compareLex (compareOn MemoryDump.sectionName) (compareOn MemoryDump.addressValue)))

instance : Std.TransCmp Device.compare :=
  inferInstanceAs (Std.TransCmp (compareLex (compareOn Device.name) (compareOn Device.iniPath)))

instance : Std.TransCmp comparePairs :=
  inferInstanceAs (Std.TransCmp (compareOn Prod.fst))

end TraceSnapshot.Proofs
