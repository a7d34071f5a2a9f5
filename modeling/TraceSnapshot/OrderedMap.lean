/-!
# Ordered maps

A finite map that remembers the order in which its keys were first written. Writing to a
key that is present keeps its place.
-/

namespace TraceSnapshot

/-- A finite map as its pairs in the order of first writing, with each key once. -/
structure OrderedMap (κ α : Type) where
  pairs : List (κ × α)
  nodup : (pairs.map Prod.fst).Nodup

namespace OrderedMap

variable {κ α : Type} [DecidableEq κ]

instance : Inhabited (OrderedMap κ α) := ⟨⟨[], List.nodup_nil⟩⟩

def empty : OrderedMap κ α := ⟨[], List.nodup_nil⟩

def keys (m : OrderedMap κ α) : List κ := m.pairs.map Prod.fst

def get? (m : OrderedMap κ α) (k : κ) : Option α := m.pairs.lookup k

def contains (m : OrderedMap κ α) (k : κ) : Bool := (m.get? k).isSome

def upsertPairs (k : κ) (f : Option α → α) : List (κ × α) → List (κ × α)
  | [] => [(k, f none)]
  | (x, a) :: rest => if x = k then (x, f (some a)) :: rest else (x, a) :: upsertPairs k f rest

theorem map_fst_upsertPairs (k : κ) (f : Option α → α) (pairs : List (κ × α)) :
    (upsertPairs k f pairs).map Prod.fst =
      if k ∈ pairs.map Prod.fst then pairs.map Prod.fst else pairs.map Prod.fst ++ [k] := by
  induction pairs with
  | nil => rfl
  | cons pair rest ih =>
    obtain ⟨x, a⟩ := pair
    by_cases h : x = k
    · simp [upsertPairs, h]
    · have h' : ¬ k = x := fun e => h e.symm
      rw [upsertPairs, if_neg h, List.map_cons, ih]
      by_cases hk : k ∈ rest.map Prod.fst <;> simp_all

theorem nodup_upsertPairs (k : κ) (f : Option α → α) {pairs : List (κ × α)}
    (h : (pairs.map Prod.fst).Nodup) : ((upsertPairs k f pairs).map Prod.fst).Nodup := by
  rw [map_fst_upsertPairs]
  split
  · exact h
  · rename_i hk
    refine List.nodup_append.2 ⟨h, by simp, ?_⟩
    intro a ha b hb e
    rw [List.mem_singleton] at hb
    exact hk (hb ▸ e ▸ ha)

/-- Writes at `k` what `f` makes of the present value. A new key goes to the end. -/
def upsert (m : OrderedMap κ α) (k : κ) (f : Option α → α) : OrderedMap κ α :=
  ⟨upsertPairs k f m.pairs, nodup_upsertPairs k f m.nodup⟩

def insert (m : OrderedMap κ α) (k : κ) (a : α) : OrderedMap κ α := m.upsert k fun _ => a

/-- The map without the keys that fail a test. -/
def filterKeys (m : OrderedMap κ α) (keep : κ → Bool) : OrderedMap κ α where
  pairs := m.pairs.filter fun pair => keep pair.1
  nodup := m.nodup.sublist ((List.filter_sublist).map Prod.fst)

def erase (m : OrderedMap κ α) (k : κ) : OrderedMap κ α := m.filterKeys fun x => x ≠ k

theorem lookup_cons (x y : κ) (a : α) (rest : List (κ × α)) :
    ((y, a) :: rest).lookup x = if x = y then some a else rest.lookup x := by
  rw [List.lookup_cons]
  by_cases h : x = y
  · simp [h]
  · simp [h, beq_eq_false_iff_ne.2 h]

theorem lookup_upsertPairs (k x : κ) (f : Option α → α) (pairs : List (κ × α)) :
    (upsertPairs k f pairs).lookup x =
      if x = k then some (f (pairs.lookup k)) else pairs.lookup x := by
  induction pairs with
  | nil => simp [upsertPairs, lookup_cons]
  | cons pair rest ih =>
    obtain ⟨y, a⟩ := pair
    by_cases hy : y = k
    · simp only [upsertPairs, hy, if_true, lookup_cons]
      split <;> simp_all
    · have hk : ¬ k = y := fun e => hy e.symm
      simp only [upsertPairs, if_neg hy, if_neg hk, lookup_cons, ih]
      split <;> simp_all

theorem get?_upsert (m : OrderedMap κ α) (k x : κ) (f : Option α → α) :
    (m.upsert k f).get? x = if x = k then some (f (m.get? k)) else m.get? x :=
  lookup_upsertPairs k x f m.pairs

theorem keys_upsert (m : OrderedMap κ α) (k : κ) (f : Option α → α) :
    (m.upsert k f).keys = if k ∈ m.keys then m.keys else m.keys ++ [k] :=
  map_fst_upsertPairs k f m.pairs

end OrderedMap

end TraceSnapshot
