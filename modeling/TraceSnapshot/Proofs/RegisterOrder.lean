import Mathlib
import TraceSnapshot.Proofs.CanonicalForm

/-!
# The order of registers

Registers are ordered by name, by id and by position. A register has no id, an id that is a
numeral or one that is not. The order ranks these kinds before it looks at values and spellings,
so it stays a total order however the kinds are mixed.
-/

namespace TraceSnapshot.Proofs

/-- The id of a register, if it has one, with its number. A number without an id counts for
nothing. -/
inductive HasId (r : Register) : IdKey → Prop
  | absent (hid : r.id = none) : HasId r .absent
  | numeric {number raw} (hid : r.id = some raw) (hnumber : r.idNumber = some number) :
      HasId r (.numeric number raw)
  | textual {raw} (hid : r.id = some raw) (hnumber : r.idNumber = none) : HasId r (.textual raw)

section Registers

variable {a b r : Register} {id : IdKey}

lemma hasId_idKey (r : Register) : HasId r r.idKey := by
  unfold Register.idKey
  split
  next hid => exact .absent hid
  next hid hnumber => exact .numeric hid hnumber
  next hid hnumber => exact .textual hid hnumber

lemma HasId.eq_idKey (h : HasId r id) : id = r.idKey := by
  unfold Register.idKey
  cases h with
  | absent hid => rw [hid]
  | numeric hid hnumber => rw [hid, hnumber]
  | textual hid hnumber => rw [hid, hnumber]

lemma hasId_iff : HasId r id ↔ r.idKey = id :=
  ⟨fun h => h.eq_idKey.symm, fun h => h ▸ hasId_idKey r⟩

lemma exists_hasId_iff : (∃ id, HasId a id ∧ HasId b id) ↔ a.idKey = b.idKey := by
  simp only [hasId_iff, exists_eq_left']
  exact eq_comm

/-- Among registers of one name, ids come first and positions second. -/
lemma register_compare_of_name_eq (hname : a.name = b.name) : Register.compare a b =
    (IdKey.compare a.idKey b.idKey).then (compare a.order b.order) := by
  have hself : compare b.name b.name = .eq := Std.ReflCmp.compare_self
  unfold Register.compare
  rw [hname, hself, Ordering.eq_then]

lemma register_compare_of_idKey_lt (hname : a.name = b.name)
    (hid : IdKey.compare a.idKey b.idKey = .lt) : Register.compare a b = .lt := by
  rw [register_compare_of_name_eq hname, hid]
  rfl

end Registers

/-- The order of registers is total, and only registers with the same name, id and position tie.
Among registers of one name, those without an id come first and those with a numeral as id second,
by the value of the numeral however it is spelled. A device in canonical form has its registers in
this order. -/
theorem register_order_is_total :
    (∀ a b : Register, Register.compare b a = (Register.compare a b).swap) ∧
    (∀ a b c : Register, (Register.compare a b).isLE → (Register.compare b c).isLE →
      (Register.compare a c).isLE) ∧
    (∀ a b : Register, Register.compare a b = .eq ↔
      a.name = b.name ∧ a.order = b.order ∧ ∃ id, HasId a id ∧ HasId b id) ∧
    (∀ a b : Register, a.name = b.name →
      (a.id = none → b.id ≠ none → Register.compare a b = .lt) ∧
      (∀ m s t, HasId a (.numeric m s) → HasId b (.textual t) → Register.compare a b = .lt) ∧
      ∀ m n s t, HasId a (.numeric m s) → HasId b (.numeric n t) → m < n →
        Register.compare a b = .lt) ∧
    ∀ d : Device, d.canonical.registers.Perm d.registers ∧
      d.canonical.registers.IsChain fun a b => (Register.compare a b).isLE := by
  refine ⟨fun _ _ => Std.OrientedCmp.eq_swap, fun _ _ _ => Std.TransCmp.isLE_trans, ?_, ?_, ?_⟩
  · intro a b
    rw [register_compare_eq_iff, exists_hasId_iff]
    simp only [registerKey, Prod.mk.injEq, and_comm]
  · intro a b hname
    refine ⟨?_, ?_, ?_⟩
    · intro ha hb
      apply register_compare_of_idKey_lt hname
      rw [← (HasId.absent ha).eq_idKey]
      have hid := hasId_idKey b
      generalize b.idKey = id at hid
      cases hid with
      | absent hnone => exact absurd hnone hb
      | numeric => rfl
      | textual => rfl
    · intro m s t ha hb
      apply register_compare_of_idKey_lt hname
      rw [← ha.eq_idKey, ← hb.eq_idKey]
      rfl
    · intro m n s t ha hb hlt
      apply register_compare_of_idKey_lt hname
      rw [← ha.eq_idKey, ← hb.eq_idKey]
      change (compare m n).then (compare s t) = .lt
      rw [compare_lt_iff_lt.2 hlt]
      rfl
  · intro d
    exact ⟨sortBy_perm _ _, (pairwise_sortBy _).isChain⟩

/-- Registers of one name with an id of each kind. The first has a number and no id. -/
def mixedIds : Fin 4 → Register
  | 0 => ⟨['r'], [], none, some 99, none, 3⟩
  | 1 => ⟨['r'], [], some ['9'], some 9, none, 2⟩
  | 2 => ⟨['r'], [], some "0x10".toList, some 16, none, 1⟩
  | 3 => ⟨['r'], [], some "10h".toList, none, none, 0⟩

theorem register_order_of_mixedIds :
    HasId (mixedIds 0) .absent ∧ HasId (mixedIds 1) (.numeric 9 ['9']) ∧
      HasId (mixedIds 2) (.numeric 16 "0x10".toList) ∧ HasId (mixedIds 3) (.textual "10h".toList) ∧
      Register.compare (mixedIds 0) (mixedIds 1) = .lt ∧
      Register.compare (mixedIds 1) (mixedIds 2) = .lt ∧
      Register.compare (mixedIds 2) (mixedIds 3) = .lt ∧
      (Register.compare (mixedIds 0) (mixedIds 3)).isLE := by
  have h0 : HasId (mixedIds 0) .absent := .absent rfl
  have h1 : HasId (mixedIds 1) (.numeric 9 ['9']) := .numeric rfl rfl
  have h2 : HasId (mixedIds 2) (.numeric 16 "0x10".toList) := .numeric rfl rfl
  have h3 : HasId (mixedIds 3) (.textual "10h".toList) := .textual rfl rfl
  obtain ⟨-, htrans, -, hkinds, -⟩ := register_order_is_total
  have habsent := (hkinds (mixedIds 0) (mixedIds 1) rfl).1 rfl (by decide)
  have hvalues := (hkinds (mixedIds 1) (mixedIds 2) rfl).2.2 9 16 _ _ h1 h2 (by decide)
  have htextual := (hkinds (mixedIds 2) (mixedIds 3) rfl).2.1 16 _ _ h2 h3
  refine ⟨h0, h1, h2, h3, habsent, hvalues, htextual, ?_⟩
  apply htrans _ (mixedIds 1) _
  · rw [habsent]
    rfl
  · apply htrans _ (mixedIds 2) _
    · rw [hvalues]
      rfl
    · rw [htextual]
      rfl

end TraceSnapshot.Proofs
