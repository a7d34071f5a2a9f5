import Mathlib.Tactic.Lemma
import TraceSnapshot.Disk
import TraceSnapshot.Proofs.OrderedMaps
import TraceSnapshot.Proofs.Traversal

/-!
# Writing to a disk

A file is written at one place, which was not a directory before. So every way through the
directories of the disk stays as it was, and every other path holds what it held.
-/

namespace TraceSnapshot.Proofs

/-! ### Nodes -/

lemma node?_put_self {d : Disk} {place : Location} {node : Node}
    (h : d.node? place ≠ some .directory) : (d.put place node).node? place = some node := by
  unfold Disk.node? at h ⊢
  by_cases hroot : place = []
  · simp [hroot] at h
  · rw [if_neg hroot]
    exact (get?_insert _ _ _ _).trans (if_pos rfl)

lemma node?_put_of_ne {d : Disk} {place other : Location} {node : Node} (h : other ≠ place) :
    (d.put place node).node? other = d.node? other := by
  unfold Disk.node?
  by_cases hroot : other = []
  · rw [if_pos hroot, if_pos hroot]
  · rw [if_neg hroot, if_neg hroot]
    exact (get?_insert _ _ _ _).trans (if_neg h)

/-! ### Following names -/

/-- Two disks with the same directories lead a path to the same place. Only the reason why
there is no such place may differ. -/
lemma follow_congr {d e : Disk}
    (h : ∀ place, d.node? place = some .directory ↔ e.node? place = some .directory)
    (place : Location) (names : List Text) :
    (d.follow place names).toOption = (e.follow place names).toOption := by
  induction names generalizing place with
  | nil => rfl
  | cons name rest ih =>
    unfold Disk.follow
    by_cases hd : d.node? place = some .directory
    · rw [hd, (h place).1 hd]
      dsimp only
      cases Disk.step place name with
      | error reason => rfl
      | ok next => exact ih next
    · -- Both disks end the way here, one maybe as missing and the other as no directory.
      have hnone : ∀ f : Disk, f.node? place ≠ some .directory →
          (f.follow place (name :: rest)).toOption = none := by
        intro f hf
        unfold Disk.follow
        split
        next => rfl
        next => rfl
        next hdirectory => exact absurd hdirectory hf
      exact (hnone d hd).trans (hnone e fun he => hd ((h place).2 he)).symm

lemma locate_congr {d e : Disk}
    (h : ∀ place, d.node? place = some .directory ↔ e.node? place = some .directory)
    (hcurrent : d.current = e.current) (path : SystemPath) :
    (d.locate path).toOption = (e.locate path).toOption := by
  have hstart : d.start path = e.start path := by
    unfold Disk.start
    rw [hcurrent]
  unfold Disk.locate
  split
  · rfl
  · rw [hstart]
    exact follow_congr h _ _

/-! ### Files -/

/-- What a path holds: the bytes of the file that it leads to, if it leads to a file. -/
def content? (d : Disk) (path : SystemPath) : Option Bytes := (d.read path).toOption

lemma content?_eq (d : Disk) (path : SystemPath) :
    content? d path = (d.locate path).toOption.bind fun place =>
      match d.node? place with
      | some (.file bytes) => some bytes
      | _ => none := by
  unfold content? Disk.read
  cases d.locate path with
  | error reason => rfl
  | ok place =>
    dsimp only [Except.toOption, Option.bind_some]
    cases d.node? place with
    | none => rfl
    | some node => cases node <;> rfl

lemma write_eq_ok_iff {d after : Disk} {path : SystemPath} {bytes : Bytes} :
    d.write path bytes = .ok after ↔ ∃ target, d.locate path = .ok target ∧
      d.node? target ≠ some .directory ∧ after = d.put target (.file bytes) := by
  unfold Disk.write
  cases d.locate path with
  | error reason => simp
  | ok target =>
    dsimp only
    split
    next hdirectory => simp [hdirectory]
    next hother =>
      constructor
      · intro h
        cases h
        exact ⟨target, rfl, fun hdirectory => hother hdirectory, rfl⟩
      · rintro ⟨place, hplace, -, rfl⟩
        cases hplace
        rfl

/-- What writing a file to a place does to a disk: nothing but that. -/
structure WrittenAt (d after : Disk) (target : Location) (bytes : Bytes) : Prop where
  node_target : after.node? target = some (.file bytes)
  node_other : ∀ place, place ≠ target → after.node? place = d.node? place
  was_no_directory : d.node? target ≠ some .directory
  current : after.current = d.current

lemma writtenAt_put {d : Disk} {target : Location} {bytes : Bytes}
    (h : d.node? target ≠ some .directory) :
    WrittenAt d (d.put target (.file bytes)) target bytes where
  node_target := node?_put_self h
  node_other _ hne := node?_put_of_ne hne
  was_no_directory := h
  current := rfl

section WrittenAt

variable {d after : Disk} {target : Location} {bytes : Bytes}

lemma WrittenAt.directory_iff (h : WrittenAt d after target bytes) (place : Location) :
    after.node? place = some .directory ↔ d.node? place = some .directory := by
  by_cases hplace : place = target
  · subst hplace
    rw [h.node_target]
    constructor
    · intro hfile
      cases hfile
    · exact fun hdirectory => absurd hdirectory h.was_no_directory
  · rw [h.node_other place hplace]

lemma WrittenAt.locate_eq (h : WrittenAt d after target bytes) (path : SystemPath) :
    (after.locate path).toOption = (d.locate path).toOption :=
  locate_congr h.directory_iff h.current path

lemma WrittenAt.locate_eq_ok (h : WrittenAt d after target bytes) {path : SystemPath}
    {place : Location} (hpath : d.locate path = .ok place) : after.locate path = .ok place := by
  apply eq_ok_of_toOption_eq_some
  rw [h.locate_eq, hpath]
  rfl

lemma WrittenAt.content?_of_locate_eq (h : WrittenAt d after target bytes) {path : SystemPath}
    (hpath : d.locate path = .ok target) : content? after path = some bytes := by
  rw [content?_eq, h.locate_eq, hpath]
  simp [Except.toOption, h.node_target]

/-- Every path that does not lead to the written file holds what it held. -/
lemma WrittenAt.content?_of_locate_ne (h : WrittenAt d after target bytes) {path : SystemPath}
    (hpath : d.locate path ≠ .ok target) : content? after path = content? d path := by
  rw [content?_eq, content?_eq, h.locate_eq]
  cases hplace : d.locate path with
  | error reason => rfl
  | ok place =>
    rw [hplace] at hpath
    simp only [Except.toOption, Option.bind_some]
    rw [h.node_other place fun he => hpath (congrArg _ he)]

end WrittenAt

end TraceSnapshot.Proofs
