import Mathlib
import TraceSnapshot.DumpText
import TraceSnapshot.Proofs.ModelReading
import TraceSnapshot.Proofs.StableSorting

/-!
# The arrangement of a device file

A device file may list its sections, keys and registers in any order. The dump of the device
follows the canonical order instead, and only where two registers have the same name and id
does their order in the file count.
-/

namespace TraceSnapshot.Proofs
open Ini (Document Entry)

/-! ### Ranks of registers -/

/-- What registers are ordered by before their position counts. -/
def rank (r : Register) : Text × IdKey := (r.name, r.idKey)

def compareRanks (a b : Text × IdKey) : Ordering := (compare a.1 b.1).then (IdKey.compare a.2 b.2)

instance : Std.TransCmp compareRanks :=
  have := transCmp_on IdKey.compare (Prod.snd : Text × IdKey → IdKey)
  inferInstanceAs (Std.TransCmp
    (compareLex (compareOn Prod.fst) fun a b : Text × IdKey => IdKey.compare a.2 b.2))

instance : Std.LawfulEqCmp compareRanks where
  eq_of_compare {a b} h := by
    obtain ⟨hname, hid⟩ := Ordering.then_eq_eq.1 h
    exact Prod.ext (Std.LawfulEqCmp.eq_of_compare hname) (Std.LawfulEqCmp.eq_of_compare hid)

lemma register_compare_eq (a b : Register) :
    Register.compare a b = (compareRanks (rank a) (rank b)).then (compare a.order b.order) :=
  (Ordering.then_assoc _ _ _).symm

/-! ### Positions -/

/-- A register without its position. -/
def unordered (r : Register) : Register := { r with order := 0 }

/-- Registers with their positions from a first one on. -/
def numbered (first : Nat) : List Register → List Register
  | [] => []
  | r :: rs => { r with order := first } :: numbered (first + 1) rs

lemma map_unordered_numbered {rs : List Register} (h : ∀ r ∈ rs, unordered r = r) (first : Nat) :
    (numbered first rs).map unordered = rs := by
  induction rs generalizing first with
  | nil => rfl
  | cons r rs ih =>
    rw [List.forall_mem_cons] at h
    rw [numbered, List.map_cons, ih h.2]
    exact congrArg (· :: rs) h.1

lemma le_order_of_mem_numbered {rs : List Register} {first : Nat} {r : Register}
    (h : r ∈ numbered first rs) : (first : Int) ≤ r.order := by
  induction rs generalizing first with
  | nil => cases h
  | cons s rs ih =>
    rcases List.mem_cons.1 h with rfl | h
    · exact Int.le_refl _
    · have := ih h
      omega

lemma pairwise_order_numbered (rs : List Register) (first : Nat) :
    (numbered first rs).Pairwise fun a b => a.order ≤ b.order := by
  induction rs generalizing first with
  | nil => exact .nil
  | cons r rs ih =>
    refine List.pairwise_cons.2 ⟨?_, ih _⟩
    intro s hs
    have := le_order_of_mem_numbered hs
    dsimp only
    omega

/-- The position of an entry goes into its register and nothing else. -/
lemma ofEntry_position (e : Entry) (position : Nat) : Register.ofEntry e position =
    (Register.ofEntry e 0).map fun r => { r with order := position } := by
  rw [ofEntry_eq, ofEntry_eq]
  cases readIdNumber (RegisterKey.parse e.key).id <;> rfl

lemma unordered_of_mem_mapM {entries : List Entry} {rs : List Register}
    (h : (entries.mapM fun e => Register.ofEntry e 0) = .ok rs) : ∀ r ∈ rs, unordered r = r := by
  intro r hr
  obtain ⟨e, -, hread⟩ := exists_of_mem_mapM h hr
  rw [ofEntry_eq, map_eq_ok_iff] at hread
  obtain ⟨number, -, rfl⟩ := hread
  rfl

lemma ofEntries_eq (entries : List Entry) : Register.ofEntries entries =
    (entries.mapM fun e => Register.ofEntry e 0).map (numbered 0) := by
  have hfrom : ∀ first : Nat,
      ((entries.zipIdx first).mapM fun entry => Register.ofEntry entry.1 entry.2) =
        (entries.mapM fun e => Register.ofEntry e 0).map (numbered first) := by
    induction entries with
    | nil => exact fun _ => rfl
    | cons e entries ih =>
      intro first
      rw [List.zipIdx_cons, List.mapM_cons, List.mapM_cons, ih]
      dsimp only
      rw [ofEntry_position]
      cases Register.ofEntry e 0 with
      | error overlong => rfl
      | ok r => cases entries.mapM fun e => Register.ofEntry e 0 <;> rfl
  exact hfrom 0

/-! ### Registers in canonical order -/

/-- Registers of one rank stay as they were declared. -/
lemma filter_rank_sortBy {rs : List Register} (hrs : ∀ r ∈ rs, unordered r = r)
    (k : Text × IdKey) :
    ((sortBy Register.compare (numbered 0 rs)).map unordered).filter (fun r => rank r = k) =
      rs.filter fun r => rank r = k := by
  have hdeclared : ((numbered 0 rs).filter fun r => rank r = k).Pairwise fun a b =>
      (Register.compare a b).isLE := by
    rw [List.pairwise_filter]
    refine (pairwise_order_numbered rs 0).imp ?_
    intro a b horder ha hb
    rw [decide_eq_true_eq] at ha hb
    have hrank : compareRanks k k = .eq := Std.ReflCmp.compare_self
    rw [register_compare_eq, ha, hb, hrank]
    exact Std.isLE_compare.2 horder
  have hunordered : (fun r => decide (rank r = k)) ∘ unordered = fun r => decide (rank r = k) := rfl
  rw [List.filter_map, hunordered, filter_sortBy hdeclared]
  conv => rhs; rw [← map_unordered_numbered hrs 0, List.filter_map, hunordered]

/-- In canonical order, registers are determined by the registers of each rank. -/
theorem sortBy_numbered_eq {rs rs' : List Register} (hrs : ∀ r ∈ rs, unordered r = r)
    (hrs' : ∀ r ∈ rs', unordered r = r)
    (h : ∀ k, rs.filter (fun r => rank r = k) = rs'.filter fun r => rank r = k) :
    (sortBy Register.compare (numbered 0 rs)).map unordered =
      (sortBy Register.compare (numbered 0 rs')).map unordered := by
  have hsorted : ∀ rs : List Register,
      ((sortBy Register.compare (numbered 0 rs)).map unordered).Pairwise fun a b =>
        (compareRanks (rank a) (rank b)).isLE := by
    intro rs
    rw [List.pairwise_map]
    refine (pairwise_sortBy _).imp ?_
    intro a b hab
    rw [register_compare_eq] at hab
    exact Ordering.isLE_left_of_isLE_then hab
  refine eq_of_filter_key_eq (hsorted rs) (hsorted rs') ?_
  intro k
  rw [filter_rank_sortBy hrs, filter_rank_sortBy hrs', h k]

/-! ### Rearranged files -/

/-- The rank of the register that an entry gives. An id with a numeral that is too long to be
read has none. -/
def entryRank? (e : Entry) : Option (Text × IdKey) := (Register.ofEntry e 0).toOption.map rank

/-- The same entries, with those of one rank in the same order. -/
structure Reordered (xs ys : List Entry) : Prop where
  perm : xs.Perm ys
  same_rank : ∀ k, xs.filter (fun e => entryRank? e = some k) =
    ys.filter fun e => entryRank? e = some k

/-- Two device files that differ only in how they are arranged, and in sections and keys that
no device has. -/
structure Rearranged (d e : Document) : Prop where
  device : d.hasSection "device".toList = e.hasSection "device".toList
  device_values : ∀ key ∈ ["name", "class", "type", "location"],
    d.values "device".toList key.toList = e.values "device".toList key.toList
  dump : ∀ name, Device.isDumpName name → (name ∈ d.names ↔ name ∈ e.names)
  dump_values : ∀ name ∈ d.names, Device.isDumpName name →
    ∀ key ∈ ["file", "address", "space", "length", "offset"],
      d.values name key.toList = e.values name key.toList
  registers : Reordered (d.entries "regs".toList) (e.entries "regs".toList)

lemma Reordered.symm {xs ys : List Entry} (h : Reordered xs ys) : Reordered ys xs :=
  ⟨h.perm.symm, fun k => (h.same_rank k).symm⟩

lemma Rearranged.symm {d e : Document} (h : Rearranged d e) : Rearranged e d where
  device := h.device.symm
  device_values key hkey := (h.device_values key hkey).symm
  dump name hdump := (h.dump name hdump).symm
  dump_values name hname hdump key hkey :=
    (h.dump_values name ((h.dump name hdump).2 hname) hdump key hkey).symm
  registers := h.registers.symm

lemma last?_congr {d e : Document} {name key : Text} (h : d.values name key = e.values name key) :
    d.last? name key = e.last? name key :=
  congrArg List.getLast? h

lemma filter_rank_ofEntries {entries : List Entry} {rs : List Register} (k : Text × IdKey)
    (h : (entries.mapM fun e => Register.ofEntry e 0) = .ok rs) :
    ((entries.filter fun e => entryRank? e = some k).mapM fun e => Register.ofEntry e 0) =
      .ok (rs.filter fun r => rank r = k) := by
  refine mapM_filter ?_ h
  intro e r hread
  unfold entryRank?
  rw [hread]
  simp [Except.toOption]

lemma ofEntries_of_reordered {xs ys : List Entry} {registers : List Register}
    (h : Reordered xs ys) (hread : Register.ofEntries xs = .ok registers) :
    ∃ registers', Register.ofEntries ys = .ok registers' ∧
      (sortBy Register.compare registers).map unordered =
        (sortBy Register.compare registers').map unordered := by
  rw [ofEntries_eq, map_eq_ok_iff] at hread
  obtain ⟨rs, hrs, rfl⟩ := hread
  obtain ⟨rs', hrs', -⟩ := exists_mapM_of_perm h.perm hrs
  refine ⟨numbered 0 rs', ?_,
    sortBy_numbered_eq (unordered_of_mem_mapM hrs) (unordered_of_mem_mapM hrs') ?_⟩
  · rw [ofEntries_eq, hrs']
    rfl
  · intro k
    have hk := filter_rank_ofEntries k hrs
    rw [h.same_rank k, filter_rank_ofEntries k hrs'] at hk
    exact (Except.ok.inj hk).symm

lemma readDump_congr {d e : Document} {path name : Text}
    (h : ∀ key ∈ ["file", "address", "space", "length", "offset"],
      d.values name key.toList = e.values name key.toList) :
    Device.readDump d path name = Device.readDump e path name := by
  simp only [List.forall_mem_cons, List.not_mem_nil, false_imp_iff, implies_true, and_true] at h
  obtain ⟨hfile, haddress, hspace, hlength, hoffset⟩ := h
  unfold Device.readDump
  simp only [last?_congr hfile, haddress, last?_congr hspace, last?_congr hlength,
    last?_congr hoffset]

lemma sectionName_of_readDump {d : Document} {path name : Text} {m : MemoryDump}
    (h : Device.readDump d path name = .ok m) : m.sectionName = name := by
  obtain ⟨_, _, _, _, -, -, -, rfl⟩ := readDump_eq_ok_iff.1 h
  rfl

/-- A section gives one dump, so dumps of different sections never compare equal. -/
lemma eq_of_compare_dumps {d : Document} {path : Text} {names : List Text}
    {dumps : List MemoryDump} (h : names.mapM (Device.readDump d path) = .ok dumps) :
    ∀ a ∈ dumps, ∀ b ∈ dumps, MemoryDump.compare a b = .eq → a = b := by
  intro a ha b hb hab
  obtain ⟨name, -, hname⟩ := exists_of_mem_mapM h ha
  obtain ⟨name', -, hname'⟩ := exists_of_mem_mapM h hb
  have hnames : a.sectionName = b.sectionName :=
    Std.LawfulEqCmp.eq_of_compare (Ordering.then_eq_eq.1 hab).1
  rw [sectionName_of_readDump hname, sectionName_of_readDump hname'] at hnames
  rw [hnames, hname'] at hname
  exact (Except.ok.inj hname).symm

lemma readDumps_of_rearranged {d e : Document} {path : Text} {dumps : List MemoryDump}
    (h : Rearranged d e) (hread : Device.readDumps d path = .ok dumps) :
    ∃ dumps', Device.readDumps e path = .ok dumps' ∧
      sortBy MemoryDump.compare dumps = sortBy MemoryDump.compare dumps' := by
  unfold Device.readDumps at hread ⊢
  have hperm : (d.names.filter Device.isDumpName).Perm (e.names.filter Device.isDumpName) := by
    apply (List.perm_ext_iff_of_nodup ((nodup_names d).filter _) ((nodup_names e).filter _)).2
    intro name
    rw [List.mem_filter, List.mem_filter]
    exact and_congr_left (h.dump name)
  obtain ⟨dumps', hread', hdumps⟩ := exists_mapM_of_perm hperm hread
  refine ⟨dumps', ?_, sortBy_eq_of_perm hdumps (eq_of_compare_dumps hread)⟩
  rw [← hread']
  apply mapM_congr
  intro name hname
  obtain ⟨hname, hdump⟩ := List.mem_filter.1 hname
  exact (readDump_congr (h.dump_values name ((h.dump name hdump).2 hname) hdump)).symm

/-! ### Rearranged devices -/

/-- A device whose registers have no position. -/
def withoutOrder (d : Device) : Device := { d with registers := d.registers.map unordered }

lemma dumpLines_withoutOrder (d : Device) : (withoutOrder d).dumpLines = d.dumpLines := by
  have hline : Register.dumpLine ∘ unordered = Register.dumpLine := rfl
  unfold Device.dumpLines withoutOrder
  simp only [List.length_map, List.map_map, hline]

lemma ofDocument_of_rearranged {d e : Document} {path : Text} {dev : Device}
    (h : Rearranged d e) (hdev : Device.ofDocument d path = .ok dev) :
    ∃ dev', Device.ofDocument e path = .ok dev' ∧
      withoutOrder dev.canonical = withoutOrder dev'.canonical := by
  obtain ⟨hsection, name, registers, dumps, hname, hregisters, hdumps, rfl⟩ :=
    device_ofDocument_eq_ok_iff.1 hdev
  obtain ⟨registers', hregisters', hsorted⟩ :=
    ofEntries_of_reordered h.registers (readRegisters_eq_ok_iff.1 hregisters)
  obtain ⟨dumps', hdumps', hdumps⟩ := readDumps_of_rearranged h hdumps
  have hvalues := h.device_values
  simp only [List.forall_mem_cons, List.not_mem_nil, false_imp_iff, implies_true, and_true]
    at hvalues
  obtain ⟨hnames, hclass, htype, hlocation⟩ := hvalues
  refine ⟨assembledDevice e (Path.normalize path) name registers' dumps', ?_, ?_⟩
  · rw [device_ofDocument_eq_ok_iff]
    exact ⟨h.device ▸ hsection, name, registers', dumps', hnames ▸ hname,
      readRegisters_eq_ok_iff.2 hregisters', hdumps', rfl⟩
  · unfold withoutOrder Device.canonical assembledDevice
    simp only [hsorted, hdumps, last?_congr hclass, last?_congr htype, last?_congr hlocation]

/-- How a device file is arranged does not matter. Two files that agree on the sections and
keys of a device, up to an order that keeps the registers of one name and id as they are, both
give no device, or they give devices with the same canonical form but for the positions of the
registers, and with the same dump. -/
theorem canonical_eq_of_rearranged {d e : Document} (h : Rearranged d e) (path : Text) :
    (∃ defect defect', Device.ofDocument d path = .error defect ∧
      Device.ofDocument e path = .error defect') ∨
    ∃ dev dev', Device.ofDocument d path = .ok dev ∧ Device.ofDocument e path = .ok dev' ∧
      withoutOrder dev.canonical = withoutOrder dev'.canonical ∧
      dev.canonical.dumpLines = dev'.canonical.dumpLines := by
  cases hd : Device.ofDocument d path with
  | ok dev =>
    obtain ⟨dev', he, hcanonical⟩ := ofDocument_of_rearranged h hd
    refine Or.inr ⟨dev, dev', rfl, he, hcanonical, ?_⟩
    rw [← dumpLines_withoutOrder, hcanonical, dumpLines_withoutOrder]
  | error defect =>
    cases he : Device.ofDocument e path with
    | ok dev' =>
      obtain ⟨dev, hdev, -⟩ := ofDocument_of_rearranged h.symm he
      rw [hd] at hdev
      cases hdev
    | error defect' => exact Or.inl ⟨defect, defect', rfl, rfl⟩

def arrangement : Document where
  source := ['p']
  sections :=
    ⟨[("device".toList, [⟨"name".toList, ['n']⟩]),
      ("regs".toList, [⟨['s'], ['1']⟩, ⟨['r'], ['2']⟩]),
      ("dump".toList, [⟨"file".toList, ['f']⟩, ⟨"address".toList, ['8']⟩])], by decide⟩

def rearrangement : Document where
  source := ['p']
  sections :=
    ⟨[("dump".toList, [⟨"address".toList, ['8']⟩, ⟨"note".toList, []⟩, ⟨"file".toList, ['f']⟩]),
      ("regs".toList, [⟨['r'], ['2']⟩, ⟨['s'], ['1']⟩]),
      ("device".toList, [⟨"note".toList, []⟩, ⟨"name".toList, ['n']⟩])], by decide⟩

lemma rearranged_rearrangement : Rearranged arrangement rearrangement where
  device := by decide
  device_values := by decide
  dump _ _ := (by decide : arrangement.names.Perm rearrangement.names).mem_iff
  dump_values := by decide
  registers := by
    refine ⟨by decide, ?_⟩
    intro k
    have hr : entryRank? ⟨['r'], ['2']⟩ = some (['r'], .absent) := by cbv
    have hs : entryRank? ⟨['s'], ['1']⟩ = some (['s'], .absent) := by cbv
    change [_, _].filter _ = [_, _].filter _
    simp only [List.filter_cons, hr, hs, Option.some.injEq, decide_eq_true_eq]
    by_cases hk : (['r'], .absent) = k
    · subst hk
      rfl
    · rw [if_neg hk, if_neg hk]

/-- Two arrangements of a device with a dump and two registers. -/
theorem canonical_eq_of_rearrangement :
    Rearranged arrangement rearrangement ∧
      ∃ dev dev', Device.ofDocument arrangement ['p'] = .ok dev ∧
        Device.ofDocument rearrangement ['p'] = .ok dev' ∧
        withoutOrder dev.canonical = withoutOrder dev'.canonical ∧
        dev.canonical.dumpLines = dev'.canonical.dumpLines := by
  have hread : (Device.ofDocument arrangement ['p']).toOption.isSome = true := by cbv
  rcases canonical_eq_of_rearranged rearranged_rearrangement ['p'] with ⟨defect, _, hd, _⟩ | hdev
  · rw [hd] at hread
    cases hread
  · exact ⟨rearranged_rearrangement, hdev⟩

end TraceSnapshot.Proofs
