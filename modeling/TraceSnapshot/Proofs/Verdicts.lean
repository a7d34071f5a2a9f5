import Mathlib
import TraceSnapshot.Proofs.Messages
import TraceSnapshot.Proofs.SchemaMeaning

/-!
# The violation that is reported

A file can violate a schema in many places at once, and the validator meets the violations in the
order of the file. Which of them it reports depends only on their places and on the lists of the
schema, so it cannot be told from the verdict in which order the file says things.
-/

namespace TraceSnapshot.Proofs
open Ini (Outline)
open Schema (SectionRule Selector Violation)

/-! ### Violations of a content -/

lemma outlineContent_eq_some_iff {o : Outline} {name : Text} {value? : Text → Option Text} :
    outlineContent o name = some value? ↔
      (name, value?) ∈ o.pairs.map fun pair => (pair.1, pair.2.get?) := by
  unfold outlineContent
  simp [get?_eq_some_iff]

/-- The order of sections and of keys in a section does not matter for the content. -/
lemma outlineContent_of_reordered {o o' : Outline} {sections : List (Text × OrderedMap Text Text)}
    (hsections : o.pairs.Perm sections)
    (hkeys : List.Forall₂ (fun pair other => pair.1 = other.1 ∧ pair.2.pairs.Perm other.2.pairs)
      sections o'.pairs) : outlineContent o = outlineContent o' := by
  have hvalues : (sections.map fun pair => (pair.1, pair.2.get?)) =
      o'.pairs.map fun pair => (pair.1, pair.2.get?) := by
    rw [← List.forall₂_eq_eq_eq, List.forall₂_map_left_iff, List.forall₂_map_right_iff]
    exact hkeys.imp fun _ _ hsame => Prod.ext hsame.1 (get?_eq_of_perm hsame.2)
  funext name
  apply Option.ext
  intro value?
  rw [outlineContent_eq_some_iff, outlineContent_eq_some_iff, ← hvalues,
    (hsections.map _).mem_iff]

/-- The names that a schema asks for at a path: sections at the top and keys in a section. -/
def requiredAt (s : Schema) : List Text → List Text
  | [] => s.required
  | [name] => s.sections.flatMap fun r => if r.sections.selects name then r.required else []
  | _ => []

/-- The section or the file at a path is there, but not what a name stands for in it. -/
def lacks (c : Content) : List Text → Text → Bool
  | [], name => (c name).isNone
  | [name], key => (c name).any fun value? => (value? key).isNone
  | _, _ => false

/-- What a file does that a schema does not allow. -/
inductive Violates (s : Schema) (c : Content) : Violation → Prop
  | missing {path key} (hrequired : key ∈ requiredAt s path) (hlacks : lacks c path key) :
      Violates s c ⟨path, .missing key⟩
  | refused {name key value value? r rule} (hsection : c name = some value?)
      (hvalue : value? key = some value) (hr : r ∈ s.sections) (hname : r.sections.selects name)
      (hrule : rule ∈ r.values) (hkey : rule.keys.selects key)
      (hrefused : rule.constraint.accepts value = false) :
      Violates s c ⟨[name, key], .refused value rule.constraint⟩

section Violations

variable {s : Schema} {c : Content} {o : Outline} {r : SectionRule} {name key : Text}
  {pairs : OrderedMap Text Text} {path : List Text} {v : Violation}

lemma lacks_top (o : Outline) : lacks (outlineContent o) [] = fun name => !o.contains name := by
  funext name
  cases hget : o.get? name <;> simp [lacks, outlineContent, OrderedMap.contains, hget]

lemma lacks_section (h : o.get? name = some pairs) :
    lacks (outlineContent o) [name] = fun key => !pairs.contains key := by
  funext key
  cases hget : pairs.get? key <;> simp [lacks, outlineContent, OrderedMap.contains, h, hget]

lemma lacks_absent_section (h : o.get? name = none) :
    lacks (outlineContent o) [name] = fun _ => false := by
  funext key
  simp [lacks, outlineContent, h]

lemma mem_section_violations_iff : v ∈ r.violations name pairs ↔ r.sections.selects name ∧
    ((∃ key ∈ r.required, pairs.contains key = false ∧ ⟨[name], .missing key⟩ = v) ∨
      ∃ key value, pairs.get? key = some value ∧ ∃ rule ∈ r.values, rule.keys.selects key ∧
        rule.constraint.accepts value = false ∧
          ⟨[name, key], .refused value rule.constraint⟩ = v) := by
  unfold SectionRule.violations SectionRule.valueViolations Schema.absent
  split
  next hselects =>
    simp [hselects, get?_eq_some_iff, and_assoc]
  next hselects => simp [hselects]

lemma path_of_mem_section_violations (h : v ∈ r.violations name pairs) :
    ∃ rest, v.path = name :: rest := by
  obtain ⟨-, ⟨key, -, -, rfl⟩ | ⟨key, _, -, _, -, -, -, rfl⟩⟩ := mem_section_violations_iff.1 h
  · exact ⟨[], rfl⟩
  · exact ⟨[key], rfl⟩

lemma filter_map_missing (names place : List Text) :
    (names.map fun key => (⟨place, .missing key⟩ : Violation)).filter (·.path == path) =
      if place = path then names.map fun key => ⟨place, .missing key⟩ else [] := by
  rw [List.filter_map]
  by_cases hplace : place = path <;> simp [Function.comp_def, hplace]

lemma filter_section_violations :
    (r.violations name pairs).filter (·.path == [name]) =
      ((if r.sections.selects name then r.required else []).filter fun key =>
        !pairs.contains key).map fun key => ⟨[name], .missing key⟩ := by
  have hrefused : ∀ v ∈ pairs.pairs.flatMap (r.valueViolations name),
      ¬ (v.path == [name]) = true := by
    intro v hv
    obtain ⟨pair, -, hv⟩ := List.mem_flatMap.1 hv
    obtain ⟨rule, -, rfl⟩ := List.mem_map.1 hv
    simp
  unfold SectionRule.violations
  split
  next =>
    rw [List.filter_append, filter_map_missing, if_pos rfl, List.filter_eq_nil_iff.2 hrefused,
      List.append_nil]
    rfl
  next => rfl

lemma filter_path_section_eq_nil (h : path.head? ≠ some name) :
    (s.sections.flatMap fun r => r.violations name pairs).filter (·.path == path) = [] := by
  rw [List.filter_eq_nil_iff]
  intro v hv hpath
  obtain ⟨r, -, hv⟩ := List.mem_flatMap.1 hv
  obtain ⟨rest, hrest⟩ := path_of_mem_section_violations hv
  rw [← eq_of_beq hpath, hrest] at h
  exact h rfl

lemma filter_top_violations : (s.violations o).filter (·.path == []) =
    (s.required.filter (lacks (outlineContent o) [])).map fun name => ⟨[], .missing name⟩ := by
  have hsections : ∀ pair ∈ o.pairs, (s.sections.flatMap fun r =>
      r.violations pair.1 pair.2).filter (·.path == []) = [] :=
    fun _ _ => filter_path_section_eq_nil nofun
  unfold Schema.violations
  rw [List.filter_append, List.filter_flatMap, List.flatMap_eq_nil_iff.2 hsections,
    List.append_nil, filter_map_missing, if_pos rfl, lacks_top]
  rfl

/-- At a section, there is one violation for every key that is missing. -/
lemma filter_name_violations : (s.violations o).filter (·.path == [name]) =
    ((requiredAt s [name]).filter (lacks (outlineContent o) [name])).map
      fun key => ⟨[name], .missing key⟩ := by
  have hothers : ∀ pair ∈ o.pairs, pair.1 ≠ name → (s.sections.flatMap fun r =>
      r.violations pair.1 pair.2).filter (·.path == [name]) = [] :=
    fun _ _ hne => filter_path_section_eq_nil fun hsome => hne (Option.some.inj hsome).symm
  unfold Schema.violations
  rw [List.filter_append, List.filter_flatMap, filter_map_missing,
    if_neg (List.cons_ne_nil name []).symm, List.nil_append]
  cases hget : o.get? name with
  | none =>
    have hnone : ∀ pair ∈ o.pairs, (s.sections.flatMap fun r =>
        r.violations pair.1 pair.2).filter (·.path == [name]) = [] := by
      intro pair hpair
      apply hothers pair hpair
      rintro rfl
      exact get?_eq_none_iff.1 hget (List.mem_map_of_mem hpair)
    rw [List.flatMap_eq_nil_iff.2 hnone, lacks_absent_section hget, List.filter_false,
      List.map_nil]
  | some pairs =>
    rw [flatMap_pairs_of_get? hget hothers, lacks_section hget]
    simp only [filter_section_violations, requiredAt, List.filter_flatMap, List.map_flatMap]

/-- At the top or at a section, there is one violation for every name that is missing, in the order
in which the schema asks for them. -/
lemma filter_path_violations (hpath : path.length < 2) : (s.violations o).filter (·.path == path) =
    ((requiredAt s path).filter (lacks (outlineContent o) path)).map
      fun key => ⟨path, .missing key⟩ :=
  match path, hpath with
  | [], _ => filter_top_violations
  | [_], _ => filter_name_violations

lemma length_lt_two_of_mem_requiredAt (h : key ∈ requiredAt s path) : path.length < 2 := by
  match path, h with
  | [], _ => exact Nat.zero_lt_two
  | [_], _ => exact Nat.one_lt_two

lemma violates_missing_iff : Violates s c ⟨path, .missing key⟩ ↔
    key ∈ requiredAt s path ∧ lacks c path key := by
  constructor
  · rintro ⟨hrequired, hlacks⟩
    exact ⟨hrequired, hlacks⟩
  · rintro ⟨hrequired, hlacks⟩
    exact .missing hrequired hlacks

theorem mem_violations_iff : v ∈ s.violations o ↔ Violates s (outlineContent o) v := by
  constructor
  · intro hv
    unfold Schema.violations at hv
    rcases List.mem_append.1 hv with hv | hv
    · obtain ⟨name, hname, rfl⟩ := List.mem_map.1 hv
      obtain ⟨hrequired, habsent⟩ := List.mem_filter.1 hname
      exact .missing hrequired (by rwa [lacks_top])
    · obtain ⟨⟨name, pairs⟩, hpair, hv⟩ := List.mem_flatMap.1 hv
      obtain ⟨r, hr, hv⟩ := List.mem_flatMap.1 hv
      have hget : o.get? name = some pairs := get?_eq_some_iff.2 hpair
      obtain ⟨hname, hv⟩ := mem_section_violations_iff.1 hv
      rcases hv with ⟨key, hkey, habsent, rfl⟩ |
        ⟨key, value, hvalue, rule, hrule, hkey, hrefused, rfl⟩
      · have hrequired : key ∈ requiredAt s [name] :=
          List.mem_flatMap.2 ⟨r, hr, by rwa [if_pos hname]⟩
        exact .missing hrequired (by simp [lacks_section hget, habsent])
      · have hsection : outlineContent o name = some pairs.get? := by
          unfold outlineContent
          rw [hget]
          rfl
        exact .refused hsection hvalue hr hname hrule hkey hrefused
  · rintro (⟨hrequired, hlacks⟩ | ⟨hsection, hvalue, hr, hname, hrule, hkey, hrefused⟩)
    · apply List.mem_of_mem_filter
      rw [filter_path_violations (length_lt_two_of_mem_requiredAt hrequired)]
      exact List.mem_map_of_mem (List.mem_filter.2 ⟨hrequired, hlacks⟩)
    · obtain ⟨pairs, hget, rfl⟩ := Option.map_eq_some_iff.1 hsection
      refine List.mem_append_right _ (List.mem_flatMap.2 ⟨_, get?_eq_some_iff.1 hget, ?_⟩)
      refine List.mem_flatMap.2 ⟨_, hr, mem_section_violations_iff.2 ⟨hname, Or.inr ?_⟩⟩
      exact ⟨_, _, hvalue, _, hrule, hkey, hrefused, rfl⟩

end Violations

/-! ### The one that is reported -/

/-- Short paths come first, and among paths of one length the greatest. -/
def compareRank (v w : Violation) : Ordering :=
  (compare v.path.length w.path.length).then (compare w.path v.path)

instance : Std.TransCmp compareRank :=
  have := @Std.TransCmp.opposite (List Text) compare _
  have := transCmp_on (fun p q : List Text => compare q p) Violation.path
  inferInstanceAs (Std.TransCmp (compareLex (compareOn fun v : Violation => v.path.length)
    fun v w => compare w.path v.path))

section Reporting

variable {vs : List Violation} {v w : Violation}

lemma outranks_iff : v.outranks w = true ↔ compareRank v w = .lt := by
  unfold Violation.outranks compareRank
  have hswap : compare v.path w.path = (compare w.path v.path).swap := Std.OrientedCmp.eq_swap
  rw [Ordering.then_eq_lt, compare_lt_iff_lt, compare_eq_iff_eq, hswap]
  simp

lemma compareRank_of_path_eq (h : v.path = w.path) : compareRank v w = .eq := by
  have hpath : compare w.path w.path = .eq := Std.ReflCmp.compare_self
  unfold compareRank
  rw [h, compare_eq_iff_eq.2 rfl, hpath]
  rfl

lemma isLE_compareRank_iff : (compareRank v w).isLE ↔ v.path.length ≤ w.path.length ∧
    (v.path.length = w.path.length → (compare w.path v.path).isLE) := by
  unfold compareRank
  rw [Ordering.isLE_then_iff_or, compare_lt_iff_lt, compare_eq_iff_eq]
  constructor
  · rintro (hlt | ⟨heq, hle⟩)
    · exact ⟨hlt.le, fun heq => absurd heq hlt.ne⟩
    · exact ⟨heq.le, fun _ => hle⟩
  · rintro ⟨hle, hpath⟩
    rcases hle.lt_or_eq with hlt | heq
    · exact Or.inl hlt
    · exact Or.inr ⟨heq, hpath heq⟩

/-- Nothing outranks the violation to report, and at its path it is the first. -/
lemma first_of_foremost? (h : Violation.foremost? vs = some v) :
    (∀ w ∈ vs, (compareRank v w).isLE) ∧ vs.find? (·.path == v.path) = some v := by
  induction vs generalizing v with
  | nil => cases h
  | cons u rest ih =>
    have hself : (compareRank u u).isLE := Std.ReflCmp.isLE_rfl
    have hhere : (u :: rest).find? (·.path == u.path) = some u :=
      List.find?_cons_of_pos (beq_self_eq_true u.path)
    unfold Violation.foremost? at h
    split at h
    next hnone =>
      cases h
      rw [foremost?_eq_none_iff.1 hnone] at hhere ⊢
      exact ⟨List.forall_mem_singleton.2 hself, hhere⟩
    next w hw =>
      obtain ⟨hleast, hfirst⟩ := ih hw
      split at h
      next hlt =>
        cases h
        rw [outranks_iff] at hlt
        refine ⟨List.forall_mem_cons.2 ⟨by rw [hlt]; rfl, hleast⟩, ?_⟩
        rw [List.find?_cons_of_neg, hfirst]
        intro hpath
        rw [compareRank_of_path_eq (eq_of_beq hpath).symm] at hlt
        cases hlt
      next hlt =>
        cases h
        rw [outranks_iff] at hlt
        have hle : (compareRank u w).isLE :=
          Ordering.isLE_iff_ne_gt.2 fun hgt => hlt (Std.OrientedCmp.lt_of_gt hgt)
        refine ⟨List.forall_mem_cons.2 ⟨hself, ?_⟩, hhere⟩
        exact fun x hx => Std.TransCmp.isLE_trans hle (hleast x hx)

end Reporting

/-- The violation of a content to report: no other one has a shorter path, none with a path of the
same length a greater one, and of several missing names the schema asks for this one first. -/
structure Foremost (s : Schema) (c : Content) (v : Violation) : Prop where
  violated : Violates s c v
  shortest : ∀ w, Violates s c w → v.path.length ≤ w.path.length
  greatest : ∀ w, Violates s c w → v.path.length = w.path.length → (compare w.path v.path).isLE
  first : ∀ key, v.reason = .missing key → (requiredAt s v.path).find? (lacks c v.path) = some key

/-- No name is selected by both. -/
def Apart (a b : Selector) : Prop := ∀ name, ¬ (a.selects name ∧ b.selects name)

/-- A schema with at most one rule for every section and every key. -/
structure Unambiguous (s : Schema) : Prop where
  sections : s.sections.Pairwise fun r r' => Apart r.sections r'.sections
  values : ∀ r ∈ s.sections, r.values.Pairwise fun rule rule' => Apart rule.keys rule'.keys

lemma apart_named {name : Text} {other : Selector} (h : other.selects name = false) :
    Apart (.named name) other := by
  rintro given ⟨hname, hother⟩
  rw [eq_of_beq hname, h] at hother
  cases hother

lemma eq_of_pairwise_apart {α : Type} {selector : α → Selector} {rules : List α}
    (h : rules.Pairwise fun a b => Apart (selector a) (selector b)) {a b : α} (ha : a ∈ rules)
    (hb : b ∈ rules) {name : Text} (hname : (selector a).selects name)
    (hname' : (selector b).selects name) : a = b := by
  have hsymm : Std.Symm fun a b => Apart (selector a) (selector b) :=
    ⟨fun _ _ hapart given hboth => hapart given hboth.symm⟩
  by_contra hne
  exact h.forall ha hb hne name ⟨hname, hname'⟩

lemma unambiguous_ofRole (role : Role) : Unambiguous (Schema.ofRole role) := by
  cases role with
  | snapshot =>
    refine ⟨List.pairwise_pair.2 (apart_named rfl), ?_⟩
    simp [Schema.ofRole, Schema.manifest]
  | device =>
    have hvalues : Apart (.named "file".toList) (.named "address".toList) := apart_named rfl
    refine ⟨List.pairwise_pair.2 (apart_named rfl), ?_⟩
    exact List.forall_mem_cons.2 ⟨List.pairwise_singleton _ _,
      List.forall_mem_singleton.2 (List.pairwise_pair.2 hvalues)⟩
  | trace =>
    refine ⟨List.pairwise_singleton _ _, ?_⟩
    exact List.forall_mem_singleton.2 (List.pairwise_singleton _ _)

section Selection

variable {s : Schema} {c : Content} {o : Outline} {v w : Violation}

lemma foremost_of_foremost? (h : Violation.foremost? (s.violations o) = some v) :
    Foremost s (outlineContent o) v := by
  obtain ⟨hleast, hfirst⟩ := first_of_foremost? h
  have hviolated : Violates s (outlineContent o) v :=
    mem_violations_iff.1 (mem_of_foremost?_eq_some h)
  refine ⟨hviolated, ?_, ?_, ?_⟩
  · intro w hw
    exact (isLE_compareRank_iff.1 (hleast w (mem_violations_iff.2 hw))).1
  · intro w hw
    exact (isLE_compareRank_iff.1 (hleast w (mem_violations_iff.2 hw))).2
  · intro key hreason
    obtain ⟨path, reason⟩ := v
    subst hreason
    have hpath := length_lt_two_of_mem_requiredAt (violates_missing_iff.1 hviolated).1
    rw [← List.head?_filter, filter_path_violations hpath, List.head?_map, List.head?_filter,
      Option.map_eq_some_iff] at hfirst
    obtain ⟨other, hother, heq⟩ := hfirst
    cases heq
    exact hother

lemma Foremost.path_eq (hv : Foremost s c v) (hw : Foremost s c w) : v.path = w.path := by
  have hlength : v.path.length = w.path.length :=
    le_antisymm (hv.shortest w hw.violated) (hw.shortest v hv.violated)
  have hpath : compare v.path w.path = .eq := Std.OrientedCmp.isLE_antisymm
    (hw.greatest v hv.violated hlength.symm) (hv.greatest w hw.violated hlength)
  exact Std.LawfulEqCmp.eq_of_compare hpath

/-- At its path, nothing else can be reported. -/
theorem Foremost.eq (hs : Unambiguous s) (hv : Foremost s c v) (hw : Foremost s c w) : v = w := by
  have hpath := hv.path_eq hw
  cases hv.violated with
  | missing hrequired =>
    have hshort := length_lt_two_of_mem_requiredAt hrequired
    cases hw.violated with
    | missing =>
      subst hpath
      have hkey := (hv.first _ rfl).symm.trans (hw.first _ rfl)
      rw [Option.some.inj hkey]
    | refused =>
      subst hpath
      exact absurd hshort (lt_irrefl 2)
  | refused hsection hvalue hr hname hrule hkey =>
    cases hw.violated with
    | missing hrequired =>
      have hshort := length_lt_two_of_mem_requiredAt hrequired
      subst hpath
      exact absurd hshort (lt_irrefl 2)
    | refused hsection' hvalue' hr' hname' hrule' hkey' =>
      cases hpath
      cases hsection.symm.trans hsection'
      cases hvalue.symm.trans hvalue'
      cases eq_of_pairwise_apart hs.sections hr hr' hname hname'
      rw [eq_of_pairwise_apart (hs.values _ hr) hrule hrule' hkey hkey']

theorem foremost?_eq_some_iff (hs : Unambiguous s) :
    Violation.foremost? (s.violations o) = some v ↔ Foremost s (outlineContent o) v := by
  constructor
  · exact foremost_of_foremost?
  · intro hv
    cases hfound : Violation.foremost? (s.violations o) with
    | none =>
      have hmem := mem_violations_iff.2 hv.violated
      rw [foremost?_eq_none_iff.1 hfound] at hmem
      cases hmem
    | some w => rw [(foremost_of_foremost? hfound).eq hs hv]

end Selection

/-- The verdict depends only on the sections, keys and values of a file. A file is accepted if it
does not violate the schema at all, and otherwise its foremost violation is reported. -/
theorem schema_reports_foremost (role : Role) (text source : Text) :
    (∀ other, outlineContent (Outline.read text) = outlineContent (Outline.read other) →
      Validator.schema role text source = Validator.schema role other source) ∧
    (Validator.schema role text source = none ↔
      ∀ v, ¬ Violates (Schema.ofRole role) (outlineContent (Outline.read text)) v) ∧
    ∀ report, Validator.schema role text source = some report ↔
      ∃ v, Foremost (Schema.ofRole role) (outlineContent (Outline.read text)) v ∧
        report = Validator.rejection role source v := by
  have hchecked : ∀ t v, Schema.check role t = some v ↔
      Foremost (Schema.ofRole role) (outlineContent (Outline.read t)) v :=
    fun _ _ => foremost?_eq_some_iff (unambiguous_ofRole role)
  refine ⟨?_, ?_, ?_⟩
  · intro other hcontent
    have hsame : Schema.check role text = Schema.check role other := by
      apply Option.ext
      intro v
      rw [hchecked, hchecked, hcontent]
    unfold Validator.schema
    rw [hsame]
  · unfold Validator.schema Schema.check
    rw [Option.map_eq_none_iff, foremost?_eq_none_iff, List.eq_nil_iff_forall_not_mem]
    simp only [mem_violations_iff]
  · intro report
    unfold Validator.schema
    rw [Option.map_eq_some_iff]
    simp only [hchecked, eq_comm (a := report)]

/-- A device with two dumps that are both incomplete. -/
def twoDumps : Text := "[device]\nname=d\n[dump1]\nx=1\n[dump2]\nx=2\ny=3".toList

/-- The same device with its sections and keys in another order. -/
def twoDumpsReversed : Text := "[dump2]\ny=3\nx=2\n[dump1]\nx=1\n[device]\nname=d".toList

lemma content_twoDumps :
    outlineContent (Outline.read twoDumps) = outlineContent (Outline.read twoDumpsReversed) := by
  apply outlineContent_of_reordered (List.reverse_perm _).symm
  exact .cons ⟨rfl, .swap _ _ _⟩ (.cons ⟨rfl, .refl _⟩ (.cons ⟨rfl, .refl _⟩ .nil))

theorem schema_reports_foremost_twoDumps :
    outlineContent (Outline.read twoDumps) = outlineContent (Outline.read twoDumpsReversed) ∧
    Validator.schema .device twoDumpsReversed ['f'] =
      some (Validator.rejection .device ['f'] ⟨["dump2".toList], .missing "file".toList⟩) ∧
    ∃ v, Violates Schema.device (outlineContent (Outline.read twoDumps)) v := by
  have hreport : Validator.schema .device twoDumps ['f'] =
      some (Validator.rejection .device ['f'] ⟨["dump2".toList], .missing "file".toList⟩) := by
    have hcheck : Schema.check .device twoDumps =
        some ⟨["dump2".toList], .missing "file".toList⟩ := by cbv
    unfold Validator.schema
    rw [hcheck]
    rfl
  obtain ⟨hsame, -, hsome⟩ := schema_reports_foremost .device twoDumps ['f']
  obtain ⟨v, hv, -⟩ := (hsome _).1 hreport
  exact ⟨content_twoDumps, (hsame _ content_twoDumps).symm.trans hreport, v, hv.violated⟩

end TraceSnapshot.Proofs
