import Mathlib
import TraceSnapshot.Proofs.Aborts
import TraceSnapshot.Proofs.Fitness
import TraceSnapshot.Proofs.SchemaMeaning

/-!
# Validated files

The rules for a file are written twice. A schema looks at the last value of every key; what
builds the snapshot looks at the first value, the last one or all of them. This file compares
the two: what may still be wrong with a file that the validator accepts, and which files it
rejects without need.
-/

namespace TraceSnapshot.Proofs
open Ini (Document)
open Schema (Constraint SectionRule Selector)

variable {d : Document}

/-! ### Schemas over documents -/

lemma documentContent_eq_some_iff {name : Text} {value? : Text → Option Text} :
    documentContent d name = some value? ↔ name ∈ d.names ∧ d.last? name = value? := by
  unfold documentContent
  rw [← hasSection_iff]
  split
  next hsection => simp [hsection]
  next hsection => simp [hsection]

lemma meets_iff {s : Schema} : Meets s (documentContent d) ↔
    (∀ name ∈ s.required, name ∈ d.names) ∧
      ∀ name ∈ d.names, ∀ r ∈ s.sections, r.sections.selects name →
        SectionMeets r (d.last? name) := by
  have hrequired : ∀ name, documentContent d name ≠ none ↔ name ∈ d.names := by
    intro name
    rw [Option.ne_none_iff_exists']
    simp [documentContent_eq_some_iff]
  constructor
  · rintro ⟨h, hsections⟩
    refine ⟨fun name hname => (hrequired name).1 (h name hname), ?_⟩
    intro name hname
    exact hsections name _ (documentContent_eq_some_iff.2 ⟨hname, rfl⟩)
  · rintro ⟨h, hsections⟩
    refine ⟨fun name hname => (hrequired name).2 (h name hname), ?_⟩
    intro name value? hvalue
    obtain ⟨hname, rfl⟩ := documentContent_eq_some_iff.1 hvalue
    exact hsections name hname

/-- A rule that requires each of its keys and constrains its value. -/
lemma sectionMeets_fields_iff {selector : Selector} {fields : List (Text × Constraint)}
    {value? : Text → Option Text} :
    SectionMeets ⟨selector, fields.map Prod.fst, fields.map fun f => ⟨.named f.1, f.2⟩⟩ value? ↔
      ∀ f ∈ fields, ∃ value, value? f.1 = some value ∧ f.2.accepts value := by
  constructor
  · rintro ⟨hrequired, hallowed⟩ f hf
    obtain ⟨value, hvalue⟩ :=
      Option.ne_none_iff_exists'.1 (hrequired f.1 (List.mem_map_of_mem hf))
    refine ⟨value, hvalue, ?_⟩
    exact hallowed f.1 value hvalue _ (List.mem_map_of_mem hf) (beq_self_eq_true f.1)
  · intro h
    constructor
    · intro key hkey
      obtain ⟨f, hf, rfl⟩ := List.mem_map.1 hkey
      obtain ⟨value, hvalue, -⟩ := h f hf
      rw [hvalue]
      exact Option.some_ne_none value
    · intro key value hvalue rule hrule hselects
      obtain ⟨f, hf, rfl⟩ := List.mem_map.1 hrule
      obtain rfl : key = f.1 := eq_of_beq hselects
      obtain ⟨other, hother, haccepts⟩ := h f hf
      cases hvalue.symm.trans hother
      exact haccepts

lemma nonEmpty_accepts_iff {value : Text} : Constraint.nonEmpty.accepts value ↔ value ≠ [] := by
  cases value <;> simp [Constraint.accepts]

lemma listItem_accepts_iff {value : Text} :
    (Constraint.fits .listItem).accepts value ↔
      ∃ c ∈ value, c ≠ ',' ∧ CharClass.whiteSpace.contains c = false := by
  simp [Constraint.accepts, Schema.Pattern.accepts]

theorem meets_manifest_iff : Meets Schema.manifest (documentContent d) ↔
    (∃ version, d.last? "snapshot".toList "version".toList = some version ∧ version ≠ []) ∧
      d.hasSection "device_list".toList = true ∧
      ∀ key, d.last? "device_list".toList key ≠ some [] := by
  have hsnapshot := @sectionMeets_fields_iff (.named "snapshot".toList)
    [("version".toList, .nonEmpty)] (d.last? "snapshot".toList)
  simp only [List.forall_mem_singleton, nonEmpty_accepts_iff] at hsnapshot
  rw [meets_iff, ← hsnapshot, hasSection_iff]
  constructor
  · rintro ⟨hrequired, hsections⟩
    simp only [Schema.manifest, List.forall_mem_cons, List.not_mem_nil, false_imp_iff,
      implies_true, and_true] at hrequired hsections
    refine ⟨(hsections _ hrequired.1).1 (beq_self_eq_true _), hrequired.2, ?_⟩
    intro key hempty
    have hallowed := ((hsections _ hrequired.2).2 (beq_self_eq_true _)).allowed key [] hempty
    exact absurd (hallowed _ List.mem_cons_self rfl) Bool.false_ne_true
  · rintro ⟨hversion, hlist, hpaths⟩
    obtain ⟨version, hlast⟩ :=
      Option.ne_none_iff_exists'.1 (hversion.required _ List.mem_cons_self)
    simp only [Schema.manifest, List.forall_mem_cons, List.not_mem_nil, false_imp_iff,
      implies_true, and_true]
    refine ⟨⟨hasSection_iff.1 (hasSection_of_last?_eq_some hlast), hlist⟩, ?_⟩
    intro name hname
    constructor
    · intro hselects
      obtain rfl := eq_of_beq hselects
      exact hversion
    · intro hselects
      obtain rfl := eq_of_beq hselects
      refine ⟨by simp, ?_⟩
      intro key value hvalue rule hrule _
      obtain rfl := List.mem_singleton.1 hrule
      rw [nonEmpty_accepts_iff]
      rintro rfl
      exact hpaths key hvalue

theorem meets_device_iff : Meets Schema.device (documentContent d) ↔
    (∃ name, d.last? "device".toList "name".toList = some name ∧ name ≠ []) ∧
      ∀ dump ∈ d.names, Device.isDumpName dump →
        (∃ file, d.last? dump "file".toList = some file ∧ file ≠ []) ∧
          ∃ address, d.last? dump "address".toList = some address ∧
            (Unsigned.numeral? address).isSome := by
  have hdevice := @sectionMeets_fields_iff (.named "device".toList)
    [("name".toList, .nonEmpty)] (d.last? "device".toList)
  have hdump := fun dump => @sectionMeets_fields_iff (.startingWith "dump".toList)
    [("file".toList, .nonEmpty), ("address".toList, .fits .numeral)] (d.last? dump)
  simp only [List.forall_mem_cons, List.not_mem_nil, false_imp_iff, implies_true, and_true,
    nonEmpty_accepts_iff] at hdevice hdump
  rw [meets_iff, ← hdevice]
  simp only [Schema.device, List.forall_mem_cons, List.not_mem_nil, false_imp_iff, implies_true,
    and_true]
  constructor
  · rintro ⟨hrequired, hsections⟩
    refine ⟨(hsections _ hrequired).1 (beq_self_eq_true _), ?_⟩
    intro dump hmem hname
    exact (hdump dump).1 ((hsections dump hmem).2 hname)
  · rintro ⟨hname, hdumps⟩
    obtain ⟨name, hlast⟩ := Option.ne_none_iff_exists'.1 (hname.required _ List.mem_cons_self)
    refine ⟨hasSection_iff.1 (hasSection_of_last?_eq_some hlast), ?_⟩
    intro name hmem
    constructor
    · intro hselects
      obtain rfl := eq_of_beq hselects
      exact hname
    · intro hselects
      exact (hdump name).2 (hdumps name hmem hselects)

theorem meets_trace_iff : Meets Schema.trace (documentContent d) ↔
    ∃ list, d.last? "trace_buffers".toList "buffers".toList = some list ∧
      ∃ c ∈ list, c ≠ ',' ∧ CharClass.whiteSpace.contains c = false := by
  have hbuffers := @sectionMeets_fields_iff (.named "trace_buffers".toList)
    [("buffers".toList, .fits .listItem)] (d.last? "trace_buffers".toList)
  simp only [List.forall_mem_singleton, listItem_accepts_iff] at hbuffers
  rw [meets_iff, ← hbuffers]
  simp only [Schema.trace, List.forall_mem_singleton]
  constructor
  · rintro ⟨hrequired, hsections⟩
    exact hsections _ hrequired (beq_self_eq_true _)
  · intro hlist
    obtain ⟨list, hlast⟩ := Option.ne_none_iff_exists'.1 (hlist.required _ List.mem_cons_self)
    refine ⟨hasSection_iff.1 (hasSection_of_last?_eq_some hlast), ?_⟩
    intro name hmem hselects
    obtain rfl := eq_of_beq hselects
    exact hlist

/-! ### What may still be wrong -/

/-- An accepted device file lacks nothing. But its name may be given again, and a number that is
overridden or that is too large for 64 bits may be wrong. -/
theorem device_fit_iff_of_meets (h : Meets Schema.device (documentContent d))
    (declaredPath : Text) :
    (∃ dev, Device.ofDocument d declaredPath = .ok dev) ↔
      (∃ name, d.values "device".toList "name".toList = [name]) ∧
      (∀ dump ∈ d.names, Device.isDumpName dump →
        ∀ v ∈ d.values dump "address".toList, IsNumber (Text.trim v)) ∧
      ∀ e ∈ d.entries "regs".toList, IdReadable e := by
  obtain ⟨-, hdumps⟩ := meets_device_iff.1 h
  rw [exists_device_iff]
  apply and_congr_right
  intro _
  apply and_congr_left
  intro _
  refine forall₃_congr fun dump hmem hname => ?_
  obtain ⟨⟨file, hfile, -⟩, address, haddress, -⟩ := hdumps dump hmem hname
  have hlast : d.last? dump "file".toList ≠ none := by
    rw [hfile]
    exact Option.some_ne_none file
  rw [exists_readDump_iff]
  exact ⟨fun hread => hread.1, fun hread => ⟨hread, hlast, values_ne_nil_of_last? haddress⟩⟩

theorem device_defect_of_meets (h : Meets Schema.device (documentContent d))
    {declaredPath : Text} {defect : Device.Defect}
    (herror : Device.ofDocument d declaredPath = .error defect) (source : Text) :
    (∃ report, defect.failure source = .reported report ∧
      (report.code = .duplicateKey ∨ report.code = .invalidValue)) ∨
      ∃ t n, defect.failure source = .aborted (.overlongNumeral n) ∧ Overlong t n := by
  obtain ⟨⟨name, hlast, -⟩, hdumps⟩ := meets_device_iff.1 h
  cases deviceUnfit_iff.2 herror with
  | missingSection hsection =>
    rw [hasSection_of_last?_eq_some hlast] at hsection
    cases hsection
  | missingName _ hname => exact absurd hname (values_ne_nil_of_last? hlast)
  | duplicateName => exact .inl ⟨_, rfl, .inl rfl⟩
  | dump _ hsplit _ hunfit =>
    obtain ⟨hmem, hname⟩ := List.mem_filter.1 (mem_of_eq_append_cons hsplit)
    obtain ⟨⟨file, hfile, -⟩, address, haddress, -⟩ := hdumps _ hmem hname
    cases hunfit with
    | notANumber => exact .inl ⟨_, rfl, .inr rfl⟩
    | overlong _ _ hread => exact .inr ⟨_, _, rfl, read_eq_error_iff.1 hread⟩
    | incomplete _ hlacks =>
      rcases hlacks with hnone | hnil
      · cases hfile.symm.trans hnone
      · exact absurd hnil (values_ne_nil_of_last? haddress)
  | registerId _ _ _ _ hid =>
    obtain ⟨t, -, hoverlong⟩ := readIdNumber_eq_overlong_iff.1 hid
    exact .inr ⟨t, _, rfl, hoverlong⟩

/-- An accepted manifest lacks nothing either, but what may be given once may be repeated. -/
theorem manifest_fit_iff_of_meets (h : Meets Schema.manifest (documentContent d)) :
    (∃ m, Manifest.ofDocument d = .ok m) ↔
      (d.values "snapshot".toList "version".toList).length ≤ 1 ∧
      (d.values "snapshot".toList "description".toList).length ≤ 1 := by
  obtain ⟨⟨version, hlast, hne⟩, hlist, -⟩ := meets_manifest_iff.1 h
  have hversion : (∃ v, d.values "snapshot".toList "version".toList = [v] ∧ v ≠ []) ↔
      (d.values "snapshot".toList "version".toList).length ≤ 1 := by
    unfold Document.last? at hlast
    generalize d.values "snapshot".toList "version".toList = values at hlast
    rcases values with _ | ⟨first, _ | ⟨second, rest⟩⟩
    · cases hlast
    · cases hlast
      simpa using hne
    · simp
  have hdescription : (∃ description, d.values "snapshot".toList "description".toList =
      Option.toList description) ↔
        (d.values "snapshot".toList "description".toList).length ≤ 1 := by
    generalize d.values "snapshot".toList "description".toList = values
    rcases values with _ | ⟨first, _ | ⟨second, rest⟩⟩
    · exact iff_of_true ⟨none, rfl⟩ (Nat.zero_le 1)
    · exact iff_of_true ⟨some first, rfl⟩ (Nat.le_refl 1)
    · refine iff_of_false ?_ (by simp)
      rintro ⟨_ | description, hvalues⟩ <;> cases hvalues
  rw [exists_manifest_iff, hversion, hdescription]
  simp only [hlist, and_true]

theorem manifest_defect_of_meets (h : Meets Schema.manifest (documentContent d))
    {defect : Manifest.Defect} (herror : Manifest.ofDocument d = .error defect) :
    defect.code = .duplicateKey := by
  obtain ⟨⟨version, hlast, hne⟩, hlist, -⟩ := meets_manifest_iff.1 h
  cases manifestUnfit_iff.2 herror with
  | missingSection hsection =>
    rw [hasSection_of_last?_eq_some hlast] at hsection
    cases hsection
  | duplicateVersion => rfl
  | missingVersion _ hversion =>
    rcases hversion with hnil | hempty
    · exact absurd hnil (values_ne_nil_of_last? hlast)
    · unfold Document.last? at hlast
      rw [hempty] at hlast
      cases hlast
      exact absurd rfl hne
  | duplicateDescription => rfl
  | missingDeviceList _ _ _ hsection => cases hsection.symm.trans hlist

lemma whiteSpace_of_isBlank {c : Char} (h : Text.isBlank c) : CharClass.whiteSpace.contains c := by
  simp only [Text.isBlank, Bool.or_eq_true, beq_iff_eq] at h
  rcases h with ((((rfl | rfl) | rfl) | rfl) | rfl) | rfl <;> decide

lemma items_ne_nil_of_listItem {list : Text} {c : Char} (hc : c ∈ list) (hcomma : c ≠ ',')
    (hspace : CharClass.whiteSpace.contains c = false) : CommaList.items list ≠ [] := by
  intro hempty
  rcases comma_or_blank_of_items_eq_nil hempty hc with h | hblank
  · exact hcomma h
  · rw [whiteSpace_of_isBlank hblank] at hspace
    cases hspace

/-- The validator looks at the last list of buffers, but the first one counts. So an accepted
file may still list no buffer, if there are several lists. -/
theorem trace_defect_of_meets (h : Meets Schema.trace (documentContent d)) {path : Text}
    {defect : TraceMetadata.Defect} (herror : TraceMetadata.ofDocument d path = .error defect) :
    (defect = .noBuffers path ∧ ∃ first second rest,
      d.values "trace_buffers".toList "buffers".toList = first :: second :: rest ∧
        CommaList.items first = []) ∨
    ∃ list id, d.first? "trace_buffers".toList "buffers".toList = some list ∧
      id ∈ CommaList.items list ∧ BufferUnfit d id defect := by
  obtain ⟨last, hlast, c, hc, hcomma, hspace⟩ := meets_trace_iff.1 h
  cases traceUnfit_iff.2 herror with
  | missingSection hsection =>
    rw [hasSection_of_last?_eq_some hlast] at hsection
    cases hsection
  | missingBuffers _ hlist =>
    rw [first?_eq_none_iff] at hlist
    exact absurd hlist (values_ne_nil_of_last? hlast)
  | @noBuffers list hlist hempty =>
    refine .inl ⟨rfl, ?_⟩
    unfold Document.first? at hlist
    unfold Document.last? at hlast
    generalize d.values "trace_buffers".toList "buffers".toList = values at hlist hlast ⊢
    rcases values with _ | ⟨first, _ | ⟨second, rest⟩⟩
    · cases hlist
    · -- The only list is the one that the validator has seen.
      cases hlist
      cases hlast
      exact absurd hempty (items_ne_nil_of_listItem hc hcomma hspace)
    · cases hlist
      exact ⟨_, second, rest, rfl, hempty⟩
  | buffer hlist hsplit _ hunfit =>
    exact .inr ⟨_, _, hlist, mem_ascending.1 (mem_of_eq_append_cons hsplit), hunfit⟩

/-- What the validator accepts is complete. It may still repeat what may be given once, hold a
number that cannot be read, where the validator sees a later one or none at all, or list buffers
first that are not described. -/
theorem fit_iff_of_validated {text source : Text} (hparse : Document.parse text source = .ok d)
    (hfirst : ∀ raw ∈ Text.lines text, BracketFirst raw) :
    (Validator.schema .device text source = none → ∀ declaredPath,
      ((∃ dev, Device.ofDocument d declaredPath = .ok dev) ↔
        (∃ name, d.values "device".toList "name".toList = [name]) ∧
        (∀ dump ∈ d.names, Device.isDumpName dump →
          ∀ v ∈ d.values dump "address".toList, IsNumber (Text.trim v)) ∧
        ∀ e ∈ d.entries "regs".toList, IdReadable e) ∧
      ∀ defect, Device.ofDocument d declaredPath = .error defect →
        (∃ report, defect.failure source = .reported report ∧
          (report.code = .duplicateKey ∨ report.code = .invalidValue)) ∨
        ∃ t n, defect.failure source = .aborted (.overlongNumeral n) ∧ Overlong t n) ∧
    (Validator.schema .snapshot text source = none →
      ((∃ m, Manifest.ofDocument d = .ok m) ↔
        (d.values "snapshot".toList "version".toList).length ≤ 1 ∧
        (d.values "snapshot".toList "description".toList).length ≤ 1) ∧
      ∀ defect, Manifest.ofDocument d = .error defect → defect.code = .duplicateKey) ∧
    (Validator.schema .trace text source = none → ∀ path defect,
      TraceMetadata.ofDocument d path = .error defect →
        defect.code ≠ .missingSection ∧ (∀ p, defect ≠ .missingBuffers p) ∧
        ((defect = .noBuffers path ∧ ∃ first second rest,
          d.values "trace_buffers".toList "buffers".toList = first :: second :: rest ∧
            CommaList.items first = []) ∨
        ∃ list id, d.first? "trace_buffers".toList "buffers".toList = some list ∧
          id ∈ CommaList.items list ∧ BufferUnfit d id defect)) := by
  refine ⟨fun haccepted declaredPath => ?_, fun haccepted => ?_,
    fun haccepted path defect herror => ?_⟩
  · have hmeets := (schema_eq_none_iff_of_parse hparse hfirst).1 haccepted
    exact ⟨device_fit_iff_of_meets hmeets declaredPath,
      fun defect herror => device_defect_of_meets hmeets herror source⟩
  · have hmeets := (schema_eq_none_iff_of_parse hparse hfirst).1 haccepted
    exact ⟨manifest_fit_iff_of_meets hmeets,
      fun defect herror => manifest_defect_of_meets hmeets herror⟩
  · have hmeets := (schema_eq_none_iff_of_parse hparse hfirst).1 haccepted
    have hdefect := trace_defect_of_meets hmeets herror
    refine ⟨?_, ?_, hdefect⟩
    · rcases hdefect with ⟨rfl, -⟩ | ⟨list, id, -, -, hunfit⟩
      · exact nofun
      · cases hunfit <;> exact nofun
    · rintro p rfl
      rcases hdefect with ⟨hbuffers, -⟩ | ⟨list, id, -, -, hunfit⟩
      · cases hbuffers
      · cases hunfit

/-- A file of every kind at once that the validator accepts in every role. All that it repeats
is wrong where the validator does not look. -/
def repeating : Text :=
  ("[snapshot]\nversion=1\nversion=2\n[device_list]\n[device]\nname=a\n[dump]\nfile=f\n" ++
    "address=z\naddress=0x10\n[trace_buffers]\nbuffers=,\nbuffers=b").toList

def repeatingDocument : Document where
  source := ['f']
  sections :=
    ⟨[("snapshot".toList, [⟨"version".toList, ['1']⟩, ⟨"version".toList, ['2']⟩]),
      ("device_list".toList, []), ("device".toList, [⟨"name".toList, ['a']⟩]),
      ("dump".toList, [⟨"file".toList, ['f']⟩, ⟨"address".toList, ['z']⟩,
        ⟨"address".toList, "0x10".toList⟩]),
      ("trace_buffers".toList, [⟨"buffers".toList, [',']⟩, ⟨"buffers".toList, ['b']⟩])],
      by decide⟩

theorem fit_iff_of_validated_repeating :
    Document.parse repeating ['f'] = .ok repeatingDocument ∧
      (∀ raw ∈ Text.lines repeating, BracketFirst raw) ∧
      (∀ role, Validator.schema role repeating ['f'] = none) ∧
      (¬∃ m, Manifest.ofDocument repeatingDocument = .ok m) ∧
      (¬∃ dev, Device.ofDocument repeatingDocument ['p'] = .ok dev) ∧
      TraceMetadata.ofDocument repeatingDocument ['p'] = .error (.noBuffers ['p']) ∧
      ∃ first second rest,
        repeatingDocument.values "trace_buffers".toList "buffers".toList =
          first :: second :: rest ∧ CommaList.items first = [] := by
  have hparse : Document.parse repeating ['f'] = .ok repeatingDocument := by
    conv => lhs; cbv
    rfl
  have hfirst : ∀ raw ∈ Text.lines repeating, BracketFirst raw := by decide +kernel
  have haccepted : ∀ role, Validator.schema role repeating ['f'] = none := by
    intro role
    cases role <;> decide +kernel
  obtain ⟨hdevice, hmanifest, htrace⟩ := fit_iff_of_validated hparse hfirst
  have hfails : TraceMetadata.ofDocument repeatingDocument ['p'] = .error (.noBuffers ['p']) :=
    traceUnfit_iff.1 (.noBuffers rfl rfl)
  refine ⟨hparse, hfirst, haccepted, ?_, ?_, hfails, ?_⟩
  · rw [(hmanifest (haccepted .snapshot)).1]
    decide
  · rw [(hdevice (haccepted .device) ['p']).1]
    rintro ⟨-, hnumbers, -⟩
    obtain ⟨number, hread⟩ := hnumbers "dump".toList (by decide) rfl ['z'] (by decide)
    cases hread
  · obtain ⟨-, -, hdefect⟩ := htrace (haccepted .trace) ['p'] _ hfails
    rcases hdefect with ⟨-, hrepeated⟩ | ⟨list, id, hlist, hid, -⟩
    · exact hrepeated
    · -- The first list has no items, so there is no buffer that could be unfit.
      cases hlist
      cases hid

/-! ### Needless rejections -/

lemma isSome_numeral?_of_isNumber {t : Text} (h : IsNumber t) :
    (Unsigned.numeral? t).isSome := by
  obtain ⟨number, hread⟩ := h
  unfold Unsigned.read at hread
  split at hread
  next => cases hread
  next n hnumeral => rw [hnumeral]; rfl

theorem manifest_meets_iff_of_fit {m : Manifest} (h : Manifest.ofDocument d = .ok m) :
    Meets Schema.manifest (documentContent d) ↔
      ∀ key, d.last? "device_list".toList key ≠ some [] := by
  obtain ⟨⟨version, hversion, hne⟩, -, hlist⟩ := exists_manifest_iff.1 ⟨m, h⟩
  have hlast : d.last? "snapshot".toList "version".toList = some version := by
    unfold Document.last?
    rw [hversion]
    rfl
  rw [meets_manifest_iff]
  exact ⟨fun hmeets => hmeets.2.2, fun hpaths => ⟨⟨version, hlast, hne⟩, hlist, hpaths⟩⟩

/-- Every address was a number, so no address is to blame. -/
theorem device_meets_iff_of_fit (hlexical : LexicalDocument d) {declaredPath : Text}
    {dev : Device} (h : Device.ofDocument d declaredPath = .ok dev) :
    Meets Schema.device (documentContent d) ↔ dev.name ≠ [] ∧
      ∀ dump ∈ d.names, Device.isDumpName dump → d.last? dump "file".toList ≠ some [] := by
  obtain ⟨-, name, _, _, hname, -, -, rfl⟩ := device_ofDocument_eq_ok_iff.1 h
  obtain ⟨-, hdumps, -⟩ := exists_device_iff.1 ⟨_, h⟩
  have hlast : d.last? "device".toList "name".toList = some name := by
    unfold Document.last?
    rw [hname]
    rfl
  rw [meets_device_iff, hlast]
  apply and_congr
  · simp only [Option.some.injEq, exists_eq_left']
    rfl
  · refine forall₃_congr fun dump hmem hdump => ?_
    obtain ⟨hnumbers, hfile, haddress⟩ := exists_readDump_iff.1 (hdumps dump hmem hdump)
    obtain ⟨file, hfile⟩ := Option.ne_none_iff_exists'.1 hfile
    -- All addresses are numbers, and the one that the validator sees is the last of them.
    have haddress : ∃ address, d.last? dump "address".toList = some address ∧
        (Unsigned.numeral? address).isSome := by
      have hvalue := List.getLast?_eq_some_getLast haddress
      refine ⟨_, hvalue, isSome_numeral?_of_isNumber ?_⟩
      have hmem := mem_values_of_last? hvalue
      rw [← (hlexical.plain_of_mem_values hmem).trimmed]
      exact hnumbers _ hmem
    rw [and_iff_left haddress, hfile]
    simp

theorem trace_meets_iff_of_fit {path : Text} {t : TraceMetadata}
    (h : TraceMetadata.ofDocument d path = .ok t) :
    Meets Schema.trace (documentContent d) ↔
      ¬∃ list, d.last? "trace_buffers".toList "buffers".toList = some list ∧
        ∀ c ∈ list, c = ',' ∨ CharClass.whiteSpace.contains c := by
  obtain ⟨first, hfirst, -⟩ := exists_trace_iff.1 ⟨t, h⟩
  have hvalues : d.values "trace_buffers".toList "buffers".toList ≠ [] :=
    List.ne_nil_of_mem (mem_values_of_first? hfirst)
  have hlast : d.last? "trace_buffers".toList "buffers".toList = some _ :=
    List.getLast?_eq_some_getLast hvalues
  rw [meets_trace_iff, hlast]
  simp only [Option.some.injEq, exists_eq_left']
  push Not
  simp only [ne_eq, Bool.not_eq_true]

/-- The files that the validator rejects although a snapshot could be built from them. -/
theorem rejected_iff_of_fit {text source : Text} (hparse : Document.parse text source = .ok d)
    (hfirst : ∀ raw ∈ Text.lines text, BracketFirst raw) :
    (∀ m, Manifest.ofDocument d = .ok m →
      (Validator.schema .snapshot text source ≠ none ↔
        ∃ key, d.last? "device_list".toList key = some [])) ∧
    (∀ declaredPath dev, Device.ofDocument d declaredPath = .ok dev →
      (Validator.schema .device text source ≠ none ↔
        dev.name = [] ∨ ∃ dump ∈ d.names, Device.isDumpName dump ∧
          d.last? dump "file".toList = some [])) ∧
    ∀ path t, TraceMetadata.ofDocument d path = .ok t →
      (Validator.schema .trace text source ≠ none ↔
        ∃ list, d.last? "trace_buffers".toList "buffers".toList = some list ∧
          ∀ c ∈ list, c = ',' ∨ CharClass.whiteSpace.contains c) := by
  refine ⟨fun m hfit => ?_, fun declaredPath dev hfit => ?_, fun path t hfit => ?_⟩
  · have hmeets := manifest_meets_iff_of_fit hfit
    rw [ne_eq, schema_eq_none_iff_of_parse hparse hfirst]
    change ¬Meets Schema.manifest (documentContent d) ↔ _
    rw [hmeets]
    push Not
    rfl
  · have hmeets := device_meets_iff_of_fit (lexicalDocument_of_parse hparse) hfit
    rw [ne_eq, schema_eq_none_iff_of_parse hparse hfirst]
    change ¬Meets Schema.device (documentContent d) ↔ _
    rw [hmeets, not_and_or, not_ne_iff]
    push Not
    rfl
  · have hmeets := trace_meets_iff_of_fit hfit
    rw [ne_eq, schema_eq_none_iff_of_parse hparse hfirst]
    change ¬Meets Schema.trace (documentContent d) ↔ _
    rw [hmeets, not_not]

/-- A file of every kind at once from which everything can be built, but which the validator
rejects in every role. -/
def rejected : Text :=
  ("[snapshot]\nversion=1\n[device_list]\na=\n[device]\nname=\n" ++
    "[trace_buffers]\nbuffers=b\nbuffers=,\n[b]\nname=n\nfile=f").toList

def rejectedDocument : Document where
  source := ['f']
  sections :=
    ⟨[("snapshot".toList, [⟨"version".toList, ['1']⟩]), ("device_list".toList, [⟨['a'], []⟩]),
      ("device".toList, [⟨"name".toList, []⟩]),
      ("trace_buffers".toList, [⟨"buffers".toList, ['b']⟩, ⟨"buffers".toList, [',']⟩]),
      (['b'], [⟨"name".toList, ['n']⟩, ⟨"file".toList, ['f']⟩])], by decide⟩

theorem rejected_iff_of_fit_rejected :
    Document.parse rejected ['f'] = .ok rejectedDocument ∧
      (∀ raw ∈ Text.lines rejected, BracketFirst raw) ∧
      (∃ m, Manifest.ofDocument rejectedDocument = .ok m) ∧
      (∃ dev, Device.ofDocument rejectedDocument ['p'] = .ok dev) ∧
      (∃ t, TraceMetadata.ofDocument rejectedDocument ['p'] = .ok t) ∧
      ∀ role, Validator.schema role rejected ['f'] ≠ none := by
  have hparse : Document.parse rejected ['f'] = .ok rejectedDocument := by
    conv => lhs; cbv
    rfl
  have hfirst : ∀ raw ∈ Text.lines rejected, BracketFirst raw := by decide +kernel
  obtain ⟨m, hm⟩ : ∃ m, Manifest.ofDocument rejectedDocument = .ok m := ⟨_, rfl⟩
  obtain ⟨dev, hdev⟩ : ∃ dev, Device.ofDocument rejectedDocument ['p'] = .ok dev := ⟨_, rfl⟩
  obtain ⟨t, ht⟩ : ∃ t, TraceMetadata.ofDocument rejectedDocument ['p'] = .ok t := by
    conv => congr; ext; lhs; cbv
    exact ⟨_, rfl⟩
  obtain ⟨hmanifest, hdevice, htrace⟩ := rejected_iff_of_fit hparse hfirst
  refine ⟨hparse, hfirst, ⟨m, hm⟩, ⟨dev, hdev⟩, ⟨t, ht⟩, ?_⟩
  intro role
  cases role with
  | snapshot => exact (hmanifest m hm).2 ⟨['a'], rfl⟩
  | device =>
    refine (hdevice ['p'] dev hdev).2 (.inl ?_)
    cases hdev
    rfl
  | trace => exact (htrace ['p'] t ht).2 ⟨[','], rfl, by simp⟩

end TraceSnapshot.Proofs
