import Mathlib.Data.List.Basic
import Mathlib.Tactic.Lemma
import TraceSnapshot.Separator
import TraceSnapshot.Text.Path

/-!
# Joining paths

Paths form a monoid under joining: the empty path is neutral and brackets do not matter. A path is
absolute by its first two characters, and a separator is not one that could complete a drive
prefix, so no absolute path comes out of relative parts.
-/

namespace TraceSnapshot.Proofs

/-- What is put between a base and a relative path: nothing if the base is empty or ends in a slash
of either kind. -/
def gapAfter (base : Text) (s : Separator) : Text :=
  match base.getLast? with
  | none => []
  | some c => if Path.isSlash c then [] else s.text

lemma gapAfter_append {b : Text} (hb : b ≠ []) (a : Text) (s : Separator) :
    gapAfter (a ++ b) s = gapAfter b s := by
  unfold gapAfter
  rw [List.getLast?_append_of_ne_nil a hb]

/-! ### What a join is -/

section Join

variable {a b : Text} (s : Separator)

lemma isAbsolute_append (h : Path.isAbsolute a = true) (b : Text) :
    Path.isAbsolute (a ++ b) = true := by
  match a, h with
  | [x], h =>
    have hx : Path.isSlash x = true := by simpa [Path.isAbsolute] using h
    simp [Path.isAbsolute, hx]
  | x :: y :: rest, h => exact h

lemma join_nil (base : Text) : Path.join base [] s.text = base := rfl

lemma join_of_absolute (base : Text) (h : Path.isAbsolute b = true) :
    Path.join base b s.text = b := by
  cases b with
  | nil => cases h
  | cons x rest => simp [Path.join, h]

lemma join_of_relative (base : Text) (hne : b ≠ []) (h : Path.isAbsolute b = false) :
    Path.join base b s.text = base ++ gapAfter base s ++ b := by
  have hempty : b.isEmpty = false := by simpa using hne
  have hslashes : ∀ c, ([c] == s.text) = true → Path.isSlash c = true := by
    intro c
    cases s <;> simp +contextual [Separator.text, Path.isSlash]
  unfold Path.join gapAfter
  simp only [hempty, h, Bool.false_eq_true, if_false]
  cases hlast : base.getLast? with
  | none => rw [List.getLast?_eq_none_iff.1 hlast, List.append_nil, List.nil_append]
  | some c =>
    -- A separator is a slash, so the base is asked the same question twice.
    have hsame : (Path.isSlash c || [c] == s.text) = Path.isSlash c := by
      rw [Bool.or_eq_left_iff_imp]
      exact hslashes c
    simp only [hsame]
    split
    next => rw [List.append_nil]
    next => rfl

lemma nil_join (b : Text) : Path.join [] b s.text = b := by
  by_cases hne : b = []
  · rw [hne, join_nil]
  · cases h : Path.isAbsolute b with
    | true => exact join_of_absolute s [] h
    | false => exact join_of_relative s [] hne h

/-- If there is only one character in front, a separator follows it and no colon. -/
lemma isAbsolute_join_of_relative (ha : Path.isAbsolute a = false)
    (hb : Path.isAbsolute b = false) : Path.isAbsolute (Path.join a b s.text) = false := by
  by_cases hne : b = []
  · rw [hne, join_nil, ha]
  · match a, ha with
    | [], _ => rw [nil_join, hb]
    | [x], ha =>
      have hx : Path.isSlash x = false := by simpa [Path.isAbsolute] using ha
      have hgap : gapAfter [x] s = s.text := by simp [gapAfter, hx]
      rw [join_of_relative s [x] hne hb, hgap]
      cases s <;> simp [Path.isAbsolute, Separator.text, hx]
    | x :: y :: rest, ha =>
      rw [join_of_relative s _ hne hb]
      exact ha

lemma isAbsolute_join_iff : Path.isAbsolute (Path.join a b s.text) = true ↔
    Path.isAbsolute a = true ∨ Path.isAbsolute b = true := by
  cases hb : Path.isAbsolute b with
  | true => simp [join_of_absolute s a hb, hb]
  | false =>
    cases ha : Path.isAbsolute a with
    | false => simp [isAbsolute_join_of_relative s ha hb]
    | true =>
      by_cases hne : b = []
      · simp [hne, join_nil, ha]
      · rw [join_of_relative s a hne hb, List.append_assoc, isAbsolute_append ha]
        simp

end Join

/-! ### The laws -/

/-- The last part decides: an absolute one hides what is in front of it, and behind a relative one
that is not empty a base looks as that part does alone. -/
lemma join_assoc (s : Separator) (a b c : Text) :
    Path.join a (Path.join b c s.text) s.text = Path.join (Path.join a b s.text) c s.text := by
  by_cases hc : c = []
  · rw [hc, join_nil, join_nil]
  cases hcAbsolute : Path.isAbsolute c with
  | true =>
    rw [join_of_absolute s b hcAbsolute, join_of_absolute s a hcAbsolute,
      join_of_absolute s _ hcAbsolute]
  | false =>
    by_cases hb : b = []
    · rw [hb, nil_join, join_nil]
    cases hbAbsolute : Path.isAbsolute b with
    | true =>
      have hjoin := (isAbsolute_join_iff s (b := c)).2 (Or.inl hbAbsolute)
      rw [join_of_absolute s a hjoin, join_of_absolute s a hbAbsolute]
    | false =>
      have hjoin := isAbsolute_join_of_relative s hbAbsolute hcAbsolute
      have hne : Path.join b c s.text ≠ [] := by
        rw [join_of_relative s b hc hcAbsolute]
        simp [hb]
      calc Path.join a (Path.join b c s.text) s.text
          = a ++ gapAfter a s ++ (b ++ gapAfter b s ++ c) := by
            rw [join_of_relative s a hne hjoin, join_of_relative s b hc hcAbsolute]
        _ = a ++ gapAfter a s ++ b ++ gapAfter (a ++ gapAfter a s ++ b) s ++ c := by
            rw [gapAfter_append hb]
            simp only [List.append_assoc]
        _ = Path.join (Path.join a b s.text) c s.text := by
            rw [join_of_relative s a hb hbAbsolute, join_of_relative s _ hc hcAbsolute]

lemma isPrefix_join (s : Separator) (a : Text) {b : Text} (hb : Path.isAbsolute b = false) :
    a <+: Path.join a b s.text := by
  by_cases hne : b = []
  · subst hne
    exact List.prefix_rfl
  · rw [join_of_relative s a hne hb, List.append_assoc]
    exact List.prefix_append _ _

lemma isSuffix_join (s : Separator) (a : Text) {b : Text} (hb : Path.isAbsolute b = false) :
    b <:+ Path.join a b s.text := by
  by_cases hne : b = []
  · rw [hne]
    exact List.nil_suffix
  · rw [join_of_relative s a hne hb]
    exact List.suffix_append _ _

/-- With either separator, joining is associative, the empty path is neutral on both sides, and a
joined path is absolute just if one of its parts is. A relative path only adds to its base: the
joined path starts with the one and ends with the other. -/
theorem paths_form_monoid (s : Separator) :
    (∀ a b c, Path.join a (Path.join b c s.text) s.text =
      Path.join (Path.join a b s.text) c s.text) ∧
    (∀ a, Path.join [] a s.text = a ∧ Path.join a [] s.text = a) ∧
    (∀ a b, Path.isAbsolute (Path.join a b s.text) = true ↔
      Path.isAbsolute a = true ∨ Path.isAbsolute b = true) ∧
    ∀ a b, Path.isAbsolute b = false →
      a <+: Path.join a b s.text ∧ b <:+ Path.join a b s.text :=
  ⟨join_assoc s, fun a => ⟨nil_join s a, join_nil s a⟩, fun _ _ => isAbsolute_join_iff s,
    fun a _ hb => ⟨isPrefix_join s a hb, isSuffix_join s a hb⟩⟩

/-- A letter and a part with a colon in front are kept apart by the separator. -/
theorem paths_form_monoid_driveLetter :
    let path := Path.join ['C'] ":x".toList Separator.backslash.text
    Path.isAbsolute ":x".toList = false ∧ path = "C\\:x".toList ∧ ['C'] <+: path ∧
      ":x".toList <:+ path := by
  have hrelative : Path.isAbsolute ":x".toList = false := rfl
  obtain ⟨-, -, -, hparts⟩ := paths_form_monoid .backslash
  exact ⟨hrelative, rfl, hparts ['C'] ":x".toList hrelative⟩

-- With a colon as separator, two relative parts would make a path on a drive.
example : Path.isAbsolute (Path.join ['C'] ['x'] [':']) = true := by rfl

end TraceSnapshot.Proofs
