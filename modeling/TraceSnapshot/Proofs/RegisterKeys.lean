import Mathlib.Data.List.Basic
import Mathlib.Tactic.Lemma
import TraceSnapshot.Proofs.TextParts
import TraceSnapshot.Register

/-!
# Register keys

The list in the brackets of a register key is read token by token, and a later token may replace
what an earlier one gave. What comes out depends on three rows of tokens only: those labelled as an
id, those labelled as a size, and those without a label.
-/

namespace TraceSnapshot.Proofs

/-! ### Tokens -/

/-- The value that a token gives to a label. The two stand around the first colon of the token. -/
def valueFor? (label token : Text) : Option Text :=
  (Text.cut ':' token).bind fun (before, after) =>
    if Text.trim before = label then some (Text.trim after) else none

/-- A token without a label. -/
def isBare (token : Text) : Bool := !token.contains ':'

/-- The last value that the tokens give to a label. -/
def lastValueFor? (label : Text) (tokens : List Text) : Option Text :=
  (tokens.filterMap (valueFor? label)).getLast?

/-- The key that a name and a row of tokens make. A labelled id goes before one without a label;
of labelled ones the last counts and of the others the first. -/
def keyOf (name : Text) (tokens : List Text) : RegisterKey where
  name
  id := (lastValueFor? "id".toList tokens).or (tokens.find? isBare)
  size := lastValueFor? "size".toList tokens

variable {label token : Text}

lemma isBare_iff : isBare token = true ↔ ':' ∉ token := by
  simp [isBare]

/-- Of a key, a token replaces what it gives a value to. Without a label, it only fills a gap. -/
lemma withToken_eq (k : RegisterKey) (token : Text) : k.withToken token =
    { name := k.name
      id := (valueFor? "id".toList token).or (k.id.or (Option.guard isBare token))
      size := (valueFor? "size".toList token).or k.size } := by
  unfold RegisterKey.withToken valueFor?
  cases hcut : Text.cut ':' token with
  | none =>
    have hbare : isBare token = true := isBare_iff.2 (cut_eq_none_iff.1 hcut)
    simp [Option.guard, hbare]
  | some parts =>
    obtain ⟨before, after⟩ := parts
    have hlabel : isBare token = false := by
      rw [← Bool.not_eq_true, isBare_iff, ← cut_eq_none_iff, hcut]
      simp
    have hguard : Option.guard isBare token = none := by simp [Option.guard, hlabel]
    have hdistinct : "id".toList ≠ "size".toList := by decide
    rw [hguard, Option.or_none, Option.bind_some, Option.bind_some]
    dsimp only
    by_cases hid : Text.trim before = "id".toList
    · rw [if_pos hid, if_pos hid, if_neg (hid ▸ hdistinct), Option.some_or, Option.none_or]
    · rw [if_neg hid, if_neg hid, Option.none_or]
      by_cases hsize : Text.trim before = "size".toList
      · rw [if_pos hsize, if_pos hsize, Option.some_or]
      · rw [if_neg hsize, if_neg hsize, Option.none_or]

lemma lastValueFor?_cons (label token : Text) (tokens : List Text) :
    lastValueFor? label (token :: tokens) =
      (lastValueFor? label tokens).or (valueFor? label token) := by
  unfold lastValueFor?
  cases h : valueFor? label token with
  | none => rw [List.filterMap_cons_none h, Option.or_none]
  | some value =>
    rw [List.filterMap_cons_some h, List.getLast?_cons]
    cases (tokens.filterMap (valueFor? label)).getLast? <;> rfl

lemma find?_isBare_cons (token : Text) (tokens : List Text) :
    (token :: tokens).find? isBare = (Option.guard isBare token).or (tokens.find? isBare) := by
  cases h : isBare token with
  | false => simp [Option.guard, h]
  | true => simp [Option.guard, h]

/-- Reading on from a key: what the row gives replaces what the key has, but for its first token
without a label, which counts only if there is no id otherwise. -/
theorem foldl_withToken (tokens : List Text) (k : RegisterKey) :
    tokens.foldl RegisterKey.withToken k =
      { name := k.name
        id := (lastValueFor? "id".toList tokens).or (k.id.or (tokens.find? isBare))
        size := (lastValueFor? "size".toList tokens).or k.size } := by
  induction tokens generalizing k with
  | nil => simp [lastValueFor?]
  | cons token rest ih =>
    rw [List.foldl_cons, ih, withToken_eq]
    simp only [lastValueFor?_cons, find?_isBare_cons, Option.or_assoc]

lemma foldl_withToken_name (name : Text) (tokens : List Text) :
    tokens.foldl RegisterKey.withToken ⟨name, none, none⟩ = keyOf name tokens := by
  rw [foldl_withToken]
  simp only [Option.none_or, Option.or_none]
  rfl

/-! ### Keys -/

/-- The name and the tokens of a key with a list, which stands between its first opening and its
last closing bracket. -/
def Bracketed (raw name : Text) (tokens : List Text) : Prop :=
  ∃ before list after, raw = before ++ '(' :: (list ++ ')' :: after) ∧ '(' ∉ before ∧ ')' ∉ after ∧
    name = Text.trim before ∧ tokens = CommaList.items list

/-- What a key says. Without a closing bracket behind its first opening one it is a name and
nothing else. -/
inductive SaysKey (raw : Text) : RegisterKey → Prop
  | name (hlist : ∀ before rest, raw = before ++ '(' :: rest → '(' ∉ before → ')' ∉ rest) :
      SaysKey raw ⟨Text.trim raw, none, none⟩
  | list {name tokens} (hlist : Bracketed raw name tokens) : SaysKey raw (keyOf name tokens)

/-- Two rows have the same tokens for ids, for sizes and without a label, each in the same order.
How these are mixed is open, and so is which other tokens there are. -/
structure SameRows (tokens tokens' : List Text) : Prop where
  ids : tokens.filter (fun token => (valueFor? "id".toList token).isSome) =
    tokens'.filter fun token => (valueFor? "id".toList token).isSome
  sizes : tokens.filter (fun token => (valueFor? "size".toList token).isSome) =
    tokens'.filter fun token => (valueFor? "size".toList token).isSome
  bare : tokens.filter isBare = tokens'.filter isBare

lemma saysKey_parse (raw : Text) : SaysKey raw (RegisterKey.parse raw) := by
  unfold RegisterKey.parse
  split
  next hopen =>
    apply SaysKey.name
    rintro before rest rfl
    exact absurd List.mem_append_cons_self (cut_eq_none_iff.1 hopen)
  next before rest hopen =>
    split
    next hclose =>
      apply SaysKey.name
      intro before' rest' hraw hbefore'
      rw [cut_eq_some_iff.2 ⟨hraw, hbefore'⟩] at hopen
      cases hopen
      exact cutLast_eq_none_iff.1 hclose
    next list after hclose =>
      obtain ⟨rfl, hbefore⟩ := cut_eq_some_iff.1 hopen
      obtain ⟨rfl, hafter⟩ := cutLast_eq_some_iff.1 hclose
      rw [foldl_withToken_name]
      exact .list ⟨before, list, after, rfl, hbefore, hafter, rfl, rfl⟩

lemma parse_of_bracketed {raw name : Text} {tokens : List Text} (h : Bracketed raw name tokens) :
    RegisterKey.parse raw = keyOf name tokens := by
  obtain ⟨before, list, after, hraw, hbefore, hafter, rfl, rfl⟩ := h
  unfold RegisterKey.parse
  rw [cut_eq_some_iff.2 ⟨hraw, hbefore⟩]
  dsimp only
  rw [cutLast_eq_some_iff.2 ⟨rfl, hafter⟩]
  exact foldl_withToken_name _ _

lemma SaysKey.eq_parse {raw : Text} {key : RegisterKey} (h : SaysKey raw key) :
    RegisterKey.parse raw = key := by
  cases h with
  | name hlist =>
    unfold RegisterKey.parse
    cases hopen : Text.cut '(' raw with
    | none => rfl
    | some parts =>
      obtain ⟨before, rest⟩ := parts
      obtain ⟨hraw, hbefore⟩ := cut_eq_some_iff.1 hopen
      dsimp only
      rw [cutLast_eq_none_iff.2 (hlist before rest hraw hbefore)]
  | list hlist => exact parse_of_bracketed hlist

lemma lastValueFor?_filter (label : Text) (tokens : List Text) :
    lastValueFor? label (tokens.filter fun token => (valueFor? label token).isSome) =
      lastValueFor? label tokens := by
  unfold lastValueFor?
  rw [List.filterMap_filter]
  congr 2
  funext token
  cases valueFor? label token <;> rfl

lemma SameRows.keyOf_eq {tokens tokens' : List Text} (h : SameRows tokens tokens') (name : Text) :
    keyOf name tokens = keyOf name tokens' := by
  have hid := congrArg (lastValueFor? "id".toList) h.ids
  have hsize := congrArg (lastValueFor? "size".toList) h.sizes
  have hbare := congrArg List.head? h.bare
  rw [lastValueFor?_filter, lastValueFor?_filter] at hid hsize
  rw [List.head?_filter, List.head?_filter] at hbare
  unfold keyOf
  rw [hid, hsize, hbare]

/-- A register key is read by rule. Tokens change places without any effect as long as those for
ids, those for sizes and those without a label each keep their order. -/
theorem register_key_follows_rule :
    (∀ raw key, RegisterKey.parse raw = key ↔ SaysKey raw key) ∧
    ∀ raw raw' name tokens tokens', Bracketed raw name tokens → Bracketed raw' name tokens' →
      SameRows tokens tokens' → RegisterKey.parse raw = RegisterKey.parse raw' := by
  refine ⟨fun raw key => ⟨fun h => h ▸ saysKey_parse raw, SaysKey.eq_parse⟩, ?_⟩
  intro raw raw' name tokens tokens' h h' hsame
  rw [parse_of_bracketed h, parse_of_bracketed h', hsame.keyOf_eq name]

/-- A key with two ids, the second of them empty, and an id without a label between them. -/
def emptiedIdKey : Text := "R(id:1,a,size:2,x:9,id:)".toList

/-- The same key with its tokens in another order and with other brackets in a token that does not
count. -/
def shuffledIdKey : Text := " R (size:2,(y:)8, a ,id:1,id:) ;".toList

theorem register_key_follows_rule_shuffled :
    Bracketed emptiedIdKey ['R']
        ["id:1".toList, ['a'], "size:2".toList, "x:9".toList, "id:".toList] ∧
      Bracketed shuffledIdKey ['R']
        ["size:2".toList, "(y:)8".toList, ['a'], "id:1".toList, "id:".toList] ∧
      SameRows ["id:1".toList, ['a'], "size:2".toList, "x:9".toList, "id:".toList]
        ["size:2".toList, "(y:)8".toList, ['a'], "id:1".toList, "id:".toList] ∧
      RegisterKey.parse emptiedIdKey = ⟨['R'], some [], some ['2']⟩ ∧
      RegisterKey.parse emptiedIdKey = RegisterKey.parse shuffledIdKey := by
  have hlist : Bracketed emptiedIdKey ['R']
      ["id:1".toList, ['a'], "size:2".toList, "x:9".toList, "id:".toList] :=
    ⟨['R'], "id:1,a,size:2,x:9,id:".toList, [], rfl, by decide, by decide, rfl, rfl⟩
  have hshuffled : Bracketed shuffledIdKey ['R']
      ["size:2".toList, "(y:)8".toList, ['a'], "id:1".toList, "id:".toList] :=
    ⟨" R ".toList, "size:2,(y:)8, a ,id:1,id:".toList, " ;".toList, rfl, by decide, by decide, rfl,
      rfl⟩
  have hsame : SameRows ["id:1".toList, ['a'], "size:2".toList, "x:9".toList, "id:".toList]
      ["size:2".toList, "(y:)8".toList, ['a'], "id:1".toList, "id:".toList] := ⟨rfl, rfl, rfl⟩
  obtain ⟨hrule, hreordered⟩ := register_key_follows_rule
  exact ⟨hlist, hshuffled, hsame, (hrule _ _).2 (.list hlist),
    hreordered _ _ _ _ _ hlist hshuffled hsame⟩

-- The list goes to the last closing bracket.
example : RegisterKey.parse "R(id:1)(x)".toList = ⟨['R'], some "1)(x".toList, none⟩ := by rfl

end TraceSnapshot.Proofs
