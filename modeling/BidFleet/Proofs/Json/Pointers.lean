import BidFleet.Json.Pointer
import BidFleet.Proofs.Text.Cuts
import BidFleet.Proofs.Text.Decimals
import Mathlib.Data.List.Forall2

/-!
What pointers point at, and when values are equal. A pointer is a slash before each of its
tokens, and its tokens lead through the members of objects and the items of arrays (`At`).
Values are equal member by member and item by item, numbers of one kind as quantities
(`Equal`). The look-up and the test of equality decide these relations
(`pointer?_eq_some_iff`, `same_iff`).
-/

namespace BidFleet.Json

/-! ## Places -/

/-- Whether a token is the place of an item: digits without a zero in front. -/
def Indexes (token : List Char) (n : Nat) : Prop :=
  Text.Denotes token n ∧ n < UInt64.size ∧ (∀ rest, token ≠ '+' :: rest) ∧
    ∀ c rest, token ≠ '0' :: c :: rest

/-- What stands where tokens lead. -/
inductive At : List (List Char) → Value → Value → Prop
  | here (v : Value) : At [] v v
  | member {token : List Char} {tokens : List (List Char)} {members : List (String × Value)}
      {v w : Value} : members.lookup (String.ofList token) = some v → At tokens v w →
      At (token :: tokens) (.object members) w
  | item {token : List Char} {tokens : List (List Char)} {items : List Value} {n : Nat}
      {v w : Value} : Indexes token n → items[n]? = some v → At tokens v w →
      At (token :: tokens) (.array items) w

/-- What a pointer points at. -/
def PointsAt (pointer : String) (v w : Value) : Prop :=
  ∃ raw : List (List Char), (∀ token ∈ raw, '/' ∉ token) ∧
    pointer.toList = raw.flatMap ('/' :: ·) ∧ At (raw.map Pointer.unescape) v w

theorem place?_eq_some_iff {token : List Char} {n : Nat} :
    Pointer.place? token = some n ↔ Indexes token n := by
  unfold Pointer.place?
  split
  case h_1 =>
    refine ⟨fun h => (nomatch h), fun ⟨⟨_, htext, hne, _⟩, _⟩ => ?_⟩
    rcases htext with h | h
    · exact absurd h.symm hne
    · cases h
  case h_2 => exact ⟨fun h => (nomatch h), fun h => absurd rfl (h.2.2.1 _)⟩
  case h_3 => exact ⟨fun h => (nomatch h), fun h => absurd rfl (h.2.2.2 _ _)⟩
  case h_4 hplus hzero =>
    have hsize : n ≤ UInt64.size - 1 ↔ n < UInt64.size := by
      have : UInt64.size = 18446744073709551616 := rfl
      omega
    refine Iff.trans (b := Text.readNatural (UInt64.size - 1) token = .ok n) ?_ ?_
    · cases Text.readNatural (UInt64.size - 1) token <;> simp
    · rw [Text.readNatural_iff, hsize]
      exact ⟨fun ⟨hdenotes, hbound⟩ => ⟨hdenotes, hbound, hplus, hzero⟩, fun h => ⟨h.1, h.2.1⟩⟩

theorem follow?_eq_some_iff {tokens : List (List Char)} {v w : Value} :
    v.follow? tokens = some w ↔ At tokens v w := by
  induction tokens generalizing v with
  | nil =>
    refine ⟨fun h => ?_, fun h => ?_⟩
    · cases h
      exact .here _
    · cases h
      rfl
  | cons token tokens ih =>
    have hfollow : v.follow? (token :: tokens) = some w ↔
        ∃ next, v.step? token = some next ∧ next.follow? tokens = some w := by
      rw [Value.follow?]
      cases v.step? token <;> simp
    rw [hfollow]
    constructor
    · rintro ⟨next, hstep, hrest⟩
      cases v with
      | object members => exact .member hstep (ih.mp hrest)
      | array items =>
        obtain ⟨n, hplace, hitem⟩ := Option.bind_eq_some_iff.mp hstep
        exact .item (place?_eq_some_iff.mp hplace) hitem (ih.mp hrest)
      | null | bool | number | string => cases hstep
    · intro h
      cases h with
      | member hv hw => exact ⟨_, hv, ih.mpr hw⟩
      | item hn hv hw =>
        exact ⟨_, Option.bind_eq_some_iff.mpr ⟨_, place?_eq_some_iff.mpr hn, hv⟩, ih.mpr hw⟩

/-- The pieces between slashes, each with its slash. -/
theorem flatMap_slash {raw : List (List Char)} (h : raw ≠ []) :
    raw.flatMap ('/' :: ·) = '/' :: Text.join '/' raw := by
  induction raw with
  | nil => exact absurd rfl h
  | cons piece pieces ih =>
    cases pieces with
    | nil => simp [Text.join]
    | cons next pieces =>
      rw [List.flatMap_cons, ih (List.cons_ne_nil _ _)]
      rfl

/-- **Pointers.** -/
theorem pointer?_eq_some_iff {pointer : String} {v w : Value} :
    v.pointer? pointer = some w ↔ PointsAt pointer v w := by
  have hlookup : v.pointer? pointer = some w ↔
      ∃ tokens, Pointer.tokens? pointer = some tokens ∧ v.follow? tokens = some w :=
    Option.bind_eq_some_iff
  rw [hlookup]
  constructor
  · rintro ⟨tokens, htokens, hfollow⟩
    have hat := follow?_eq_some_iff.mp hfollow
    unfold Pointer.tokens? at htokens
    split at htokens
    · next hpointer =>
      cases htokens
      exact ⟨[], by simp, hpointer, hat⟩
    · next rest hpointer =>
      cases htokens
      refine ⟨Text.split '/' rest, Text.not_mem_split '/' rest, ?_, hat⟩
      rw [flatMap_slash (Text.split_ne_nil '/' rest), Text.join_split, hpointer]
    · cases htokens
  · rintro ⟨raw, hraw, hpointer, hat⟩
    refine ⟨raw.map Pointer.unescape, ?_, follow?_eq_some_iff.mpr hat⟩
    cases raw with
    | nil => simp [Pointer.tokens?, hpointer]
    | cons piece pieces =>
      rw [flatMap_slash (List.cons_ne_nil _ _)] at hpointer
      simp only [Pointer.tokens?, hpointer, Text.split_join _ (List.cons_ne_nil _ _) hraw]

/-! ## Equality -/

/-- When values are equal: numbers of one kind as quantities, arrays item by item, objects
member by member. -/
inductive Equal : Value → Value → Prop
  | null : Equal .null .null
  | bool (b : Bool) : Equal (.bool b) (.bool b)
  | int (i : Int) : Equal (.number (.int i)) (.number (.int i))
  | float {x y : Float} (h : (x == y) = true) : Equal (.number (.float x)) (.number (.float y))
  | string (s : String) : Equal (.string s) (.string s)
  | array {as bs : List Value} (h : List.Forall₂ Equal as bs) : Equal (.array as) (.array bs)
  | object {ms ns : List (String × Value)} (hkeys : ms.map Prod.fst = ns.map Prod.fst)
      (h : List.Forall₂ Equal (ms.map Prod.snd) (ns.map Prod.snd)) :
      Equal (.object ms) (.object ns)

theorem Number.same_iff {a b : Number} :
    a.same b = true ↔ Equal (.number a) (.number b) := by
  refine ⟨fun h => ?_, fun h => ?_⟩
  · cases a with
    | int i =>
      cases b with
      | int j => exact eq_of_beq h ▸ .int i
      | float => cases h
    | float x =>
      cases b with
      | int => cases h
      | float y => exact .float h
  · cases h with
    | int i => exact beq_self_eq_true i
    | float h => exact h

mutual

theorem same_iff (v w : Value) : v.same w = true ↔ Equal v w := by
  cases v with
  | null =>
    refine ⟨fun h => ?_, fun h => by cases h; rfl⟩
    cases w <;> first | exact .null | cases h
  | bool b =>
    refine ⟨fun h => ?_, fun h => by cases h; exact beq_self_eq_true b⟩
    cases w with
    | bool c => exact eq_of_beq h ▸ .bool b
    | null | number | string | array | object => cases h
  | number a =>
    cases w with
    | number b => exact Number.same_iff
    | null | bool | string | array | object => exact ⟨fun h => (nomatch h), fun h => (nomatch h)⟩
  | string s =>
    refine ⟨fun h => ?_, fun h => by cases h; exact beq_self_eq_true s⟩
    cases w with
    | string t => exact eq_of_beq h ▸ .string s
    | null | bool | number | array | object => cases h
  | array as =>
    cases w with
    | array bs =>
      refine (sameItems_iff as bs).trans ⟨.array, fun h => ?_⟩
      cases h with
      | array h => exact h
    | null | bool | number | string | object => exact ⟨fun h => (nomatch h), fun h => (nomatch h)⟩
  | object ms =>
    cases w with
    | object ns =>
      refine (sameMembers_iff ms ns).trans ⟨fun h => .object h.1 h.2, fun h => ?_⟩
      cases h with
      | object hkeys h => exact ⟨hkeys, h⟩
    | null | bool | number | string | array => exact ⟨fun h => (nomatch h), fun h => (nomatch h)⟩

theorem sameItems_iff (as bs : List Value) :
    Value.sameItems as bs = true ↔ List.Forall₂ Equal as bs := by
  cases as with
  | nil => cases bs <;> simp [Value.sameItems]
  | cons a as =>
    cases bs with
    | nil => simp [Value.sameItems]
    | cons b bs =>
      rw [Value.sameItems, Bool.and_eq_true, same_iff a b, sameItems_iff as bs,
        List.forall₂_cons]

theorem sameMembers_iff (ms ns : List (String × Value)) :
    Value.sameMembers ms ns = true ↔ ms.map Prod.fst = ns.map Prod.fst ∧
      List.Forall₂ Equal (ms.map Prod.snd) (ns.map Prod.snd) := by
  match ms, ns with
  | [], [] => simp [Value.sameMembers]
  | [], (_, _) :: _ => simp [Value.sameMembers]
  | (_, _) :: _, [] => simp [Value.sameMembers]
  | (j, a) :: ms, (k, b) :: ns =>
    rw [Value.sameMembers, Bool.and_eq_true, Bool.and_eq_true, same_iff a b,
      sameMembers_iff ms ns, beq_iff_eq]
    simp only [List.map_cons, List.cons.injEq, List.forall₂_cons]
    exact ⟨fun ⟨⟨hkey, hvalue⟩, hkeys, hvalues⟩ => ⟨⟨hkey, hkeys⟩, hvalue, hvalues⟩,
      fun ⟨⟨hkey, hkeys⟩, hvalue, hvalues⟩ => ⟨⟨hkey, hvalue⟩, hkeys, hvalues⟩⟩

end

end BidFleet.Json
