import BidFleet.Json.Reader
import BidFleet.Proofs.Text.Octets
import Mathlib.Data.String.Basic

/-!
Members of objects. `Value.ofMembers` keeps one member a key, the last one of the text
(`get?_ofMembers`), and orders them by key (`pairwise_sorted`), so that members which are
in order already stay as they are (`sorted_of_pairwise`). A body is an object exactly when
its members are read between braces and nothing stands behind them (`ObjectText.parse`,
`objectText_of_parse`).
-/

namespace BidFleet.Json

/-- The members that an object keeps of those in its text. -/
def sorted (members : List (String × Value)) : List (String × Value) :=
  members.foldl (fun sorted m => Value.insert m.1 m.2 sorted) []

/-! ## Look-ups -/

theorem lookup_cons_eq (k j : String) (v : Value) (ms : List (String × Value)) :
    ((j, v) :: ms).lookup k = if k = j then some v else ms.lookup k := by
  rw [List.lookup_cons]
  by_cases h : k = j
  · rw [if_pos h, beq_iff_eq.mpr h]
  · rw [if_neg h, beq_eq_false_iff_ne.mpr h]

theorem lookup_insert (key k : String) (value : Value) (ms : List (String × Value)) :
    (Value.insert key value ms).lookup k = if k = key then some value else ms.lookup k := by
  induction ms with
  | nil => exact lookup_cons_eq ..
  | cons m ms ih =>
    obtain ⟨j, v⟩ := m
    rw [Value.insert, lookup_cons_eq]
    split
    · next h =>
      subst h
      rw [lookup_cons_eq]
      split <;> rfl
    · next h =>
      split
      · rw [lookup_cons_eq, lookup_cons_eq]
      · rw [lookup_cons_eq, ih]
        by_cases hk : k = key
        · subst hk
          rw [if_neg h, if_pos rfl, if_pos rfl]
        · rw [if_neg hk, if_neg hk]

theorem lookup_foldl_insert (k : String) (ms acc : List (String × Value)) :
    (ms.foldl (fun sorted m => Value.insert m.1 m.2 sorted) acc).lookup k =
      (ms.reverse.lookup k).or (acc.lookup k) := by
  induction ms generalizing acc with
  | nil => rfl
  | cons m ms ih =>
    rw [List.foldl_cons, ih, lookup_insert, List.reverse_cons, List.lookup_append, lookup_cons_eq,
      Option.or_assoc]
    split <;> rfl

/-- **The last one wins.** Of members with one key an object keeps the last. -/
theorem get?_ofMembers (ms : List (String × Value)) (k : String) :
    (Value.ofMembers ms).get? k = ms.reverse.lookup k := by
  rw [Value.ofMembers, Value.get?, lookup_foldl_insert, List.lookup_nil, Option.or_none]

/-! ## The order of keys -/

theorem mem_insert {key : String} {value : Value} {m : String × Value}
    {ms : List (String × Value)} (h : m ∈ Value.insert key value ms) :
    m = (key, value) ∨ m ∈ ms := by
  induction ms with
  | nil => exact .inl (List.mem_singleton.mp h)
  | cons n ms ih =>
    rw [Value.insert] at h
    split at h
    · rcases List.mem_cons.mp h with h | h
      · exact .inl h
      · exact .inr (List.mem_cons_of_mem _ h)
    · split at h
      · exact List.mem_cons.mp h
      · rcases List.mem_cons.mp h with rfl | h
        · exact .inr List.mem_cons_self
        · exact (ih h).imp_right (List.mem_cons_of_mem _)

theorem pairwise_insert {key : String} {value : Value} {ms : List (String × Value)}
    (h : ms.Pairwise (fun m n => m.1 < n.1)) :
    (Value.insert key value ms).Pairwise (fun m n => m.1 < n.1) := by
  induction ms with
  | nil => exact List.pairwise_singleton ..
  | cons n ms ih =>
    obtain ⟨hn, hms⟩ := List.pairwise_cons.mp h
    rw [Value.insert]
    split
    · next heq => exact List.pairwise_cons.mpr ⟨fun m hm => heq ▸ hn m hm, hms⟩
    · next hne =>
      split
      · next hlt =>
        refine List.pairwise_cons.mpr ⟨fun m hm => ?_, h⟩
        rcases List.mem_cons.mp hm with rfl | hm
        · exact hlt
        · exact hlt.trans (hn m hm)
      · next hnot =>
        have hgt : n.1 < key := lt_of_le_of_ne (not_lt.mp hnot) (Ne.symm hne)
        refine List.pairwise_cons.mpr ⟨fun m hm => ?_, ih hms⟩
        rcases mem_insert hm with rfl | hm
        · exact hgt
        · exact hn m hm

theorem pairwise_foldl_insert (ms : List (String × Value)) {acc : List (String × Value)}
    (h : acc.Pairwise (fun m n => m.1 < n.1)) :
    (ms.foldl (fun sorted m => Value.insert m.1 m.2 sorted) acc).Pairwise
      (fun m n => m.1 < n.1) := by
  induction ms generalizing acc with
  | nil => exact h
  | cons m ms ih => exact ih (pairwise_insert h)

theorem pairwise_sorted (ms : List (String × Value)) :
    (sorted ms).Pairwise (fun m n => m.1 < n.1) :=
  pairwise_foldl_insert ms .nil

theorem mem_foldl_insert {m : String × Value} {ms acc : List (String × Value)}
    (h : m ∈ ms.foldl (fun sorted m => Value.insert m.1 m.2 sorted) acc) : m ∈ ms ∨ m ∈ acc := by
  induction ms generalizing acc with
  | nil => exact .inr h
  | cons n ms ih =>
    rcases ih h with h | h
    · exact .inl (List.mem_cons_of_mem _ h)
    · rcases mem_insert h with rfl | h
      · exact .inl List.mem_cons_self
      · exact .inr h

theorem mem_sorted {m : String × Value} {ms : List (String × Value)} (h : m ∈ sorted ms) :
    m ∈ ms :=
  (mem_foldl_insert h).resolve_right List.not_mem_nil

/-- A member behind all others in the order. -/
theorem insert_last {key : String} {value : Value} {ms : List (String × Value)}
    (h : ∀ m ∈ ms, m.1 < key) : Value.insert key value ms = ms ++ [(key, value)] := by
  induction ms with
  | nil => rfl
  | cons m ms ih =>
    obtain ⟨hm, hms⟩ := List.forall_mem_cons.mp h
    rw [Value.insert, if_neg hm.ne', if_neg hm.not_gt, ih hms]
    rfl

theorem foldl_insert_last {ms acc : List (String × Value)}
    (h : (acc ++ ms).Pairwise (fun m n => m.1 < n.1)) :
    ms.foldl (fun sorted m => Value.insert m.1 m.2 sorted) acc = acc ++ ms := by
  induction ms generalizing acc with
  | nil => exact (List.append_nil acc).symm
  | cons m ms ih =>
    have hlast : ∀ n ∈ acc, n.1 < m.1 :=
      fun n hn => (List.pairwise_append.mp h).2.2 n hn m List.mem_cons_self
    rw [List.append_cons] at h ⊢
    rw [List.foldl_cons, insert_last hlast]
    exact ih h

/-- Members that are in order stay as they are. -/
theorem sorted_of_pairwise {ms : List (String × Value)}
    (h : ms.Pairwise (fun m n => m.1 < n.1)) : sorted ms = ms :=
  foldl_insert_last h

/-! ## Bodies -/

/-- The body is an object with these members, in the order of the text. -/
def ObjectText (body : Bytes) (ms : List (String × Value)) : Prop :=
  ∃ bytes rest, skipBlanks body = 123 :: bytes ∧
    members (readValue (depthLimit - 1)) (bytes.length + 1) true bytes = .ok (ms, rest) ∧
    readEnd rest = .ok ()

/-- An object whose members are read is read with its braces. -/
theorem readValue_braces {depth : Nat} {body bytes rest : Bytes} {ms : List (String × Value)}
    (hbrace : skipBlanks body = 123 :: bytes)
    (h : members (readValue depth) (bytes.length + 1) true bytes = .ok (ms, rest)) :
    readValue (depth + 1) body = .ok (.ofMembers ms, rest) := by
  have hchar : Char.ofNat (123 : UInt8).toNat = '{' := by decide
  simp only [readValue, readValueWith, hbrace, hchar, h, Except.map]

theorem ObjectText.parse {body : Bytes} {ms : List (String × Value)} (h : ObjectText body ms) :
    parse body = .ok (.ofMembers ms) := by
  obtain ⟨bytes, rest, hbrace, hmembers, hend⟩ := h
  have hread : readValue depthLimit body = .ok (.ofMembers ms, rest) :=
    readValue_braces hbrace hmembers
  rw [Json.parse, hread]
  show (do readEnd rest; pure _) = _
  rw [hend]
  rfl

theorem of_map_ok {α β : Type} {x : Except Fault α} {f : α → β} {b : β} (h : x.map f = .ok b) :
    ∃ a, x = .ok a ∧ f a = b := by
  cases x with
  | error fault => cases h
  | ok a => exact ⟨a, rfl, Except.ok.inj h⟩

/-- What has members was read from an object. -/
theorem readValue_object {depth : Nat} {bytes rest : Bytes} {v a : Value} {key : String}
    (h : readValue (depth + 1) bytes = .ok (v, rest)) (hget : v.get? key = some a) :
    ∃ bs ms, skipBlanks bytes = 123 :: bs ∧
      members (readValue depth) (bs.length + 1) true bs = .ok (ms, rest) ∧ v = .ofMembers ms := by
  rw [readValue, readValueWith] at h
  split at h
  · cases h
  · next b bs hbytes =>
    split at h
    case h_6 hchar =>
      have hb : b = 123 := by
        rw [← UInt8.toNat_inj, ← Utf8.toNat_ofNat_octet b, hchar]
        rfl
      obtain ⟨⟨ms, rest'⟩, hmembers, hv⟩ := of_map_ok h
      cases hv
      exact ⟨bs, ms, hb ▸ hbytes, hmembers, rfl⟩
    case h_7 =>
      split at h
      · obtain ⟨_, -, hv⟩ := of_map_ok h
        cases hv
        cases hget
      · cases h
    all_goals
      obtain ⟨_, -, hv⟩ := of_map_ok h
      cases hv
      cases hget

theorem objectText_of_parse {body : Bytes} {v a : Value} {key : String} (h : parse body = .ok v)
    (hget : v.get? key = some a) : ∃ ms, ObjectText body ms ∧ v = .ofMembers ms := by
  cases hread : readValue depthLimit body with
  | error fault =>
    rw [parse, hread] at h
    cases h
  | ok result =>
    obtain ⟨w, rest⟩ := result
    rw [parse, hread] at h
    cases hend : readEnd rest with
    | error fault =>
      simp only [bind, Except.bind, hend] at h
      cases h
    | ok =>
      simp only [bind, Except.bind, hend, pure, Except.pure, Except.ok.injEq] at h
      subst h
      obtain ⟨bs, ms, hbrace, hmembers, rfl⟩ := readValue_object hread hget
      exact ⟨ms, ⟨bs, rest, hbrace, hmembers, hend⟩, rfl⟩

end BidFleet.Json
