import BidFleet.Pool.Members

/-!
The score of a member, call by call. `MemoryStore.score?` is the view of the
store in memory through which the other calls are described: `score?_upsert`,
`score?_removeRange` and `score?_remove` say what every call makes of the score
of any member of any set, and `score?_store` says that a call which spares a
member leaves its score alone.
-/

namespace BidFleet.Pool

/-! ## One set -/

namespace Members

theorem lookup_of_not_mem {entries : List Member} {name : String}
    (h : name ∉ entries.map Prod.fst) : entries.lookup name = none := by
  rw [List.lookup_eq_none_iff]
  intro p hp
  have hne : name ≠ p.1 := fun he => h (he ▸ List.mem_map.mpr ⟨p, hp, rfl⟩)
  simpa using hne

/-- With distinct names, a look-up behind a filter is a filtered look-up. -/
theorem lookup_filter (entries : List Member) (h : (entries.map Prod.fst).Nodup)
    (keep : Member → Bool) (name : String) :
    (entries.filter keep).lookup name =
      (entries.lookup name).filter (fun score => keep (name, score)) := by
  induction entries with
  | nil => rfl
  | cons e rest ih =>
    obtain ⟨other, score⟩ := e
    simp only [List.map_cons, List.nodup_cons] at h
    have ih := ih h.2
    by_cases hn : name = other
    · subst hn
      rw [lookup_of_not_mem h.1] at ih
      cases hk : keep (name, score) with
      | true => simp [hk, Option.filter]
      | false => simp [hk, ih, Option.filter]
    · have hb : (name == other) = false := by simpa using hn
      cases hk : keep (other, score) with
      | true => simp [hk, List.lookup_cons, hb, ih]
      | false => simp [hk, List.lookup_cons, hb, ih]

theorem score?_filter (m : Members) (keep : Member → Bool) (name : String) :
    (m.filter keep).score? name = (m.score? name).filter (fun score => keep (name, score)) :=
  lookup_filter m.entries m.distinct keep name

theorem score?_erase (m : Members) (name other : String) :
    (m.erase other).score? name = if name = other then none else m.score? name := by
  rw [erase, score?_filter]
  by_cases h : name = other
  · cases m.score? name <;> simp [h, Option.filter]
  · cases m.score? name <;> simp [h, Option.filter]

theorem score?_upsert (m : Members) (name other : String) (score : Int64) :
    (m.upsert other score).score? name = if name = other then some score else m.score? name := by
  by_cases h : name = other
  · simp [upsert, score?, h]
  · have hb : (name == other) = false := by simpa using h
    have he := m.score?_erase name other
    simp only [score?, h, if_false] at he
    simp [upsert, score?, List.lookup_cons, hb, he, h]

theorem score?_removeRange (m : Members) (low high : Int64) (name : String) :
    (m.removeRange low high).score? name =
      (m.score? name).filter (fun score => !within low high (name, score)) :=
  m.score?_filter _ name

end Members

/-! ## All sets -/

namespace MemoryStore

theorem lookup_put (set other : String) (m : Members) (sets : List (String × Members)) :
    (put other m sets).lookup set = if set = other then some m else sets.lookup set := by
  induction sets with
  | nil =>
    by_cases h : set = other
    · simp [put, h]
    · simp [put, h]
  | cons p rest ih =>
    obtain ⟨name, n⟩ := p
    by_cases hn : name = other
    · by_cases h : set = other
      · simp [put, hn, h]
      · have hb : (set == other) = false := by simpa using h
        simp [put, hn, h, List.lookup_cons, hb]
    · by_cases h : set = name
      · have : set ≠ other := fun he => hn (h ▸ he)
        simp [put, hn, h]
      · have hb : (set == name) = false := by simpa using h
        simp only [put, hn, if_false, List.lookup_cons, hb, ih]

theorem members_put (s : MemoryStore) (set other : String) (m : Members) :
    (⟨put other m s.sets⟩ : MemoryStore).members set =
      if set = other then m else s.members set := by
  by_cases h : set = other
  · simp [members, lookup_put, h]
  · simp [members, lookup_put, h]

/-- A change that leaves a set empty when it was empty acts on every set alike,
written before or not. -/
theorem members_update (s : MemoryStore) (set other : String) (f : Members → Members)
    (hf : f .empty = .empty) :
    (s.update other f).members set = if set = other then f (s.members set) else s.members set := by
  unfold update
  cases hw : s.written other with
  | true =>
    rw [if_pos rfl, members_put]
    by_cases h : set = other
    · simp [h]
    · simp [h]
  | false =>
    have hnone : s.sets.lookup other = none := by simpa [written] using hw
    by_cases h : set = other
    · simp [h, members, hnone, hf]
    · simp [h]

/-- The score of a member of a set. -/
def score? (s : MemoryStore) (set member : String) : Option Int64 :=
  (s.members set).score? member

variable (s : MemoryStore) (set member : String)

theorem score?_upsert (other name : String) (score : Int64) :
    (store (.upsert other name score) s).2.score? set member =
      if set = other ∧ member = name then some score else s.score? set member := by
  simp only [store, score?, members_put]
  by_cases h : set = other
  · subst h
    simp [Members.score?_upsert]
  · simp [h]

theorem score?_remove (other name : String) :
    (store (.remove other name) s).2.score? set member =
      if set = other ∧ member = name then none else s.score? set member := by
  simp only [store, score?, members_update s set other (·.erase name) rfl]
  by_cases h : set = other
  · subst h
    simp [Members.score?_erase]
  · simp [h]

theorem score?_removeRange (other : String) (low high : Int64) :
    (store (.removeRange other low high) s).2.score? set member =
      if set = other then
        (s.score? set member).filter (fun score => !Members.within low high (member, score))
      else s.score? set member := by
  simp only [store, score?, members_update s set other (·.removeRange low high) rfl]
  by_cases h : set = other
  · subst h
    simp [Members.score?_removeRange]
  · simp [h]

end MemoryStore

namespace Call

/-- Whether a call cannot change what a store holds about a member of a set,
whatever its score. -/
def spares (set member : String) : Call → Prop
  | upsert other name _ | remove other name => ¬(set = other ∧ member = name)
  | removeRange other _ _ => set ≠ other
  | range .. => True

instance (set member : String) : (c : Call) → Decidable (c.spares set member)
  | upsert .. | remove .. => inferInstanceAs (Decidable (¬(_ ∧ _)))
  | removeRange .. => inferInstanceAs (Decidable (_ ≠ _))
  | range .. => .isTrue trivial

end Call

theorem MemoryStore.score?_store (s : MemoryStore) {set member : String} {c : Call}
    (h : c.spares set member) :
    (MemoryStore.store c s).2.score? set member = s.score? set member := by
  cases c with
  | upsert other name score => rw [score?_upsert, if_neg h]
  | range other low high => rfl
  | removeRange other low high => rw [score?_removeRange, if_neg h]
  | remove other name => rw [score?_remove, if_neg h]

/-- The score that a call gives a member of a set. -/
def Call.scored? (set member : String) : Call → Option Int64
  | upsert other name score => if set = other ∧ member = name then some score else none
  | _ => none

/-- A call that gives a member no score leaves its record as it is or takes it away. -/
theorem MemoryStore.score?_after (s : MemoryStore) (set member : String) (c : Call) :
    (MemoryStore.store c s).2.score? set member = c.scored? set member ∨
      c.scored? set member = none ∧
        (MemoryStore.store c s).2.score? set member = s.score? set member := by
  cases c with
  | upsert other name score =>
    rw [score?_upsert]
    simp only [Call.scored?]
    split
    · exact .inl rfl
    · exact .inr ⟨rfl, rfl⟩
  | range other low high => exact .inr ⟨rfl, rfl⟩
  | removeRange other low high =>
    rw [score?_removeRange]
    split
    · cases s.score? set member with
      | none => exact .inl rfl
      | some score =>
        simp only [Option.filter]
        split
        · exact .inr ⟨rfl, rfl⟩
        · exact .inl rfl
    · exact .inr ⟨rfl, rfl⟩
  | remove other name =>
    rw [score?_remove]
    split
    · exact .inl rfl
    · exact .inr ⟨rfl, rfl⟩

/-- The store behind calls that are made one after the other. -/
def MemoryStore.after (s : MemoryStore) (calls : List Call) : MemoryStore :=
  calls.foldl (fun s c => (store c s).2) s

end BidFleet.Pool
