import Std.Data.ExtHashMap
import BidFleet.Proofs.Pool.Listing
import BidFleet.Proofs.Text.Collation

/-!
The store in memory and its reference. A catalog is what the calls mean when sets are
finite maps from names to scores: such a map has no order of its own and is equal to
any other with the same scores. The store represents the catalog of the calls that it
has taken (`represents_after`), and a range is a function of the scores in a set alone
(`Members.range_perm`), so that the places of members in a set cannot be seen.
-/

namespace BidFleet.Pool

/-! ## Catalogs -/

/-- Names are compared by equality. -/
instance nameEquiv : EquivBEq String := instEquivBEqOfLawfulBEq

/-- Names with scores. -/
abbrev Scores := Std.ExtHashMap String Int64

/-- Scores by set, for the sets that were ever written. -/
structure Catalog where
  sets : Std.ExtHashMap String Scores := ∅

namespace Catalog

def scores (k : Catalog) (set : String) : Scores := k.sets[set]?.getD ∅

/-- Changes the scores in a set that was written, and leaves any other as it is. -/
def modify (k : Catalog) (set : String) (f : Scores → Scores) : Catalog := ⟨k.sets.modify set f⟩

/-- What a call makes of a catalog. -/
def apply (k : Catalog) : Call → Catalog
  | .upsert set member score => ⟨k.sets.insert set ((k.scores set).insert member score)⟩
  | .range .. => k
  | .removeRange set low high =>
    k.modify set (fun m => m.filter (fun _ score => !(low ≤ score && score ≤ high)))
  | .remove set member => k.modify set (fun m => m.erase member)

/-- The catalog of calls that are made one after the other. -/
def ofCalls (calls : List Call) : Catalog := calls.foldl apply {}

variable (k : Catalog) (set other : String)

theorem scores_insert (m : Scores) :
    (⟨k.sets.insert other m⟩ : Catalog).scores set = if set = other then m else k.scores set := by
  by_cases h : set = other
  · simp [scores, h]
  · simp [scores, h, Std.ExtHashMap.getElem?_insert, Ne.symm h]

theorem scores_modify {f : Scores → Scores} (hf : f ∅ = ∅) :
    (k.modify other f).scores set = if set = other then f (k.scores set) else k.scores set := by
  by_cases h : set = other
  · subst h
    cases hk : k.sets[set]? <;> simp [scores, modify, hk, hf]
  · simp [scores, modify, h, Ne.symm h, Std.ExtHashMap.getElem?_modify]

theorem contains_modify (f : Scores → Scores) :
    (k.modify other f).sets.contains set = k.sets.contains set :=
  Std.ExtHashMap.contains_modify

end Catalog

/-! ## Representation -/

/-- Whether a set has the scores of a finite map. -/
def Members.Has (m : Members) (scores : Scores) : Prop :=
  ∀ member, m.score? member = scores[member]?

/-- Whether a store has the sets of a catalog, with its scores. -/
structure Represents (s : MemoryStore) (k : Catalog) : Prop where
  written : ∀ set, s.written set = k.sets.contains set
  scores : ∀ set, (s.members set).Has (k.scores set)

namespace MemoryStore

theorem written_put (s : MemoryStore) (set other : String) (m : Members) :
    (⟨put other m s.sets⟩ : MemoryStore).written set = (set == other || s.written set) := by
  rw [written, lookup_put]
  by_cases h : set = other
  · simp [h]
  · simp [h, written]

theorem written_update (s : MemoryStore) (set other : String) (f : Members → Members) :
    (s.update other f).written set = s.written set := by
  unfold update
  split
  · next hw =>
    rw [written_put]
    by_cases h : set = other
    · simp [h, hw]
    · simp [h]
  · rfl

end MemoryStore

/-- Changes that keep to each other make the same of a store and of its catalog. -/
theorem Represents.update {s : MemoryStore} {k : Catalog} (h : Represents s k) (other : String)
    {f : Members → Members} {g : Scores → Scores} (hf : f .empty = .empty) (hg : g ∅ = ∅)
    (hfg : ∀ m scores, Members.Has m scores → (f m).Has (g scores)) :
    Represents (s.update other f) (k.modify other g) where
  written set := by rw [MemoryStore.written_update, Catalog.contains_modify, h.written]
  scores set := by
    rw [MemoryStore.members_update s set other f hf, Catalog.scores_modify _ _ _ hg]
    by_cases hset : set = other
    · rw [if_pos hset, if_pos hset]
      exact hfg _ _ (h.scores set)
    · rw [if_neg hset, if_neg hset]
      exact h.scores set

theorem Members.Has.removeRange {m : Members} {scores : Scores} (h : m.Has scores)
    (low high : Int64) : (m.removeRange low high).Has
      (scores.filter (fun _ score => !(low ≤ score && score ≤ high))) := by
  intro member
  rw [Members.score?_removeRange, Std.ExtHashMap.getElem?_filter', h member]
  rfl

theorem Members.Has.erase {m : Members} {scores : Scores} (h : m.Has scores) (name : String) :
    (m.erase name).Has (scores.erase name) := by
  intro member
  rw [Members.score?_erase, Std.ExtHashMap.getElem?_erase, h member]
  by_cases hname : member = name
  · simp [hname]
  · simp [hname, Ne.symm hname]

theorem Members.Has.upsert {m : Members} {scores : Scores} (h : m.Has scores) (name : String)
    (score : Int64) : (m.upsert name score).Has (scores.insert name score) := by
  intro member
  rw [Members.score?_upsert, Std.ExtHashMap.getElem?_insert, h member]
  by_cases hname : member = name
  · simp [hname]
  · simp [hname, Ne.symm hname]

/-- **Step lemma.** -/
theorem Represents.store {s : MemoryStore} {k : Catalog} (h : Represents s k) (c : Call) :
    Represents (MemoryStore.store c s).2 (k.apply c) := by
  cases c with
  | upsert other name score =>
    refine ⟨fun set => ?_, fun set => ?_⟩
    · refine (s.written_put set other _).trans ?_
      rw [h.written, Catalog.apply, Std.ExtHashMap.contains_insert, Bool.beq_comm]
    · rw [MemoryStore.members_upsert, Catalog.apply, Catalog.scores_insert]
      by_cases hset : set = other
      · rw [if_pos hset, if_pos hset]
        exact (h.scores other).upsert name score
      · rw [if_neg hset, if_neg hset]
        exact h.scores set
  | range other low high => exact h
  | removeRange other low high =>
    refine h.update other rfl ?_ (fun m scores hm => hm.removeRange low high)
    exact Std.ExtHashMap.ext_getElem? (fun name => by simp [Std.ExtHashMap.getElem?_filter'])
  | remove other name =>
    exact h.update other rfl (by simp) (fun m scores hm => hm.erase name)

/-- **Run lemma.** -/
theorem Represents.after {s : MemoryStore} {k : Catalog} (h : Represents s k) (calls : List Call) :
    Represents (s.after calls) (calls.foldl Catalog.apply k) := by
  induction calls generalizing s k with
  | nil => exact h
  | cons c cs ih => exact ih (h.store c)

theorem represents_after (calls : List Call) :
    Represents (MemoryStore.after {} calls) (.ofCalls calls) := by
  have hempty : Represents {} {} := by
    refine ⟨fun set => ?_, fun set member => ?_⟩
    · simp [MemoryStore.written]
    · simp [Catalog.scores, MemoryStore.members, Members.score?, Members.empty]
  exact hempty.after calls

/-! ## Ranges of scores -/

/-- Whether a name is listed before another one: it has a smaller score, or the same
score and the smaller octets. -/
def Scores.Before (scores : Scores) (a b : String) : Prop :=
  ∃ x y, scores[a]? = some x ∧ scores[b]? = some y ∧
    (x < y ∨ x = y ∧ Utf8.encode a < Utf8.encode b)

/-- Whether `names` are the names that are scored from `low` to `high`, each once and
strictly ascending. -/
structure Scores.Ranged (scores : Scores) (low high : Int64) (names : List String) : Prop where
  mem : ∀ name, name ∈ names ↔ ∃ score, scores[name]? = some score ∧ low ≤ score ∧ score ≤ high
  once : names.Nodup
  ascending : names.Pairwise scores.Before

namespace Members

theorem Has.ranged {m : Members} {scores : Scores} (h : m.Has scores) (low high : Int64) :
    scores.Ranged low high (m.range low high) := by
  have hlists := m.range_lists low high
  refine ⟨fun name => ?_, hlists.once, hlists.ordered.imp ?_⟩
  · rw [hlists.mem, h name]
  · rintro a b ⟨x, y, hx, hy, hxy⟩
    rw [h] at hx hy
    exact ⟨x, y, hx, hy, hxy.imp_right (And.imp_right Utf8.encode_lt_iff.mpr)⟩

/-- **A range does not depend on the places of the members.** -/
theorem range_perm {m m' : Members} (h : m.entries.Perm m'.entries) (low high : Int64) :
    m.range low high = m'.range low high := by
  have hscores : m.score? = m'.score? := by
    funext name
    ext score
    rw [← m.mem_entries_iff (name, score), ← m'.mem_entries_iff (name, score)]
    exact h.mem_iff
  exact (hscores ▸ m.range_lists low high).unique (m'.range_lists low high)

/-- Behind the removal of a range nothing is left in it. -/
theorem range_removeRange (m : Members) (low high : Int64) :
    (m.removeRange low high).range low high = [] := by
  refine List.eq_nil_iff_forall_not_mem.mpr fun name hmem => ?_
  obtain ⟨score, hscore, hlow, hhigh⟩ := (((m.removeRange low high).range_lists low high).mem
    name).mp hmem
  rw [score?_removeRange, Option.filter_eq_some_iff] at hscore
  simp [within, hlow, hhigh] at hscore

theorem score?_outside (m : Members) {low high : Int64} {name : String} {score : Int64}
    (h : m.score? name = some score) (hout : ¬(low ≤ score ∧ score ≤ high)) :
    (m.removeRange low high).score? name = some score := by
  have hwithin : within low high (name, score) = decide (low ≤ score ∧ score ≤ high) := by
    simp [within]
  rw [score?_removeRange, h, Option.filter_eq_some_iff, hwithin]
  exact ⟨rfl, by simp [hout]⟩

end Members

/-- What the removal of a range of scores makes of a store. -/
structure Cleared (set : String) (low high : Int64) (s s' : MemoryStore) : Prop where
  empty : (MemoryStore.store (.range set low high) s').1 = .ok []
  again : (MemoryStore.store (.removeRange set low high) s').1 = .ok 0
  kept : ∀ member score, s.score? set member = some score → ¬(low ≤ score ∧ score ≤ high) →
    s'.score? set member = some score
  apart : ∀ other, other ≠ set → s'.members other = s.members other

theorem cleared_removeRange (s : MemoryStore) (set : String) (low high : Int64) :
    Cleared set low high s (MemoryStore.store (.removeRange set low high) s).2 := by
  have hmembers : (MemoryStore.store (.removeRange set low high) s).2.members set =
      (s.members set).removeRange low high := by rw [MemoryStore.members_removeRange, if_pos rfl]
  have hempty := (s.members set).range_removeRange low high
  refine ⟨?_, ?_, fun member score hscore hout => ?_, fun other hother => ?_⟩
  · rw [MemoryStore.store, hmembers, hempty]
  · rw [MemoryStore.store, hmembers, Members.size_sub_removeRange, hempty]
    rfl
  · rw [MemoryStore.score?, hmembers]
    exact (s.members set).score?_outside hscore hout
  · exact s.members_store other hother

/-! ## Sets that were never written -/

namespace MemoryStore

variable {s : MemoryStore} {set : String}

/-- Only an upsert writes a set. -/
theorem written_store {c : Call} (hc : ∀ member score, c ≠ .upsert set member score) :
    (store c s).2.written set = s.written set := by
  cases c with
  | upsert other name score =>
    have hne : (set == other) = false := by
      rw [beq_eq_false_iff_ne]
      rintro rfl
      exact hc name score rfl
    refine (s.written_put set other _).trans ?_
    rw [hne, Bool.false_or]
  | range other low high => rfl
  | removeRange other low high => exact s.written_update set other _
  | remove other name => exact s.written_update set other _

theorem written_after {calls : List Call}
    (h : ∀ member score, .upsert set member score ∉ calls) :
    (s.after calls).written set = s.written set := by
  induction calls generalizing s with
  | nil => rfl
  | cons c cs ih =>
    have hc : ∀ member score, c ≠ .upsert set member score :=
      fun member score he => h member score (he ▸ List.mem_cons_self ..)
    have hcs := ih (s := (store c s).2)
      (fun member score hmem => h member score (List.mem_cons_of_mem _ hmem))
    exact hcs.trans (written_store hc)

/-- What a set that was never written answers; nothing is made for it. -/
theorem store_unwritten (h : s.written set = false) (low high : Int64) (member : String) :
    store (.range set low high) s = (.ok [], s) ∧
      store (.removeRange set low high) s = (.ok 0, s) ∧
      store (.remove set member) s = (.ok false, s) := by
  have hnone : s.sets.lookup set = none := by simpa [written] using h
  have hmembers : s.members set = .empty := by rw [members, hnone]; rfl
  refine ⟨?_, ?_, ?_⟩
  · rw [store, hmembers]
    rfl
  · rw [store, hmembers, update, h]
    rfl
  · rw [store, hmembers, update, h]
    rfl

end MemoryStore

/-- **The store in memory is a set ordered by scores.** Behind any calls it holds what
finite maps would hold behind them. A range names the members within its bounds, each
once, by score and then by the octets of the names, wherever the members stand; its
removal counts as many, leaves nothing in it to be removed again, and touches no other
member and no other set. A set that no call has written answers that there is nothing,
and stays unwritten. -/
theorem score_ordered (calls : List Call) :
    let s := MemoryStore.after {} calls
    let k := Catalog.ofCalls calls
    Represents s k ∧
      (∀ set low high, ∃ names s',
        MemoryStore.store (.range set low high) s = (.ok names, s) ∧
        (k.scores set).Ranged low high names ∧
        (∀ m : Members, m.entries.Perm (s.members set).entries → m.range low high = names) ∧
        MemoryStore.store (.removeRange set low high) s = (.ok names.length, s') ∧
        Cleared set low high s s') ∧
      ∀ set, (∀ member score, .upsert set member score ∉ calls) → ∀ low high member,
        MemoryStore.store (.range set low high) s = (.ok [], s) ∧
        MemoryStore.store (.removeRange set low high) s = (.ok 0, s) ∧
        MemoryStore.store (.remove set member) s = (.ok false, s) := by
  intro s k
  have hrepresents : Represents s k := represents_after calls
  refine ⟨hrepresents, fun set low high => ?_, fun set hset low high member => ?_⟩
  · refine ⟨(s.members set).range low high, _, rfl, (hrepresents.scores set).ranged low high,
      fun m hm => m.range_perm hm low high, ?_, cleared_removeRange s set low high⟩
    rw [← Members.size_sub_removeRange]
    rfl
  · have hwritten : s.written set = false := MemoryStore.written_after hset
    exact MemoryStore.store_unwritten hwritten low high member

/-- Members with equal scores, one that was scored twice and one that was taken away. -/
def tied : List Call := [.upsert "p" "z" 5, .upsert "p" "é" 5, .upsert "p" "a" 7,
  .upsert "p" "gone" 6, .upsert "p" "Z" 5, .upsert "p" "a" (-1), .remove "p" "gone"]

/-- Names of one score stand by their octets, and a set beside them is not there. -/
theorem score_ordered_tied :
    (∃ names s', MemoryStore.store (.removeRange "p" Int64.minValue 5) (.after {} tied) =
        (.ok names.length, s') ∧ names = ["a", "Z", "z", "é"] ∧
        (MemoryStore.store (.range "p" Int64.minValue 5) s').1 = .ok []) ∧
      MemoryStore.store (.remove "q" "a") (.after {} tied) = (.ok false, .after {} tied) := by
  obtain ⟨-, hranges, hunwritten⟩ := score_ordered tied
  obtain ⟨names, s', hrange, -, -, hremove, hcleared⟩ := hranges "p" Int64.minValue 5
  have hnames : (MemoryStore.store (.range "p" Int64.minValue 5) (.after {} tied)).1 =
      .ok ["a", "Z", "z", "é"] := by decide +kernel
  rw [hrange] at hnames
  refine ⟨⟨names, s', hremove, Except.ok.inj hnames, hcleared.empty⟩, ?_⟩
  exact (hunwritten "q" (by simp [tied]) 0 0 "a").2.2

end BidFleet.Pool
