import BidFleet.Proofs.Pool.Conservation

/-!
The order in which members are listed. Names in a set are distinct, so putting members
into place one by one gives one list, strictly ascending by score and then by name
(`pairwise_ranked`). `Lists` says which names a list holds and how it is ordered, in
terms of scores alone; lists of smaller and of greater scores make one when they stand
behind one another (`Lists.append`). A range lists exactly the members scored within its
bounds (`range_lists`), and a ranged removal counts as many as the range lists.
-/

namespace BidFleet.Pool

namespace Members

/-! ## Places -/

theorem precedes_iff {a b : Member} :
    precedes a b = true ↔ a.2 < b.2 ∨ a.2 = b.2 ∧ a.1 < b.1 := by
  simp [precedes]

theorem precedes_trans {a b c : Member} (hab : precedes a b = true) (hbc : precedes b c = true) :
    precedes a c = true := by
  rw [precedes_iff] at hab hbc ⊢
  rcases hab with hab | ⟨hab, habn⟩
  · rcases hbc with hbc | ⟨hbc, -⟩
    · exact .inl (Int64.lt_trans hab hbc)
    · exact .inl (hbc ▸ hab)
  · rcases hbc with hbc | ⟨hbc, hbcn⟩
    · exact .inl (hab ▸ hbc)
    · exact .inr ⟨hab.trans hbc, String.lt_trans habn hbcn⟩

theorem precedes_of_not {a b : Member} (hne : a.1 ≠ b.1) (h : ¬precedes a b = true) :
    precedes b a = true := by
  rw [precedes_iff] at h ⊢
  rw [not_or, Int64.not_lt] at h
  by_cases hs : b.2 < a.2
  · exact .inl hs
  · have heq : b.2 = a.2 := Int64.le_antisymm h.1 (Int64.not_lt.mp hs)
    have hname : b.1 ≤ a.1 := String.not_lt.mp (fun hlt => h.2 ⟨heq.symm, hlt⟩)
    exact .inr ⟨heq, String.not_le.mp (fun hle => hne (String.le_antisymm hle hname))⟩

theorem place_perm (e : Member) (l : List Member) : (place e l).Perm (e :: l) := by
  induction l with
  | nil => exact List.Perm.refl _
  | cons f rest ih =>
    rw [place]
    split
    · exact (ih.cons f).trans (List.Perm.swap e f rest)
    · exact List.Perm.refl _

theorem pairwise_place {e : Member} {l : List Member} (hne : e.1 ∉ l.map Prod.fst)
    (h : l.Pairwise (fun a b => precedes a b = true)) :
    (place e l).Pairwise (fun a b => precedes a b = true) := by
  induction l with
  | nil => simp [place]
  | cons f rest ih =>
    obtain ⟨hf, hrest⟩ := List.pairwise_cons.mp h
    rw [List.map_cons, List.mem_cons, not_or] at hne
    rw [place]
    split
    · next hfe =>
      refine List.pairwise_cons.mpr ⟨fun g hg => ?_, ih hne.2 hrest⟩
      rcases List.mem_cons.mp ((place_perm e rest).mem_iff.mp hg) with rfl | hg
      · exact hfe
      · exact hf g hg
    · next hfe =>
      have hef := precedes_of_not (Ne.symm hne.1) hfe
      refine List.pairwise_cons.mpr ⟨fun g hg => ?_, h⟩
      rcases List.mem_cons.mp hg with rfl | hg
      · exact hef
      · exact precedes_trans hef (hf g hg)

theorem ranked_perm (entries : List Member) : (ranked entries).Perm entries := by
  induction entries with
  | nil => exact List.Perm.refl _
  | cons e rest ih => exact (place_perm e _).trans (ih.cons e)

/-- **Members with distinct names are ranked strictly.** -/
theorem pairwise_ranked {entries : List Member} (h : (entries.map Prod.fst).Nodup) :
    (ranked entries).Pairwise (fun a b => precedes a b = true) := by
  induction entries with
  | nil => exact List.Pairwise.nil
  | cons e rest ih =>
    rw [List.map_cons, List.nodup_cons] at h
    refine pairwise_place (fun hmem => h.1 ?_) (ih h.2)
    exact ((ranked_perm rest).map Prod.fst).mem_iff.mp hmem

end Members

/-! ## Lists of names -/

/-- Whether a name is listed before another one: it has a smaller score, or the same
score and is the smaller name. -/
def Before (scores : String → Option Int64) (a b : String) : Prop :=
  ∃ x y, scores a = some x ∧ scores b = some y ∧ (x < y ∨ x = y ∧ a < b)

/-- Whether `names` are the names whose scores `keep` holds of, each once, by score and
then by name. -/
structure Lists (scores : String → Option Int64) (keep : Int64 → Prop) (names : List String) :
    Prop where
  mem : ∀ name, name ∈ names ↔ ∃ score, scores name = some score ∧ keep score
  once : names.Nodup
  ordered : names.Pairwise (Before scores)

/-- A list depends on scores only where they are kept. -/
theorem Lists.transport {scores scores' : String → Option Int64} {keep keep' : Int64 → Prop}
    {names : List String} (h : Lists scores keep names)
    (hsame : ∀ name score, scores name = some score ∧ keep score ↔
      scores' name = some score ∧ keep' score) : Lists scores' keep' names := by
  have hscore {name : String} {score : Int64} (hmem : name ∈ names)
      (hs : scores name = some score) : scores' name = some score := by
    obtain ⟨kept, hkept, hkeep⟩ := (h.mem name).mp hmem
    cases hs.symm.trans hkept
    exact ((hsame name score).mp ⟨hs, hkeep⟩).1
  refine ⟨fun name => ?_, h.once, h.ordered.imp_of_mem ?_⟩
  · simp only [h.mem, hsame]
  · rintro a b ha hb ⟨x, y, hx, hy, hxy⟩
    exact ⟨x, y, hscore ha hx, hscore hb hy, hxy⟩

theorem Lists.congr {scores : String → Option Int64} {keep keep' : Int64 → Prop}
    {names : List String} (h : Lists scores keep names)
    (hkeep : ∀ score, keep score ↔ keep' score) : Lists scores keep' names :=
  h.transport fun _ score => and_congr_right fun _ => hkeep score

theorem Before.asymm {scores : String → Option Int64} {a b : String} (hab : Before scores a b)
    (hba : Before scores b a) : False := by
  obtain ⟨x, y, hx, hy, hab⟩ := hab
  obtain ⟨y', x', hy', hx', hba⟩ := hba
  cases hx.symm.trans hx'
  cases hy.symm.trans hy'
  rcases hab with hlt | ⟨rfl, hname⟩
  · rcases hba with hgt | ⟨rfl, -⟩
    · exact Int64.lt_asymm hlt hgt
    · exact Int64.lt_irrefl hlt
  · rcases hba with hgt | ⟨-, hname'⟩
    · exact Int64.lt_irrefl hgt
    · exact String.lt_asymm hname hname'

/-- **The list of the names that are kept is one.** -/
theorem Lists.unique {scores : String → Option Int64} {keep : Int64 → Prop} {a b : List String}
    (ha : Lists scores keep a) (hb : Lists scores keep b) : a = b := by
  have hperm : a.Perm b := (List.perm_ext_iff_of_nodup ha.once hb.once).mpr fun name => by
    rw [ha.mem, hb.mem]
  exact hperm.eq_of_pairwise (fun x y _ _ hxy hyx => (hxy.asymm hyx).elim) ha.ordered hb.ordered

/-- Two lists stand behind one another when the scores of the first are below those of the
second. -/
theorem Lists.append {scores : String → Option Int64} {keep keep' : Int64 → Prop}
    {a b : List String} (ha : Lists scores keep a) (hb : Lists scores keep' b)
    (hlt : ∀ x y, keep x → keep' y → x < y) :
    Lists scores (fun score => keep score ∨ keep' score) (a ++ b) := by
  have hbefore : ∀ x ∈ a, ∀ y ∈ b, Before scores x y := by
    intro x hx y hy
    obtain ⟨sx, hsx, hkx⟩ := (ha.mem x).mp hx
    obtain ⟨sy, hsy, hky⟩ := (hb.mem y).mp hy
    exact ⟨sx, sy, hsx, hsy, .inl (hlt sx sy hkx hky)⟩
  refine ⟨fun name => ?_, ?_, List.pairwise_append.mpr ⟨ha.ordered, hb.ordered, hbefore⟩⟩
  · simp only [List.mem_append, ha.mem, hb.mem, and_or_left, exists_or]
  · refine List.nodup_append.mpr ⟨ha.once, hb.once, fun x hx y hy hxy => ?_⟩
    have hxx := hbefore x hx y hy
    rw [← hxy] at hxx
    exact hxx.asymm hxx

namespace Members

theorem mem_entries_iff (m : Members) (e : Member) :
    e ∈ m.entries ↔ m.score? e.1 = some e.2 :=
  ⟨m.score?_of_mem, m.mem_of_score?⟩

/-- Members that are kept by their scores, in order. -/
theorem filter_lists (m : Members) (keep : Int64 → Bool) :
    Lists m.score? (fun score => keep score = true)
      ((ranked (m.filter (fun e => keep e.2)).entries).map Prod.fst) := by
  have hmem (e : Member) : e ∈ ranked (m.filter (fun e => keep e.2)).entries ↔
      m.score? e.1 = some e.2 ∧ keep e.2 = true := by
    rw [(ranked_perm _).mem_iff]
    simp [filter, mem_entries_iff]
  have hordered := pairwise_ranked (m.filter (fun e => keep e.2)).distinct
  refine ⟨fun name => ?_, ?_, ?_⟩
  · simp only [List.mem_map]
    constructor
    · rintro ⟨e, he, rfl⟩
      exact ⟨e.2, (hmem e).mp he⟩
    · rintro ⟨score, hscore⟩
      exact ⟨(name, score), (hmem _).mpr hscore, rfl⟩
  · exact ((ranked_perm _).map Prod.fst).nodup_iff.mpr (m.filter (fun e => keep e.2)).distinct
  · refine List.pairwise_map.mpr (hordered.imp_of_mem ?_)
    intro a b ha hb hab
    exact ⟨a.2, b.2, ((hmem a).mp ha).1, ((hmem b).mp hb).1, precedes_iff.mp hab⟩

/-- Members can be listed by any property of their scores. -/
theorem exists_lists (m : Members) (keep : Int64 → Prop) [DecidablePred keep] :
    ∃ names, Lists m.score? keep names :=
  ⟨_, (m.filter_lists (fun score => decide (keep score))).congr fun _ => decide_eq_true_iff⟩

/-- **A range lists the members within its bounds.** -/
theorem range_lists (m : Members) (low high : Int64) :
    Lists m.score? (fun score => low ≤ score ∧ score ≤ high) (m.range low high) := by
  refine (m.filter_lists (fun score => low ≤ score && score ≤ high)).congr fun score => ?_
  rw [Bool.and_eq_true, decide_eq_true_iff, decide_eq_true_iff]

/-- A ranged removal takes away as many members as the range lists. -/
theorem size_sub_removeRange (m : Members) (low high : Int64) :
    m.size - (m.removeRange low high).size = (m.range low high).length := by
  have hsize := m.size_filter (within low high)
  have hrest := m.size_filter (fun e => !within low high e)
  have hlength : (m.range low high).length = (m.filter (within low high)).size := by
    rw [range, List.length_map, (ranked_perm _).length_eq]
    rfl
  rw [hlength]
  simp only [removeRange, size, filter] at hsize hrest ⊢
  omega

end Members

end BidFleet.Pool
