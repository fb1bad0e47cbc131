import BidFleet.Pool.Pass
import BidFleet.Proofs.Pool.Listing

/-!
What one pass does when nothing comes between its calls. The members after the
heartbeat decide everything: those scored from zero to the bound are reported and gone,
all others keep their scores, and no other set is touched (`swept_pass`). The own record
of a worker is new and gone only if the bound reaches `now` (`score?_own_pass`). A second
pass without a name at the same time or before finds nothing left (`pass_again`), and a
listing afterwards shows what the pass left (`run_listMembers`).
-/

namespace BidFleet.Pool

/-! ## The bound of a sweep -/

/-- Whether the bound of a sweep at `now` is a number of 64 bits. -/
def Config.Fits (c : Config) (now : Int64) : Prop :=
  Int64.minValue.toInt ≤ now.toInt - 2 * c.interval.toNat

instance (c : Config) (now : Int64) : Decidable (c.Fits now) := inferInstanceAs (Decidable (_ ≤ _))

/-- The bound of a sweep, where the words do not overflow. -/
theorem staleBefore_toInt {c : Config} {now : Int64} (h : c.Fits now) :
    (c.staleBefore now).toInt = now.toInt - 2 * c.interval.toNat := by
  have hlt := now.toInt_lt
  rw [Config.Fits, Int64.toInt_minValue] at h
  have hinterval : c.interval.toInt64.toInt = (c.interval.toNat : Int).bmod (2 ^ 64) := by
    rw [← Int64.toInt_toBitVec, UInt64.toBitVec_toInt64, BitVec.toInt_eq_toNat_bmod,
      UInt64.toNat_toBitVec]
  have htwo : (2 : Int64).toInt = 2 := rfl
  rw [Config.staleBefore, Int64.toInt_sub, Int64.toInt_mul, htwo, hinterval, Int.mul_bmod_bmod,
    Int.sub_bmod_bmod, Int.bmod_eq_of_le] <;> omega

theorem staleBefore_le {c : Config} {earlier now : Int64} (h : earlier ≤ now)
    (hearlier : c.Fits earlier) : c.staleBefore earlier ≤ c.staleBefore now := by
  rw [Int64.le_iff_toInt_le] at h ⊢
  have hnow : c.Fits now := Int.le_trans hearlier (Int.sub_le_sub_right h _)
  rw [staleBefore_toInt hearlier, staleBefore_toInt hnow]
  exact Int.sub_le_sub_right h _

/-! ## One pass -/

/-- The scores after the heartbeat of a pass: a name is scored `now`. -/
def heartbeat (name : Option String) (now : Int64) (scores : String → Option Int64) :
    String → Option Int64 :=
  fun member => if name = some member then some now else scores member

def beaten (config : Config) (name : Option String) (now : Int64) (s : MemoryStore) : MemoryStore :=
  match name with
  | some name => (MemoryStore.store (.upsert config.pool name now) s).2
  | none => s

section

variable (config : Config) (name : Option String) (now : Int64) (s : MemoryStore)

theorem score?_beaten (member : String) : (beaten config name now s).score? config.pool member =
    heartbeat name now (s.score? config.pool) member := by
  cases name with
  | none => rfl
  | some name => simp [beaten, heartbeat, MemoryStore.score?_upsert, eq_comm]

theorem members_beaten {set : String} (h : set ≠ config.pool) :
    (beaten config name now s).members set = s.members set := by
  cases name with
  | none => rfl
  | some name => exact s.members_store set h

/-- What a pass reports, in terms of the scores after its heartbeat. -/
theorem beaten_lists : Lists (heartbeat name now (s.score? config.pool))
    (fun score => 0 ≤ score ∧ score ≤ config.staleBefore now)
    (((beaten config name now s).members config.pool).range 0 (config.staleBefore now)) := by
  have hview : ((beaten config name now s).members config.pool).score? =
      heartbeat name now (s.score? config.pool) := funext (score?_beaten config name now s)
  exact hview ▸ ((beaten config name now s).members config.pool).range_lists 0
    (config.staleBefore now)

/-- A pass is a heartbeat, a range and a removal of the same range. -/
theorem run_pass : (pass config name now).run MemoryStore.store s =
    (.ok ⟨now, config.staleBefore now,
        ((beaten config name now s).members config.pool).range 0 (config.staleBefore now),
        (((beaten config name now s).members config.pool).range 0 (config.staleBefore now)).length⟩,
      (MemoryStore.store (.removeRange config.pool 0 (config.staleBefore now))
        (beaten config name now s)).2) := by
  rw [← Members.size_sub_removeRange]
  cases name with
  | none => rfl
  | some name => rfl

/-- A score that a member has after the heartbeat stays if it is not from zero to the bound. -/
theorem score?_pass (member : String) :
    ((pass config name now).run MemoryStore.store s).2.score? config.pool member =
      (heartbeat name now (s.score? config.pool) member).filter
        (fun score => !decide (0 ≤ score ∧ score ≤ config.staleBefore now)) := by
  rw [run_pass, MemoryStore.score?_removeRange, if_pos rfl, score?_beaten]
  congr 1
  funext score
  rw [Members.within, Bool.decide_and]

end

/-- **A pass takes the worker's own record just when `now` is within what it sweeps.** -/
theorem score?_own_pass (config : Config) (name : String) (now : Int64) (s : MemoryStore) :
    ((pass config (some name) now).run MemoryStore.store s).2.score? config.pool name =
      if 0 ≤ now ∧ now ≤ config.staleBefore now then none else some now := by
  rw [score?_pass, heartbeat, if_pos rfl]
  by_cases hin : 0 ≤ now ∧ now ≤ config.staleBefore now
  · simp [Option.filter, hin]
  · simp only [Option.filter, hin, decide_false, Bool.not_false, if_true, if_false]

/-- What a pass at `now` did to a store whose pool had these scores after the heartbeat. -/
structure Swept (config : Config) (now : Int64) (scores : String → Option Int64)
    (report : Report) (s s' : MemoryStore) : Prop where
  time : report.now = now
  bound : report.staleBefore.toInt = now.toInt - 2 * config.interval.toNat
  stale : Lists scores (fun score => 0 ≤ score ∧ score ≤ report.staleBefore) report.stale
  removed : report.removed = report.stale.length
  pool : ∀ member, s'.score? config.pool member =
    if member ∈ report.stale then none else scores member
  apart : ∀ set, set ≠ config.pool → s'.members set = s.members set

theorem Swept.negative {config : Config} {now : Int64} {scores : String → Option Int64}
    {report : Report} {s s' : MemoryStore} (h : Swept config now scores report s s')
    {member : String} {score : Int64} (hscore : scores member = some score) (hneg : score < 0) :
    s'.score? config.pool member = some score := by
  rw [h.pool, if_neg, hscore]
  rw [h.stale.mem]
  rintro ⟨other, hother, hlow, -⟩
  rw [hscore, Option.some.injEq] at hother
  exact Int64.not_lt.mpr (hother ▸ hlow) hneg

theorem Swept.above {config : Config} {now : Int64} {scores : String → Option Int64}
    {report : Report} {s s' : MemoryStore} (h : Swept config now scores report s s')
    {member : String} {score : Int64} (hscore : s'.score? config.pool member = some score)
    (hlow : 0 ≤ score) : report.staleBefore < score := by
  rw [h.pool] at hscore
  split at hscore
  · cases hscore
  · next hmem =>
    rw [h.stale.mem] at hmem
    exact Int64.not_le.mp (fun hle => hmem ⟨score, hscore, hlow, hle⟩)

/-- **One pass.** It reports and removes the same members. -/
theorem swept_pass (config : Config) (name : Option String) (now : Int64) (h : config.Fits now)
    (s : MemoryStore) : ∃ report s', (pass config name now).run MemoryStore.store s =
      (.ok report, s') ∧ report.staleBefore = config.staleBefore now ∧
      Swept config now (heartbeat name now (s.score? config.pool)) report s s' := by
  have hlists := beaten_lists config name now s
  refine ⟨_, _, run_pass config name now s, rfl, rfl, staleBefore_toInt h, hlists, rfl,
    fun member => ?_, fun set hset => ?_⟩
  · have hscore := score?_pass config name now s member
    rw [run_pass] at hscore
    rw [hscore]
    simp only [hlists.mem]
    cases heartbeat name now (s.score? config.pool) member with
    | none => simp
    | some score =>
      by_cases hin : 0 ≤ score ∧ score ≤ config.staleBefore now
      · simp [Option.filter, hin]
      · simp only [Option.filter, hin, decide_false, Bool.not_false, if_true,
          Option.some.injEq, exists_eq_left', if_false]
  · rw [MemoryStore.members_store _ _ hset, members_beaten config name now s hset]

/-! ## What comes after -/

/-- A pass without a name, at the same time or before, finds nothing left. -/
theorem pass_again {config : Config} {now earlier : Int64} {scores : String → Option Int64}
    {report : Report} {s s' : MemoryStore} (h : Swept config now scores report s s')
    (hbound : report.staleBefore = config.staleBefore now) (hle : earlier ≤ now)
    (hfits : config.Fits earlier) :
    ∃ s'', (pass config none earlier).run MemoryStore.store s' =
        (.ok ⟨earlier, config.staleBefore earlier, [], 0⟩, s'') ∧
      ∀ set, s''.score? set = s'.score? set := by
  obtain ⟨again, s'', hrun, hagain, hswept⟩ := swept_pass config none earlier hfits s'
  have hnone : again.stale = [] := by
    refine List.eq_nil_iff_forall_not_mem.mpr fun member hmem => ?_
    obtain ⟨score, hscore, hlow, hhigh⟩ := (hswept.stale.mem member).mp hmem
    have habove := h.above hscore hlow
    rw [hbound] at habove
    rw [hagain] at hhigh
    exact Int64.not_le.mpr habove (Int64.le_trans hhigh (staleBefore_le hle hfits))
  have hreport : again = ⟨earlier, config.staleBefore earlier, [], 0⟩ := by
    have hremoved := hswept.removed
    rw [hnone] at hremoved
    cases again
    simp only [Report.mk.injEq]
    exact ⟨hswept.time, hagain, hnone, hremoved⟩
  refine ⟨s'', hreport ▸ hrun, fun set => ?_⟩
  by_cases hset : set = config.pool
  · funext member
    rw [hset, hswept.pool, if_neg (by simp [hnone])]
    rfl
  · simp only [funext_iff, MemoryStore.score?, hswept.apart set hset, implies_true]

theorem listHorizon_toInt {later : Int64} (h : later.toInt + 100000 ≤ Int64.maxValue.toInt) :
    (later + listHorizon).toInt = later.toInt + 100000 := by
  have hlow := later.le_toInt
  have hhorizon : listHorizon.toInt = 100000 := by decide
  rw [Int64.toInt_maxValue] at h
  rw [Int64.toInt_add, hhorizon, Int.bmod_eq_of_le] <;> omega

/-- A listing shows the members scored from zero to the horizon. -/
theorem run_listMembers (config : Config) {later : Int64}
    (h : later.toInt + 100000 ≤ Int64.maxValue.toInt) (s : MemoryStore) :
    ∃ names, (listMembers config later).run MemoryStore.store s = (.ok names, s) ∧
      Lists (s.score? config.pool)
        (fun score => 0 ≤ score ∧ score.toInt ≤ later.toInt + 100000) names := by
  have hlists := (s.members config.pool).range_lists 0 (later + listHorizon)
  refine ⟨_, rfl, hlists.congr fun score => ?_⟩
  rw [Int64.le_iff_toInt_le (y := later + listHorizon), listHorizon_toInt h]

/-- **A pass heartbeats and sweeps exactly.** Its report names the members of the pool,
after the heartbeat, that are scored from zero to two intervals before `now`, in order;
they are gone, and all other scores and sets stay. A pass without a name inserts nothing,
and repeated at the same time or before it removes nothing. A listing afterwards shows
just what is left up to the horizon, none of it stale. -/
theorem pass_exact (config : Config) (name : Option String) (now : Int64) (h : config.Fits now)
    (s : MemoryStore) : ∃ report s', (pass config name now).run MemoryStore.store s =
        (.ok report, s') ∧
      Swept config now (heartbeat name now (s.score? config.pool)) report s s' ∧
      (∀ member score, heartbeat name now (s.score? config.pool) member = some score → score < 0 →
        s'.score? config.pool member = some score) ∧
      (name = none → ∀ member, s'.score? config.pool member = none ∨
        s'.score? config.pool member = s.score? config.pool member) ∧
      (∀ earlier ≤ now, config.Fits earlier → ∃ s'',
        (pass config none earlier).run MemoryStore.store s' =
            (.ok ⟨earlier, config.staleBefore earlier, [], 0⟩, s'') ∧
          ∀ set, s''.score? set = s'.score? set) ∧
      ∀ later : Int64, later.toInt + 100000 ≤ Int64.maxValue.toInt → ∃ names,
        (listMembers config later).run MemoryStore.store s' = (.ok names, s') ∧
          Lists (s'.score? config.pool)
            (fun score => 0 ≤ score ∧ score.toInt ≤ later.toInt + 100000) names ∧
          ∀ member ∈ names, ∀ score, s'.score? config.pool member = some score →
            report.staleBefore < score := by
  obtain ⟨report, s', hrun, hbound, hswept⟩ := swept_pass config name now h s
  refine ⟨report, s', hrun, hswept, fun member score => hswept.negative, ?_,
    fun earlier hle hfits => pass_again hswept hbound hle hfits, ?_⟩
  · intro hname member
    rw [hswept.pool]
    split
    · exact .inl rfl
    · exact .inr (by rw [hname, heartbeat, if_neg (by simp)])
  · intro later hfits
    obtain ⟨names, hlist, hlists⟩ := run_listMembers config hfits s'
    refine ⟨names, hlist, hlists, fun member hmem score hscore => ?_⟩
    obtain ⟨other, hother, hlow, -⟩ := (hlists.mem member).mp hmem
    rw [hscore, Option.some.injEq] at hother
    exact hswept.above hscore (hother ▸ hlow)

/-- Members on both sides of the bound, on the bound, and before the epoch. -/
def aged : MemoryStore := .ofList [("bidderspool", "on", 60), ("bidderspool", "under", 10),
  ("bidderspool", "over", 61), ("bidderspool", "early", -5)]

/-- The bound itself is swept, a negative score is not. -/
theorem pass_exact_aged : ∃ report s',
    (pass { interval := 20 } (some "w") 100).run MemoryStore.store aged = (.ok report, s') ∧
      report.stale = ["under", "on"] ∧ s'.score? "bidderspool" "on" = none ∧
      s'.score? "bidderspool" "early" = some (-5) := by
  have hfits : Config.Fits { interval := 20 } 100 := by decide
  obtain ⟨report, s', hrun, hswept, hnegative, -⟩ :=
    pass_exact { interval := 20 } (some "w") 100 hfits aged
  have hreport : ((pass { interval := 20 } (some "w") 100).run MemoryStore.store aged).1 =
      .ok ⟨100, 60, ["under", "on"], 2⟩ := by decide +kernel
  rw [hrun] at hreport
  have hstale : report.stale = ["under", "on"] := by cases hreport; rfl
  refine ⟨report, s', hrun, hstale, ?_, hnegative "early" (-5) (by decide +kernel) (by decide)⟩
  rw [hswept.pool, if_pos (by simp [hstale])]

end BidFleet.Pool
