import BidFleet.Command.Invocation
import BidFleet.Proofs.Pool.LifeCycle
import BidFleet.Proofs.Pool.Sweeping

/-!
A worker's own record in its own pass. The pass heartbeats and then sweeps up to its
bound, so the record stays just when the bound is before `now` (`score?_own_pass`). The
bound is before `now` just when the interval, read as a signed word, is positive
(`le_staleBefore_iff`). A bidder whose interval is positive and has no sign bit is in the
pool when it has joined, and is listed (`joined_bidder_listed`).
-/

namespace BidFleet.Pool

/-! ## The bound in words -/

/-- Whether a pass at `now` computes its bound without an overflow: the signed interval
doubled, and that taken from `now`, are numbers of 64 bits. -/
def Config.InWords (c : Config) (now : Int64) : Prop :=
  (Int64.minValue.toInt ≤ 2 * c.interval.toInt64.toInt ∧
      2 * c.interval.toInt64.toInt ≤ Int64.maxValue.toInt) ∧
    Int64.minValue.toInt ≤ now.toInt - 2 * c.interval.toInt64.toInt ∧
      now.toInt - 2 * c.interval.toInt64.toInt ≤ Int64.maxValue.toInt

instance (c : Config) (now : Int64) : Decidable (c.InWords now) :=
  inferInstanceAs (Decidable ((_ ∧ _) ∧ _ ∧ _))

theorem staleBefore_inWords {c : Config} {now : Int64} (h : c.InWords now) :
    (c.staleBefore now).toInt = now.toInt - 2 * c.interval.toInt64.toInt := by
  obtain ⟨⟨hlow, hhigh⟩, hlow', hhigh'⟩ := h
  rw [Int64.toInt_minValue] at hlow hlow'
  rw [Int64.toInt_maxValue] at hhigh hhigh'
  have htwo : (2 : Int64).toInt = 2 := rfl
  have hdouble : (2 * c.interval.toInt64).toInt = 2 * c.interval.toInt64.toInt := by
    rw [Int64.toInt_mul, htwo, Int.bmod_eq_of_le] <;> omega
  rw [Config.staleBefore, Int64.toInt_sub, hdouble, Int.bmod_eq_of_le] <;> omega

theorem le_staleBefore_iff {c : Config} {now : Int64} (h : c.InWords now) :
    now ≤ c.staleBefore now ↔ c.interval.toInt64.toInt ≤ 0 := by
  rw [Int64.le_iff_toInt_le, staleBefore_inWords h]
  omega

/-- An interval without the sign bit is the same as a signed word. -/
theorem toInt64_interval {interval : UInt64} (h : interval.toNat < 2 ^ 63) :
    interval.toInt64.toInt = interval.toNat := by
  rw [← Int64.toInt_toBitVec, UInt64.toBitVec_toInt64, BitVec.toInt_eq_toNat_bmod,
    UInt64.toNat_toBitVec, Int.bmod_eq_of_le] <;> omega

/-! ## Joining -/

/-- A worker joins, with what its first pass leaves. -/
theorem join_worker (config : Config) (name : String) (now : Int64) (s : MemoryStore) :
    ∃ n, Node.join MemoryStore.store (.worker name) config now s =
      (.ok n, ((pass config (some name) now).run MemoryStore.store s).2) :=
  ⟨_, Node.join_eq_ok_iff.mpr ⟨_, run_pass config (some name) now s, rfl⟩⟩

/-- Whether a listing at some time names a member. -/
def Listed (config : Config) (later : Int64) (s : MemoryStore) (member : String) : Prop :=
  ∃ names, (listMembers config later).run MemoryStore.store s = (.ok names, s) ∧ member ∈ names

theorem listed_iff {config : Config} {later : Int64}
    (h : later.toInt + 100000 ≤ Int64.maxValue.toInt) {s : MemoryStore} {member : String} :
    Listed config later s member ↔ ∃ score, s.score? config.pool member = some score ∧
      0 ≤ score ∧ score.toInt ≤ later.toInt + 100000 := by
  obtain ⟨names, hrun, hlists⟩ := run_listMembers config h s
  rw [Listed, hrun, ← hlists.mem]
  constructor
  · rintro ⟨_, hnames, hmem⟩
    cases hnames
    exact hmem
  · exact fun hmem => ⟨names, rfl, hmem⟩

end BidFleet.Pool

namespace BidFleet.Command

open Pool

/-- **A bidder that has joined is in its pool, and is listed.** Take any settings of a
bidder whose interval has no sign bit, and any time from zero on at which the bound of the
sweep does not overflow. Joining makes one pass, which succeeds. If the interval is not
zero, the pass leaves the own record with the score `now`, and every listing whose horizon
reaches `now` shows it. With an interval of zero the bound is `now` itself: the pass takes
the own record, and no listing shows it. -/
theorem joined_bidder_listed (settings : BidderSettings) (name : String) (now : Int64)
    (s : MemoryStore) (hnow : 0 ≤ now) (hsign : settings.config.interval.toNat < 2 ^ 63)
    (hwords : settings.config.InWords now) : ∃ report n s',
      (pass settings.config (some name) now).run MemoryStore.store s = (.ok report, s') ∧
      Node.join MemoryStore.store (.worker name) settings.config now s = (.ok n, s') ∧
      (settings.config.interval ≠ 0 →
        s'.score? settings.config.pool name = some now ∧
        ∀ later : Int64, now.toInt ≤ later.toInt + 100000 →
          later.toInt + 100000 ≤ Int64.maxValue.toInt → Listed settings.config later s' name) ∧
      (settings.config.interval = 0 →
        s'.score? settings.config.pool name = none ∧
        ∀ later : Int64, later.toInt + 100000 ≤ Int64.maxValue.toInt →
          ¬Listed settings.config later s' name) := by
  have hrun := run_pass settings.config (some name) now s
  obtain ⟨n, hjoin⟩ := join_worker settings.config name now s
  have hown := score?_own_pass settings.config name now s
  have hbound := le_staleBefore_iff hwords
  rw [toInt64_interval hsign] at hbound
  refine ⟨_, n, _, Prod.ext (congrArg Prod.fst hrun) rfl, hjoin, fun hpositive => ?_,
    fun hzero => ?_⟩
  · have hpos : settings.config.interval.toNat ≠ 0 := fun h =>
      hpositive (UInt64.toNat_inj.mp h)
    have hkept := hown.trans (if_neg fun hin => absurd (hbound.mp hin.2) (by omega))
    exact ⟨hkept, fun later hle hfits => (listed_iff hfits).mpr ⟨now, hkept, hnow, hle⟩⟩
  · have htaken := hown.trans (if_pos ⟨hnow, hbound.mpr (by rw [hzero]; decide)⟩)
    refine ⟨htaken, fun later hfits hlisted => ?_⟩
    obtain ⟨_, hscore, -⟩ := (listed_iff hfits).mp hlisted
    cases htaken.symm.trans hscore

/-- A bidder whose interval is one millisecond. -/
def hasty : BidderSettings := { name := some "w", interval := some 1 }

/-- One millisecond is enough. -/
theorem joined_bidder_listed_hasty : ∃ n s',
    Node.join MemoryStore.store (.worker "w") hasty.config 100000 aged = (.ok n, s') ∧
      s'.score? "bidderspool" "w" = some 100000 ∧ Listed hasty.config 100000 s' "w" := by
  obtain ⟨_, n, s', -, hjoin, hkept, -⟩ :=
    joined_bidder_listed hasty "w" 100000 aged (by decide) (by decide) (by decide)
  obtain ⟨hscore, hlisted⟩ := hkept (by decide)
  exact ⟨n, s', hjoin, hscore, hlisted 100000 (by decide) (by decide)⟩

/-- **A worker that sweeps itself.** The command line takes the intervals zero and
2^64 - 1, of which the second is read as -1 by the sweep. Neither overflows its bound, and
with either the worker's own record is gone behind a pass that succeeds. -/
theorem worker_sweeps_itself :
    (Invocation.read ["bidder", "--name", "w", "--interval-ms", "0"] =
        .settled (.bidder { name := some "w", interval := some 0 }) ∧
      Invocation.read ["bidder", "--name", "w", "--interval-ms", "18446744073709551615"] =
        .settled (.bidder { name := some "w", interval := some 18446744073709551615 })) ∧
    ∀ interval ∈ [0, 18446744073709551615],
      let config : Config := BidderSettings.config { name := some "w", interval := some interval }
      config.InWords 100000 ∧
      ∃ report s', (pass config (some "w") 100000).run MemoryStore.store aged = (.ok report, s') ∧
        s'.score? "bidderspool" "w" = none := by
  refine ⟨⟨by rfl, by rfl⟩, ?_⟩
  intro interval hinterval config
  have hcases : interval = 0 ∨ interval = 18446744073709551615 := by simpa using hinterval
  have hwords : config.InWords 100000 := by rcases hcases with rfl | rfl <;> decide
  have hsigned : config.interval.toInt64.toInt ≤ 0 := by rcases hcases with rfl | rfl <;> decide
  refine ⟨hwords, _, _, run_pass config (some "w") 100000 aged, ?_⟩
  have hown := score?_own_pass config "w" 100000 aged
  rw [run_pass] at hown
  exact hown.trans (if_pos ⟨by decide, (le_staleBefore_iff hwords).mpr hsigned⟩)

end BidFleet.Command
