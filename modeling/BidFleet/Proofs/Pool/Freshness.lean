import BidFleet.Pool.Node
import BidFleet.Proofs.Pool.Sweeping

/-!
Listings against sweeps. A listing shows every score from zero to its horizon, stale or
not, and the bound of a sweep at the same time cuts it in two: the stale members stand in
front, and the others behind them (`listing_divides`). So the two agree on who is alive
exactly when nobody is stale. As long as no node sweeps, a member that fell silent stays
in the listing (`silent_worker_listed`).
-/

namespace BidFleet.Pool

/-- Whether a listing at `now` shows a score: it reaches a little ahead of the clock. -/
def Shown (now score : Int64) : Prop := 0 ≤ score ∧ score.toInt ≤ now.toInt + 100000

/-- Whether a sweep takes a score. -/
def Config.Stale (c : Config) (now score : Int64) : Prop := 0 ≤ score ∧ score ≤ c.staleBefore now

/-- Whether a listing shows a score that a sweep at the same time leaves. -/
def Config.Fresh (c : Config) (now score : Int64) : Prop :=
  Shown now score ∧ c.staleBefore now < score

instance (now score : Int64) : Decidable (Shown now score) := inferInstanceAs (Decidable (_ ∧ _))

instance (c : Config) (now score : Int64) : Decidable (c.Stale now score) :=
  inferInstanceAs (Decidable (_ ∧ _))

instance (c : Config) (now score : Int64) : Decidable (c.Fresh now score) :=
  inferInstanceAs (Decidable (_ ∧ _))

variable {config : Config} {now score : Int64}

theorem shown_iff : Shown now score ↔
    Shown now score ∧ config.Stale now score ∨ config.Fresh now score := by
  by_cases hbound : score ≤ config.staleBefore now
  · simp only [Config.Stale, Config.Fresh, hbound, Int64.not_lt.mpr hbound, and_true, and_false,
      or_false, Shown]
    exact ⟨fun h => ⟨h, h.1⟩, And.left⟩
  · simp only [Config.Stale, Config.Fresh, hbound, Int64.not_le.mp hbound, and_true, and_false,
      false_or]

/-- Where nothing overflows a listing reaches farther than the bound of a sweep. -/
theorem Config.Stale.shown (h : config.Stale now score) (hfits : config.Fits now) :
    Shown now score := by
  have hle := Int64.le_iff_toInt_le.mp h.2
  rw [staleBefore_toInt hfits] at hle
  exact ⟨h.1, by omega⟩

/-! ## The two parts of a listing -/

/-- A listing in two parts: what a sweep at the same time takes, and what it leaves. -/
structure Divides (config : Config) (now : Int64) (scores : String → Option Int64)
    (stale fresh : List String) : Prop where
  stale : Lists scores (fun score => Shown now score ∧ config.Stale now score) stale
  fresh : Lists scores (config.Fresh now) fresh

theorem Divides.shown {scores : String → Option Int64} {stale fresh : List String}
    (h : Divides config now scores stale fresh) : Lists scores (Shown now) (stale ++ fresh) := by
  refine (h.stale.append h.fresh fun x y hx hy => ?_).congr fun _ => shown_iff.symm
  exact Int64.lt_of_le_of_lt hx.2.2 hy.2

/-- **Stale members stand in front.** -/
theorem listing_parts (config : Config) (h : now.toInt + 100000 ≤ Int64.maxValue.toInt)
    (s : MemoryStore) : ∃ stale fresh,
      (listMembers config now).run MemoryStore.store s = (.ok (stale ++ fresh), s) ∧
        Divides config now (s.score? config.pool) stale fresh := by
  obtain ⟨names, hrun, hnames⟩ := run_listMembers config h s
  obtain ⟨stale, hstale⟩ := (s.members config.pool).exists_lists
    (fun score => Shown now score ∧ config.Stale now score)
  obtain ⟨fresh, hfresh⟩ := (s.members config.pool).exists_lists (config.Fresh now)
  have hparts : Divides config now (s.score? config.pool) stale fresh := ⟨hstale, hfresh⟩
  exact ⟨stale, fresh, hnames.unique hparts.shown ▸ hrun, hparts⟩

/-! ## What becomes of the members that are listed -/

section

variable {s : MemoryStore} {member : String} {name : Option String}

/-- A stale member is removed by every pass that does not renew its record. -/
theorem score?_stale (hname : name ≠ some member)
    (hscore : s.score? config.pool member = some score) (h : config.Stale now score) :
    ((pass config name now).run MemoryStore.store s).2.score? config.pool member = none := by
  rw [Config.Stale] at h
  simp [score?_pass, heartbeat, hname, hscore, Option.filter, h]

/-- A fresh member is left alone by every pass that does not renew its record. -/
theorem score?_fresh (hname : name ≠ some member)
    (hscore : s.score? config.pool member = some score) (h : config.Fresh now score) :
    ((pass config name now).run MemoryStore.store s).2.score? config.pool member = some score := by
  have hstale : ¬(0 ≤ score ∧ score ≤ config.staleBefore now) :=
    fun hin => Int64.not_lt.mpr hin.2 h.2
  simp only [score?_pass, heartbeat, hname, if_false, hscore, Option.filter, hstale, decide_false,
    Bool.not_false, if_true]

end

/-- What a pass makes of the members that a listing shows before it. -/
structure Treats (config : Config) (now : Int64) (name : Option String) (stale fresh : List String)
    (s s' : MemoryStore) : Prop where
  stale : ∀ member ∈ stale, name ≠ some member → s'.score? config.pool member = none
  fresh : ∀ member ∈ fresh, name ≠ some member →
    s'.score? config.pool member = s.score? config.pool member
  own : ∀ member, name = some member →
    s'.score? config.pool member = if config.Stale now now then none else some now

theorem Divides.treats {stale fresh : List String} {s : MemoryStore}
    (h : Divides config now (s.score? config.pool) stale fresh) (name : Option String) :
    Treats config now name stale fresh s ((pass config name now).run MemoryStore.store s).2 where
  stale member hmem hname := by
    obtain ⟨score, hscore, -, hstale⟩ := (h.stale.mem member).mp hmem
    exact score?_stale hname hscore hstale
  fresh member hmem hname := by
    obtain ⟨score, hscore, hfresh⟩ := (h.fresh.mem member).mp hmem
    exact (score?_fresh hname hscore hfresh).trans hscore.symm
  own member hname := by
    subst hname
    exact score?_own_pass config member now s

/-- Where nothing overflows a pass without a name reports the stale part. -/
theorem Divides.report {stale fresh : List String} {s : MemoryStore}
    (h : Divides config now (s.score? config.pool) stale fresh) (hfits : config.Fits now) :
    ((pass config none now).run MemoryStore.store s).1 =
      .ok ⟨now, config.staleBefore now, stale, stale.length⟩ := by
  have hswept := beaten_lists config none now s
  have hstale : Lists (s.score? config.pool) (config.Stale now) stale :=
    h.stale.congr fun _ => ⟨And.right, fun hin => ⟨hin.shown hfits, hin⟩⟩
  rw [run_pass, hstale.unique hswept]

/-- Behind a pass without a name a listing shows the fresh part. -/
theorem Divides.lists_left {stale fresh : List String} {s : MemoryStore}
    (h : Divides config now (s.score? config.pool) stale fresh) :
    Lists (((pass config none now).run MemoryStore.store s).2.score? config.pool) (Shown now)
      fresh := by
  refine h.fresh.transport fun member score => ?_
  rw [score?_pass, Option.filter_eq_some_iff, Bool.not_eq_true', decide_eq_false_iff_not]
  -- of the scores that are shown, those that the sweep leaves are the fresh ones
  have hfresh : config.Fresh now score ↔
      ¬(0 ≤ score ∧ score ≤ config.staleBefore now) ∧ Shown now score := by
    rw [Config.Fresh, and_comm, ← Int64.not_le]
    exact and_congr_left fun hshown => (not_congr (and_iff_right hshown.1)).symm
  rw [hfresh, and_assoc]
  rfl

/-- **A listing against the sweep.** A listing at `now` shows the members scored from zero
to its horizon, by score and then by name: first those at or below the bound of a sweep at
`now`, then those above it. Any pass at `now` removes the former and leaves the latter as
they are; only the record of its own node is renewed first. Where the bound does not
overflow, a pass without a name reports exactly the former, and a listing behind it shows
exactly the latter. So a listing names nobody that the pass removes just when no member
is stale. -/
theorem listing_divides (config : Config) (now : Int64)
    (h : now.toInt + 100000 ≤ Int64.maxValue.toInt) (s : MemoryStore) : ∃ stale fresh,
      (listMembers config now).run MemoryStore.store s = (.ok (stale ++ fresh), s) ∧
      Divides config now (s.score? config.pool) stale fresh ∧
      (∀ name, ∃ report s', (pass config name now).run MemoryStore.store s = (.ok report, s') ∧
        Treats config now name stale fresh s s') ∧
      (config.Fits now → ∃ s',
        (pass config none now).run MemoryStore.store s =
          (.ok ⟨now, config.staleBefore now, stale, stale.length⟩, s') ∧
        (listMembers config now).run MemoryStore.store s' = (.ok fresh, s') ∧
        ((∀ member ∈ stale ++ fresh, s'.score? config.pool member ≠ none) ↔ stale = [])) := by
  obtain ⟨stale, fresh, hlisting, hparts⟩ := listing_parts config h s
  refine ⟨stale, fresh, hlisting, hparts, fun name => ?_, fun hfits => ?_⟩
  · have htreats := hparts.treats name
    rw [run_pass] at htreats
    exact ⟨_, _, run_pass config name now s, htreats⟩
  · obtain ⟨names, hrun, hnames⟩ := run_listMembers config h
      ((pass config none now).run MemoryStore.store s).2
    have htreats := hparts.treats none
    refine ⟨_, Prod.ext (hparts.report hfits) rfl, hnames.unique hparts.lists_left ▸ hrun, ?_, ?_⟩
    · intro hkept
      refine List.eq_nil_iff_forall_not_mem.mpr fun member hmem => ?_
      exact hkept member (List.mem_append_left _ hmem)
        (htreats.stale member hmem (Option.some_ne_none member).symm)
    · rintro rfl member hmem hnone
      rw [List.nil_append] at hmem
      obtain ⟨score, hscore, -⟩ := (hparts.fresh.mem member).mp hmem
      rw [htreats.fresh member hmem (Option.some_ne_none member).symm, hscore] at hnone
      cases hnone

theorem listing_divides_aged : ∃ stale fresh,
    (listMembers { interval := 20 } 100).run MemoryStore.store aged = (.ok (stale ++ fresh), aged) ∧
      stale = ["under", "on"] ∧ fresh = ["over"] := by
  obtain ⟨stale, fresh, hlisting, -, -, hquiet⟩ := listing_divides { interval := 20 } 100
    (by decide) aged
  obtain ⟨s', hpass, -⟩ := hquiet (by decide)
  have hreport : ((pass { interval := 20 } none 100).run MemoryStore.store aged).1 =
      .ok ⟨100, 60, ["under", "on"], 2⟩ := by decide +kernel
  have hshown : ((listMembers { interval := 20 } 100).run MemoryStore.store aged).1 =
      .ok ["under", "on", "over"] := by decide +kernel
  rw [hpass] at hreport
  rw [hlisting] at hshown
  have hstale : stale = ["under", "on"] := by cases hreport; rfl
  subst hstale
  exact ⟨_, fresh, hlisting, rfl, List.append_cancel_left (Except.ok.inj hshown)⟩

/-- **A stale member is listed.** A worker has joined and fallen silent; when no node has
swept for a hundred seconds a listing still names it, though a sweep would remove it. -/
theorem silent_worker_listed : ∃ n s,
    Node.join MemoryStore.store (.worker "w") {} 1000 {} = (.ok n, s) ∧
      Config.Fits {} 100000 ∧
      (listMembers {} 100000).run MemoryStore.store s = (.ok ["w"], s) ∧
      ∃ report s', (pass {} none 100000).run MemoryStore.store s = (.ok report, s') ∧
        report.stale = ["w"] ∧ s'.score? "bidderspool" "w" = none := by
  refine ⟨_, _, rfl, by decide, ?_, _, _, rfl, ?_, ?_⟩
  · rfl
  · decide +kernel
  · decide +kernel

end BidFleet.Pool
