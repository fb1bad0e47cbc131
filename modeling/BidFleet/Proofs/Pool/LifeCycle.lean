import BidFleet.Pool.Members
import BidFleet.Proofs.Pool.Steps

/-!
The life cycle of a node. Over any store, with any answers, and under any schedule
of ticks, calls and shutdown signals, a node is in one of four stages, and its
stage fixes the calls that it has made, the state that it publishes and what its
first pass told whoever waits for it (`Stage`). A run keeps to the stages
(`stage_run`), and `node_life_cycle` draws the conclusions: a failed call is the
last one, it alone terminates the node and gives the text, only a shutdown stops
it, and a final state stays.
-/

namespace BidFleet.Pool

/-! ## Recorded calls -/

/-- A call that was made, and its error if it failed. -/
structure Answered where
  call : Call
  error? : Option Error
  deriving DecidableEq, Repr

/-- A store and all calls that were made on it, the latest last. -/
structure Recorded (σ : Type) where
  inner : σ
  calls : List Answered := []

namespace Recorded

/-- The error of an answer, if it is one. -/
def fault? {α : Type} : Except Error α → Option Error
  | .ok _ => none
  | .error e => some e

/-- The store that records its calls. -/
def store {σ : Type} (store : Store σ) : Store (Recorded σ) := fun c s =>
  ((store c s.inner).1,
    ⟨(store c s.inner).2, s.calls ++ [⟨c, fault? (store c s.inner).1⟩]⟩)

/-- Recording changes nothing about a task. -/
theorem run_store {σ α : Type} {store : Store σ} (t : Task storeCalls α) (s : Recorded σ) :
    (t.run (Recorded.store store) s).1 = (t.run store s.inner).1 := by
  induction t generalizing s with
  | done a => rfl
  | ask c go ih => exact ih _ _

end Recorded

/-- Calls that all succeeded. -/
def succeeded (calls : List Call) : List Answered := calls.map (fun c => ⟨c, none⟩)

namespace Node

/-! ## Stages -/

/-- The record of complete passes at these times. -/
def passes (n : Node) (nows : List Int64) : List Answered :=
  nows.flatMap (fun now => succeeded (passCalls n.config n.role.name? now))

/-- The state of a node that is alive after a number of complete passes. -/
def standing : Nat → NodeState
  | 0 => .joining
  | 1 => .ready
  | _ => .running

/-- Where a node stands, and the calls that it has made until then. -/
inductive Stage (n : Node) (log : List Answered) : Prop
  /-- Behind complete passes, the calls of one more have been made in part. -/
  | passing (nows : List Int64) (now : Int64) (made left : List Call)
      (p : Task storeCalls (Except Error Report)) :
      log = n.passes nows ++ succeeded made → n.phase = .passing p →
      passCalls n.config n.role.name? now = made ++ left → left ≠ [] → Makes left p →
      n.state = standing nows.length →
      n.joined = (if nows = [] then none else some (.ok ())) → Stage n log
  /-- At least one complete pass, and none begun behind it. -/
  | resting (nows : List Int64) :
      log = n.passes nows → n.phase = .resting → nows ≠ [] →
      n.state = standing nows.length → n.joined = some (.ok ()) → Stage n log
  /-- A shutdown was heeded behind complete passes. -/
  | stopped (nows : List Int64) :
      log = n.passes nows → n.phase = .ended → nows ≠ [] → n.signalled = true →
      n.state = .stopped → n.joined = some (.ok ()) → Stage n log
  /-- Behind complete passes and a part of one, a call failed. -/
  | terminated (nows : List Int64) (now : Int64) (made left : List Call) (c : Call) (e : Error) :
      log = n.passes nows ++ succeeded made ++ [⟨c, some e⟩] → n.phase = .ended →
      passCalls n.config n.role.name? now = made ++ c :: left →
      n.state = .terminated e.message →
      n.joined = some (if nows = [] then .error e else .ok ()) → Stage n log

theorem standing_alive (k : Nat) : (standing k).alive = standing (k + 1) := by
  match k with
  | 0 => rfl
  | 1 => rfl
  | _ + 2 => rfl

theorem passes_append (n : Node) (nows : List Int64) (now : Int64) :
    n.passes (nows ++ [now]) =
      n.passes nows ++ succeeded (passCalls n.config n.role.name? now) := by
  simp [passes]

/-- A node at the beginning of its first pass. -/
theorem stage_start (role : Role) (config : Config) (now : Int64) :
    (start role config now).Stage [] :=
  .passing [] now [] _ _ rfl rfl rfl (passCalls_ne_nil _ _ _) (makes_pass _ _ _) rfl rfl

/-- A node at rest has made complete passes. -/
theorem stage_resting {n : Node} {log : List Answered} (h : n.Stage log)
    (hp : n.phase = .resting) : ∃ nows, log = n.passes nows ∧ nows ≠ [] ∧
      n.state = standing nows.length ∧ n.joined = some (.ok ()) := by
  cases h with
  | passing _ _ _ _ p _ hpass => rw [hp] at hpass; cases hpass
  | resting nows hlog _ hne hstate hjoined => exact ⟨nows, hlog, hne, hstate, hjoined⟩
  | stopped _ _ hend => rw [hp] at hend; cases hend
  | terminated _ _ _ _ _ _ _ hend => rw [hp] at hend; cases hend

/-- A pass begins behind complete ones. -/
theorem stage_tick {n : Node} {log : List Answered} (h : n.Stage log) (hp : n.phase = .resting)
    (now : Int64) : (n.resume (pass n.config n.role.name? now)).Stage log := by
  obtain ⟨nows, hlog, hne, hstate, hjoined⟩ := stage_resting h hp
  rw [resume_pass]
  refine .passing nows now [] _ _ ?_ rfl rfl (passCalls_ne_nil _ _ _) (makes_pass _ _ _) hstate ?_
  · rw [hlog]; simp [passes, succeeded]
  · rw [hjoined, if_neg hne]

/-- **One call.** It is the next one of the pass, it ends the pass when it fails or
nothing is left behind it, and then it settles the state. -/
theorem stage_call {n : Node} {log : List Answered} (h : n.Stage log) {c : Call}
    {go : Except Error c.Result → Task storeCalls (Except Error Report)}
    (hp : n.phase = .passing (.ask c go)) (x : Except Error c.Result) :
    (n.resume (go x)).Stage (log ++ [⟨c, Recorded.fault? x⟩]) := by
  cases h with
  | resting _ _ hrest => rw [hp] at hrest; cases hrest
  | stopped _ _ hend => rw [hp] at hend; cases hend
  | terminated _ _ _ _ _ _ _ hend => rw [hp] at hend; cases hend
  | passing nows now made left p hlog hpass hcalls _ hmakes hstate hjoined =>
    rw [hp] at hpass
    cases hpass
    cases hmakes with
    | ask _ cs _ hok herr =>
      cases x with
      | error e =>
        rw [herr, resume_error]
        refine .terminated nows now made cs c e ?_ rfl hcalls rfl ?_
        · rw [hlog]; rfl
        · simp only [collapse, hjoined]
          by_cases hnil : nows = [] <;> simp [hnil]
      | ok a =>
        cases cs with
        | nil =>
          rw [resume_makes_nil n (hok a)]
          refine .resting (nows ++ [now]) ?_ rfl (by simp) ?_ ?_
          · have : n.relax.passes (nows ++ [now]) = n.passes (nows ++ [now]) := rfl
            rw [this, passes_append, hlog, hcalls]
            simp [succeeded, Recorded.fault?]
          · simp only [relax, hstate, List.length_append, List.length_singleton, standing_alive]
          · simp only [relax, hjoined]
            by_cases hnil : nows = [] <;> simp [hnil]
        | cons d ds =>
          rw [resume_makes n (hok a)]
          refine .passing nows now (made ++ [c]) (d :: ds) _ ?_ rfl ?_ (by simp) (hok a) hstate
            hjoined
          · rw [hlog]; simp [passes, succeeded, Recorded.fault?]
          · simp only [hcalls, List.append_assoc, List.singleton_append]

theorem stage_signal {n : Node} {log : List Answered} (h : n.Stage log) :
    ({ n with signalled := true } : Node).Stage log := by
  cases h with
  | passing nows now made left p hlog hp hcalls hne hmakes hstate hjoined =>
    exact .passing nows now made left p hlog hp hcalls hne hmakes hstate hjoined
  | resting nows hlog hp hne hstate hjoined => exact .resting nows hlog hp hne hstate hjoined
  | stopped nows hlog hp hne _ hstate hjoined => exact .stopped nows hlog hp hne rfl hstate hjoined
  | terminated nows now made left c e hlog hp hcalls hstate hjoined =>
    exact .terminated nows now made left c e hlog hp hcalls hstate hjoined

theorem stage_heed {n : Node} {log : List Answered} (h : n.Stage log) (hp : n.phase = .resting)
    (hs : n.signalled = true) :
    ({ n with phase := .ended, state := .stopped } : Node).Stage log := by
  obtain ⟨nows, hlog, hne, -, hjoined⟩ := stage_resting h hp
  exact .stopped nows hlog rfl hne hs rfl hjoined

variable {σ : Type} {store : Store σ}

/-- **Step lemma.** -/
theorem stage_next {n n' : Node} {s s' : Recorded σ} {e : Event} (h : n.Stage s.calls)
    (he : e ≠ .abort) (hnext : n.next (Recorded.store store) s e = some (n', s')) :
    n'.Stage s'.calls := by
  cases e with
  | tick now =>
    obtain ⟨hp, rfl, rfl⟩ := next_tick.mp hnext
    exact stage_tick h hp now
  | call =>
    obtain ⟨c, go, hp, rfl, rfl⟩ := next_call.mp hnext
    exact stage_call h hp _
  | signal =>
    obtain ⟨rfl, rfl⟩ := next_signal.mp hnext
    exact stage_signal h
  | heed =>
    obtain ⟨hp, hs, rfl, rfl⟩ := next_heed.mp hnext
    exact stage_heed h hp hs
  | abort => exact absurd rfl he

/-- What every event of a run keeps, the run keeps. -/
theorem run_induction {motive : Node → σ → Prop} {events : List Event} {n n' : Node} {s s' : σ}
    (hstep : ∀ n s e n' s', e ∈ events → motive n s → n.next store s e = some (n', s') →
      motive n' s')
    (h : motive n s) (hrun : run store events n s = some (n', s')) : motive n' s' := by
  induction events generalizing n s with
  | nil => cases hrun; exact h
  | cons e es ih =>
    simp only [run] at hrun
    split at hrun
    · rename_i n₁ s₁ hnext
      exact ih (fun n s e n' s' he => hstep n s e n' s' (List.mem_cons_of_mem _ he))
        (hstep _ _ e _ _ (List.mem_cons_self ..) h hnext) hrun
    · cases hrun

theorem stage_run {n n' : Node} {s s' : Recorded σ} {events : List Event}
    (hevents : .abort ∉ events) (h : n.Stage s.calls)
    (hrun : run (Recorded.store store) events n s = some (n', s')) : n'.Stage s'.calls :=
  run_induction (motive := fun n s => n.Stage s.calls)
    (fun _ _ _ _ _ he h hnext => stage_next h (fun hc => hevents (hc ▸ he)) hnext) h hrun

/-! ## Failed calls -/

theorem error?_succeeded {calls : List Call} {a : Answered} (h : a ∈ succeeded calls) :
    a.error? = none := by
  obtain ⟨c, -, rfl⟩ := List.mem_map.mp h
  rfl

theorem error?_passes {n : Node} {nows : List Int64} {a : Answered} (h : a ∈ n.passes nows) :
    a.error? = none := by
  obtain ⟨now, -, ha⟩ := List.mem_flatMap.mp h
  exact error?_succeeded ha

theorem standing_not_final (k : Nat) : (standing k).isFinal = false := by
  match k with
  | 0 => rfl
  | 1 => rfl
  | _ + 2 => rfl

theorem standing_ne_terminated (k : Nat) (reason : String) : standing k ≠ .terminated reason := by
  intro h
  have hfinal := standing_not_final k
  rw [h] at hfinal
  cases hfinal

/-- A node is terminated by a failed call alone, with the text of its error. -/
theorem terminated_iff {n : Node} {log : List Answered} (h : n.Stage log) (reason : String) :
    n.state = .terminated reason ↔ ∃ a ∈ log, ∃ e, a.error? = some e ∧ e.message = reason := by
  have none_failed : (∀ a ∈ log, a.error? = none) → n.state ≠ .terminated reason →
      (n.state = .terminated reason ↔ ∃ a ∈ log, ∃ e, a.error? = some e ∧ e.message = reason) := by
    intro hlog hstate
    refine ⟨fun he => absurd he hstate, ?_⟩
    rintro ⟨a, ha, e, he, -⟩
    rw [hlog a ha] at he
    cases he
  cases h with
  | passing nows now made left p hlog _ _ _ _ hstate _ =>
    refine none_failed ?_ (hstate ▸ standing_ne_terminated _ reason)
    intro a ha
    rw [hlog] at ha
    rcases List.mem_append.mp ha with ha | ha
    · exact error?_passes ha
    · exact error?_succeeded ha
  | resting nows hlog _ _ hstate _ =>
    exact none_failed (fun a ha => error?_passes (hlog ▸ ha))
      (hstate ▸ standing_ne_terminated _ reason)
  | stopped nows hlog _ _ _ hstate _ =>
    exact none_failed (fun a ha => error?_passes (hlog ▸ ha)) (by rw [hstate]; simp)
  | terminated nows now made left c e hlog _ _ hstate _ =>
    rw [hstate, hlog]
    constructor
    · intro he
      cases he
      exact ⟨⟨c, some e⟩, by simp, e, rfl, rfl⟩
    · rintro ⟨a, ha, e', he', rfl⟩
      rcases List.mem_append.mp ha with ha | ha
      · rcases List.mem_append.mp ha with ha | ha
        · rw [error?_passes ha] at he'; cases he'
        · rw [error?_succeeded ha] at he'; cases he'
      · rw [List.mem_singleton.mp ha] at he'
        cases he'
        rfl

/-! ## Final states -/

theorem ended_of_final {n : Node} {log : List Answered} (h : n.Stage log)
    (hfinal : n.state.isFinal = true) : n.phase = .ended := by
  cases h with
  | passing _ _ _ _ _ _ _ _ _ _ hstate _ =>
    rw [hstate, standing_not_final] at hfinal; cases hfinal
  | resting _ _ _ _ hstate _ => rw [hstate, standing_not_final] at hfinal; cases hfinal
  | stopped _ _ hend => exact hend
  | terminated _ _ _ _ _ _ _ hend => exact hend

/-- A node that has ended does nothing any more. -/
theorem next_ended {n n' : Node} {s s' : σ} {e : Event} (hp : n.phase = .ended)
    (he : e ≠ .abort) (h : n.next store s e = some (n', s')) :
    n'.phase = .ended ∧ n'.state = n.state ∧ s' = s := by
  cases e with
  | tick now =>
    have hrest := (next_tick.mp h).1
    rw [hp] at hrest; cases hrest
  | call =>
    obtain ⟨c, go, hpass, -⟩ := next_call.mp h
    rw [hp] at hpass; cases hpass
  | signal =>
    obtain ⟨rfl, rfl⟩ := next_signal.mp h
    exact ⟨hp, rfl, rfl⟩
  | heed =>
    have hrest := (next_heed.mp h).1
    rw [hp] at hrest; cases hrest
  | abort => exact absurd rfl he

theorem run_ended {n n' : Node} {s s' : σ} {events : List Event} (hevents : .abort ∉ events)
    (hp : n.phase = .ended) (hrun : run store events n s = some (n', s')) :
    n'.state = n.state ∧ s' = s := by
  have h := run_induction
    (motive := fun m t => m.phase = .ended ∧ m.state = n.state ∧ t = s)
    (fun m t e m' t' he ⟨hend, hstate, heq⟩ hnext => by
      obtain ⟨h₁, h₂, h₃⟩ := next_ended hend (fun hc => hevents (hc ▸ he)) hnext
      exact ⟨h₁, h₂.trans hstate, h₃.trans heq⟩)
    ⟨hp, rfl, rfl⟩ hrun
  exact h.2

/-- The end of a pass stops no node. -/
theorem resume_stopped {n : Node} {p : Task storeCalls (Except Error Report)}
    (h : (n.resume p).state = .stopped) : n.state = .stopped := by
  cases p with
  | ask c go => exact h
  | done r =>
    cases r with
    | error e => cases h
    | ok a =>
      have h : n.state.alive = .stopped := h
      cases hs : n.state <;> rw [hs] at h <;> first | rfl | cases h

/-- One event stops a node exactly when it heeds the shutdown. -/
theorem next_stopped {n n' : Node} {s s' : Recorded σ} {e : Event} (h : n.Stage s.calls)
    (he : e ≠ .abort) (hnext : n.next (Recorded.store store) s e = some (n', s')) :
    n'.state = .stopped ↔ n.state = .stopped ∨ e = .heed := by
  constructor
  · intro hstate
    cases e with
    | tick now =>
      obtain ⟨-, rfl, -⟩ := next_tick.mp hnext
      exact .inl (resume_stopped hstate)
    | call =>
      obtain ⟨c, go, -, rfl, -⟩ := next_call.mp hnext
      exact .inl (resume_stopped hstate)
    | signal =>
      obtain ⟨rfl, -⟩ := next_signal.mp hnext
      exact .inl hstate
    | heed => exact .inr rfl
    | abort => exact absurd rfl he
  · rintro (hstate | rfl)
    · have hend := ended_of_final h (by rw [hstate]; rfl)
      rw [(next_ended hend he hnext).2.1, hstate]
    · obtain ⟨-, -, rfl, -⟩ := next_heed.mp hnext
      rfl

theorem run_stopped {events : List Event} {n n' : Node} {s s' : Recorded σ} (h : n.Stage s.calls)
    (hevents : .abort ∉ events) (hrun : run (Recorded.store store) events n s = some (n', s')) :
    n'.state = .stopped ↔ n.state = .stopped ∨ .heed ∈ events := by
  induction events generalizing n s with
  | nil => cases hrun; simp
  | cons e es ih =>
    have he : e ≠ .abort := fun hc => hevents (hc ▸ List.mem_cons_self ..)
    have hes : .abort ∉ es := fun hm => hevents (List.mem_cons_of_mem _ hm)
    simp only [run] at hrun
    split at hrun
    · rename_i n₁ s₁ hnext
      rw [ih (stage_next h he hnext) hes hrun, next_stopped h he hnext, List.mem_cons, or_assoc,
        eq_comm (a := Event.heed)]
    · cases hrun

/-- A node keeps its role and its settings. -/
theorem resume_role (n : Node) (p : Task storeCalls (Except Error Report)) :
    (n.resume p).role = n.role ∧ (n.resume p).config = n.config := by
  cases p with
  | ask c go => exact ⟨rfl, rfl⟩
  | done r => cases r <;> exact ⟨rfl, rfl⟩

theorem next_role {n n' : Node} {s s' : σ} {e : Event} (h : n.next store s e = some (n', s')) :
    n'.role = n.role ∧ n'.config = n.config := by
  cases e with
  | tick now =>
    obtain ⟨-, rfl, -⟩ := next_tick.mp h
    exact resume_role _ _
  | call =>
    obtain ⟨c, go, -, rfl, -⟩ := next_call.mp h
    exact resume_role _ _
  | signal =>
    obtain ⟨rfl, -⟩ := next_signal.mp h
    exact ⟨rfl, rfl⟩
  | heed =>
    obtain ⟨-, -, rfl, -⟩ := next_heed.mp h
    exact ⟨rfl, rfl⟩
  | abort =>
    obtain ⟨rfl, -⟩ := next_abort.mp h
    exact ⟨rfl, rfl⟩

/-! ## Joining -/

/-- What the first pass has told, or what is left of it to be told. -/
def Tells (store : Store σ) (first : Except Error Report) (n : Node) (s : σ) : Prop :=
  match n.joined with
  | some r => first.map (fun _ => ()) = r
  | none => ∃ p, n.phase = .passing p ∧ (p.run store s).1 = first

theorem tells_resume {first : Except Error Report} {n : Node} {s s' : σ} {c : Call}
    {go : Except Error c.Result → Task storeCalls (Except Error Report)}
    (h : Tells store first n s) (hp : n.phase = .passing (.ask c go))
    (hs : s' = (store c s).2) : Tells store first (n.resume (go (store c s).1)) s' := by
  subst hs
  cases hj : n.joined with
  | some r =>
    simp only [Tells, hj] at h
    cases go (store c s).1 with
    | ask c' go' => simpa [Tells, resume, hj] using h
    | done x => cases x <;> simpa [Tells, resume, conclude, hj] using h
  | none =>
    simp only [Tells, hj] at h
    obtain ⟨p, hpass, hfirst⟩ := h
    rw [hp] at hpass
    cases hpass
    have hfirst : ((go (store c s).1).run store (store c s).2).1 = first := hfirst
    cases hgo : go (store c s).1 with
    | ask c' go' =>
      rw [hgo] at hfirst
      simpa [Tells, resume, hj] using hfirst
    | done x =>
      rw [hgo] at hfirst
      have hfirst : x = first := hfirst
      subst hfirst
      cases x <;> simp [Tells, resume, conclude, hj, Except.map]

theorem tells_next {first : Except Error Report} {n n' : Node} {s s' : σ} {e : Event}
    (h : Tells store first n s) (he : e ≠ .abort) (hnext : n.next store s e = some (n', s')) :
    Tells store first n' s' := by
  -- a node that rests has told how its first pass ended
  have told : n.phase = .resting → ∃ r, n.joined = some r ∧ first.map (fun _ => ()) = r := by
    intro hp
    cases hj : n.joined with
    | some r => simp only [Tells, hj] at h; exact ⟨r, rfl, h⟩
    | none =>
      simp only [Tells, hj] at h
      obtain ⟨p, hpass, -⟩ := h
      rw [hp] at hpass; cases hpass
  cases e with
  | tick now =>
    obtain ⟨hp, rfl, rfl⟩ := next_tick.mp hnext
    obtain ⟨r, hj, hr⟩ := told hp
    rw [resume_pass]
    simpa [Tells, hj] using hr
  | call =>
    obtain ⟨c, go, hp, rfl, rfl⟩ := next_call.mp hnext
    exact tells_resume h hp rfl
  | signal =>
    obtain ⟨rfl, rfl⟩ := next_signal.mp hnext
    exact h
  | heed =>
    obtain ⟨hp, -, rfl, rfl⟩ := next_heed.mp hnext
    obtain ⟨r, hj, hr⟩ := told hp
    simpa [Tells, hj] using hr
  | abort => exact absurd rfl he

/-- Joining succeeds exactly when the first pass does, and fails with its error. -/
theorem join_eq (role : Role) (config : Config) (now : Int64) (s : σ) :
    (join store role config now s).1.map (fun _ => ()) =
      ((pass config role.name? now).run store s).1.map (fun _ => ()) := by
  simp only [join, finishPass, start]
  cases ((pass config role.name? now).run store s).1 <;> rfl

/-- A node has joined when its first pass has succeeded, and is then at the end of it. -/
theorem join_eq_ok_iff {role : Role} {config : Config} {now : Int64} {n : Node} {s s' : σ} :
    join store role config now s = (.ok n, s') ↔
      ∃ report, (pass config role.name? now).run store s = (.ok report, s') ∧
        n = (start role config now).conclude (.ok report) := by
  simp only [join, finishPass, start]
  cases (pass config role.name? now).run store s with
  | mk answer reached =>
  cases answer with
  | error e => simp [conclude]
  | ok report => simp [conclude, and_comm, eq_comm]

/-! ## The life cycle -/

/-- **Life cycle of a node.** Whatever the store answers and in whatever order ticks,
calls and shutdown signals come, a node is in one of the stages: it has made complete
passes and then nothing, a part of one, or a part of one whose last call failed, and
its state is the one of its stage. A failed call alone terminates it, with the text of
that call's error; it is stopped exactly when it heeded a shutdown; a final state is
never left, and no call is made in it. What the first pass tells is what joining
returns. -/
theorem node_life_cycle (store : Store σ) (role : Role) (config : Config) (now : Int64) (s₀ : σ)
    {events : List Event} {n : Node} {s : Recorded σ} (hevents : .abort ∉ events)
    (hrun : run (Recorded.store store) events (start role config now) ⟨s₀, []⟩ = some (n, s)) :
    n.role = role ∧ n.config = config ∧ n.Stage s.calls ∧
      (∀ reason, n.state = .terminated reason ↔
        ∃ a ∈ s.calls, ∃ e, a.error? = some e ∧ e.message = reason) ∧
      (n.state = .stopped ↔ .heed ∈ events) ∧
      (n.state.isFinal = true → ∀ more n' s', .abort ∉ more →
        run (Recorded.store store) more n s = some (n', s') → n'.state = n.state ∧ s' = s) ∧
      (∀ r, n.joined = some r → (join store role config now s₀).1.map (fun _ => ()) = r) := by
  have hstart : (start role config now).Stage ([] : List Answered) := stage_start role config now
  have hstage := stage_run hevents hstart hrun
  have hrole : n.role = role ∧ n.config = config :=
    run_induction (motive := fun n _ => n.role = role ∧ n.config = config)
      (fun _ _ _ _ _ _ h hnext => by
        obtain ⟨hr, hc⟩ := next_role hnext
        exact ⟨hr.trans h.1, hc.trans h.2⟩)
      ⟨rfl, rfl⟩ hrun
  let first := ((pass config role.name? now).run (Recorded.store store) ⟨s₀, []⟩).1
  have hbegin : Tells (Recorded.store store) first (start role config now) ⟨s₀, []⟩ := by
    exact ⟨_, rfl, rfl⟩
  have htells : Tells (Recorded.store store) first n s :=
    run_induction
      (fun _ _ _ _ _ he h hnext => tells_next h (fun hc => hevents (hc ▸ he)) hnext) hbegin hrun
  refine ⟨hrole.1, hrole.2, hstage, terminated_iff hstage, ?_, ?_, ?_⟩
  · rw [run_stopped hstart hevents hrun]
    simp [start]
  · intro hfinal more n' s' hmore hrun'
    exact run_ended hmore (ended_of_final hstage hfinal) hrun'
  · intro r hj
    have hfirst : first = ((pass config role.name? now).run store s₀).1 :=
      Recorded.run_store _ _
    rw [join_eq, ← hfirst]
    simpa only [Tells, hj] using htells

/-- A worker whose store fails from the fifth call on. -/
def cutShort : Option (Node × Recorded (Failing MemoryStore)) :=
  run (Recorded.store (Failing.store MemoryStore.store))
    [.call, .call, .call, .tick 150, .call, .signal, .call]
    (start (.worker "a") {} 100) ⟨⟨{}, some 4, .storeUnavailable "connection refused"⟩, []⟩

/-- A failure in the second pass, behind a heartbeat that still succeeded. -/
theorem node_life_cycle_cut_short : ∃ n s, cutShort = some (n, s) ∧ n.Stage s.calls ∧
    n.state = .terminated "Membership store unavailable: connection refused" ∧
    s.calls.map (·.error?.isSome) = [false, false, false, false, true] := by
  have hsome : cutShort.isSome = true := by decide +kernel
  obtain ⟨⟨n, s⟩, hrun⟩ := Option.isSome_iff_exists.mp hsome
  have hcalls : cutShort.map (fun x => x.2.calls) = some [
      ⟨.upsert "bidderspool" "a" 100, none⟩, ⟨.range "bidderspool" 0 (-59900), none⟩,
      ⟨.removeRange "bidderspool" 0 (-59900), none⟩, ⟨.upsert "bidderspool" "a" 150, none⟩,
      ⟨.range "bidderspool" 0 (-59850), some (.storeUnavailable "connection refused")⟩] := by
    decide +kernel
  rw [hrun, Option.map_some, Option.some.injEq] at hcalls
  obtain ⟨-, -, hstage, hterminated, -⟩ := node_life_cycle _ _ _ _ _ (by decide) hrun
  refine ⟨n, s, hrun, hstage, (hterminated _).mpr ?_, by rw [hcalls]; rfl⟩
  rw [hcalls]
  exact ⟨⟨.range "bidderspool" 0 (-59850), some (.storeUnavailable "connection refused")⟩, by simp,
    .storeUnavailable "connection refused", rfl, rfl⟩

end Node

end BidFleet.Pool
