import BidFleet.Proofs.Pool.Fleet
import BidFleet.Proofs.Pool.Sweeping

/-!
Live workers survive every sweep. The bound of a sweep is fixed when its pass
begins, and the sweep may be made much later, between calls of other nodes. The
invariant `Sound` compares what is written down with all passes in flight: a pass
began with a reading near the common time, so its bound lies two intervals less
the skew behind that time, whenever its calls are made. `live_worker_survives`
follows: between its first heartbeat and the time at which the latest one may be
too old, a worker that keeps its pace is in the pool with its latest score.
-/

namespace BidFleet.Pool

/-! ## Heartbeats -/

/-- A heartbeat that took effect. -/
structure Beat where
  score : Int64
  /-- When the pass of the heartbeat began. -/
  begun : Int
  time : Int
  deriving DecidableEq, Repr

/-- The heartbeat of `worker` in `pool` that an effect is, if it is one. -/
def Effect.beat? (pool worker : String) (e : Effect) : Option Beat :=
  match e.call with
  | .upsert set member score =>
    if set = pool ∧ member = worker then some ⟨score, e.begun, e.time⟩ else none
  | _ => none

/-- The heartbeats of a worker that took effect, the latest first. -/
def Ledger.beats (l : Ledger) (pool worker : String) : List Beat :=
  l.effects.filterMap (Effect.beat? pool worker)

/-- Every heartbeat took effect less than `span` after the beginning of the pass
of the one before it. -/
def Prompt (span : Int) : List Beat → Prop
  | later :: earlier :: rest => later.time < earlier.begun + span ∧ Prompt span (earlier :: rest)
  | _ => True

theorem Prompt.next_lt {span : Int} {b : Beat} {rest : List Beat} {newer : List Beat}
    (h : Prompt span (newer ++ b :: rest)) (hne : newer ≠ []) :
    ∃ c ∈ newer, c.time < b.begun + span := by
  induction newer with
  | nil => exact absurd rfl hne
  | cons c cs ih =>
    cases cs with
    | nil => exact ⟨c, List.mem_cons_self .., h.1⟩
    | cons d ds =>
      obtain ⟨e, he, hlt⟩ := ih h.2 (by simp)
      exact ⟨e, List.mem_cons_of_mem _ he, hlt⟩

/-! ## Regimes -/

/-- What the nodes of a fleet have in common: the pool, the interval, and how far
their clocks may be from the common time. -/
structure Regime where
  pool : String
  interval : UInt64
  skew : Int
  fits : 2 * (interval.toNat : Int) ≤ Int64.maxValue.toInt

namespace Regime

/-- How long after the beginning of its pass a heartbeat keeps a worker alive. -/
def span (r : Regime) : Int := 2 * r.interval.toNat - 2 * r.skew

/-- A reading of a clock at a time: near it, and large enough for the words. -/
structure Reads (r : Regime) (time : Int) (now : Int64) : Prop where
  lower : time - r.skew ≤ now.toInt
  upper : now.toInt ≤ time + r.skew
  fits : Int64.minValue.toInt ≤ now.toInt - 2 * r.interval.toNat

instance (r : Regime) (time : Int) (now : Int64) : Decidable (r.Reads time now) :=
  decidable_of_iff (time - r.skew ≤ now.toInt ∧ now.toInt ≤ time + r.skew ∧
      Int64.minValue.toInt ≤ now.toInt - 2 * r.interval.toNat)
    ⟨fun ⟨lower, upper, fits⟩ => ⟨lower, upper, fits⟩,
      fun ⟨lower, upper, fits⟩ => ⟨lower, upper, fits⟩⟩

/-- Moves of a fleet in which nobody but nodes writes about `worker` or sweeps. -/
def Admits (r : Regime) (worker : String) (f : Fleet) : Fleet.Move → Prop
  | .elapse _ => True
  | .enter _ config now =>
    config.pool = r.pool ∧ config.interval = r.interval ∧ r.Reads f.time now
  | .act _ (.tick now) _ => r.Reads f.time now
  | .act _ _ _ => True
  | .operate c _ => c.spares r.pool worker

instance (r : Regime) (worker : String) (f : Fleet) :
    (m : Fleet.Move) → Decidable (r.Admits worker f m)
  | .elapse _ => .isTrue trivial
  | .enter .. => inferInstanceAs (Decidable (_ ∧ _ ∧ _))
  | .act _ (.tick _) _ => inferInstanceAs (Decidable (r.Reads _ _))
  | .act _ .call _ | .act _ .signal _ | .act _ .heed _ | .act _ .abort _ => .isTrue trivial
  | .operate c _ => inferInstanceAs (Decidable (c.spares _ _))

end Regime

variable {r : Regime} {worker : String}

/-! ## The invariant -/

/-- A node of the regime, with the calls that are left of its pass in flight. -/
structure Regime.Keeps (r : Regime) (st : Station) : Prop where
  pool : st.node.config.pool = r.pool
  interval : st.node.config.interval = r.interval
  passing : ∀ p, st.node.phase = .passing p → ∃ now made left, r.Reads st.begun now ∧
    passCalls st.node.config st.node.role.name? now = made ++ left ∧ Makes left p

/-- The latest heartbeat of the worker is near the beginning of its pass, and while
it is young enough its score is in the store. -/
def Regime.Guards (r : Regime) (worker : String) (time : Int) (l : Ledger) : Prop :=
  ∀ b rest, l.beats r.pool worker = b :: rest → b.begun - r.skew ≤ b.score.toInt ∧
    (time < b.begun + r.span → l.store.score? r.pool worker = some b.score)

/-- What holds of every fleet of a regime. -/
structure Regime.Sound (r : Regime) (worker : String) (f : Fleet) : Prop where
  keeps : ∀ st ∈ f.stations, r.Keeps st ∧ st.begun ≤ f.time
  guards : r.Guards worker f.time f.ledger

/-- The guarantee only weakens as time goes on. -/
theorem Regime.Guards.later {time later : Int} {l : Ledger} (h : r.Guards worker time l)
    (hle : time ≤ later) : r.Guards worker later l := by
  intro b rest hb
  obtain ⟨hscore, hin⟩ := h b rest hb
  exact ⟨hscore, fun hlt => hin (by omega)⟩

theorem beats_spares {c : Call} {pool : String} (h : c.spares pool worker) (begun time : Int)
    (s : MemoryStore) (l : Ledger) :
    (⟨s, ⟨c, begun, time⟩ :: l.effects⟩ : Ledger).beats pool worker = l.beats pool worker := by
  have : Effect.beat? pool worker ⟨c, begun, time⟩ = none := by
    cases c with
    | upsert set member score =>
      have : ¬(set = pool ∧ member = worker) := fun he => h ⟨he.1.symm, he.2.symm⟩
      simp [Effect.beat?, this]
    | range set low high => rfl
    | removeRange set low high => rfl
    | remove set member => rfl
  simp [Ledger.beats, this]

/-- Calls that spare the worker keep the guarantee. -/
theorem Regime.Guards.spares {begun time : Int} {l : Ledger} (h : r.Guards worker time l)
    {c : Call} (hc : c.spares r.pool worker) (fault : Option Error) :
    r.Guards worker time (Ledger.calls begun time fault c l).2 := by
  rcases Fleet.calls_ledger begun time fault c l with he | he
  · rw [he]; exact h
  · rw [he]
    intro b rest hb
    rw [beats_spares hc] at hb
    rw [MemoryStore.score?_store _ hc]
    exact h b rest hb

/-- A heartbeat sets up the guarantee anew. -/
theorem Regime.Guards.beat {begun time : Int} {l : Ledger} (h : r.Guards worker time l)
    {now : Int64} (hnow : r.Reads begun now) (fault : Option Error) :
    r.Guards worker time (Ledger.calls begun time fault (.upsert r.pool worker now) l).2 := by
  rcases Fleet.calls_ledger begun time fault (.upsert r.pool worker now) l with he | he
  · rw [he]; exact h
  · rw [he]
    intro b rest hb
    simp only [Ledger.beats, List.filterMap_cons, Effect.beat?, and_self, if_true,
      List.cons.injEq] at hb
    obtain ⟨rfl, -⟩ := hb
    refine ⟨hnow.lower, fun _ => ?_⟩
    rw [MemoryStore.score?_upsert, if_pos ⟨rfl, rfl⟩]

/-- **A sweep in flight.** Its bound lies so far behind the present that the worker
is not in its range, although the clock was read long before. -/
theorem Regime.Guards.sweep {begun time : Int} {l : Ledger} (h : r.Guards worker time l)
    (hbegun : begun ≤ time) {config : Config} (hi : config.interval = r.interval) {now : Int64}
    (hnow : r.Reads begun now) (fault : Option Error) :
    r.Guards worker time
      (Ledger.calls begun time fault (.removeRange r.pool 0 (config.staleBefore now)) l).2 := by
  rcases Fleet.calls_ledger begun time fault
    (.removeRange r.pool 0 (config.staleBefore now)) l with he | he
  · rw [he]; exact h
  · rw [he]
    intro b rest hb
    have hbeats : l.beats r.pool worker = b :: rest := hb
    obtain ⟨hscore, hin⟩ := h b rest hbeats
    refine ⟨hscore, fun hlt => ?_⟩
    have hbound : (config.staleBefore now).toInt = now.toInt - 2 * config.interval.toNat :=
      staleBefore_toInt (by rw [Config.Fits, hi]; exact hnow.fits)
    have hupper := hnow.upper
    -- the bound is below the score, since the pass began before now
    have hless : (config.staleBefore now).toInt < b.score.toInt := by
      rw [hbound, hi]
      simp only [Regime.span] at hlt
      omega
    have hout : Members.within 0 (config.staleBefore now) (worker, b.score) = false := by
      have : ¬b.score ≤ config.staleBefore now := by rw [Int64.le_iff_toInt_le]; omega
      simp [Members.within, this]
    rw [MemoryStore.score?_removeRange, if_pos rfl, hin hlt]
    simp [Option.filter, hout]

/-- Every call of a pass keeps the guarantee. -/
theorem Regime.Guards.passCall {begun time : Int} {l : Ledger} (h : r.Guards worker time l)
    (hbegun : begun ≤ time) {config : Config} (hpool : config.pool = r.pool)
    (hi : config.interval = r.interval) {name : Option String} {now : Int64}
    (hnow : r.Reads begun now) {c : Call} (hc : c ∈ passCalls config name now)
    (fault : Option Error) : r.Guards worker time (Ledger.calls begun time fault c l).2 := by
  have sweep : ∀ c ∈ sweepCalls config now,
      r.Guards worker time (Ledger.calls begun time fault c l).2 := by
    intro c hc
    simp only [sweepCalls, hpool, List.mem_cons, List.not_mem_nil, or_false] at hc
    rcases hc with rfl | rfl
    · exact h.spares (c := .range _ _ _) trivial fault
    · exact h.sweep hbegun hi hnow fault
  cases name with
  | none => exact sweep c hc
  | some name =>
    rcases List.mem_cons.mp hc with rfl | hc
    · rw [hpool]
      by_cases hw : name = worker
      · rw [hw]; exact h.beat hnow fault
      · exact h.spares (c := .upsert _ _ _) (fun he => hw he.2.symm) fault
    · exact sweep c hc

/-! ## Steps and runs -/

theorem Regime.Keeps.begin {n : Node} {time : Int} {now : Int64} (hpool : n.config.pool = r.pool)
    (hi : n.config.interval = r.interval) (hnow : r.Reads time now) :
    r.Keeps ⟨{ n with phase := .passing (pass n.config n.role.name? now) }, time⟩ where
  pool := hpool
  interval := hi
  passing p hp := by
    cases hp
    exact ⟨now, [], _, hnow, rfl, makes_pass _ _ _⟩

theorem Regime.Keeps.rest {n : Node} {time : Int} (hpool : n.config.pool = r.pool)
    (hi : n.config.interval = r.interval) (hp : ∀ p, n.phase ≠ .passing p) : r.Keeps ⟨n, time⟩ where
  pool := hpool
  interval := hi
  passing p h := absurd h (hp p)

/-- **One call of a pass in flight**: the rest of the pass is in flight behind it. -/
theorem Regime.Keeps.call {st : Station} (h : r.Keeps st) {c : Call}
    {go : Except Error c.Result → Task storeCalls (Except Error Report)}
    (hp : st.node.phase = .passing (.ask c go)) (x : Except Error c.Result) :
    (∃ now, r.Reads st.begun now ∧ c ∈ passCalls st.node.config st.node.role.name? now) ∧
      r.Keeps ⟨st.node.resume (go x), st.begun⟩ := by
  obtain ⟨now, made, left, hnow, hcalls, hmakes⟩ := h.passing _ hp
  cases hmakes with
  | ask _ cs _ hok herr =>
    refine ⟨⟨now, hnow, by rw [hcalls]; simp⟩, ?_⟩
    cases x with
    | error e =>
      rw [herr, Node.resume_error]
      exact .rest h.pool h.interval (by simp [Node.collapse])
    | ok a =>
      cases cs with
      | nil =>
        rw [Node.resume_makes_nil _ (hok a)]
        exact .rest h.pool h.interval (by simp [Node.relax])
      | cons d ds =>
        rw [Node.resume_makes _ (hok a)]
        refine ⟨h.pool, h.interval, fun p hp => ?_⟩
        cases hp
        exact ⟨now, made ++ [c], _, hnow, by simp [hcalls], hok a⟩

/-- One event of a node keeps the regime and the guarantee. -/
theorem Regime.event_sound {st : Station} {f : Fleet} (hst : r.Keeps st) (hle : st.begun ≤ f.time)
    (hg : r.Guards worker f.time f.ledger) {place : Nat} {event : Node.Event}
    {fault : Option Error} (hm : r.Admits worker f (.act place event fault)) {n : Node} {l : Ledger}
    (h : st.node.next (Ledger.calls st.begun f.time fault) f.ledger event = some (n, l)) :
    (r.Keeps ⟨n, Fleet.begunAfter st f.time event⟩ ∧ Fleet.begunAfter st f.time event ≤ f.time) ∧
      r.Guards worker f.time l := by
  cases event with
  | tick now =>
    obtain ⟨-, rfl, rfl⟩ := Node.next_tick.mp h
    refine ⟨⟨?_, Int.le_refl _⟩, hg⟩
    rw [Node.resume_pass]
    exact .begin hst.pool hst.interval hm
  | call =>
    obtain ⟨c, go, hp, rfl, rfl⟩ := Node.next_call.mp h
    obtain ⟨⟨now, hnow, hc⟩, hkeeps⟩ :=
      hst.call hp (Ledger.calls st.begun f.time fault c f.ledger).1
    exact ⟨⟨hkeeps, hle⟩, hg.passCall hle hst.pool hst.interval hnow hc fault⟩
  | signal =>
    obtain ⟨rfl, rfl⟩ := Node.next_signal.mp h
    exact ⟨⟨⟨hst.pool, hst.interval, hst.passing⟩, hle⟩, hg⟩
  | heed =>
    obtain ⟨-, -, rfl, rfl⟩ := Node.next_heed.mp h
    exact ⟨⟨.rest hst.pool hst.interval (by simp), hle⟩, hg⟩
  | abort =>
    obtain ⟨rfl, rfl⟩ := Node.next_abort.mp h
    exact ⟨⟨.rest hst.pool hst.interval (by simp), hle⟩, hg⟩

/-- **Step lemma.** -/
theorem Regime.Sound.next {f g : Fleet} {m : Fleet.Move} (h : r.Sound worker f)
    (hm : r.Admits worker f m) (hg : f.next m = some g) : r.Sound worker g := by
  cases m with
  | elapse ms =>
    cases hg
    refine ⟨fun st hst => ⟨(h.keeps st hst).1, ?_⟩, h.guards.later (by simp only; omega)⟩
    have := (h.keeps st hst).2
    simp only; omega
  | enter role config now =>
    cases hg
    refine ⟨fun st hst => ?_, h.guards⟩
    rcases List.mem_append.mp hst with hst | hst
    · exact h.keeps st hst
    · rw [List.mem_singleton.mp hst]
      exact ⟨.begin (n := Node.start role config now) hm.1 hm.2.1 hm.2.2, Int.le_refl _⟩
  | act place event fault =>
    simp only [Fleet.next] at hg
    split at hg
    · cases hg
    · rename_i st hst
      split at hg
      · cases hg
      · rename_i n l hn
        cases hg
        obtain ⟨hkeep, hle⟩ := h.keeps st (List.mem_of_getElem? hst)
        obtain ⟨hnew, hguard⟩ := Regime.event_sound hkeep hle h.guards hm hn
        refine ⟨fun st' hst' => ?_, hguard⟩
        rcases List.mem_or_eq_of_mem_set hst' with hst' | rfl
        · exact h.keeps st' hst'
        · exact hnew
  | operate c fault =>
    cases hg
    exact ⟨h.keeps, h.guards.spares hm fault⟩

/-- **Run lemma.** -/
theorem Regime.sound_run {time : Int} {store : MemoryStore} {f : Fleet}
    (h : Fleet.Run (r.Admits worker) (.idle time store) f) : r.Sound worker f := by
  generalize hi : Fleet.idle time store = i at h
  induction h with
  | refl =>
    subst hi
    exact ⟨fun st hst => absurd hst (by simp [Fleet.idle]), fun b rest hb => by cases hb⟩
  | step m _ hm hnext ih => exact ih.next hm hnext

/-- **Live workers survive every sweep.** Any number of nodes of one regime make
passes in any interleaving, with calls that may fail and with calls of operators
that leave `worker` alone. If every heartbeat of `worker` in the whole run up to
`g` took effect less than two intervals less twice the skew after the beginning of
the pass of the one before it, then at every moment `f` of that run, from the
first heartbeat on and until that time after the beginning of the last one's pass,
the worker is in the pool with the score of its latest heartbeat. -/
theorem live_worker_survives (r : Regime) (worker : String) {time : Int} {store : MemoryStore}
    {f g : Fleet} (before : Fleet.Run (r.Admits worker) (.idle time store) f)
    (after : Fleet.Run (r.Admits worker) f g)
    (prompt : Prompt r.span (g.ledger.beats r.pool worker))
    {latest last : Beat} {earlier others : List Beat}
    (hlatest : f.ledger.beats r.pool worker = latest :: earlier)
    (hlast : g.ledger.beats r.pool worker = last :: others)
    (hyoung : f.time < last.begun + r.span) :
    f.ledger.store.score? r.pool worker = some latest.score := by
  obtain ⟨-, newer, heffects, hnewer⟩ := Fleet.run_grows after
  have hbeats : g.ledger.beats r.pool worker =
      newer.filterMap (Effect.beat? r.pool worker) ++ latest :: earlier := by
    rw [← hlatest, Ledger.beats, heffects, List.filterMap_append, Ledger.beats]
  refine ((Regime.sound_run before).guards latest earlier hlatest).2 ?_
  -- either the latest heartbeat is the last one, or another came in time
  by_cases hnil : newer.filterMap (Effect.beat? r.pool worker) = []
  · rw [hbeats, hnil] at hlast
    cases hlast
    exact hyoung
  · rw [hbeats] at prompt
    obtain ⟨c, hc, hlt⟩ := prompt.next_lt hnil
    obtain ⟨e, he, hbeat⟩ := List.mem_filterMap.mp hc
    have htime : c.time = e.time := by
      unfold Effect.beat? at hbeat
      split at hbeat
      · split at hbeat
        · cases hbeat; rfl
        · cases hbeat
      · cases hbeat
    have := hnewer e he
    omega

/-! ## A worker and two coordinators -/

def trioRegime : Regime := ⟨"pool", 1000, 5, by decide⟩

def trioConfig : Config := ⟨"pool", 1000, 100⟩

/-- A worker beats; a coordinator begins a pass; another one sweeps much later. -/
def trioMoves : List Fleet.Move := [
  .enter (.worker "a") trioConfig 10003, .act 0 .call none, .act 0 .call none, .act 0 .call none,
  .enter .coordinator trioConfig 10004, .elapse 1989,
  .enter .coordinator trioConfig 11994, .act 2 .call none, .act 2 .call none]

/-- The first coordinator sweeps, and the worker beats again just in time. -/
def trioLaterMoves : List Fleet.Move := [
  .act 1 .call none, .act 1 .call none, .act 0 (.tick 11984) none, .act 0 .call none]

def trio : Fleet := (Fleet.idle 10000 {}).after trioMoves

def trioLater : Fleet := trio.after trioLaterMoves

/-- A worker keeps its record while two coordinators sweep, one of them with the
largest bound that its clock allows. -/
theorem live_worker_survives_trio :
    Prompt trioRegime.span (trioLater.ledger.beats "pool" "a") ∧
      trioLater.ledger.beats "pool" "a" = [⟨11984, 11989, 11989⟩, ⟨10003, 10000, 10000⟩] ∧
      trio.ledger.store.score? "pool" "a" = some 10003 := by
  have before : Fleet.Run (trioRegime.Admits "a") (.idle 10000 {}) trio := by
    refine Fleet.Legal.run ?_
    decide +kernel
  have after : Fleet.Run (trioRegime.Admits "a") trio trioLater := by
    refine Fleet.Legal.run ?_
    decide +kernel
  have latest : trio.ledger.beats "pool" "a" = [⟨10003, 10000, 10000⟩] := by decide +kernel
  have last : trioLater.ledger.beats "pool" "a" =
      [⟨11984, 11989, 11989⟩, ⟨10003, 10000, 10000⟩] := by decide +kernel
  have prompt : Prompt trioRegime.span (trioLater.ledger.beats "pool" "a") := by
    rw [last]
    exact ⟨by decide, trivial⟩
  have young : trio.time < 11989 + trioRegime.span := by decide +kernel
  exact ⟨prompt, last,
    live_worker_survives trioRegime "a" before after prompt latest last young⟩

end BidFleet.Pool
