import BidFleet.Proofs.Serving.Knobs
import BidFleet.Proofs.Serving.Traffic

/-!
Barriers. A stop, and a throttle that is set to zero, shut a bidder until a request
lifts them again. Requests are served side by side, so a bid request may have looked
at the gate before it was shut and be counted afterwards; what can be said of a bid
request depends on what it was told at the gate. One that was never let through is
declined and counts nothing (`Barrier.waits_next`), and while a barrier reigns, which no
move but a request that lifts it can end (`Barrier.reigns_next`), no request is let
through.
-/

namespace BidFleet.Serving

open Auction

/-! ## Barriers -/

/-- What shuts a bidder. -/
inductive Barrier where
  /-- A stop, up to the next start. -/
  | halt
  /-- A throttle at zero, up to the next setting. -/
  | drought

namespace Barrier

def shut : Barrier → Knobs → Prop
  | halt, k => k.stopped = true
  | drought, k => k.throttle = 0

/-- The question that shuts. -/
def raising : Barrier → Question
  | halt => .writeStopped true
  | drought => .writeThrottle 0

/-- A question that opens. -/
def Lifting : Barrier → Question → Prop
  | halt, q => q = .writeStopped false
  | drought, q => ∃ p, p ≠ 0 ∧ q = .writeThrottle p

/-- A request that shuts. -/
def RaisedBy : Barrier → Route → Prop
  | halt, r => r = .stop
  | drought, r => r.Sets 0

/-- A request that opens. -/
def LiftedBy : Barrier → Route → Prop
  | halt, r => r = .start
  | drought, r => ∃ n, n ≠ 0 ∧ r.Sets n

/-- An answer at the gate that lets a bid request through. -/
def Passes : Barrier → (q : Question) → q.Answer → Prop
  | halt, .readStopped, stopped => stopped = false
  | drought, .readThrottle, percent => percent ≠ 0
  | _, _, _ => False

variable {b : Barrier} {d : Dispatcher} {σ : Type} {store : Pool.Store σ}

theorem liftedBy_of_may {route : Route} {q : Question} (hq : b.Lifting q)
    (h : route.May d q) : b.LiftedBy route := by
  cases b with
  | halt =>
    cases hq
    exact Route.stops_of_may h
  | drought =>
    obtain ⟨p, hp, rfl⟩ := hq
    exact ⟨p.toNat, fun hzero => hp (UInt8.toNat_inj.mp hzero), Route.sets_of_may h⟩

theorem shut_raising (h : Host σ) : b.shut (Host.answer store b.raising h).2.knobs := by
  cases b <;> exact rfl

/-- Whatever does not open keeps shut. -/
theorem shut_answer {q : Question} (hq : ¬b.Lifting q) {h : Host σ} (hshut : b.shut h.knobs) :
    b.shut (Host.answer store q h).2.knobs := by
  cases b with
  | halt =>
    by_cases hwrite : ∃ stopped, q = .writeStopped stopped
    · obtain ⟨stopped, rfl⟩ := hwrite
      cases stopped with
      | true => exact rfl
      | false => exact absurd rfl hq
    · exact (answer_stopped (fun stopped e => hwrite ⟨stopped, e⟩) h).trans hshut
  | drought =>
    by_cases hwrite : ∃ p, q = .writeThrottle p
    · obtain ⟨p, rfl⟩ := hwrite
      have hp : p = 0 := Decidable.of_not_not fun hp => hq ⟨p, hp, rfl⟩
      exact hp
    · exact (answer_throttle (fun p e => hwrite ⟨p, e⟩) h).trans hshut

/-- A shut gate lets nothing through. -/
theorem not_passes_answer {h : Host σ} (hshut : b.shut h.knobs) (q : Question) :
    ¬b.Passes q (Host.answer store q h).1 := by
  cases b <;> cases q <;> simp_all [Passes, shut, Host.answer]

end Barrier

/-! ## Requests that are not let through -/

/-- A task that counts nothing and ends in a good result, as long as no answer lets it
through. -/
def Held {α : Type} (b : Barrier) (good : α → Prop) : Serve α → Prop
  | .done a => good a
  | .ask q next => q ≠ .countBid ∧ q ≠ .countNoBid ∧ ∀ r, ¬b.Passes q r → Held b good (next r)

namespace Held

variable {α β : Type} {b : Barrier} {good : α → Prop}

theorem query {q : Question} {f : q.Answer → Serve α} (hbid : q ≠ .countBid)
    (hno : q ≠ .countNoBid) (hf : ∀ r, ¬b.Passes q r → Held b good (f r)) :
    Held b good (query q >>= f) := ⟨hbid, hno, hf⟩

theorem bind {good' : β → Prop} {t : Serve α} {f : α → Serve β} (ht : Held b good t)
    (hf : ∀ a, good a → Held b good' (f a)) : Held b good' (t >>= f) := by
  induction t with
  | done a => exact hf a ht
  | ask q next ih => exact ⟨ht.1, ht.2.1, fun r hr => ih r (ht.2.2 r hr)⟩

end Held

def Declining (x : Decision) : Prop := ∃ id reason, x = .decline id reason

/-- A no-bid, in time. -/
def Reply.Declines (r : Reply) : Prop := ∃ x elapsed, Declining x ∧ r = .decision x elapsed

theorem held_passGate : Held .drought (fun passed => passed = false) passGate := by
  refine Held.query nofun nofun fun percent hzero => ?_
  have hp : percent = 0 := Decidable.of_not_not hzero
  subst hp
  exact Held.query nofun nofun fun n _ => rfl

theorem held_consider (b : Barrier) (d : Dispatcher) (o : Opportunity) :
    Held b Declining (d.consider o) := by
  unfold Dispatcher.consider
  split
  · exact ⟨_, _, rfl⟩
  · refine Held.query nofun nofun fun stopped hpass => ?_
    cases stopped with
    | true => exact ⟨_, _, rfl⟩
    | false =>
      cases b with
      | halt => exact absurd rfl hpass
      | drought =>
        refine Held.bind held_passGate fun passed hpassed => ?_
        subst hpassed
        exact ⟨_, _, rfl⟩

theorem held_bid (b : Barrier) (d : Dispatcher) (exchange : String) (target : List Char)
    (body : Bytes) : Held b Declining (d.bid exchange target body) := by
  unfold Dispatcher.bid
  split
  · exact ⟨_, _, rfl⟩
  · split
    · exact held_consider b d _
    · exact ⟨_, _, rfl⟩

/-- **A bid request that is not let through is declined and counts nothing.** -/
theorem held_dispatch (b : Barrier) (d : Dispatcher) {method : String} {target : List Char}
    (body : Bytes) (h : (Route.classify method target).isBid = true) :
    Held b Reply.Declines (d.dispatch method target body) := by
  unfold Dispatcher.dispatch
  generalize Route.classify method target = route at h
  cases route with
  | bid x =>
    refine Held.query nofun nofun fun started _ => ?_
    refine Held.bind (held_bid b d x target body) fun decision hdecision => ?_
    exact Held.query nofun nofun fun ended _ => ⟨decision, _, hdecision, rfl⟩
  | _ => cases h

/-- The first question of a request that shuts is the one that shuts. -/
theorem raising_dispatch {b : Barrier} (d : Dispatcher) {method : String} {target : List Char}
    (body : Bytes) (h : b.RaisedBy (Route.classify method target)) :
    ∃ next, d.dispatch method target body = .ask b.raising next := by
  unfold Dispatcher.dispatch
  generalize Route.classify method target = route at h
  cases b with
  | halt =>
    cases h
    exact ⟨_, rfl⟩
  | drought =>
    obtain ⟨value, rfl, hdenotes, -⟩ := h
    have hread : Text.readUInt8 value.toList = .ok 0 := Text.readUInt8_iff.mpr hdenotes
    have hbound : ¬(0 : UInt8) > Gate.open100 := by decide
    simp only [Dispatcher.serve, Dispatcher.applyThrottle, hread, setThrottle, if_neg hbound]
    exact ⟨_, rfl⟩

/-! ## Requests at a barrier -/

/-- A request that has only been told that it may not pass has counted nothing, and goes
on to be declined unless it is told otherwise. -/
def Job.Waits (b : Barrier) (told : List ((q : Question) × q.Answer)) (j : Job) : Prop :=
  (∀ e ∈ told, ¬b.Passes e.1 e.2) → Held b Reply.Declines j.task ∧ j.counted = {}

def Move.Lifts {σ : Type} (b : Barrier) : Move σ → Prop
  | .request _ method target _ => b.LiftedBy (Route.classify method target)
  | _ => False

namespace Barrier

variable {σ : Type} {store : Pool.Store σ} {b : Barrier}

/-- **Step lemma for a bid request.** -/
theorem waits_next (store : Pool.Store σ) {t : Traffic σ} {n : Nat}
    {told : List ((q : Question) × q.Answer)}
    (h : ∀ j, t.jobs[n]? = some j → j.isBid = true → j.Waits b told) (m : Move σ) :
    ∀ j, (t.next store m).jobs[n]? = some j → j.isBid = true →
      j.Waits b (told ++ t.told store n m) := by
  intro j hj hbid htold
  have hbefore : ∀ e ∈ told, ¬b.Passes e.1 e.2 := fun e he =>
    htold e (List.mem_append_left _ he)
  rcases Traffic.getElem?_next hj with ⟨d, method, target, body, -, -, rfl⟩ | ⟨k, rfl, hk, rfl⟩ |
    ⟨-, hk⟩
  · exact ⟨held_dispatch b d body hbid, rfl⟩
  · obtain ⟨hheld, hcounted⟩ := h k hk hbid hbefore
    cases htask : k.task with
    | done r =>
      rw [htask] at hheld
      simpa only [Job.step, Job.tallied, Task.step, htask] using And.intro hheld hcounted
    | ask q next =>
      rw [htask] at hheld
      obtain ⟨hbid', hno, hnext⟩ := hheld
      have hpass : ¬b.Passes q (Host.answer store q t.host).1 :=
        htold ⟨q, _⟩ (by simp [Traffic.told, hk, htask])
      have hafter : k.counted.after q = k.counted := by
        cases q with
        | countBid => exact absurd rfl hbid'
        | countNoBid => exact absurd rfl hno
        | _ => rfl
      simpa only [Job.step, Job.tallied, Task.step, htask, hafter] using
        And.intro (hnext _ hpass) hcounted
  · exact h j hk hbid hbefore

/-- **Run lemma for a bid request.** -/
theorem waits_after (store : Pool.Store σ) {t : Traffic σ} {n : Nat}
    {told : List ((q : Question) × q.Answer)}
    (h : ∀ j, t.jobs[n]? = some j → j.isBid = true → j.Waits b told) (moves : List (Move σ)) :
    ∀ j, (t.after store moves).jobs[n]? = some j → j.isBid = true →
      j.Waits b (told ++ t.heard store n moves) := by
  induction moves generalizing t told with
  | nil => simpa [Traffic.after, Traffic.heard] using h
  | cons m ms ih =>
    have hms := ih (waits_next store h m)
    rw [List.append_assoc] at hms
    exact hms

/-- From the start on, every bid request waits until it is let through. -/
theorem waits_start (b : Barrier) (store : Pool.Store σ) (host : Host σ) (n : Nat)
    (moves : List (Move σ)) :
    ∀ j, (Traffic.after store ⟨host, []⟩ moves).jobs[n]? = some j → j.isBid = true →
      j.Waits b (Traffic.heard store n ⟨host, []⟩ moves) := by
  have hnone : ∀ j, (⟨host, []⟩ : Traffic σ).jobs[n]? = some j → j.isBid = true →
      j.Waits b [] := by simp
  exact waits_after store hnone moves

/-- No request in flight can lift a barrier. -/
def Settled (b : Barrier) (t : Traffic σ) : Prop :=
  ∀ j ∈ t.jobs, Only (fun q => ¬b.Lifting q) j.task

/-- A barrier that no request in flight can lift any more. -/
structure Reigns (b : Barrier) (t : Traffic σ) : Prop where
  shut : b.shut t.host.knobs
  settled : b.Settled t

theorem settled_after (store : Pool.Store σ) {t : Traffic σ} (h : b.Settled t)
    (moves : List (Move σ)) (hmoves : ∀ m ∈ moves, ¬m.Lifts b) : b.Settled (t.after store moves) :=
  Traffic.jobs_after h
    (fun d method target body hm => (only_dispatch d method target body).mono fun _ hq hlift =>
      hmoves _ hm (liftedBy_of_may hlift hq))
    fun _ host hj => hj.step store host

/-- **Step lemma for a barrier.** Only a request that lifts it ends its reign, and no
request is let through. -/
theorem reigns_next (store : Pool.Store σ) {t : Traffic σ} (h : b.Reigns t) {m : Move σ}
    (hm : ¬m.Lifts b) :
    b.Reigns (t.next store m) ∧ ∀ n, ∀ e ∈ t.told store n m, ¬b.Passes e.1 e.2 := by
  have hsettled : b.Settled (t.next store m) :=
    settled_after store h.settled [m] (by simpa using hm)
  refine ⟨⟨?_, hsettled⟩, fun n e he => ?_⟩
  · cases m with
    | request d method target body => exact h.shut
    | drift host => exact h.shut
    | answer i =>
      simp only [Traffic.next]
      split
      · next j hj =>
        have honly := h.settled j (List.mem_of_getElem? hj)
        cases htask : j.task with
        | done r => simpa only [Job.step, htask, Task.step] using h.shut
        | ask q next =>
          rw [htask] at honly
          simpa only [Job.step, htask, Task.step] using shut_answer honly.1 h.shut
      · exact h.shut
  · obtain ⟨-, j, next, -, -, hanswer⟩ := Traffic.mem_told he
    rw [hanswer]
    exact not_passes_answer h.shut e.1

/-- **Run lemma for a barrier.** -/
theorem reigns_after (store : Pool.Store σ) {t : Traffic σ} (h : b.Reigns t)
    {moves : List (Move σ)} (hmoves : ∀ m ∈ moves, ¬m.Lifts b) :
    b.Reigns (t.after store moves) ∧ ∀ n, ∀ e ∈ t.heard store n moves, ¬b.Passes e.1 e.2 := by
  induction moves generalizing t with
  | nil => exact ⟨h, fun n e he => nomatch he⟩
  | cons m ms ih =>
    obtain ⟨hnext, htold⟩ := reigns_next store h (hmoves m (List.mem_cons_self ..))
    obtain ⟨hafter, hheard⟩ := ih hnext fun m hm => hmoves m (List.mem_cons_of_mem _ hm)
    refine ⟨hafter, fun n e he => ?_⟩
    rcases List.mem_append.mp he with he | he
    · exact htold n e he
    · exact hheard n e he

/-- The question that shuts is answered, and the barrier reigns. -/
theorem reigns_of_raised (store : Pool.Store σ) {t : Traffic σ} (h : b.Settled t) {s : Nat}
    {j : Job} {next : b.raising.Answer → Serve Reply} (hj : t.jobs[s]? = some j)
    (hask : j.task = .ask b.raising next) : b.Reigns (t.next store (.answer s)) ∧
      ∀ n, ∀ e ∈ t.told store n (.answer s), ¬b.Passes e.1 e.2 := by
  refine ⟨⟨?_, settled_after store h [.answer s] (by simp [Move.Lifts])⟩, fun n e he => ?_⟩
  · simpa only [Traffic.next, hj, Job.step, hask, Task.step] using shut_raising t.host
  · obtain ⟨hmove, k, go, hk, hask', -⟩ := Traffic.mem_told he
    cases hmove
    rw [hj] at hk
    cases hk
    rw [hask] at hask'
    obtain ⟨q, r⟩ := e
    cases hask'
    cases b <;> exact id

/-- Once every request that lifts a barrier is answered, nothing in flight lifts it. -/
theorem settled_of_answered {host : Host σ} {moves : List (Move σ)}
    (h : ∀ j ∈ (Traffic.after store ⟨host, []⟩ moves).jobs, b.LiftedBy j.route →
      j.reply?.isSome = true) : b.Settled (Traffic.after store ⟨host, []⟩ moves) := by
  intro j hj
  have hmay : Only (j.route.May j.dispatcher) j.task :=
    Traffic.jobs_after (P := fun j => Only (j.route.May j.dispatcher) j.task) (by simp)
      (fun d method target body _ => only_dispatch d method target body)
      (fun _ host hj => hj.step store host) j hj
  by_cases hlift : b.LiftedBy j.route
  · have hdone := h j hj hlift
    cases htask : j.task with
    | done r => trivial
    | ask q next => simp [Job.reply?, htask] at hdone
  · exact hmay.mono fun q hq hlifting => hlift (liftedBy_of_may hlifting hq)

theorem not_liftedBy_of_raisedBy {route : Route} (h : b.RaisedBy route) : ¬b.LiftedBy route := by
  cases b with
  | halt =>
    cases h
    nofun
  | drought =>
    rintro ⟨n, hn, hsets⟩
    exact hn (hsets.unique h)

end Barrier

/-! ## Barriers hold -/

/-- A bid request that is or will be declined: it counts nothing with its next question,
and being asked on, it ends in a no-bid. -/
structure Declined {σ : Type} (store : Pool.Store σ) (t : Traffic σ) (n : Nat) (j : Job) :
    Prop where
  counted : j.counted = {}
  counters : (t.next store (.answer n)).host.knobs.bids = t.host.knobs.bids ∧
    (t.next store (.answer n)).host.knobs.noBids = t.host.knobs.noBids
  declines : ∀ r, j.reply? = some r → r.Declines
  answered : ∃ k j' r, (t.after store (List.replicate k (.answer n))).jobs[n]? = some j' ∧
    j'.reply? = some r ∧ r.Declines

variable {σ : Type} {store : Pool.Store σ} {b : Barrier}

theorem declines_of_held {j : Job} (h : Held b Reply.Declines j.task) {r : Reply}
    (hr : j.reply? = some r) : r.Declines := by
  cases htask : j.task with
  | done r' =>
    rw [htask] at h
    rw [Job.reply?, htask] at hr
    exact Option.some.inj hr ▸ h
  | ask q next => simp [Job.reply?, htask] at hr

theorem declined_of_held {t : Traffic σ} (hreigns : b.Reigns t) {n : Nat} {j : Job}
    (hj : t.jobs[n]? = some j) (hbid : j.isBid = true) (hheld : Held b Reply.Declines j.task)
    (hcounted : j.counted = {}) : Declined store t n j where
  counted := hcounted
  declines _ := declines_of_held hheld
  counters := by
    cases htask : j.task with
    | done r => simp only [Traffic.next, hj, Job.step, htask, Task.step, and_self]
    | ask q next =>
      rw [htask] at hheld
      simpa only [Traffic.next, hj, Job.step, htask, Task.step] using
        answer_counters store hheld.1 hheld.2.1 t.host
  answered := by
    obtain ⟨k, j', r, hj', hbid', hr⟩ := Traffic.answered_of_asked store hj
    have hwaits (i : Job) (hi : t.jobs[n]? = some i) (_ : i.isBid = true) : i.Waits b [] := by
      rw [hj] at hi
      cases hi
      exact fun _ => ⟨hheld, hcounted⟩
    have hmoves : ∀ m ∈ List.replicate k (Move.answer n : Move σ), ¬m.Lifts b := by
      intro m hm
      rw [(List.mem_replicate.mp hm).2]
      exact id
    have hheard := (Barrier.reigns_after store hreigns hmoves).2 n
    obtain ⟨hheld', -⟩ := Barrier.waits_after store hwaits _ j' hj' (hbid'.trans hbid)
      (by simpa using hheard)
    exact ⟨k, j', r, hj', hr, declines_of_held hheld' hr⟩

/-- Behind a barrier, a bid request that was not let through before is declined. -/
theorem declined_behind {t : Traffic σ} (hreigns : b.Reigns t) {n : Nat}
    {told : List ((q : Question) × q.Answer)}
    (hwaits : ∀ j, t.jobs[n]? = some j → j.isBid = true → j.Waits b told)
    (htold : ∀ e ∈ told, ¬b.Passes e.1 e.2) {moves : List (Move σ)}
    (hmoves : ∀ m ∈ moves, ¬m.Lifts b) {j : Job} (hj : (t.after store moves).jobs[n]? = some j)
    (hbid : j.isBid = true) : Declined store (t.after store moves) n j := by
  obtain ⟨hafter, hheard⟩ := Barrier.reigns_after store hreigns hmoves
  obtain ⟨hheld, hcounted⟩ := Barrier.waits_after store hwaits moves j hj hbid fun e he =>
    (List.mem_append.mp he).elim (htold e) (hheard n e)
  exact declined_of_held hafter hj hbid hheld hcounted

/-- Behind the answer to the request that raised a barrier, every bid request that comes in
is declined. -/
theorem declined_once_answered {t : Traffic σ} (hsettled : b.Settled t) {s : Nat} {raiser : Job}
    {next : b.raising.Answer → Serve Reply} (hs : t.jobs[s]? = some raiser)
    (hask : raiser.task = .ask b.raising next) {during later : List (Move σ)}
    (hduring : ∀ m ∈ during, ¬m.Lifts b) (hlater : ∀ m ∈ later, ¬m.Lifts b)
    (hdone : ((t.after store during).jobs[s]?.bind (·.reply?)).isSome = true) {n : Nat} {j : Job}
    (hn : (t.after store during).jobs.length ≤ n)
    (hj : ((t.after store during).after store later).jobs[n]? = some j) (hbid : j.isBid = true) :
    Declined store ((t.after store during).after store later) n j := by
  obtain ⟨past, rest, rfl, hpast⟩ := Traffic.asked_of_answered hs hask hdone
  obtain ⟨hpast', hrest⟩ := List.forall_mem_append.mp hduring
  obtain ⟨hraised, -⟩ :=
    Barrier.reigns_of_raised store (Barrier.settled_after store hsettled past hpast') hpast hask
  have hreigns : b.Reigns (t.after store (past ++ .answer s :: rest)) := by
    rw [Traffic.after_append]
    exact (Barrier.reigns_after store hraised (List.forall_mem_cons.mp hrest).2).1
  -- the bid request has not come in by then, so it was told nothing
  have hwaits (k : Job) (hk : (t.after store (past ++ .answer s :: rest)).jobs[n]? = some k) :
      k.isBid = true → k.Waits b [] := by
    rw [List.getElem?_eq_none hn] at hk
    cases hk
  exact declined_behind hreigns hwaits (by simp) hlater hj hbid

/-- A bid request that was told nothing that let it through before a barrier was raised is
declined. -/
theorem declined_of_not_passed {t : Traffic σ} (hsettled : b.Settled t) {s : Nat} {raiser : Job}
    {next : b.raising.Answer → Serve Reply} (hs : t.jobs[s]? = some raiser)
    (hask : raiser.task = .ask b.raising next) {n : Nat} {told : List ((q : Question) × q.Answer)}
    (hwaits : ∀ j, t.jobs[n]? = some j → j.isBid = true → j.Waits b told)
    (htold : ∀ e ∈ told, ¬b.Passes e.1 e.2) {rest : List (Move σ)}
    (hrest : ∀ m ∈ rest, ¬m.Lifts b) {j : Job}
    (hj : ((t.next store (.answer s)).after store rest).jobs[n]? = some j) (hbid : j.isBid = true) :
    Declined store ((t.next store (.answer s)).after store rest) n j := by
  obtain ⟨hreigns, hraise⟩ := Barrier.reigns_of_raised store hsettled hs hask
  have hheard : ∀ e ∈ told ++ t.told store n (.answer s), ¬b.Passes e.1 e.2 := fun e he =>
    (List.mem_append.mp he).elim (htold e) (hraise n e)
  exact declined_behind hreigns (Barrier.waits_next store hwaits (.answer s)) hheard hrest hj hbid

/-- **Barriers hold.** A stop comes in, or a setting of the throttle to zero, while no
request that lifts the barrier is under way, and none comes in behind it. Once it is
answered, every bid request that comes in is declined and counts nothing, however the
requests are served side by side, and whatever its dispatcher and its body are. Of the
other bid requests, those that were let through before the barrier was raised are the only
ones that may still bid or be counted, and no request is counted more than once. -/
theorem barrier_holds (b : Barrier) (store : Pool.Store σ) (host : Host σ)
    (before moves : List (Move σ)) (d : Dispatcher) (method : String) (target : List Char)
    (body : Bytes) (hraises : b.RaisedBy (Route.classify method target))
    (hbefore : ∀ j ∈ (Traffic.after store ⟨host, []⟩ before).jobs, b.LiftedBy j.route →
      j.reply?.isSome = true)
    (hmoves : ∀ m ∈ moves, ¬m.Lifts b) :
    let start : Traffic σ := ⟨host, []⟩
    let s := (start.after store before).jobs.length
    let opening := before ++ [.request d method target body]
    let t := start.after store opening
    (∀ during later, moves = during ++ later →
      ((t.after store during).jobs[s]?.bind (·.reply?)).isSome = true →
      ∀ n j, (t.after store during).jobs.length ≤ n → (t.after store moves).jobs[n]? = some j →
        j.isBid = true → Declined store (t.after store moves) n j) ∧
    ∀ past rest next, moves = past ++ .answer s :: rest →
      (t.after store past).jobs[s]?.map (·.task) = some (.ask b.raising next) →
      ∀ n j, (t.after store moves).jobs[n]? = some j → j.isBid = true →
        j.counted.bids + j.counted.noBids ≤ 1 ∧
        ((∃ e ∈ start.heard store n (opening ++ past), b.Passes e.1 e.2) ∨
          Declined store (t.after store moves) n j) := by
  intro start s opening t
  have ht : t = (start.after store before).next store (.request d method target body) :=
    Traffic.after_append ..
  have hs : t.jobs[s]? = some (.arrive d method target body) := by
    simp [ht, s, Traffic.next]
  -- nothing in flight lifts the barrier when the request that raises it has come in
  have hsettled : b.Settled t := by
    have hrequest : ∀ m ∈ [Move.request d method target body], ¬(m : Move σ).Lifts b := by
      simpa [Move.Lifts] using Barrier.not_liftedBy_of_raisedBy hraises
    exact ht ▸ Barrier.settled_after store (Barrier.settled_of_answered hbefore) _ hrequest
  refine ⟨?_, ?_⟩
  · rintro during later rfl hdone n j hn hj hbid
    obtain ⟨next, hask⟩ := raising_dispatch d body hraises
    obtain ⟨hduring, hlater⟩ := List.forall_mem_append.mp hmoves
    rw [Traffic.after_append] at hj ⊢
    exact declined_once_answered hsettled hs hask hduring hlater hdone hn hj hbid
  · rintro past rest next rfl hask n j hj hbid
    have hsound : j.Sound := by
      rw [← Traffic.after_append] at hj
      exact Traffic.sound_after store host _ j (List.mem_of_getElem? hj)
    refine ⟨by simpa [hbid] using hsound.total, Classical.or_iff_not_imp_left.mpr fun hnone => ?_⟩
    obtain ⟨raiser, hraiser, hask⟩ := Option.map_eq_some_iff.mp hask
    obtain ⟨hpast, hrest⟩ := List.forall_mem_append.mp hmoves
    have hwaits := Barrier.waits_start b store host n (opening ++ past)
    rw [Traffic.after_append] at hwaits hj ⊢
    exact declined_of_not_passed (Barrier.settled_after store hsettled past hpast) hraiser hask
      hwaits (fun e he hpass => hnone ⟨e, he, hpass⟩) (List.forall_mem_cons.mp hrest).2 hj hbid

/-- A bid request that has been told to pass when a stop comes in. -/
def early : List (Move Pool.MemoryStore) :=
  [.request (steady (.bid ⟨"c", 1, "i", .null⟩)) "POST" "/rtb/bids/x".toList [], .answer 0,
    .answer 0]

/-- The stop is answered, another bid request comes in and is answered, and the first one
goes on behind it. -/
def late : List (Move Pool.MemoryStore) :=
  List.replicate 6 (.answer 1) ++
    .request (steady (.bid ⟨"c", 1, "i", .null⟩)) "POST" "/rtb/bids/x".toList [] ::
      [.answer 2, .answer 2, .answer 2, .answer 0, .answer 0, .answer 0]

def overtaken : Traffic Pool.MemoryStore :=
  (busy (early ++ [.request (steady .noMatch) "POST" "/rtb/admin/stop".toList []])).after
    Pool.MemoryStore.store late

theorem barrier_holds_overtaken :
    overtaken.replies.map (·.status) = [200, 200, 204] ∧
      ∀ j, overtaken.jobs[2]? = some j → Declined Pool.MemoryStore.store overtaken 2 j := by
  have hbids : ∀ j ∈ (busy early).jobs, j.isBid = true := by decide
  have hroute : (Route.classify "POST" "/rtb/bids/x".toList).isBid = true := by decide
  have hopen {r : Route} (h : r.isBid = true) : ¬Barrier.halt.LiftedBy r := by
    rintro rfl
    cases h
  have hlate : ∀ m ∈ late, ¬m.Lifts .halt := by
    simp only [late, List.forall_mem_append, List.forall_mem_cons]
    refine ⟨fun m hm => ?_, hopen hroute, id, id, id, id, id, id, by simp⟩
    rw [(List.mem_replicate.mp hm).2]
    exact id
  have hholds := (barrier_holds .halt Pool.MemoryStore.store { store := {} } early late
    (steady .noMatch) "POST" "/rtb/admin/stop".toList [] rfl
    (fun j hj hlift => absurd hlift (hopen (hbids j hj))) hlate).1
  have hjob : overtaken.jobs[2]?.map (·.isBid) = some true := by decide
  refine ⟨by decide, fun j hj => ?_⟩
  rw [hj] at hjob
  exact hholds (List.replicate 6 (.answer 1)) _ rfl (by decide) 2 j (by decide) hj
    (Option.some.inj hjob)

end BidFleet.Serving
