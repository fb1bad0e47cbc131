import BidFleet.Pool.Members
import BidFleet.Proofs.Serving.Outcomes

/-!
The counters of a bidder under traffic. Any number of requests are served side by
side, one question of one of them at a time, while the clocks, the files and the
store change as they like. What a counter shows is the sum of what was counted for
the requests so far (`Accounted`), so the counters never go back, never show more
than the bid requests that came in, and agree with the answers once these are all
given. Each request comes with a dispatcher of its own, so a selector may choose
differently from one request to the next.
-/

namespace BidFleet.Serving

/-! ## Traffic -/

/-- A request and what is left of the task that answers it. -/
structure Job where
  dispatcher : Dispatcher
  method : String
  target : List Char
  body : Bytes
  task : Serve Reply
  /-- What was counted for it so far. -/
  counted : Tally := {}

namespace Job

/-- A request that has just come in. -/
def arrive (d : Dispatcher) (method : String) (target : List Char) (body : Bytes) : Job where
  dispatcher := d
  method := method
  target := target
  body := body
  task := d.dispatch method target body

def route (j : Job) : Route := Route.classify j.method j.target

def isBid (j : Job) : Bool := j.route.isBid

def reply? (j : Job) : Option Reply :=
  match j.task with
  | .done r => some r
  | .ask _ _ => none

/-- The tally after the next question. -/
def tallied (j : Job) : Tally :=
  match j.task with
  | .done _ => j.counted
  | .ask q _ => j.counted.after q

def step {σ : Type} (store : Pool.Store σ) (j : Job) (h : Host σ) : Job × Host σ :=
  let (task, host) := j.task.step (Host.answer store) h
  ({ j with task := task, counted := j.tallied }, host)

/-- What was counted for some jobs together. -/
def total (part : Tally → Nat) : List Job → Nat
  | [] => 0
  | j :: js => part j.counted + total part js

/-- What is left of a job ends in a settlement, with what was counted so far. -/
def Sound (j : Job) : Prop :=
  Ends (Settles j.dispatcher j.target j.body j.route) j.counted j.task

end Job

/-- A bidder and all requests that came in, answered or not. -/
structure Traffic (σ : Type) where
  host : Host σ
  jobs : List Job := []

/-- What may happen next. -/
inductive Move (σ : Type) where
  | request (d : Dispatcher) (method : String) (target : List Char) (body : Bytes)
  /-- One question of one request is answered. -/
  | answer (job : Nat)
  /-- Clocks, files, random words and the store become these. -/
  | drift (host : Host σ)

namespace Traffic

variable {σ : Type}

def next (store : Pool.Store σ) (t : Traffic σ) : Move σ → Traffic σ
  | .request d method target body => { t with jobs := t.jobs ++ [.arrive d method target body] }
  | .answer i =>
    match t.jobs[i]? with
    | some j =>
      let (j, host) := j.step store t.host
      ⟨host, t.jobs.set i j⟩
    | none => t
  | .drift host => { t with host := { host with knobs := t.host.knobs } }

def after (store : Pool.Store σ) (t : Traffic σ) (moves : List (Move σ)) : Traffic σ :=
  moves.foldl (next store) t

def started (t : Traffic σ) : Nat := t.jobs.countP (·.isBid)

def replies (t : Traffic σ) : List Reply := t.jobs.filterMap (·.reply?)

/-- Whether every bid request is answered. -/
def Settled (t : Traffic σ) : Prop := ∀ j ∈ t.jobs, j.isBid = true → j.reply?.isSome = true

/-- **The invariant.** Every job is sound, and the counters show what was counted. -/
structure Accounted (t : Traffic σ) : Prop where
  sound : ∀ j ∈ t.jobs, j.Sound
  bids : t.host.knobs.bids.toNat = Job.total (·.bids) t.jobs
  noBids : t.host.knobs.noBids.toNat = Job.total (·.noBids) t.jobs

end Traffic

/-! ## Jobs -/

theorem Job.Sound.total {j : Job} (h : j.Sound) :
    j.counted.bids + j.counted.noBids ≤ j.isBid.toNat := by
  obtain ⟨k, r, hk, hb, hn⟩ := h.reachable
  have := hk.total
  unfold Job.isBid
  omega

theorem Job.Sound.settles {j : Job} (h : j.Sound) {r : Reply} (hr : j.reply? = some r) :
    Settles j.dispatcher j.target j.body j.route j.counted r := by
  unfold Job.Sound at h
  unfold Job.reply? at hr
  split at hr
  case h_1 r' ht =>
    cases hr
    rw [ht] at h
    exact h
  case h_2 => cases hr

theorem Job.sound_arrive (d : Dispatcher) (method : String) (target : List Char) (body : Bytes) :
    (Job.arrive d method target body).Sound :=
  ends_dispatch d method target body

variable {σ : Type} {store : Pool.Store σ}

theorem Job.Sound.step {j : Job} (h : j.Sound) (host : Host σ) : (j.step store host).1.Sound := by
  unfold Job.Sound at h ⊢
  cases ht : j.task with
  | done r =>
    rw [ht] at h
    simpa [Job.step, Job.tallied, Task.step, Job.route, ht] using h
  | ask q next =>
    rw [ht] at h
    simpa [Job.step, Job.tallied, Task.step, Job.route, ht] using h _

/-- The counters of a host go along with the tally, as long as they do not run over. -/
theorem answer_counts (q : Question) (h : Host σ) (k : Tally)
    (hb : h.knobs.bids.toNat + (k.after q).bids < UInt64.size + k.bids)
    (hn : h.knobs.noBids.toNat + (k.after q).noBids < UInt64.size + k.noBids) :
    (Host.answer store q h).2.knobs.bids.toNat + k.bids =
        h.knobs.bids.toNat + (k.after q).bids ∧
      (Host.answer store q h).2.knobs.noBids.toNat + k.noBids =
        h.knobs.noBids.toNat + (k.after q).noBids := by
  have hone : (1 : UInt64).toNat = 1 := rfl
  cases q with
  | countBid =>
    refine ⟨?_, rfl⟩
    simp only [Tally.after, UInt64.size] at hb
    simp only [Host.answer, Tally.after, UInt64.toNat_add, hone]
    omega
  | countNoBid =>
    refine ⟨rfl, ?_⟩
    simp only [Tally.after, UInt64.size] at hn
    simp only [Host.answer, Tally.after, UInt64.toNat_add, hone]
    omega
  | _ => exact ⟨rfl, rfl⟩

/-- One question of a job moves the counters as it moves the tally of the job. -/
theorem Job.step_counts (store : Pool.Store σ) (j : Job) (h : Host σ)
    (hb : h.knobs.bids.toNat + j.tallied.bids < UInt64.size + j.counted.bids)
    (hn : h.knobs.noBids.toNat + j.tallied.noBids < UInt64.size + j.counted.noBids) :
    (j.step store h).2.knobs.bids.toNat + j.counted.bids =
        h.knobs.bids.toNat + j.tallied.bids ∧
      (j.step store h).2.knobs.noBids.toNat + j.counted.noBids =
        h.knobs.noBids.toNat + j.tallied.noBids := by
  cases ht : j.task with
  | done r => simp [Job.step, Job.tallied, Task.step, ht]
  | ask q go =>
    simp only [Job.tallied, ht] at hb hn
    simpa [Job.step, Job.tallied, Task.step, ht] using answer_counts q h j.counted hb hn

theorem Job.counted_le_tallied (j : Job) :
    j.counted.bids ≤ j.tallied.bids ∧ j.counted.noBids ≤ j.tallied.noBids := by
  cases ht : j.task with
  | done r => simp [Job.tallied, ht]
  | ask q go => simpa [Job.tallied, ht] using j.counted.le_after q

/-! ## Totals -/

namespace Job

theorem total_append (part : Tally → Nat) (js ks : List Job) :
    total part (js ++ ks) = total part js + total part ks := by
  induction js with
  | nil => simp [total]
  | cons j js ih =>
    simp only [List.cons_append, total, ih]
    omega

/-- A total after one job was replaced. -/
theorem total_set (part : Tally → Nat) {js : List Job} {i : Nat} {j : Job} (k : Job)
    (h : js[i]? = some j) :
    total part (js.set i k) + part j.counted = total part js + part k.counted := by
  induction js generalizing i with
  | nil => simp at h
  | cons x xs ih =>
    cases i with
    | zero =>
      simp only [List.getElem?_cons_zero, Option.some.injEq] at h
      subst h
      simp only [List.set_cons_zero, total]
      omega
    | succ i =>
      have := ih (i := i) (by simpa using h)
      simp only [List.set_cons_succ, total]
      omega

/-- What is counted for all jobs together is not more than the bid requests. -/
theorem total_le (jobs : List Job) (h : ∀ j ∈ jobs, j.Sound) :
    total (·.bids) jobs + total (·.noBids) jobs ≤ jobs.countP (·.isBid) := by
  induction jobs with
  | nil => simp [total]
  | cons j js ih =>
    have hjs := ih (fun j hj => h j (List.mem_cons_of_mem _ hj))
    have hj := (h j (List.mem_cons_self ..)).total
    rw [List.countP_cons]
    simp only [total]
    cases hb : j.isBid with
    | true =>
      rw [hb, Bool.toNat_true] at hj
      rw [if_pos rfl]
      omega
    | false =>
      rw [hb, Bool.toNat_false] at hj
      rw [if_neg Bool.false_ne_true]
      omega

/-- Once all bid requests are answered, the totals are those of the answers. -/
theorem total_replies (jobs : List Job) (hsound : ∀ j ∈ jobs, j.Sound)
    (hsettled : ∀ j ∈ jobs, j.isBid = true → j.reply?.isSome = true) :
    total (·.bids) jobs = (jobs.filterMap (·.reply?)).countP (·.isBid) ∧
      total (·.noBids) jobs = (jobs.filterMap (·.reply?)).countP (·.isNoMatch) := by
  induction jobs with
  | nil => exact ⟨rfl, rfl⟩
  | cons j js ih =>
    obtain ⟨hb, hn⟩ := ih (fun j hj => hsound j (List.mem_cons_of_mem _ hj))
      (fun j hj => hsettled j (List.mem_cons_of_mem _ hj))
    have hj := hsound j (List.mem_cons_self ..)
    cases hr : j.reply? with
    | some r =>
      have htally := (hj.settles hr).tally
      simp only [total, List.filterMap_cons, hr, List.countP_cons, hb, hn, htally, Reply.tally]
      omega
    | none =>
      -- a job in flight is none of a bid request, and counts nothing
      have hno : j.isBid = false := by
        cases hbid : j.isBid with
        | false => rfl
        | true =>
          have := hsettled j (List.mem_cons_self ..) hbid
          rw [hr] at this
          cases this
      have htotal := hj.total
      rw [hno, Bool.toNat_false] at htotal
      simp only [total, List.filterMap_cons, hr, hb, hn]
      omega

end Job

namespace Traffic

/-! ## Steps and runs -/

theorem accounted_begin (host : Host σ) (hb : host.knobs.bids = 0) (hn : host.knobs.noBids = 0) :
    Accounted ⟨host, []⟩ :=
  ⟨by simp, by simp [hb, Job.total], by simp [hn, Job.total]⟩

/-- Requests are not forgotten. -/
theorem started_next (store : Pool.Store σ) (t : Traffic σ) (m : Move σ) :
    t.started ≤ (t.next store m).started := by
  cases m with
  | request d method target body => simp [next, started]
  | drift host => exact Nat.le_refl _
  | answer i =>
    simp only [next]
    split
    case h_1 j hj =>
      obtain ⟨hi, rfl⟩ := List.getElem?_eq_some_iff.mp hj
      -- the job stays the one of the same request
      have hbid : (t.jobs[i].step store t.host).1.isBid = t.jobs[i].isBid := rfl
      have hpos : t.jobs[i].isBid = true → 0 < t.jobs.countP (·.isBid) := fun hp =>
        List.countP_pos_iff.mpr ⟨_, List.getElem_mem hi, hp⟩
      simp only [started, List.countP_set hi, hbid]
      split
      · have := hpos ‹_›
        omega
      · omega
    case h_2 => exact Nat.le_refl _

theorem started_after (store : Pool.Store σ) (t : Traffic σ) (moves : List (Move σ)) :
    t.started ≤ (t.after store moves).started := by
  induction moves generalizing t with
  | nil => exact Nat.le_refl _
  | cons m ms ih => exact Nat.le_trans (started_next store t m) (ih _)

/-- The counters of one state are not above those of another. -/
def Below (t t' : Traffic σ) : Prop :=
  t.host.knobs.bids ≤ t'.host.knobs.bids ∧ t.host.knobs.noBids ≤ t'.host.knobs.noBids

/-- **Step lemma.** -/
theorem accounted_next {t : Traffic σ} (h : t.Accounted) (m : Move σ)
    (hfew : (t.next store m).started < UInt64.size) :
    (t.next store m).Accounted ∧ t.Below (t.next store m) := by
  have hrefl : t.Below t := ⟨UInt64.le_refl _, UInt64.le_refl _⟩
  cases m with
  | request d method target body =>
    refine ⟨⟨?_, ?_, ?_⟩, hrefl⟩
    · intro j hj
      rcases List.mem_append.mp hj with hj | hj
      · exact h.sound j hj
      · exact List.mem_singleton.mp hj ▸ Job.sound_arrive d method target body
    · simp [next, h.bids, Job.total_append, Job.total, Job.arrive]
    · simp [next, h.noBids, Job.total_append, Job.total, Job.arrive]
  | drift host => exact ⟨⟨h.sound, h.bids, h.noBids⟩, hrefl⟩
  | answer i =>
    cases hj : t.jobs[i]? with
    | none =>
      have hnext : t.next store (.answer i) = t := by simp only [next, hj]
      rw [hnext]
      exact ⟨h, hrefl⟩
    | some j =>
      have hnext : t.next store (.answer i) =
          ⟨(j.step store t.host).2, t.jobs.set i (j.step store t.host).1⟩ := by
        simp only [next, hj]
      rw [hnext] at hfew ⊢
      have hsound : ∀ x ∈ t.jobs.set i (j.step store t.host).1, x.Sound := by
        intro x hx
        rcases List.mem_or_eq_of_mem_set hx with hx | rfl
        · exact h.sound x hx
        · exact (h.sound j (List.mem_of_getElem? hj)).step t.host
      have htotal := Job.total_le _ hsound
      simp only [started] at hfew
      have hb : Job.total (·.bids) (t.jobs.set i (j.step store t.host).1) + j.counted.bids =
          Job.total (·.bids) t.jobs + j.tallied.bids := Job.total_set _ _ hj
      have hn : Job.total (·.noBids) (t.jobs.set i (j.step store t.host).1) + j.counted.noBids =
          Job.total (·.noBids) t.jobs + j.tallied.noBids := Job.total_set _ _ hj
      obtain ⟨hcb, hcn⟩ := j.step_counts store t.host
        (by rw [h.bids]; omega) (by rw [h.noBids]; omega)
      obtain ⟨hlb, hln⟩ := j.counted_le_tallied
      have hbids := h.bids
      have hnoBids := h.noBids
      refine ⟨⟨hsound, ?_, ?_⟩, ?_, ?_⟩
      · dsimp only
        omega
      · dsimp only
        omega
      · show t.host.knobs.bids.toNat ≤ (j.step store t.host).2.knobs.bids.toNat
        omega
      · show t.host.knobs.noBids.toNat ≤ (j.step store t.host).2.knobs.noBids.toNat
        omega

/-- **Run lemma.** -/
theorem accounted_after {t : Traffic σ} (h : t.Accounted) (moves : List (Move σ))
    (hfew : (t.after store moves).started < UInt64.size) :
    (t.after store moves).Accounted ∧ t.Below (t.after store moves) := by
  induction moves generalizing t with
  | nil => exact ⟨h, UInt64.le_refl _, UInt64.le_refl _⟩
  | cons m ms ih =>
    have hstarted := started_after store (t.next store m) ms
    obtain ⟨hnext, hbelow⟩ := accounted_next h m (Nat.lt_of_le_of_lt hstarted hfew)
    obtain ⟨hafter, hbelow'⟩ := ih hnext hfew
    exact ⟨hafter, UInt64.le_trans hbelow.1 hbelow'.1, UInt64.le_trans hbelow.2 hbelow'.2⟩

end Traffic

/-! ## The counters and the answers -/

/-- **Exact accounting.** A bidder starts with counters at zero, and fewer bid requests
come in than a counter has values. Whatever is asked and in which order, the counters
never go back and never exceed the bid requests; once all bid requests are answered they
are the numbers of the bids and of the missing matches among the answers. Every answer
belongs to an outcome of its request that is counted as the answer tells, and no other
outcome has the text of a missing match. -/
theorem exact_accounting (store : Pool.Store σ) (host : Host σ) (hb : host.knobs.bids = 0)
    (hn : host.knobs.noBids = 0) (moves more : List (Move σ))
    (hfew : (Traffic.after store ⟨host, []⟩ (moves ++ more)).started < UInt64.size) :
    let t := Traffic.after store ⟨host, []⟩ moves
    t.Below (t.after store more) ∧
      t.host.knobs.bids.toNat + t.host.knobs.noBids.toNat ≤ t.started ∧
      (t.Settled → t.host.knobs.bids.toNat = t.replies.countP (·.isBid) ∧
        t.host.knobs.noBids.toNat = t.replies.countP (·.isNoMatch)) ∧
      (∀ j ∈ t.jobs, ∀ r, j.reply? = some r →
        Settles j.dispatcher j.target j.body j.route j.counted r ∧ j.counted = r.tally) ∧
      ∀ o : Outcome, o.decision.reason? = some Dispatcher.noMatch ↔ ∃ id, o = .noMatch id := by
  intro t
  have hafter : Traffic.after store ⟨host, []⟩ (moves ++ more) = t.after store more :=
    List.foldl_append ..
  rw [hafter] at hfew
  have hstarted := Traffic.started_after store t more
  obtain ⟨haccounted, -⟩ := Traffic.accounted_after (Traffic.accounted_begin host hb hn) moves
    (Nat.lt_of_le_of_lt hstarted hfew)
  refine ⟨(Traffic.accounted_after haccounted more hfew).2, ?_, ?_, ?_, Outcome.reason_noMatch⟩
  · rw [haccounted.bids, haccounted.noBids]
    exact Job.total_le t.jobs haccounted.sound
  · intro hsettled
    rw [haccounted.bids, haccounted.noBids]
    exact Job.total_replies t.jobs haccounted.sound hsettled
  · intro j hj r hr
    have hsettles := (haccounted.sound j hj).settles hr
    exact ⟨hsettles, hsettles.tally⟩

/-- A dispatcher whose campaigns make the same of every opportunity. -/
def steady (selection : Auction.Selection) : Dispatcher where
  selector := ⟨1, ["c"], fun _ => selection⟩
  exchanges := ⟨[⟨"x", fun _ => .ok ⟨"1", "x", .null⟩⟩]⟩

/-- A bid, a missing match and a panic, served side by side. -/
def sideBySide : List (Move Pool.MemoryStore) :=
  [.request (steady (.bid ⟨"c", 1, "i", .null⟩)) "POST" "/rtb/bids/x".toList [],
    .request (steady .noMatch) "POST" "/rtb/bids/x".toList [],
    .request (steady .panicked) "POST" "/rtb/bids/x".toList []] ++
  (List.range 5).flatMap (fun _ => [.answer 0, .answer 1, .answer 2])

def busy (moves : List (Move Pool.MemoryStore)) : Traffic Pool.MemoryStore :=
  Traffic.after Pool.MemoryStore.store ⟨{ store := {} }, []⟩ moves

theorem exact_accounting_side_by_side : (busy sideBySide).Settled ∧
    (busy sideBySide).host.knobs.bids.toNat = (busy sideBySide).replies.countP (·.isBid) ∧
    (busy sideBySide).host.knobs.noBids.toNat = (busy sideBySide).replies.countP (·.isNoMatch) ∧
    ((busy sideBySide).replies.countP (·.isBid), (busy sideBySide).replies.countP (·.isNoMatch),
      (busy sideBySide).replies.length) = (1, 1, 3) := by
  have hsettled : (busy sideBySide).Settled := by
    unfold Traffic.Settled
    decide +kernel
  obtain ⟨-, -, hcounters, -⟩ := exact_accounting Pool.MemoryStore.store { store := {} } rfl rfl
    sideBySide [] (by decide +kernel)
  obtain ⟨hbids, hnoBids⟩ := hcounters hsettled
  exact ⟨hsettled, hbids, hnoBids, by decide +kernel⟩

end BidFleet.Serving
