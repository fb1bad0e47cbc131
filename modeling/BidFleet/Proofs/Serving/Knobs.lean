import BidFleet.Proofs.Membership.Orders
import BidFleet.Proofs.Membership.Refinement
import BidFleet.Proofs.Serving.Questions
import BidFleet.Proofs.Serving.Snapshots
import BidFleet.Proofs.Text.Decimals

/-!
The knobs of a bidder and the history of its requests. Requests come one after the
other, each to a dispatcher and to surroundings of its own, and only the knobs and
the counters are handed on. The throttle is what the last valid setting made it, and
the bidder is stopped when the last stop has no start behind it
(`Knobs.Follow.next`, `Knobs.Follow.after`); what else comes in, a refused setting
included, changes no knob. Only the list of the pool asks the store anything, and the
stores that bidders use keep what they hold when they are listed
(`Pool.keptByLists_memory`, `Membership.keptByLists_remote`).
-/

namespace BidFleet

/-! ## Stores and their lists -/

/-- Listing a set changes nothing in a store. -/
def Pool.KeptByLists {σ : Type} (store : Store σ) : Prop :=
  ∀ set low high s, (store (.range set low high) s).2 = s

theorem Pool.keptByLists_memory : KeptByLists MemoryStore.store := fun _ _ _ _ => rfl

namespace Membership

theorem keptByLists_remote {σ : Type} {store : Pool.Store σ} (h : Pool.KeptByLists store)
    (client : Client) :
    Pool.KeptByLists (remote store client) := by
  intro set low high s
  have hmethod : (client.outgoing (.range set low high)).request.method = "GET" := rfl
  cases hsent : (client.outgoing (.range set low high)).url.isRequestable with
  | false => rw [remote_unsent store client _ s hsent]
  | true =>
  rw [remote_sent store client _ s hsent]
  generalize (client.outgoing (.range set low high)).request = request at hmethod ⊢
  unfold Server.respond
  split
  case h_1 => rfl
  case h_2 => rfl
  case h_3 c hc =>
    obtain ⟨set', low', high', rfl⟩ := (orderOf_eq_call_iff.mp hc).reads (.inl hmethod)
    exact h set' low' high' s

end Membership

namespace Serving

variable {σ : Type} {store : Pool.Store σ}

/-! ## What a question changes -/

theorem answer_throttle {q : Question} (hq : ∀ p, q ≠ .writeThrottle p) (h : Host σ) :
    (Host.answer store q h).2.knobs.throttle = h.knobs.throttle := by
  cases q with
  | writeThrottle p => exact absurd rfl (hq p)
  | _ => rfl

theorem answer_stopped {q : Question} (hq : ∀ b, q ≠ .writeStopped b) (h : Host σ) :
    (Host.answer store q h).2.knobs.stopped = h.knobs.stopped := by
  cases q with
  | writeStopped b => exact absurd rfl (hq b)
  | _ => rfl

theorem answer_counters (store : Pool.Store σ) {q : Question} (hbid : q ≠ .countBid)
    (hno : q ≠ .countNoBid) (h : Host σ) : (Host.answer store q h).2.knobs.bids = h.knobs.bids ∧
      (Host.answer store q h).2.knobs.noBids = h.knobs.noBids := by
  cases q with
  | countBid => exact absurd rfl hbid
  | countNoBid => exact absurd rfl hno
  | _ => exact ⟨rfl, rfl⟩

theorem answer_store {q : Question} (hq : ∀ c, q ≠ .callStore c) (h : Host σ) :
    (Host.answer store q h).2.store = h.store := by
  cases q with
  | callStore c => exact absurd rfl (hq c)
  | _ => rfl

/-! ## What a route changes -/

namespace Route

variable {d : Dispatcher} {route : Route}

/-- A request that sets the throttle to a percentage: digits that denote at most 100,
with at most one `+` before them. -/
def Sets (route : Route) (n : Nat) : Prop :=
  ∃ value, route = .throttle value ∧ Text.Denotes value.toList n ∧ n ≤ 100

theorem Sets.unique {m n : Nat} (hm : route.Sets m) (hn : route.Sets n) : m = n := by
  obtain ⟨value, rfl, hdenotes, -⟩ := hm
  obtain ⟨value', hroute, hdenotes', -⟩ := hn
  cases hroute
  exact hdenotes.unique hdenotes'

theorem sets_of_may {p : UInt8} (h : May d route (.writeThrottle p)) : route.Sets p.toNat := by
  cases route with
  | throttle value =>
    rcases h with h | ⟨percent, hread, hbound, hq⟩
    · cases h
    · cases hq
      exact ⟨value, rfl, Text.readUInt8_iff.mp hread, UInt8.le_iff_toNat_le.mp hbound⟩
  | _ => simp [May, Question.Looks, Question.Decides, Question.Lists] at h

theorem stops_of_may {b : Bool} (h : May d route (.writeStopped b)) :
    route = if b then .stop else .start := by
  cases route <;>
    simp_all [May, Question.Looks, Question.Decides, Question.Lists]

theorem isBid_of_may {q : Question} (hq : q = .countBid ∨ q = .countNoBid) (h : May d route q) :
    route.isBid = true := by
  rcases hq with rfl | rfl <;> cases route <;>
    simp_all [May, Question.Looks, Question.Decides, Question.Lists, isBid]

theorem lists_of_may {c : Pool.Call} (h : May d route (.callStore c)) :
    route = .pool ∧ ∃ set low high, c = .range set low high := by
  cases route with
  | pool =>
    obtain ⟨config, low, high, -, rfl⟩ := h
    exact ⟨rfl, _, _, _, rfl⟩
  | _ => simp [May, Question.Looks, Question.Decides] at h

end Route

/-! ## Visits -/

/-- A request, with the dispatcher that it comes to and the host that it finds, whose
knobs are those that the requests before it left. -/
structure Visit (σ : Type) where
  dispatcher : Dispatcher
  method : String
  target : List Char
  body : Bytes
  host : Host σ

/-- The status that a dispatcher gives of a host. -/
def Dispatcher.shows (d : Dispatcher) (h : Host σ) : Snapshot :=
  ⟨h.knobs.throttle, h.knobs.stopped, h.knobs.bids, h.knobs.noBids, d.selector.ids, h.uptime,
    Snapshot.currentVersion⟩

namespace Visit

def route (v : Visit σ) : Route := Route.classify v.method v.target

/-- The host that is found when the knobs are `k`. -/
def found (v : Visit σ) (k : Knobs) : Host σ := { v.host with knobs := k }

/-- The reply, and the host behind it. -/
def run (store : Pool.Store σ) (v : Visit σ) (k : Knobs) : Reply × Host σ :=
  (v.dispatcher.dispatch v.method v.target v.body).run (Host.answer store) (v.found k)

/-- The knobs behind a request. -/
def knobs (store : Pool.Store σ) (k : Knobs) (v : Visit σ) : Knobs := (v.run store k).2.knobs

variable (v : Visit σ) (k : Knobs)

/-- What all questions of a request keep is kept by the request. -/
theorem run_keeps {keeps : Host σ → Prop}
    (hkeeps : ∀ q h, v.route.May v.dispatcher q → keeps h → keeps (Host.answer store q h).2)
    (hfound : keeps (v.found k)) : keeps (v.run store k).2 :=
  (only_dispatch v.dispatcher v.method v.target v.body).run_keeps hkeeps hfound

theorem throttle_kept (h : ∀ n, ¬v.route.Sets n) :
    (v.knobs store k).throttle = k.throttle :=
  v.run_keeps k (fun q host hq hk => (answer_throttle (fun p hp => by
    rw [hp] at hq
    exact h _ (Route.sets_of_may hq)) host).trans hk) rfl

theorem stopped_kept (hstop : v.route ≠ .stop) (hstart : v.route ≠ .start) :
    (v.knobs store k).stopped = k.stopped :=
  v.run_keeps k (fun q host hq hk => (answer_stopped (fun b hb => by
    rw [hb] at hq
    cases b with
    | true => exact hstop (Route.stops_of_may hq)
    | false => exact hstart (Route.stops_of_may hq)) host).trans hk) rfl

theorem counters_kept (h : v.route.isBid = false) :
    (v.knobs store k).bids = k.bids ∧ (v.knobs store k).noBids = k.noBids := by
  have hkeeps (q : Question) (host : Host σ) (hq : v.route.May v.dispatcher q)
      (hk : host.knobs.bids = k.bids ∧ host.knobs.noBids = k.noBids) :
      (Host.answer store q host).2.knobs.bids = k.bids ∧
        (Host.answer store q host).2.knobs.noBids = k.noBids := by
    have hnot (hcount : q = .countBid ∨ q = .countNoBid) : False := by
      rw [Route.isBid_of_may hcount hq] at h
      cases h
    obtain ⟨hbids, hnoBids⟩ :=
      answer_counters store (fun e => hnot (.inl e)) (fun e => hnot (.inr e)) host
    exact ⟨hbids.trans hk.1, hnoBids.trans hk.2⟩
  exact v.run_keeps k hkeeps ⟨rfl, rfl⟩

/-- A request asks a store at most for a list, and only the list of the pool asks at all. -/
theorem store_kept (h : v.route ≠ .pool ∨ Pool.KeptByLists store) :
    (v.run store k).2.store = v.host.store := by
  have hkeeps (q : Question) (host : Host σ) (hq : v.route.May v.dispatcher q)
      (hk : host.store = v.host.store) : (Host.answer store q host).2.store = v.host.store := by
    by_cases hcall : ∃ c, q = .callStore c
    · obtain ⟨c, rfl⟩ := hcall
      obtain ⟨hpool, set, low, high, rfl⟩ := Route.lists_of_may hq
      rcases h with hother | hlists
      · exact absurd hpool hother
      · exact (hlists set low high host.store).trans hk
    · rw [answer_store (fun c hc => hcall ⟨c, hc⟩)]
      exact hk
  exact v.run_keeps k hkeeps rfl

/-! ### Admin requests -/

variable {v k}

/-- A stop or a start is answered with the status behind it. -/
theorem run_stopped {b : Bool} (h : v.route = if b then .stop else .start) :
    v.run store k = (.json 200 (v.dispatcher.shows (v.found { k with stopped := b })).toJson,
      v.found { k with stopped := b }) := by
  cases b <;>
  · simp only [route] at h
    simp only [run, Dispatcher.dispatch, h]
    rfl

/-- A setting is answered with the status behind it. -/
theorem run_sets {n : Nat} (h : v.route.Sets n) :
    v.run store k =
      (.json 200 (v.dispatcher.shows (v.found { k with throttle := UInt8.ofNat n })).toJson,
        v.found { k with throttle := UInt8.ofNat n }) := by
  obtain ⟨value, hroute, hdenotes, hbound⟩ := h
  have hn : (UInt8.ofNat n).toNat = n := by
    rw [UInt8.toNat_ofNat', Nat.mod_eq_of_lt (by omega)]
  have hread : Text.readUInt8 value.toList = .ok (UInt8.ofNat n) :=
    Text.readUInt8_iff.mpr (hn.symm ▸ hdenotes)
  have hle : ¬UInt8.ofNat n > Gate.open100 :=
    UInt8.not_lt.mpr (UInt8.le_iff_toNat_le.mpr (hn.symm ▸ hbound))
  simp only [route] at hroute
  simp only [run, Dispatcher.dispatch, hroute, Dispatcher.serve, Dispatcher.applyThrottle, hread,
    setThrottle, if_neg hle]
  rfl

/-- A value that is no percentage is refused, and nothing is asked for it. -/
theorem run_refused {value : String} (hroute : v.route = .throttle value)
    (h : ∀ n, ¬v.route.Sets n) : ∃ why, v.run store k = (.failure 400 why, v.found k) := by
  have hbeyond (p : UInt8) (hread : Text.readUInt8 value.toList = .ok p) : p > Gate.open100 := by
    rw [gt_iff_lt, ← UInt8.not_le]
    intro hle
    exact h p.toNat ⟨value, hroute, Text.readUInt8_iff.mp hread, UInt8.le_iff_toNat_le.mp hle⟩
  simp only [route] at hroute
  simp only [run, Dispatcher.dispatch, hroute, Dispatcher.serve, Dispatcher.applyThrottle]
  split
  · exact ⟨_, rfl⟩
  · next p hread =>
    simp only [setThrottle, if_pos (hbeyond p hread)]
    exact ⟨_, rfl⟩

end Visit

/-! ## Histories -/

/-- The throttle behind a history of routes: the last setting, and 100 before there is
one. -/
inductive Throttled : List Route → Nat → Prop
  | fresh {routes : List Route} : (∀ r ∈ routes, ∀ n, ¬r.Sets n) → Throttled routes 100
  | set {earlier later : List Route} {route : Route} {n : Nat} :
      route.Sets n → (∀ r ∈ later, ∀ m, ¬r.Sets m) → Throttled (earlier ++ route :: later) n

/-- A bidder is halted when the last stop or start was a stop. -/
def Halted (routes : List Route) : Prop :=
  ∃ earlier later, routes = earlier ++ .stop :: later ∧ ∀ r ∈ later, r ≠ .stop ∧ r ≠ .start

variable {routes : List Route} {r : Route} {n : Nat}

theorem Throttled.le (h : Throttled routes n) : n ≤ 100 := by
  cases h with
  | fresh => exact Nat.le_refl _
  | set hsets =>
    obtain ⟨-, -, -, hbound⟩ := hsets
    exact hbound

/-- A request that sets nothing leaves the last setting the last. -/
theorem Throttled.snoc (h : Throttled routes n) (hr : ∀ m, ¬r.Sets m) :
    Throttled (routes ++ [r]) n := by
  have hlast {later : List Route} (hlater : ∀ x ∈ later, ∀ m, ¬x.Sets m) :
      ∀ x ∈ later ++ [r], ∀ m, ¬x.Sets m := by
    intro x hx
    rcases List.mem_append.mp hx with hx | hx
    · exact hlater x hx
    · exact List.mem_singleton.mp hx ▸ hr
  cases h with
  | fresh hnone => exact .fresh (hlast hnone)
  | set hsets hlater =>
    rw [List.append_assoc]
    exact .set hsets (hlast hlater)

/-- What the last of a history tells of its halt. -/
theorem halted_snoc : Halted (routes ++ [r]) ↔ r = .stop ∨ r ≠ .start ∧ Halted routes := by
  constructor
  · rintro ⟨earlier, later, hsplit, hlater⟩
    rcases List.eq_nil_or_concat later with rfl | ⟨init, last, rfl⟩
    · exact .inl (List.cons.inj (List.append_inj' hsplit rfl).2).1
    · rw [List.concat_eq_append] at hsplit hlater
      obtain ⟨hinit, hlast⟩ : routes = earlier ++ .stop :: init ∧ [r] = [last] :=
        List.append_inj' (by simpa using hsplit) rfl
      cases hlast
      refine .inr ⟨(hlater r (by simp)).2, earlier, init, hinit, fun x hx => ?_⟩
      exact hlater x (List.mem_append_left _ hx)
  · rintro (rfl | ⟨hstart, earlier, later, rfl, hlater⟩)
    · exact ⟨routes, [], rfl, by simp⟩
    · by_cases hstop : r = .stop
      · exact ⟨_, [], by rw [hstop], by simp⟩
      · refine ⟨earlier, later ++ [r], by simp, fun x hx => ?_⟩
        rcases List.mem_append.mp hx with hx | hx
        · exact hlater x hx
        · exact List.mem_singleton.mp hx ▸ ⟨hstop, hstart⟩

/-- Knobs that are what a history of routes made them. -/
structure Knobs.Follow (k : Knobs) (routes : List Route) : Prop where
  throttle : Throttled routes k.throttle.toNat
  stopped : k.stopped = true ↔ Halted routes

/-- **Step lemma.** -/
theorem Knobs.Follow.next {k : Knobs} (h : k.Follow routes) (store : Pool.Store σ)
    (v : Visit σ) :
    (v.knobs store k).Follow (routes ++ [v.route]) := by
  refine ⟨?_, ?_⟩
  · by_cases hsets : ∃ n, v.route.Sets n
    · obtain ⟨n, hn⟩ := hsets
      obtain ⟨-, -, -, hbound⟩ := id hn
      simp only [Visit.knobs, Visit.run_sets hn, Visit.found]
      rw [UInt8.toNat_ofNat', Nat.mod_eq_of_lt (by omega)]
      exact .set hn (by simp)
    · have hnone : ∀ n, ¬v.route.Sets n := fun n hn => hsets ⟨n, hn⟩
      rw [v.throttle_kept k hnone]
      exact h.throttle.snoc hnone
  · rw [halted_snoc]
    by_cases hstop : v.route = .stop
    · simp [Visit.knobs, Visit.run_stopped (b := true) hstop, Visit.found, hstop]
    · by_cases hstart : v.route = .start
      · simp [Visit.knobs, Visit.run_stopped (b := false) hstart, Visit.found, hstart]
      · rw [v.stopped_kept k hstop hstart, h.stopped]
        simp [hstop, hstart]

/-- **Run lemma.** -/
theorem Knobs.Follow.after {k : Knobs} (h : k.Follow routes) (store : Pool.Store σ)
    (visits : List (Visit σ)) :
    (visits.foldl (Visit.knobs store) k).Follow (routes ++ visits.map (·.route)) := by
  induction visits generalizing k routes with
  | nil => simpa using h
  | cons v visits ih => simpa using ih (h.next store v)

/-- **The knobs are made by the admin requests.** Whatever comes in to a fresh bidder,
the throttle is the last percentage that was set, 100 before there is one, and the bidder
is stopped exactly when the last stop has no start behind it. Of the requests that follow,
only a setting changes the throttle, only a stop or a start the other knob, and only a
bid request the counters; the store keeps what it holds, unless the pool is listed and
the store itself changes when it is. A throttle value that is no
percentage is answered 400 and changes nothing at all. An admin request that is accepted is
answered 200, and what is read from the answer are the knobs, the counters, the campaigns,
the time and the version of the bidder behind it. -/
theorem knobs_follow_history (store : Pool.Store σ) (visits : List (Visit σ)) (v : Visit σ) :
    let history := visits.map (·.route)
    let k := visits.foldl (Visit.knobs store) {}
    let reply := (v.run store k).1
    let host := (v.run store k).2
    k.throttle.toNat ≤ 100 ∧ Throttled history k.throttle.toNat ∧
      (k.stopped = true ↔ Halted history) ∧
      ((∀ n, ¬v.route.Sets n) → host.knobs.throttle = k.throttle) ∧
      (v.route ≠ .stop → v.route ≠ .start → host.knobs.stopped = k.stopped) ∧
      (v.route.isBid = false → host.knobs.bids = k.bids ∧ host.knobs.noBids = k.noBids) ∧
      (v.route ≠ .pool ∨ Pool.KeptByLists store → host.store = v.host.store) ∧
      (∀ value, v.route = .throttle value → (∀ n, ¬v.route.Sets n) →
        reply.status = 400 ∧ host = v.found k) ∧
      (v.route = .stop ∨ v.route = .start ∨ (∃ n, v.route.Sets n) →
        reply.status = 200 ∧ reply.elapsed = none ∧ reply.reason = none ∧
        Json.parse reply.body = .ok (.object [
          ("bid_count", .int host.knobs.bids.toNat),
          ("campaigns", .array (v.dispatcher.selector.ids.map .string)),
          ("no_bid_count", .int host.knobs.noBids.toNat),
          ("stopped", .bool host.knobs.stopped),
          ("throttle_percent", .int host.knobs.throttle.toNat),
          ("uptime_ms", .int host.uptime.toNat), ("version", .string "0.1.0")])) := by
  intro history k reply host
  have hfollow : k.Follow history := by
    have hfresh : Knobs.Follow {} [] := ⟨.fresh (by simp), by simp [Halted]⟩
    exact hfresh.after store visits
  refine ⟨hfollow.throttle.le, hfollow.throttle, hfollow.stopped, v.throttle_kept k,
    v.stopped_kept k, v.counters_kept k, v.store_kept k, ?_, ?_⟩
  · intro value hroute hnone
    obtain ⟨why, hrun⟩ : ∃ why, v.run store k = (.failure 400 why, v.found k) :=
      Visit.run_refused hroute hnone
    have hreply : reply = .failure 400 why := congrArg Prod.fst hrun
    exact ⟨by rw [hreply]; rfl, congrArg Prod.snd hrun⟩
  · intro haccepted
    have hreply : reply = .json 200 (v.dispatcher.shows host).toJson := by
      rcases haccepted with hstop | hstart | ⟨n, hn⟩
      · simp only [reply, host, Visit.run_stopped (b := true) hstop]
      · simp only [reply, host, Visit.run_stopped (b := false) hstart]
      · simp only [reply, host, Visit.run_sets hn]
    rw [hreply]
    exact ⟨rfl, rfl, rfl, (v.dispatcher.shows host).parse_toJson⟩

end Serving

end BidFleet
