import BidFleet.Serving.Dispatch

/-!
What a request can end in. A tally keeps what a task has counted so far, and
`Ends` says of a task in which results, with which tallies, it can end, whatever
its questions are answered. Every request on a bid path ends in one of nine
outcomes, each under its own conditions (`Reaches`); the outcome fixes the answer
and what was counted for it, and only the bid and the missing match count. The
texts of the other seven never read like the text of the missing match, so the
answer alone tells what was counted (`Settles.tally`).
-/

namespace BidFleet.Serving

open Auction

/-! ## Tallies -/

/-- What has been counted. -/
structure Tally where
  bids : Nat := 0
  noBids : Nat := 0
  deriving DecidableEq, Repr

/-- The tally after a question. -/
def Tally.after (k : Tally) : Question → Tally
  | .countBid => { k with bids := k.bids + 1 }
  | .countNoBid => { k with noBids := k.noBids + 1 }
  | _ => k

theorem Tally.le_after (k : Tally) (q : Question) :
    k.bids ≤ (k.after q).bids ∧ k.noBids ≤ (k.after q).noBids := by
  cases q <;> simp [Tally.after]

/-- A task that starts with a tally ends in a good result and tally, whatever the
answers to its questions are. -/
def Ends {α : Type} (good : Tally → α → Prop) : Tally → Serve α → Prop
  | k, .done a => good k a
  | k, .ask q next => ∀ r, Ends good (k.after q) (next r)

namespace Ends

variable {α β : Type} {good : Tally → α → Prop} {k : Tally}

/-- A question first. -/
theorem query {q : Question} {f : q.Answer → Serve α} (h : ∀ r, Ends good (k.after q) (f r)) :
    Ends good k (query q >>= f) := h

/-- One task behind another. -/
theorem bind {good' : Tally → β → Prop} {t : Serve α} {f : α → Serve β} (h : Ends good k t)
    (hf : ∀ k a, good k a → Ends good' k (f a)) : Ends good' k (t >>= f) := by
  induction t generalizing k with
  | done a => exact hf k a h
  | ask q next ih => exact fun r => ih r (h r)

/-- Every question has an answer, so an end can be reached, with no smaller tally. -/
theorem reachable {t : Serve α} (h : Ends good k t) :
    ∃ k' a, good k' a ∧ k.bids ≤ k'.bids ∧ k.noBids ≤ k'.noBids := by
  induction t generalizing k with
  | done a => exact ⟨k, a, h, Nat.le_refl _, Nat.le_refl _⟩
  | ask q next ih =>
    have hr : Nonempty q.Answer := by
      cases q with
      | readFile path => exact ⟨.ok []⟩
      | callStore c => exact ⟨.error (.file "")⟩
      | readThrottle => exact ⟨0⟩
      | readStopped => exact ⟨false⟩
      | readBids | readNoBids | readUptime => exact ⟨(0 : UInt64)⟩
      | draw => exact ⟨(0 : Nat)⟩
      | readClock => exact ⟨(0 : Int64)⟩
      | writeThrottle _ | writeStopped _ | countBid | countNoBid => exact ⟨()⟩
    obtain ⟨r⟩ := hr
    obtain ⟨k', a, hgood, hb, hn⟩ := ih r (h r)
    have hle := k.le_after q
    exact ⟨k', a, hgood, by omega, by omega⟩

end Ends

/-! ## Tasks that count nothing -/

/-- A task that counts nothing. -/
def Quiet {α : Type} (t : Serve α) : Prop := ∀ k, Ends (fun k' _ => k' = k) k t

theorem quiet_onStore {α : Type} (t : Task Pool.storeCalls α) : Quiet (onStore t) := by
  intro k
  induction t with
  | done a => exact rfl
  | ask c next ih => exact fun r => ih r

theorem quiet_passGate : Quiet passGate := by
  intro k
  refine Ends.query fun percent => ?_
  split
  · exact rfl
  · exact fun n => rfl

theorem quiet_setThrottle (percent : UInt8) : Quiet (setThrottle percent) := by
  intro k
  unfold setThrottle
  split
  · exact rfl
  · exact fun r => rfl

theorem quiet_status (d : Dispatcher) : Quiet d.status :=
  fun _ _ _ _ _ _ => rfl

theorem Ends.behind {α β : Type} {good : Tally → β → Prop} {k : Tally} {t : Serve α}
    {f : α → Serve β} (ht : Quiet t) (hf : ∀ a, Ends good k (f a)) : Ends good k (t >>= f) :=
  (ht k).bind (fun _ a hk => hk ▸ hf a)

/-! ## Outcomes -/

/-- Whether a route is one of the bid requests. -/
def Route.isBid : Route → Bool
  | bid _ => true
  | _ => false

/-- What a request on a bid path ends in. -/
inductive Outcome where
  | bid (bid : Bid)
  | noMatch (id : String)
  | noCampaigns (id : String)
  | stopped (id : String)
  | throttled (id : String)
  | refused (id : String) (error : Error)
  | panicked (id : String)
  | unread (error : Error)
  | wrongTarget (target : List Char)

namespace Outcome

/-- The decision that tells of an outcome. -/
def decision : Outcome → Decision
  | bid b => .bid b
  | noMatch id => .decline id Dispatcher.noMatch
  | noCampaigns id => .decline id Dispatcher.noCampaigns
  | stopped id => .decline id Dispatcher.serverStopped
  | throttled id => .decline id Dispatcher.serverThrottled
  | refused id e => .decline id e.message
  | panicked id => .decline id Dispatcher.selectionPanicked
  | unread e => .decline "" e.message
  | wrongTarget target => .decline "" (Dispatcher.wrongTarget target)

/-- What is counted for an outcome. -/
def tally : Outcome → Tally
  | bid _ => ⟨1, 0⟩
  | noMatch _ => ⟨0, 1⟩
  | _ => {}

end Outcome

/-- A text that begins with another character than `n` is not the one of a missing match. -/
theorem append_ne_noMatch {c : Char} {cs : List Char} {s : String} (rest : String)
    (hs : s.toList = c :: cs) (hc : c ≠ 'n') : s ++ rest ≠ Dispatcher.noMatch := by
  intro h
  have hhead : (s ++ rest).toList.head? = Dispatcher.noMatch.toList.head? := by rw [h]
  rw [String.toList_append, hs] at hhead
  exact hc (Option.some.inj hhead)

theorem message_ne_noMatch (e : Error) : e.message ≠ Dispatcher.noMatch := by
  cases e <;> exact append_ne_noMatch _ rfl (by decide)

theorem wrongTarget_ne_noMatch (target : List Char) :
    Dispatcher.wrongTarget target ≠ Dispatcher.noMatch :=
  append_ne_noMatch _ rfl (by decide)

/-- **The text of a missing match is the text of nothing else.** -/
theorem Outcome.reason_noMatch (o : Outcome) :
    o.decision.reason? = some Dispatcher.noMatch ↔ ∃ id, o = .noMatch id := by
  have other {s : String} (id : String) (h : s ≠ Dispatcher.noMatch) :
      (Decision.decline id s).reason? = some Dispatcher.noMatch ↔ False :=
    iff_false_intro (fun he => h (Option.some.inj he))
  cases o with
  | bid b => simp [decision, Decision.reason?]
  | noMatch id => simp [decision, Decision.decline, Decision.reason?]
  | refused id e => simp [decision, other id (message_ne_noMatch e)]
  | unread e => simp [decision, other "" (message_ne_noMatch e)]
  | wrongTarget t => simp [decision, other "" (wrongTarget_ne_noMatch t)]
  | noCampaigns id =>
    have h : Dispatcher.noCampaigns ≠ Dispatcher.noMatch := by decide
    simp [decision, other id h]
  | stopped id =>
    have h : Dispatcher.serverStopped ≠ Dispatcher.noMatch := by decide
    simp [decision, other id h]
  | throttled id =>
    have h : Dispatcher.serverThrottled ≠ Dispatcher.noMatch := by decide
    simp [decision, other id h]
  | panicked id =>
    have h : Dispatcher.selectionPanicked ≠ Dispatcher.noMatch := by decide
    simp [decision, other id h]

/-- An opportunity that an exchange has for these octets. -/
def Offers (d : Dispatcher) (exchange : String) (body : Bytes) (o : Opportunity) : Prop :=
  ∃ adapter, d.exchanges.get? exchange = some adapter ∧ adapter.parse body = .ok o

/-- Under which conditions a request of a route can end in an outcome. -/
inductive Reaches (d : Dispatcher) (target : List Char) (body : Bytes) : Route → Outcome → Prop
  | bid {x : String} {o : Opportunity} {b : Bid} :
      Offers d x body o → d.selector.count ≠ 0 → d.selector.select o = .bid b →
      Reaches d target body (.bid x) (.bid b)
  | noMatch {x : String} {o : Opportunity} :
      Offers d x body o → d.selector.count ≠ 0 → d.selector.select o = .noMatch →
      Reaches d target body (.bid x) (.noMatch o.id)
  | refused {x : String} {o : Opportunity} {e : Error} :
      Offers d x body o → d.selector.count ≠ 0 → d.selector.select o = .refused e →
      Reaches d target body (.bid x) (.refused o.id e)
  | panicked {x : String} {o : Opportunity} :
      Offers d x body o → d.selector.count ≠ 0 → d.selector.select o = .panicked →
      Reaches d target body (.bid x) (.panicked o.id)
  | noCampaigns {x : String} {o : Opportunity} :
      Offers d x body o → d.selector.count = 0 →
      Reaches d target body (.bid x) (.noCampaigns o.id)
  | stopped {x : String} {o : Opportunity} :
      Offers d x body o → d.selector.count ≠ 0 → Reaches d target body (.bid x) (.stopped o.id)
  | throttled {x : String} {o : Opportunity} :
      Offers d x body o → d.selector.count ≠ 0 → Reaches d target body (.bid x) (.throttled o.id)
  | unread {x : String} {adapter : Adapter} {e : Error} :
      d.exchanges.get? x = some adapter → adapter.parse body = .error e →
      Reaches d target body (.bid x) (.unread e)
  | unknown {x : String} :
      d.exchanges.get? x = none → Reaches d target body (.bid x) (.wrongTarget target)
  | wrongTarget : Reaches d target body .wrongTarget (.wrongTarget target)

/-- A decision and a tally that belong to an outcome of a route. -/
def Decides (d : Dispatcher) (target : List Char) (body : Bytes) (route : Route) (k : Tally)
    (x : Decision) : Prop :=
  ∃ o, Reaches d target body route o ∧ x = o.decision ∧ k = o.tally

/-- How a request of a route is settled: by a decision for an outcome, or by an answer
that is no decision and for which nothing was counted. -/
inductive Settles (d : Dispatcher) (target : List Char) (body : Bytes) (route : Route) :
    Tally → Reply → Prop
  | decided (o : Outcome) (elapsed : UInt64) :
      Reaches d target body route o →
      Settles d target body route o.tally (.decision o.decision elapsed)
  | plain {r : Reply} :
      route.isBid = false → r.elapsed = none → r.reason = none → Settles d target body route {} r

/-! ## Dispatch -/

variable {d : Dispatcher} {target : List Char} {body : Bytes}

theorem ends_consider {x : String} {o : Opportunity} (ho : Offers d x body o) :
    Ends (Decides d target body (.bid x)) {} (d.consider o) := by
  unfold Dispatcher.consider
  split
  case isTrue hc => exact ⟨_, .noCampaigns ho hc, rfl, rfl⟩
  case isFalse hc =>
    refine Ends.query fun stopped => ?_
    split
    · exact ⟨_, .stopped ho hc, rfl, rfl⟩
    · refine Ends.behind quiet_passGate fun passed => ?_
      split
      · cases hs : d.selector.select o with
        | bid b => exact fun _ => ⟨_, .bid ho hc hs, rfl, rfl⟩
        | noMatch => exact fun _ => ⟨_, .noMatch ho hc hs, rfl, rfl⟩
        | refused e => exact ⟨_, .refused ho hc hs, rfl, rfl⟩
        | panicked => exact ⟨_, .panicked ho hc hs, rfl, rfl⟩
      · exact ⟨_, .throttled ho hc, rfl, rfl⟩

theorem ends_bid (x : String) :
    Ends (Decides d target body (.bid x)) {} (d.bid x target body) := by
  unfold Dispatcher.bid
  split
  case h_1 hx => exact ⟨_, .unknown hx, rfl, rfl⟩
  case h_2 adapter hx =>
    split
    case h_1 o ho => exact ends_consider ⟨adapter, hx, ho⟩
    case h_2 e he => exact ⟨_, .unread hx he, rfl, rfl⟩

theorem ends_timed {route : Route} {t : Serve Decision}
    (h : Ends (Decides d target body route) {} t) :
    Ends (Settles d target body route) {} (Dispatcher.timed t) := by
  refine Ends.query fun started => ?_
  refine Ends.bind h fun k x hx => ?_
  obtain ⟨o, ho, rfl, rfl⟩ := hx
  exact Ends.query fun ended => .decided o _ ho

theorem ends_confirm {route : Route} (h : route.isBid = false) :
    Ends (Settles d target body route) {} d.confirm :=
  Ends.behind (quiet_status d) fun _ => .plain h rfl rfl

theorem ends_asset {route : Route} (h : route.isBid = false) (type : String)
    (path : Except Error Path) :
    Ends (Settles d target body route) {} (Dispatcher.asset type target path) := by
  cases path with
  | error e => exact .plain h rfl rfl
  | ok path =>
    refine Ends.query fun content => ?_
    split <;> exact .plain h rfl rfl

/-- **Every request is settled**, whatever its questions are answered. -/
theorem ends_dispatch (d : Dispatcher) (method : String) (target : List Char) (body : Bytes) :
    Ends (Settles d target body (Route.classify method target)) {}
      (d.dispatch method target body) := by
  unfold Dispatcher.dispatch
  generalize Route.classify method target = route
  cases route with
  | favicon => exact .plain rfl rfl rfl
  | simulator =>
    simp only [Dispatcher.serve]
    exact ends_asset rfl _ _
  | webAsset rel =>
    simp only [Dispatcher.serve]
    exact ends_asset rfl _ _
  | win notice => exact .plain rfl rfl rfl
  | status => exact ends_confirm rfl
  | pool =>
    simp only [Dispatcher.serve, Dispatcher.poolMembers]
    split
    · exact .plain rfl rfl rfl
    · refine Ends.query fun now => ?_
      refine Ends.behind (quiet_onStore _) fun names => ?_
      split <;> exact .plain rfl rfl rfl
  | throttle value =>
    simp only [Dispatcher.serve, Dispatcher.applyThrottle]
    split
    · exact .plain rfl rfl rfl
    · refine Ends.behind (quiet_setThrottle _) fun set => ?_
      split
      · exact .plain rfl rfl rfl
      · exact ends_confirm rfl
  | stop => exact Ends.query fun _ => ends_confirm rfl
  | start => exact Ends.query fun _ => ends_confirm rfl
  | bid x => exact ends_timed (ends_bid x)
  | wrongTarget => exact ends_timed ⟨_, .wrongTarget, rfl, rfl⟩

/-! ## Answers tell what was counted -/

/-- Whether an answer is a bid. -/
def Reply.isBid (r : Reply) : Bool := r.elapsed.isSome && r.status == 200

/-- Whether an answer says that no campaign matched. -/
def Reply.isNoMatch (r : Reply) : Bool := r.reason == some Dispatcher.noMatch

/-- What an answer says was counted for it. -/
def Reply.tally (r : Reply) : Tally where
  bids := if r.isBid then 1 else 0
  noBids := if r.isNoMatch then 1 else 0

theorem Settles.tally {route : Route} {k : Tally} {r : Reply}
    (h : Settles d target body route k r) : k = r.tally := by
  cases h with
  | plain _ helapsed hreason =>
    simp [Reply.tally, Reply.isBid, Reply.isNoMatch, helapsed, hreason]
  | decided o elapsed _ =>
    have hno := o.reason_noMatch
    cases o <;>
      simp_all [Reply.tally, Reply.isBid, Reply.isNoMatch, Reply.decision, Outcome.tally,
        Outcome.decision, Decision.status, Decision.decline]

/-- Only a bid request counts, and only once. -/
theorem Settles.total {route : Route} {k : Tally} {r : Reply}
    (h : Settles d target body route k r) :
    k.bids + k.noBids ≤ route.isBid.toNat := by
  cases h with
  | plain => simp
  | decided o elapsed ho => cases ho <;> simp [Outcome.tally, Route.isBid]

end BidFleet.Serving
