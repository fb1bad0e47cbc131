import BidFleet.Proofs.Serving.Outcomes

/-!
What a request asks. `Only` says of a task which questions it asks, whatever they
are answered, and `Route.May` names the questions of each route: a bid request never
writes a knob, the admin requests write the one that they are for, a page or a script
is read from one path of the web root, and the list of a pool is one range call
(`only_dispatch`). A property of the surroundings that these questions keep is kept
by the whole request (`Only.run_keeps`).
-/

namespace BidFleet.Serving

/-! ## Tasks and their questions -/

/-- A task that asks only questions of a kind, whatever its questions are answered. -/
def Only {α : Type} (kind : Question → Prop) : Serve α → Prop
  | .done _ => True
  | .ask q next => kind q ∧ ∀ r, Only kind (next r)

namespace Only

variable {α β σ : Type} {kind kind' : Question → Prop}

/-- A question first. -/
theorem query {q : Question} {f : q.Answer → Serve α} (hq : kind q) (hf : ∀ r, Only kind (f r)) :
    Only kind (query q >>= f) := ⟨hq, hf⟩

/-- One task behind another. -/
theorem bind {t : Serve α} {f : α → Serve β} (ht : Only kind t) (hf : ∀ a, Only kind (f a)) :
    Only kind (t >>= f) := by
  induction t with
  | done a => exact hf a
  | ask q next ih => exact ⟨ht.1, fun r => ih r (ht.2 r)⟩

theorem mono {t : Serve α} (h : Only kind t) (hkind : ∀ q, kind q → kind' q) : Only kind' t := by
  induction t with
  | done a => trivial
  | ask q next ih => exact ⟨hkind q h.1, fun r => ih r (h.2 r)⟩

/-- **What every question keeps is kept by the task.** -/
theorem run_keeps {t : Serve α} (h : Only kind t) {answers : Handler questions σ}
    {keeps : σ → Prop} (hkeeps : ∀ q s, kind q → keeps s → keeps (answers q s).2) {s : σ}
    (hs : keeps s) : keeps (t.run answers s).2 := by
  induction t generalizing s with
  | done a => exact hs
  | ask q next ih => exact ih _ (h.2 _) (hkeeps q s h.1 hs)

end Only

/-! ## Routes and their questions -/

namespace Question

/-- A question that looks at a knob, a counter or the time since the start. -/
def Looks : Question → Prop
  | readThrottle | readStopped | readBids | readNoBids | readUptime => True
  | _ => False

/-- A question on the way to a decision. -/
def Decides : Question → Prop
  | readUptime | readStopped | readThrottle | draw | countBid | countNoBid => True
  | _ => False

/-- A question on the way to the list of a pool. -/
def Lists (pool : Option Pool.Config) : Question → Prop
  | readClock => True
  | callStore c => ∃ config low high, pool = some config ∧ c = .range config.pool low high
  | _ => False

end Question

/-- The questions that a request of a route may ask. -/
def Route.May (d : Dispatcher) : Route → Question → Prop
  | favicon, _ | win _, _ => False
  | simulator, q => q = .readFile d.webRoot.simulatorPage
  | webAsset rel, q => ∃ path, d.webRoot.script rel = .ok path ∧ q = .readFile path
  | status, q => q.Looks
  | pool, q => q.Lists d.pool
  | throttle value, q => q.Looks ∨ ∃ percent, Text.readUInt8 value.toList = .ok percent ∧
      percent ≤ Gate.open100 ∧ q = .writeThrottle percent
  | stop, q => q.Looks ∨ q = .writeStopped true
  | start, q => q.Looks ∨ q = .writeStopped false
  | bid _, q => q.Decides
  | wrongTarget, q => q = .readUptime

theorem only_confirm (d : Dispatcher) : Only Question.Looks d.confirm :=
  .query trivial fun _ => .query trivial fun _ => .query trivial fun _ => .query trivial fun _ =>
    .query trivial fun _ => trivial

theorem only_timed {kind : Question → Prop} {decide : Serve Auction.Decision}
    (hclock : kind .readUptime) (h : Only kind decide) : Only kind (Dispatcher.timed decide) :=
  .query hclock fun _ => h.bind fun _ => .query hclock fun _ => trivial

theorem only_consider (d : Dispatcher) (o : Auction.Opportunity) :
    Only Question.Decides (d.consider o) := by
  unfold Dispatcher.consider
  split
  · trivial
  · refine .query trivial fun stopped => ?_
    split
    · trivial
    · refine Only.bind ?_ fun passed => ?_
      · refine .query trivial fun percent => ?_
        split
        · trivial
        · exact .query trivial fun _ => trivial
      · split
        · cases d.selector.select o with
          | bid b => exact .query trivial fun _ => trivial
          | noMatch => exact .query trivial fun _ => trivial
          | refused e => trivial
          | panicked => trivial
        · trivial

theorem only_bid (d : Dispatcher) (exchange : String) (target : List Char) (body : Bytes) :
    Only Question.Decides (d.bid exchange target body) := by
  unfold Dispatcher.bid
  split
  · trivial
  · split
    · exact only_consider d _
    · trivial

theorem only_asset {kind : Question → Prop} (type : String) (target : List Char)
    {path : Except Error Path} (h : ∀ p, path = .ok p → kind (.readFile p)) :
    Only kind (Dispatcher.asset type target path) := by
  cases path with
  | error e => trivial
  | ok p =>
    refine .query (h p rfl) fun content => ?_
    cases content <;> trivial

theorem only_poolMembers (d : Dispatcher) : Only (Question.Lists d.pool) d.poolMembers := by
  unfold Dispatcher.poolMembers
  split
  · trivial
  · next config hpool =>
    refine .query trivial fun now => .query ⟨config, _, _, hpool, rfl⟩ fun names => ?_
    split <;> trivial

theorem only_applyThrottle (d : Dispatcher) (value : String) :
    Only (Route.May d (.throttle value)) (d.applyThrottle value) := by
  unfold Dispatcher.applyThrottle
  split
  · trivial
  · next percent hpercent =>
    unfold setThrottle
    split
    · trivial
    · next hbound =>
      exact .query (.inr ⟨percent, hpercent, UInt8.not_lt.mp hbound, rfl⟩) fun _ =>
        (only_confirm d).mono fun _ => .inl

/-- **Every request keeps to the questions of its route.** -/
theorem only_dispatch (d : Dispatcher) (method : String) (target : List Char) (body : Bytes) :
    Only (Route.May d (Route.classify method target)) (d.dispatch method target body) := by
  unfold Dispatcher.dispatch
  generalize Route.classify method target = route
  cases route with
  | favicon => trivial
  | simulator =>
    simp only [Dispatcher.serve]
    refine only_asset _ _ fun p hp => ?_
    cases hp
    exact rfl
  | webAsset rel => exact only_asset _ _ fun p hp => ⟨p, hp, rfl⟩
  | win notice => trivial
  | status => exact only_confirm d
  | pool => exact only_poolMembers d
  | throttle value => exact only_applyThrottle d value
  | stop => exact .query (.inr rfl) fun _ => (only_confirm d).mono fun _ => .inl
  | start => exact .query (.inr rfl) fun _ => (only_confirm d).mono fun _ => .inl
  | bid x => exact only_timed trivial (only_bid d x target body)
  | wrongTarget => exact only_timed rfl trivial

end BidFleet.Serving
