import BidFleet.Command.Run
import BidFleet.Proofs.Membership.Refinement
import BidFleet.Proofs.Pool.Held

/-!
How the process of a bidder ends, and what it leaves in the pool. While it lives, its
node is in a stage of its life and its farewell is the removal of its own record
(`Process.Sound`). Of the ways to end, the loss of the node and a failed farewell come
from a failed call, and an interrupt leads through the removal (`Process.ends_next`).
A listener that fails is the one end in which nothing failed that was asked of the store
and the record stays: the process gives up there and then, without its farewell.
-/

namespace BidFleet.Command

open Pool

/-! ## The ways to end -/

namespace Process

variable {σ : Type} {store : Store σ} {p p' : Process} {s s' : σ}

/-- A process with a node keeps a name of its own in a pool. -/
structure Sound (pool name : String) (p : Process) (calls : List Answered) : Prop where
  role : p.node.role = .worker name
  config : p.node.config.pool = pool
  removes : p.removeSelf = true
  stage : p.node.Stage calls
  farewell : ∀ t, p.stage = .departing t → t = p.node.farewell true

theorem sound_start (name : String) (config : Config) (now : Int64) :
    Sound config.pool name (.start (some name) config true now) [] :=
  ⟨rfl, rfl, rfl, Node.stage_start .., nofun⟩

/-- The farewell of a process that keeps a name is the removal of its record. -/
theorem Sound.farewell_eq {pool name : String} {calls : List Answered}
    (h : p.Sound pool name calls) : p.node.farewell true =
      call (.remove pool name) (fun _ => .done (.ok ())) := by
  have hname : p.node.role.name? = some name := by rw [h.role]; rfl
  simp only [Node.farewell, hname]
  rw [h.config]

/-- A step of the node lets the process live, or was the end of a first pass that
failed. -/
theorem settle_cases (p : Process) (n : Node) :
    p.settle n = { p with node := n, stage := .serving } ∨ p.settle n = { p with node := n } ∨
      ∃ e, n.joined = some (.error e) ∧ p.settle n = fail { p with node := n } e := by
  unfold settle
  dsimp only
  split
  · exact .inl rfl
  · next e _ hjoined => exact .inr (.inr ⟨e, hjoined, rfl⟩)
  · exact .inr (.inl rfl)

/-- A node whose first pass failed has made a call that failed. -/
theorem failed_of_joined {n : Node} {calls : List Answered} (h : n.Stage calls) {e : Error}
    (hjoined : n.joined = some (.error e)) : ∃ a ∈ calls, a.error? ≠ none := by
  cases h with
  | passing nows _ _ _ _ _ _ _ _ _ _ hj =>
    rw [hj] at hjoined
    split at hjoined <;> cases hjoined
  | resting _ _ _ _ _ hj =>
    rw [hj] at hjoined
    cases hjoined
  | stopped _ _ _ _ _ _ hj =>
    rw [hj] at hjoined
    cases hjoined
  | terminated nows now made left c e' hlog =>
    exact ⟨⟨c, some e'⟩, by simp [hlog], nofun⟩

/-- A node that has terminated has made a call that failed. -/
theorem failed_of_terminated {n : Node} {calls : List Answered} (h : n.Stage calls)
    {reason : String} (hstate : n.state = .terminated reason) :
    ∃ a ∈ calls, a.error? ≠ none := by
  obtain ⟨a, ha, e, he, -⟩ := (Node.terminated_iff h reason).mp hstate
  exact ⟨a, ha, by rw [he]; nofun⟩

/-- Where an event of a living process leads: it lives on, or ends. -/
inductive Leads (pool name : String) (store : Store σ) (p : Process) (s : Recorded σ) :
    Event → Process → Recorded σ → Prop
  | lives {e : Event} {p' : Process} {s' : Recorded σ} :
      p'.exit? = none → p'.Sound pool name s'.calls → Leads pool name store p s e p' s'
  /-- It ends with a call that failed. -/
  | fails {e : Event} {p' : Process} {s' : Recorded σ} (exit : Exit) :
      p'.exit? = some exit → (∃ a ∈ s'.calls, a.error? ≠ none) →
      Leads pool name store p s e p' s'
  /-- It ends with its listener, and nothing is asked of the store. -/
  | gives (why : String) : p.stage = .serving →
      Leads pool name store p s (.turn (.listenerFails why)) (p.fail (.transport why)) s
  /-- It ends with the removal of its record. -/
  | parts {p' : Process} (exit : Exit) : p'.exit? = some exit →
      Leads pool name store p s .farewell p' (Recorded.store store (.remove pool name) s).2

theorem Sound.next_node {pool name : String} {s s' : Recorded σ} {e : Node.Event}
    (h : p.Sound pool name s.calls) (hlive : p.exit? = none) (habort : e ≠ .abort)
    (hnext : p.next (Recorded.store store) s (.node e) = some (p', s')) :
    Leads pool name store p s (.node e) p' s' := by
  simp only [Process.next] at hnext
  split at hnext
  · cases hnext
  · cases hnext
  · next hdeparting =>
    obtain ⟨⟨n, t⟩, hn, heq⟩ := Option.map_eq_some_iff.mp hnext
    cases heq
    obtain ⟨hrole, hconfig⟩ := Node.next_role hn
    have hstage := Node.stage_next h.stage habort hn
    have hrole' : n.role = .worker name := hrole.trans h.role
    have hpool : n.config.pool = pool := by rw [hconfig, h.config]
    rcases p.settle_cases n with hserving | hsame | ⟨e, hjoined, hfail⟩
    · rw [hserving]
      exact .lives rfl ⟨hrole', hpool, h.removes, hstage, nofun⟩
    · rw [hsame]
      exact .lives hlive ⟨hrole', hpool, h.removes, hstage, fun t ht => absurd ht (hdeparting t)⟩
    · rw [hfail]
      exact .fails _ rfl (failed_of_joined hstage hjoined)

theorem Sound.next_turn {pool name : String} {s s' : Recorded σ} {t : Turn}
    (h : p.Sound pool name s.calls)
    (hnext : p.next (Recorded.store store) s (.turn t) = some (p', s')) :
    Leads pool name store p s (.turn t) p' s' := by
  obtain ⟨q, hq, heq⟩ := Option.map_eq_some_iff.mp hnext
  cases heq
  simp only [turn] at hq
  split at hq
  case h_1 why =>
    split at hq
    · next hserving =>
      cases hq
      exact .gives why hserving
    · cases hq
  case h_2 =>
    split at hq
    · next reason _ hstate =>
      cases hq
      exact .fails _ rfl (failed_of_terminated h.stage hstate)
    · cases hq
  case h_3 =>
    split at hq
    · cases hq
      exact .lives rfl ⟨h.role, h.config, h.removes, Node.stage_signal h.stage, nofun⟩
    · cases hq
  case h_4 =>
    split at hq
    · -- the farewell of a process with a name has a call to make
      cases hq
      have hfarewell := h.farewell_eq
      rw [h.removes, hfarewell]
      refine .lives rfl ⟨h.role, h.config, h.removes, h.stage, fun t ht => ?_⟩
      cases ht
      exact hfarewell.symm
    · cases hq

/-- The farewell of a process that departs is one removal. -/
theorem Sound.next_farewell {pool name : String} {s s' : Recorded σ}
    (h : p.Sound pool name s.calls)
    (hnext : p.next (Recorded.store store) s .farewell = some (p', s')) :
    Leads pool name store p s .farewell p' s' := by
  simp only [Process.next] at hnext
  split at hnext
  · next c go hstage =>
    have hfarewell := h.farewell _ hstage
    rw [h.farewell_eq] at hfarewell
    cases hfarewell
    cases hnext
    cases (Recorded.store store (.remove pool name) s).1 with
    | ok r => exact .parts _ rfl
    | error e => exact .parts _ rfl
  · cases hnext

/-- **Step lemma.** -/
theorem Sound.next {pool name : String} {s s' : Recorded σ} {e : Event}
    (h : p.Sound pool name s.calls) (hlive : p.exit? = none) (habort : e ≠ .node .abort)
    (hnext : p.next (Recorded.store store) s e = some (p', s')) :
    Leads pool name store p s e p' s' := by
  cases e with
  | node e => exact h.next_node hlive (fun he => habort (by rw [he])) hnext
  | turn t => exact h.next_turn hnext
  | farewell => exact h.next_farewell hnext

theorem next_ended {exit : Exit} (h : p.exit? = some exit) (e : Event) :
    p.next store s e = none := by
  unfold exit? at h
  split at h
  · next hstage =>
    cases e with
    | node e => simp only [Process.next, hstage]
    | turn t => cases t <;> simp [Process.next, turn, hstage]
    | farewell => simp only [Process.next, hstage]
  · cases h

end Process

/-- A node that has not begun its farewell has removed no record. -/
theorem not_removed_of_stage {n : Node} {calls : List Answered} (h : n.Stage calls)
    {a : Answered} (ha : a ∈ calls) (set member : String) : a.call ≠ .remove set member := by
  have hpass {c : Call} {now : Int64} (hc : c ∈ passCalls n.config n.role.name? now) :
      c ≠ .remove set member := by
    rintro rfl
    cases hname : n.role.name? <;> simp [passCalls, sweepCalls, hname] at hc
  have hsucceeded {cs : List Call} {now : Int64} (hcs : cs ⊆ passCalls n.config n.role.name? now)
      {b : Answered} (hb : b ∈ succeeded cs) : b.call ≠ .remove set member := by
    obtain ⟨c, hc, rfl⟩ := List.mem_map.mp hb
    exact hpass (hcs hc)
  have hpasses {nows : List Int64} {b : Answered} (hb : b ∈ n.passes nows) :
      b.call ≠ .remove set member := by
    obtain ⟨now, -, hb⟩ := List.mem_flatMap.mp hb
    exact hsucceeded (List.Subset.refl _) hb
  cases h with
  | passing nows now made left p hlog _ hcalls =>
    rw [hlog] at ha
    rcases List.mem_append.mp ha with ha | ha
    · exact hpasses ha
    · exact hsucceeded (hcalls ▸ List.subset_append_left ..) ha
  | resting nows hlog => exact hpasses (hlog ▸ ha)
  | stopped nows hlog => exact hpasses (hlog ▸ ha)
  | terminated nows now made left c e hlog _ hcalls =>
    rw [hlog] at ha
    rcases List.mem_append.mp ha with ha | ha
    · rcases List.mem_append.mp ha with ha | ha
      · exact hpasses ha
      · exact hsucceeded (hcalls ▸ List.subset_append_left ..) ha
    · rw [List.mem_singleton.mp ha]
      exact hpass (by rw [hcalls]; simp)

/-! ## A process and its store -/

/-- A process and the store that it shares, with the calls that the process has made. -/
structure Life where
  process : Process
  store : Recorded MemoryStore

namespace Life

inductive Move where
  /-- An event of the process; a call of it may meet a fault on the way to the store. -/
  | own (e : Process.Event) (fault : Option Error)
  /-- A call that somebody else makes of the store. -/
  | other (c : Call)

/-- The process and the store after a move; one that cannot happen is passed over. -/
def next (access : Store MemoryStore) (l : Life) : Move → Life
  | .own e fault =>
    match l.process.next (Recorded.store (meeting access fault)) l.store e with
    | some (p, s) => ⟨p, s⟩
    | none => l
  | .other c => { l with store := ⟨(MemoryStore.store c l.store.inner).2, l.store.calls⟩ }

def after (access : Store MemoryStore) (l : Life) (moves : List Move) : Life :=
  moves.foldl (next access) l

def score? (l : Life) (pool name : String) : Option Int64 := l.store.inner.score? pool name

/-- Every call that the process has made has succeeded. -/
def Served (l : Life) : Prop := ∀ a ∈ l.store.calls, a.error? = none

/-- The process is cut off by nobody. -/
def Move.Natural : Move → Prop
  | .own (.node .abort) _ => False
  | _ => True

/-- Nobody else writes the record of `name` in `pool`. -/
def Move.Spares (pool name : String) : Move → Prop
  | .other c => ¬c.writes pool name
  | .own .. => True

/-- The removal of a record arrives at the store. -/
def Removes (access : Store MemoryStore) (pool name : String) : Prop :=
  ∀ s, (access (.remove pool name) s).2 = (MemoryStore.store (.remove pool name) s).2

variable {access : Store MemoryStore} {pool name : String} {l : Life}

/-- **Step lemma.** A process that lives keeps its record under its name. -/
theorem sound_next (h : l.process.exit? = none → l.process.Sound pool name l.store.calls)
    {m : Move} (hm : m.Natural) : (l.next access m).process.exit? = none →
      (l.next access m).process.Sound pool name (l.next access m).store.calls := by
  intro hlive
  cases m with
  | other c => exact h hlive
  | own e fault =>
    have hnatural : e ≠ .node .abort := by
      rintro rfl
      exact hm
    simp only [next] at hlive ⊢
    split at hlive
    · next p s hnext =>
      cases hexit : l.process.exit? with
      | some exit =>
        rw [Process.next_ended hexit] at hnext
        cases hnext
      | none =>
        cases (h hexit).next hexit hnatural hnext with
        | lives _ hsound => exact hsound
        | fails exit hended => exact absurd hended (by rw [hlive]; nofun)
        | gives why => cases hlive
        | parts exit hended => exact absurd hended (by rw [hlive]; nofun)
    · next hnext => exact h hlive

/-- **Run lemma.** -/
theorem sound_after (h : l.process.exit? = none → l.process.Sound pool name l.store.calls)
    {moves : List Move} (hmoves : ∀ m ∈ moves, m.Natural) :
    (l.after access moves).process.exit? = none →
      (l.after access moves).process.Sound pool name (l.after access moves).store.calls := by
  induction moves generalizing l with
  | nil => exact h
  | cons m ms ih =>
    exact ih (sound_next h (hmoves m (List.mem_cons_self ..)))
      fun m hm => hmoves m (List.mem_cons_of_mem _ hm)

/-- **The end of a process.** When no call of it has failed, it has removed its record,
unless it ends with its listener. -/
theorem ends_next (hremoves : Removes access pool name) (hlive : l.process.exit? = none)
    (h : l.process.Sound pool name l.store.calls) {m : Move} (hm : m.Natural) {exit : Exit}
    (hended : (l.next access m).process.exit? = some exit) (hserved : (l.next access m).Served) :
    (∃ why fault, m = .own (.turn (.listenerFails why)) fault ∧
        (l.next access m).store = l.store) ∨ (l.next access m).score? pool name = none := by
  cases m with
  | other c =>
    rw [show (l.next access (.other c)).process = l.process from rfl, hlive] at hended
    cases hended
  | own e fault =>
    have hnatural : e ≠ .node .abort := by
      rintro rfl
      exact hm
    simp only [next, score?] at hended hserved ⊢
    split at hended
    · next p s hnext =>
      replace hserved : (⟨p, s⟩ : Life).Served := by rwa [hnext] at hserved
      cases h.next hlive hnatural hnext with
      | lives hlive' _ =>
        rw [hlive'] at hended
        cases hended
      | fails _ _ hfailed =>
        obtain ⟨a, ha, hfault⟩ := hfailed
        exact absurd (hserved a ha) hfault
      | gives why => exact .inl ⟨why, fault, rfl, rfl⟩
      | parts _ _ =>
        -- the removal has met no fault, or it would be a call that failed
        cases fault with
        | some e =>
          have hfault := hserved ⟨.remove pool name, some e⟩ (by simp [Recorded.store, meeting,
            Recorded.fault?])
          cases hfault
        | none =>
          refine .inr ?_
          show (access (.remove pool name) l.store.inner).2.score? pool name = none
          rw [hremoves, MemoryStore.score?_remove, if_pos ⟨rfl, rfl⟩]
    · next hnext =>
      rw [hlive] at hended
      cases hended

/-- Behind the end of a process its record is written by nobody. -/
theorem score?_after {exit : Exit} (hended : l.process.exit? = some exit)
    (hnone : l.score? pool name = none) {moves : List Move}
    (hmoves : ∀ m ∈ moves, m.Spares pool name) :
    (l.after access moves).score? pool name = none := by
  induction moves generalizing l with
  | nil => exact hnone
  | cons m ms ih =>
    have hms := fun x hx => hmoves x (List.mem_cons_of_mem _ hx)
    cases m with
    | own e fault =>
      have hnext : l.next access (.own e fault) = l := by
        simp only [next, Process.next_ended hended]
      have hafter := ih hended hnone hms
      rwa [← hnext] at hafter
    | other c =>
      have hspares : ¬c.writes pool name := hmoves _ (List.mem_cons_self ..)
      have hnone' : (l.next access (.other c)).score? pool name = none := by
        rcases MemoryStore.score?_unwritten hspares none l.store.inner with hs | hs
        · exact hs.trans hnone
        · exact hs
      exact ih hended hnone' hms

end Life

/-! ## Command lines -/

/-- The store that a bidder uses, over a network with a server at its far end. -/
def Bidder.access (b : Bidder) : Store MemoryStore :=
  match b.client with
  | some client => Membership.remote MemoryStore.store client
  | none => MemoryStore.store

/-- A removal arrives when the client's base is the root of the server and the paths of
its requests carry the two names, within the limit of length. -/
theorem removes_access {b : Bidder} {pool name : String} (h : ∀ client, b.client = some client →
      client.AtRoot ∧ Membership.Carried (.remove pool name) ∧
        client.refusal? (.remove pool name) = none) :
    Life.Removes b.access pool name := by
  intro s
  unfold Bidder.access
  cases hclient : b.client with
  | none => rfl
  | some client =>
    obtain ⟨hroot, hcarried, hthrough⟩ := h client hclient
    have hrelayed := Membership.relayed_through hthrough MemoryStore.store s
    have hcall := Membership.remote_call hroot hcarried MemoryStore.store s
      (by rw [hrelayed]; trivial)
    exact congrArg Prod.snd (hcall.trans hrelayed)

theorem bind_eq_ok {α β : Type} {x : Except Failure α} {f : α → Except Failure β} {r : β} :
    x >>= f = .ok r ↔ ∃ a, x = .ok a ∧ f a = .ok r := by
  cases x <;> simp [bind, Except.bind]

/-- A bidder has the name, the pool and the store of its settings. -/
theorem prepare_ok {settings : BidderSettings} {startup : Startup} {b : Bidder}
    (h : settings.prepare startup = .ok b) :
    b.name = startup.name? settings.name ∧ b.config = settings.config ∧
      startup.client settings.store = .ok b.client := by
  unfold BidderSettings.prepare at h
  obtain ⟨address, -, h⟩ := bind_eq_ok.mp h
  dsimp only at h
  by_cases hpercent : settings.percent > Serving.Gate.open100
  · rw [if_pos hpercent] at h
    obtain ⟨_, hthrow, -⟩ := bind_eq_ok.mp h
    cases hthrow
  · rw [if_neg hpercent] at h
    cases hcampaigns : settings.campaigns <;>
    · simp only [hcampaigns] at h
      obtain ⟨book, -, h⟩ := bind_eq_ok.mp h
      obtain ⟨client, hclient, h⟩ := bind_eq_ok.mp h
      cases h
      exact ⟨rfl, rfl, hclient⟩

/-- A named bidder at the beginning of its life. -/
def Life.begin (name : String) (config : Config) (now : Int64) (store : MemoryStore) : Life :=
  ⟨.start (some name) config true now, ⟨store, []⟩⟩

/-- **A bidder takes its record along**, unless it ends with its listener. Take a command
line of a bidder that has a name. If it cannot be prepared, for its address, its throttle,
its campaigns or its store, it ends with nothing asked of any store. Otherwise its process
lives as its events come, with any faults, beside anybody else who uses the store. When it
ends and no call of it has failed, either its listener has failed, and it has asked for no
removal, then or before; or its record is gone, and stays away as long as nobody else
writes it. -/
theorem bidder_takes_record {words : List String} {settings : BidderSettings} {startup : Startup}
    {name : String} (hread : Invocation.read words = .settled (.bidder settings))
    (hname : startup.name? settings.name = some name) :
    (∀ failure, settings.prepare startup = .error failure →
      ∀ (σ : Type) (env : Surroundings σ) (s : σ), env.startup = startup →
        env.run words s = (some (.failure failure), s)) ∧
    ∀ b, settings.prepare startup = .ok b →
      Plan.ofWords startup words = .bidder b ∧
      (∀ now, b.process? now = some (.start (some name) b.config true now)) ∧
      (Life.Removes b.access b.config.pool name →
        ∀ now store init m exit,
          let l := (Life.begin name b.config now store).after b.access init
          let l' := l.next b.access m
          (∀ x ∈ init ++ [m], x.Natural) → l.process.exit? = none →
          l'.process.exit? = some exit → l'.Served →
            (∃ why fault, m = .own (.turn (.listenerFails why)) fault ∧ l'.store = l.store ∧
              ∀ a ∈ l'.store.calls, a.call ≠ .remove b.config.pool name) ∨
            ∀ later, (∀ x ∈ later, x.Spares b.config.pool name) →
              (l'.after b.access later).score? b.config.pool name = none) := by
  have hplan : Plan.ofWords startup words = .orFail ((settings.prepare startup).map .bidder) := by
    simp only [Plan.ofWords, hread, Plan.ofInvocation]
  refine ⟨fun failure hprepare σ env s hstartup => ?_, fun b hprepare => ⟨?_, ?_, ?_⟩⟩
  · rw [Surroundings.run, hstartup, hplan, hprepare]
    rfl
  · rw [hplan, hprepare]
    rfl
  · intro now
    rw [Bidder.process?, (prepare_ok hprepare).1, hname]
    rfl
  · intro hremoves now store init m exit l l' hnatural hlive hended hserved
    obtain ⟨hinit, hm⟩ := List.forall_mem_append.mp hnatural
    have hsound : l.process.Sound b.config.pool name l.store.calls :=
      Life.sound_after (fun _ => Process.sound_start name b.config now) hinit hlive
    rcases Life.ends_next hremoves hlive hsound (hm m (List.mem_singleton_self m)) hended hserved
      with ⟨why, fault, hlistener, hstore⟩ | hnone
    · refine .inl ⟨why, fault, hlistener, hstore, fun a ha => ?_⟩
      rw [show l'.store = l.store from hstore] at ha
      exact not_removed_of_stage hsound.stage ha _ _
    · exact .inr fun later hlater => Life.score?_after hended hnone hlater

/-- Surroundings with a store at the far end of the network, where a listener may be
refused and an interrupt may come. -/
def harbour (refused : Option String) (interrupted : Bool) : Surroundings MemoryStore where
  startup := ⟨fun _ => none, fun _ => .error .notFound⟩
  network := Membership.Link.toServer MemoryStore.store
  refusesListener := fun _ => refused
  interrupted := interrupted
  now := 1700000000000

def named : List String :=
  ["bidder", "-b", "127.0.0.1:80", "--name", "w", "--store", "http://127.0.0.1:7379"]

def namedSettings : BidderSettings where
  bind := some "127.0.0.1:80"
  name := some "w"
  store := some "http://127.0.0.1:7379"

/-- Its life up to its farewell: it joins, is interrupted, and its node stops. -/
def upToFarewell : List Life.Move :=
  [.own (.node .call) none, .own (.node .call) none, .own (.node .call) none,
    .own (.turn .interrupt) none, .own (.node .heed) none, .own (.turn .nodeEnded) none]

def leaving : Life :=
  (Life.begin "w" namedSettings.config 1700000000000 {}).after
    (Membership.remote MemoryStore.store Membership.nearby) upToFarewell

def gone : Life :=
  leaving.next (Membership.remote MemoryStore.store Membership.nearby) (.own .farewell none)

/-- A bidder that is interrupted between two passes takes its record along. -/
theorem bidder_takes_record_interrupted :
    ∃ b, namedSettings.prepare (harbour none true).startup = .ok b ∧
      let l := (Life.begin "w" b.config 1700000000000 {}).after b.access upToFarewell
      l.score? "bidderspool" "w" = some 1700000000000 ∧
        ∀ later, (∀ x ∈ later, x.Spares "bidderspool" "w") →
          ((l.next b.access (.own .farewell none)).after b.access later).score? "bidderspool" "w" =
            none := by
  have hread : Invocation.read named = .settled (.bidder namedSettings) := rfl
  have hname : (harbour none true).startup.name? namedSettings.name = some "w" := by decide
  have hsome : (namedSettings.prepare (harbour none true).startup).toOption.isSome = true := by
    decide +kernel
  have hstore : ((harbour none true).startup.client namedSettings.store).toOption =
      some (some Membership.nearby) := by decide +kernel
  cases hb : namedSettings.prepare (harbour none true).startup with
  | error failure =>
    rw [hb] at hsome
    cases hsome
  | ok b =>
    obtain ⟨-, hconfig, hclient⟩ := prepare_ok hb
    rw [hclient] at hstore
    have hclient : b.client = some Membership.nearby := Option.some.inj hstore
    have haccess : b.access = Membership.remote MemoryStore.store Membership.nearby := by
      simp only [Bidder.access, hclient]
    have hremoves : Life.Removes b.access "bidderspool" "w" := by
      refine removes_access fun client hc => ?_
      rw [hclient] at hc
      cases hc
      exact ⟨⟨rfl, rfl⟩, by decide, by decide +kernel⟩
    have htakes := ((bidder_takes_record hread hname).2 b hb).2.2
    refine ⟨b, rfl, ?_⟩
    rw [hconfig, haccess] at htakes ⊢
    rw [haccess] at hremoves
    have hnatural : ∀ x ∈ upToFarewell ++ [.own .farewell none], x.Natural := by
      simp [upToFarewell, Life.Move.Natural]
    obtain ⟨hscore, hlive, hended, hserved⟩ :
        leaving.score? "bidderspool" "w" = some 1700000000000 ∧ leaving.process.exit? = none ∧
          gone.process.exit? = some (.success "") ∧ ∀ a ∈ gone.store.calls, a.error? = none := by
      decide +kernel
    refine ⟨hscore, ?_⟩
    rcases htakes hremoves 1700000000000 {} upToFarewell (.own .farewell none) (.success "")
        hnatural hlive hended hserved with ⟨why, fault, hlistener, -⟩ | hgone
    · cases hlistener
    · exact hgone

/-- **A listener that cannot be opened leaves a record behind.** -/
theorem record_left_by_listener :
    let ended := (harbour (some "Permission denied (os error 13)") false).run named {}
    ended.1.map (·.code) = some 1 ∧ ended.2.score? "bidderspool" "w" = some 1700000000000 := by
  decide +kernel

end BidFleet.Command
