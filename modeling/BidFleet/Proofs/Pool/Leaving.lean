import BidFleet.Proofs.Pool.Held

/-!
Leaving for good. A crew is any number of held nodes over one store in memory, with
operators beside them; every call may fail, and everything may be interleaved. A
node whose end its holder has seen makes no call any more, so nobody is left to
write its record (`parted_next`), and once its removal has succeeded the record is
gone (`absent_next`). `leave_is_final` draws both together over whole runs.
-/

namespace BidFleet.Pool

/-! ## Crews -/

/-- Held nodes and the store that they share. -/
structure Crew where
  store : Recorded MemoryStore
  nodes : List Held := []

namespace Crew

/-- What may happen in a crew. -/
inductive Move where
  /-- A new node begins its first pass at this reading of its clock. -/
  | enter (role : Role) (config : Config) (now : Int64)
  /-- An event of the node at this place; a call of it may meet a fault. -/
  | act (place : Nat) (e : Held.Event) (fault : Option Error)
  /-- A call from outside the nodes. -/
  | operate (c : Call) (fault : Option Error)
  deriving DecidableEq

/-- The crew after a move; `none` when the move cannot happen. -/
def next (c : Crew) : Move → Option Crew
  | .enter role config now => some { c with nodes := c.nodes ++ [⟨.start role config now, [], .kept⟩] }
  | .act place e fault =>
    match c.nodes[place]? with
    | none => none
    | some h =>
      (h.next (meeting MemoryStore.store fault) c.store e).map
        (fun (h, s) => ⟨s, c.nodes.set place h⟩)
  | .operate call fault =>
    some { c with store := (Recorded.store (meeting MemoryStore.store fault) call c.store).2 }

/-- The crew after several moves; `none` when one of them cannot happen. -/
def run : List Move → Crew → Option Crew
  | [], c => some c
  | m :: ms, c =>
    match c.next m with
    | some c => run ms c
    | none => none

/-- No node yet, and a store with any content. -/
def idle (store : MemoryStore) : Crew := ⟨⟨store, []⟩, []⟩

def score? (c : Crew) (pool worker : String) : Option Int64 := c.store.inner.score? pool worker

variable {c c' : Crew}

theorem next_act {place : Nat} {e : Held.Event} {fault : Option Error} :
    c.next (.act place e fault) = some c' ↔ ∃ h h' s', c.nodes[place]? = some h ∧
      h.next (meeting MemoryStore.store fault) c.store e = some (h', s') ∧
        c' = ⟨s', c.nodes.set place h'⟩ := by
  simp only [next]
  cases hp : c.nodes[place]? with
  | none => simp
  | some h =>
    simp only [Option.map_eq_some_iff, Prod.exists, Option.some.injEq]
    constructor
    · rintro ⟨h', s', hn, rfl⟩; exact ⟨h, h', s', rfl, hn, rfl⟩
    · rintro ⟨_, h', s', rfl, hn, rfl⟩; exact ⟨h', s', hn, rfl⟩

/-- What a move makes of the node at a place: it stays as it is, or the move is its own. -/
theorem node_next {m : Move} {place : Nat} {x : Held} (h : c.next m = some c')
    (hx : c.nodes[place]? = some x) : c'.nodes[place]? = some x ∨ ∃ e fault x',
      x.next (meeting MemoryStore.store fault) c.store e = some (x', c'.store) ∧
        c'.nodes[place]? = some x' := by
  have hlt := (List.getElem?_eq_some_iff.mp hx).1
  cases m with
  | enter role config now =>
    cases h
    exact .inl (by rw [List.getElem?_append_left hlt, hx])
  | act i e fault =>
    obtain ⟨y, y', s', hy, hn, rfl⟩ := next_act.mp h
    by_cases hi : place = i
    · subst hi
      rw [hx] at hy
      cases hy
      exact .inr ⟨e, fault, y', hn, List.getElem?_set_self hlt⟩
    · exact .inl (by rw [List.getElem?_set_ne (Ne.symm hi), hx])
  | operate call fault =>
    cases h
    exact .inl hx

theorem node_new {m : Move} {place : Nat} {y : Held} (h : c.next m = some c')
    (hx : c.nodes[place]? = none) (hy : c'.nodes[place]? = some y) : y.hold = .kept := by
  have hle := List.getElem?_eq_none_iff.mp hx
  cases m with
  | enter role config now =>
    cases h
    rw [List.getElem?_append_right hle] at hy
    rw [List.mem_singleton.mp (List.mem_of_getElem? hy)]
  | act i e fault =>
    obtain ⟨_, _, _, _, _, rfl⟩ := next_act.mp h
    rw [List.getElem?_eq_none (by rw [List.length_set]; exact hle)] at hy
    cases hy
  | operate call fault =>
    cases h
    rw [hx] at hy
    cases hy

/-- What every move of a run keeps, the run keeps. -/
theorem run_induction {motive : Crew → Prop} {moves : List Move}
    (hstep : ∀ c m c', m ∈ moves → motive c → c.next m = some c' → motive c')
    (h : motive c) (hrun : run moves c = some c') : motive c' := by
  induction moves generalizing c with
  | nil => cases hrun; exact h
  | cons m ms ih =>
    simp only [run] at hrun
    split at hrun
    · next c₁ hnext =>
      exact ih (fun c m c' hm => hstep c m c' (List.mem_cons_of_mem _ hm))
        (hstep _ m _ (List.mem_cons_self ..) h hnext) hrun
    · cases hrun

/-- Every held node lives as it does alone. -/
def Sound (c : Crew) : Prop := ∀ h ∈ c.nodes, h.Sound

theorem Sound.next {m : Move} (hc : c.Sound) (h : c.next m = some c') : c'.Sound := by
  cases m with
  | enter role config now =>
    cases h
    intro x hx
    rcases List.mem_append.mp hx with hx | hx
    · exact hc x hx
    · rw [List.mem_singleton.mp hx]
      exact ⟨.inl (Node.stage_start role config now), by simp [Hold.parted], by simp⟩
  | act place e fault =>
    obtain ⟨x, x', s', hx, hn, rfl⟩ := next_act.mp h
    intro y hy
    rcases List.mem_or_eq_of_mem_set hy with hy | rfl
    · exact hc y hy
    · exact (hc x (List.mem_of_getElem? hx)).next hn
  | operate call fault =>
    cases h
    exact hc

theorem sound_run {store : MemoryStore} {moves : List Move} (h : run moves (idle store) = some c) :
    c.Sound :=
  run_induction (fun _ _ _ _ hc hn => hc.next hn) (by simp [Sound, idle]) h

/-- Nodes stay at their places, with their roles and settings. -/
def Extends (c c' : Crew) : Prop := ∀ (i : Nat) (x : Held), c.nodes[i]? = some x →
  ∃ y, c'.nodes[i]? = some y ∧ y.node.role = x.node.role ∧ y.node.config = x.node.config

theorem Extends.refl (c : Crew) : c.Extends c := fun _ x hx => ⟨x, hx, rfl, rfl⟩

theorem Extends.trans {c'' : Crew} (h : c.Extends c') (h' : c'.Extends c'') : c.Extends c'' := by
  intro i x hx
  obtain ⟨y, hy, hrole, hconfig⟩ := h i x hx
  obtain ⟨z, hz, hrole', hconfig'⟩ := h' i y hy
  exact ⟨z, hz, hrole'.trans hrole, hconfig'.trans hconfig⟩

theorem extends_next {m : Move} (h : c.next m = some c') : c.Extends c' := by
  intro i x hx
  rcases node_next h hx with hy | ⟨e, fault, y, hn, hy⟩
  · exact ⟨x, hy, rfl, rfl⟩
  · exact ⟨y, hy, Held.next_role hn⟩

theorem extends_run {moves : List Move} (h : run moves c = some c') : c.Extends c' :=
  run_induction (fun _ _ _ _ hc hn => hc.trans (extends_next hn)) (.refl c) h

/-! ## Nobody else writes the record -/

/-- The only node that keeps the record of `worker` in `pool`, if one does, is the one
at `place`. -/
def Alone (pool worker : String) (place : Nat) (c : Crew) : Prop := ∀ (i : Nat) (x : Held),
  c.nodes[i]? = some x → x.node.role = .worker worker → x.node.config.pool = pool → i = place

/-- Operators do not write the record of `worker` in `pool`. -/
def Move.Spares (pool worker : String) : Move → Prop
  | .operate call _ => ¬call.writes pool worker
  | _ => True

instance (pool worker : String) : (m : Move) → Decidable (m.Spares pool worker)
  | .operate .. => inferInstanceAs (Decidable (¬_))
  | .enter .. | .act .. => .isTrue trivial

variable {pool worker : String} {place : Nat}

/-- A crew is no less alone than one that it becomes. -/
theorem Alone.of_extends (h : Alone pool worker place c') (he : c.Extends c') :
    Alone pool worker place c := by
  intro i x hx hrole hpool
  obtain ⟨y, hy, hrole', hconfig⟩ := he i x hx
  exact h i y hy (hrole'.trans hrole) (by rw [hconfig, hpool])

/-- **Who writes.** A move makes no call, or one that writes the record only when the
node of the record makes it and has not ended. -/
theorem next_writes {m : Move} (hc : c.Sound) (halone : c.Alone pool worker place)
    (hm : m.Spares pool worker) (h : c.next m = some c') : c'.store = c.store ∨
      ∃ call fault, c'.store = (Recorded.store (meeting MemoryStore.store fault) call c.store).2 ∧
        (call.writes pool worker →
          ∃ x, c.nodes[place]? = some x ∧ x.node.phase ≠ .ended) := by
  cases m with
  | enter role config now =>
    cases h
    exact .inl rfl
  | operate call fault =>
    cases h
    exact .inr ⟨call, fault, rfl, fun hw => absurd hw hm⟩
  | act i e fault =>
    obtain ⟨x, x', s', hx, hn, rfl⟩ := next_act.mp h
    rcases (hc x (List.mem_of_getElem? hx)).next_calls hn with rfl | ⟨call, rfl, hcall⟩
    · exact .inl rfl
    · refine .inr ⟨call, fault, rfl, fun hw => ?_⟩
      rcases hcall with ⟨hp, now, hpass⟩ | ⟨name, rfl⟩
      · obtain ⟨hpool, hname⟩ := writes_passCalls hpass hw
        have hrole : x.node.role = .worker worker := by
          cases hr : x.node.role with
          | coordinator => rw [hr] at hname; cases hname
          | worker name => rw [hr] at hname; cases hname; rfl
        have hi := halone i x hx hrole hpool.symm
        exact ⟨x, hi ▸ hx, hp⟩
      · exact absurd rfl hw

/-- What a move makes of a record that nobody writes. -/
theorem next_score (hc : c.Sound) (halone : c.Alone pool worker place) {m : Move}
    (hm : m.Spares pool worker) (h : c.next m = some c') {x : Held}
    (hx : c.nodes[place]? = some x) (hend : x.node.phase = .ended) :
    (∃ newer, c'.store.calls = c.store.calls ++ newer ∧
        ∀ a ∈ newer, ¬a.call.writes pool worker) ∧
      (c'.score? pool worker = c.score? pool worker ∨ c'.score? pool worker = none) := by
  rcases next_writes hc halone hm h with hs | ⟨call, fault, hs, hw⟩
  · refine ⟨⟨[], by rw [hs]; simp, by simp⟩, .inl ?_⟩
    simp only [score?, hs]
  · have hcall : ¬call.writes pool worker := by
      intro hwrites
      obtain ⟨y, hy, hp⟩ := hw hwrites
      rw [hx] at hy
      cases hy
      exact hp hend
    refine ⟨⟨[⟨call, _⟩], by rw [hs]; rfl, ?_⟩, ?_⟩
    · intro a ha
      rw [List.mem_singleton.mp ha]
      exact hcall
    · simp only [score?, hs, Recorded.store]
      exact MemoryStore.score?_unwritten hcall fault c.store.inner

/-- A node whose end its holder has seen stays as it is, and so do its calls. -/
theorem parted_next (hc : c.Sound) {m : Move} (h : c.next m = some c') {x : Held}
    (hx : c.nodes[place]? = some x) (hparted : x.hold.parted = true) :
    ∃ y, c'.nodes[place]? = some y ∧ y.node = x.node ∧ y.calls = x.calls ∧
      y.hold.parted = true := by
  rcases node_next h hx with hy | ⟨e, fault, y, hn, hy⟩
  · exact ⟨x, hy, rfl, rfl, hparted⟩
  · exact ⟨y, hy, (hc x (List.mem_of_getElem? hx)).parted_next hn hparted⟩

/-- Once a leave with removal has succeeded, the record of the node is not there. -/
def Absent (pool worker : String) (place : Nat) (c : Crew) : Prop := ∀ x : Held,
  c.nodes[place]? = some x → x.node.role = .worker worker → x.node.config.pool = pool →
    x.hold = .left true (.ok ()) → c.score? pool worker = none

theorem absent_next (hc : c.Sound) (halone : c.Alone pool worker place) {m : Move}
    (hm : m.Spares pool worker) (habsent : c.Absent pool worker place)
    (h : c.next m = some c') : c'.Absent pool worker place := by
  intro y hy hrole hpool hleft
  -- a record that was gone before stays away
  have stays {x : Held} (hx : c.nodes[place]? = some x) (hrole : x.node.role = .worker worker)
      (hpool : x.node.config.pool = pool) (hleft : x.hold = .left true (.ok ())) :
      c'.score? pool worker = none := by
    have hnone := habsent x hx hrole hpool hleft
    have hend := (hc x (List.mem_of_getElem? hx)).ended (by rw [hleft]; rfl)
    rcases (next_score hc halone hm h hx hend).2 with hs | hs
    · rw [hs, hnone]
    · exact hs
  cases hx : c.nodes[place]? with
  | none =>
    rw [node_new h hx hy] at hleft
    cases hleft
  | some x =>
    rcases node_next h hx with hsame | ⟨e, fault, x', hn, hy'⟩
    · rw [hsame] at hy
      cases hy
      exact stays hx hrole hpool hleft
    · rw [hy'] at hy
      cases hy
      rcases (hc x (List.mem_of_getElem? hx)).removed_next hn hrole hleft with hgone | ⟨r, hr, hs⟩
      · obtain ⟨hrole', hconfig⟩ := Held.next_role hn
        exact stays hx (hrole'.symm.trans hrole) (by rw [← hconfig, hpool]) hgone
      · cases fault with
        | some e => cases hr
        | none =>
          rw [score?, hs, hpool]
          simp only [Recorded.store, meeting]
          rw [MemoryStore.score?_remove, if_pos ⟨rfl, rfl⟩]

/-! ## Runs -/

theorem absent_run {moves : List Move} (hc : c.Sound) (habsent : c.Absent pool worker place)
    (hmoves : ∀ m ∈ moves, m.Spares pool worker) (hrun : run moves c = some c')
    (halone : c'.Alone pool worker place) : c'.Absent pool worker place := by
  induction moves generalizing c with
  | nil => cases hrun; exact habsent
  | cons m ms ih =>
    have hm := hmoves m (List.mem_cons_self ..)
    have hextends := extends_run hrun
    simp only [run] at hrun
    split at hrun
    · next c₁ hnext =>
      exact ih (hc.next hnext) (absent_next hc (halone.of_extends hextends) hm habsent hnext)
        (fun m hm => hmoves m (List.mem_cons_of_mem _ hm)) hrun
    · cases hrun

/-- What stays behind a node whose end its holder has seen. -/
structure Settled (pool worker : String) (place : Nat) (x : Held) (c c' : Crew) : Prop where
  /-- The node is where it was, and its loop has made no further call. -/
  node : ∃ y, c'.nodes[place]? = some y ∧ y.node = x.node ∧ y.calls = x.calls ∧
    y.hold.parted = true
  /-- Nobody has tried to write the record. -/
  calls : ∃ newer, c'.store.calls = c.store.calls ++ newer ∧
    ∀ a ∈ newer, ¬a.call.writes pool worker
  /-- The record is as it was, or has disappeared. -/
  score : c'.score? pool worker = c.score? pool worker ∨ c'.score? pool worker = none

theorem settled_run {moves : List Move} (hc : c.Sound)
    (hmoves : ∀ m ∈ moves, m.Spares pool worker) (hrun : run moves c = some c')
    (halone : c'.Alone pool worker place) {x : Held} (hx : c.nodes[place]? = some x)
    (hparted : x.hold.parted = true) : Settled pool worker place x c c' := by
  induction moves generalizing c x with
  | nil =>
    cases hrun
    exact ⟨⟨x, hx, rfl, rfl, hparted⟩, ⟨[], by simp, by simp⟩, .inl rfl⟩
  | cons m ms ih =>
    have hm := hmoves m (List.mem_cons_self ..)
    have hextends := extends_run hrun
    simp only [run] at hrun
    split at hrun
    · next c₁ hnext =>
      have hend := (hc x (List.mem_of_getElem? hx)).ended hparted
      obtain ⟨y, hy, hnode, hcalls, hparted'⟩ := parted_next hc hnext hx hparted
      obtain ⟨⟨newer, hnewer, hspared⟩, hscore⟩ :=
        next_score hc (halone.of_extends hextends) hm hnext hx hend
      obtain ⟨⟨z, hz, hnode', hcalls', hparted''⟩, ⟨more, hmore, hspared'⟩, hscore'⟩ :=
        ih (hc.next hnext) (fun m hm => hmoves m (List.mem_cons_of_mem _ hm)) hrun hy hparted'
      refine ⟨⟨z, hz, hnode'.trans hnode, hcalls'.trans hcalls, hparted''⟩,
        ⟨newer ++ more, by rw [hmore, hnewer, List.append_assoc], fun a ha => ?_⟩, ?_⟩
      · rcases List.mem_append.mp ha with ha | ha
        · exact hspared a ha
        · exact hspared' a ha
      · rcases hscore' with hs | hs
        · rw [hs]; exact hscore
        · exact .inr hs
    · cases hrun

/-- **Leaving is final.** Nodes come and go over a store in memory, with faults and in any
order; a worker is the only node of its name in its pool, and operators do not write its
record. Take any moment `f` at which whoever holds the worker has seen its end in a leave,
whenever that leave was asked for. Then the loop has made complete passes and at most the
part of one that ended with its own failed call, before any removal was made. At every
later moment `g` it has made no further call, nobody has tried to write the record, and
the record is as it was or has disappeared. Once a leave with removal has returned
without an error, it is not there. -/
theorem leave_is_final {store : MemoryStore} {moves later : List Move} {f g : Crew}
    (hf : run moves (idle store) = some f) (hg : run later f = some g)
    (hmoves : ∀ m ∈ moves ++ later, m.Spares pool worker) (halone : g.Alone pool worker place)
    {x : Held} (hx : f.nodes[place]? = some x) (hrole : x.node.role = .worker worker)
    (hpool : x.node.config.pool = pool) (hparted : x.hold.parted = true) :
    (∃ nows, x.calls = x.node.passes nows ∨ ∃ now made left c e,
        x.calls = x.node.passes nows ++ succeeded made ++ [⟨c, some e⟩] ∧
          passCalls x.node.config (some worker) now = made ++ c :: left) ∧
      Settled pool worker place x f g ∧
      (x.hold = .left true (.ok ()) → g.score? pool worker = none) := by
  have hsound := sound_run hf
  have hheld := hsound x (List.mem_of_getElem? hx)
  have hstage : x.node.Stage x.calls :=
    hheld.life.resolve_right (fun hr => by rw [hr.1] at hparted; cases hparted)
  have hsettled := settled_run hsound (fun m hm => hmoves m (List.mem_append_right _ hm)) hg
    halone hx hparted
  refine ⟨?_, hsettled, fun hleft => ?_⟩
  · have hname : x.node.role.name? = some worker := by rw [hrole]; rfl
    exact hname ▸ Node.stage_ended hstage (hheld.ended hparted)
  · have hidle : (idle store).Absent pool worker place := fun y hy => by simp [idle] at hy
    have habsent := absent_run (by simp [Sound, idle]) hidle
      (fun m hm => hmoves m (List.mem_append_left _ hm)) hf (halone.of_extends (extends_run hg))
    have hnone := habsent x hx hrole hpool hleft
    rcases hsettled.score with hs | hs
    · rw [hs, hnone]
    · exact hs

/-- A worker leaves while its second pass is in flight beside a coordinator. -/
def departure : List Move :=
  let loop (e : Node.Event) : Move := .act 0 (.loop e) none
  [.enter (.worker "a") {} 100, .enter .coordinator {} 100, loop .call, loop .call, loop .call,
    loop (.tick 5100), loop .call, .act 0 (.leave true) none, .act 1 (.loop .call) none,
    loop .call, loop .call, loop .heed, .act 0 .part none, .act 0 .farewell none]

/-- The coordinator's store fails, an operator cleans up, and another worker comes. -/
def aftermath : List Move :=
  [.act 1 (.loop .call) (some (.storeUnavailable "connection refused")),
    .operate (.remove "bidderspool" "a") none, .enter (.worker "b") {} 5200,
    .act 2 (.loop .call) none]

/-- A leave that is asked for behind a heartbeat whose pass is not over. -/
theorem leave_is_final_in_flight : ∃ f g x, run departure (idle {}) = some f ∧
    run aftermath f = some g ∧ f.nodes[0]? = some x ∧ Settled "bidderspool" "a" 0 x f g ∧
    g.score? "bidderspool" "a" = none := by
  have hgone : (run departure (idle {})).any (fun f => f.nodes[0]?.any (fun x =>
      x.node.role = .worker "a" ∧ x.node.config.pool = "bidderspool" ∧
        x.hold = .left true (.ok ()))) = true := by
    decide +kernel
  have hroles : ((run departure (idle {})).bind (run aftermath)).map
      (·.nodes.map (·.node.role)) = some [.worker "a", .coordinator, .worker "b"] := by
    decide +kernel
  obtain ⟨f, hf, hgone⟩ := Option.any_eq_true _ _ |>.mp hgone
  obtain ⟨x, hx, hfacts⟩ := Option.any_eq_true _ _ |>.mp hgone
  obtain ⟨hrole, hpool, hleft⟩ := of_decide_eq_true hfacts
  obtain ⟨g, hg, hroles⟩ := Option.map_eq_some_iff.mp hroles
  rw [hf, Option.bind_some] at hg
  have halone : g.Alone "bidderspool" "a" 0 := by
    intro i y hy hrole _
    have hi : (g.nodes.map (·.node.role))[i]? = some (.worker "a") := by
      rw [List.getElem?_map, hy, Option.map_some, hrole]
    rw [hroles] at hi
    match i, hi with
    | 0, _ => rfl
    | i + 3, hi => cases hi
  obtain ⟨-, hsettled, hnone⟩ := leave_is_final hf hg
    (by decide +kernel) halone hx hrole hpool (by rw [hleft]; rfl)
  exact ⟨f, g, x, hf, hg, hx, hsettled, hnone hleft⟩

end Crew

end BidFleet.Pool
