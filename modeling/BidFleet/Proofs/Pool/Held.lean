import BidFleet.Proofs.Pool.LifeCycle
import BidFleet.Proofs.Pool.Scores

/-!
Nodes and their holders. The loop of a node and whoever holds the node are two
tasks: the holder may ask the node to stop and wait for its end, and only then
takes its record away. `Held.Sound` says that the loop goes through its life as it
does alone, and `Sound.next_calls` which calls an event makes: those of the passes
while the node has not ended, and one removal behind its end.
-/

namespace BidFleet.Pool

/-! ## Calls about a record -/

/-- A store whose next call meets a fault, or none. -/
def meeting {σ : Type} (store : Store σ) (fault : Option Error) : Store σ := fun c s =>
  match fault with
  | some e => (.error e, s)
  | none => store c s

def Call.writes (set member : String) (c : Call) : Prop := c.scored? set member ≠ none

instance (set member : String) (c : Call) : Decidable (c.writes set member) :=
  inferInstanceAs (Decidable (_ ≠ none))

/-- A call that does not write a record leaves it as it is or takes it away. -/
theorem MemoryStore.score?_unwritten {set member : String} {c : Call} (h : ¬c.writes set member)
    (fault : Option Error) (s : MemoryStore) :
    (meeting store fault c s).2.score? set member = s.score? set member ∨
      (meeting store fault c s).2.score? set member = none := by
  have hscored : c.scored? set member = none := Decidable.not_not.mp h
  cases fault with
  | some e => exact .inl rfl
  | none =>
    rcases s.score?_after set member c with hs | ⟨-, hs⟩
    · exact .inr (hs.trans hscored)
    · exact .inl hs

/-- A pass writes the record of its own node only. -/
theorem writes_passCalls {config : Config} {name : Option String} {now : Int64} {c : Call}
    {set member : String} (hc : c ∈ passCalls config name now) (h : c.writes set member) :
    set = config.pool ∧ name = some member := by
  have sweep : c ∉ sweepCalls config now := by
    intro hc
    simp only [sweepCalls, List.mem_cons, List.not_mem_nil, or_false] at hc
    rcases hc with rfl | rfl <;> exact h rfl
  cases name with
  | none => exact absurd hc sweep
  | some name =>
    rcases List.mem_cons.mp hc with rfl | hc
    · by_cases hm : set = config.pool ∧ member = name
      · exact ⟨hm.1, congrArg some hm.2.symm⟩
      · exact absurd (if_neg hm) h
    · exact absurd hc sweep

/-! ## Held nodes -/

/-- What the holder of a node has done with it. -/
inductive Hold where
  | kept
  /-- Given up, so that nothing can be asked of the node any more. -/
  | released
  /-- Asked to stop; its end is awaited. -/
  | leaving (removeSelf : Bool)
  /-- It has ended, and this is left to be asked. -/
  | parting (removeSelf : Bool) (farewell : Task storeCalls (Except Error Unit))
  /-- The leave has returned. -/
  | left (removeSelf : Bool) (result : Except Error Unit)

namespace Hold

/-- The hold with a farewell or the rest of one before it. -/
def part (removeSelf : Bool) : Task storeCalls (Except Error Unit) → Hold
  | .done r => left removeSelf r
  | farewell => parting removeSelf farewell

def parted : Hold → Bool
  | parting .. | left .. => true
  | _ => false

instance (removeSelf : Bool) : (h : Hold) → Decidable (h = left removeSelf (.ok ()))
  | left b (.ok ()) => decidable_of_iff (b = removeSelf) (by simp)
  | kept | released | leaving _ | parting .. | left _ (.error _) => .isFalse (by simp)

end Hold

/-- A node in the hands of its holder, with the calls that its loop has made. -/
structure Held where
  node : Node
  calls : List Answered := []
  hold : Hold := .kept

namespace Held

inductive Event where
  /-- The loop goes on: a rest ends, a call is made or a shutdown is heeded. -/
  | loop (e : Node.Event)
  | leave (removeSelf : Bool)
  /-- The holder is gone, which is a shutdown. -/
  | drop
  | abandon
  /-- The end of the node is seen, and the farewell begins. -/
  | part
  /-- The next call of the farewell is made. -/
  | farewell
  deriving DecidableEq, Repr

/-- Whether an event is up to the loop and not to the holder. -/
def ofLoop : Node.Event → Bool
  | .tick _ | .call | .heed => true
  | .signal | .abort => false

/-- The node and the store after an event; `none` when the event cannot happen. -/
def next (store : Store MemoryStore) (h : Held) (s : Recorded MemoryStore) :
    Event → Option (Held × Recorded MemoryStore)
  | .loop e =>
    if ofLoop e then
      (h.node.next (Recorded.store (Recorded.store store)) ⟨s, h.calls⟩ e).map
        (fun (n, r) => ({ h with node := n, calls := r.calls }, r.inner))
    else none
  | .leave removeSelf =>
    match h.hold with
    | .kept =>
      some ({ h with node := { h.node with signalled := true }, hold := .leaving removeSelf }, s)
    | _ => none
  | .drop =>
    match h.hold with
    | .kept => some ({ h with node := { h.node with signalled := true }, hold := .released }, s)
    | _ => none
  | .abandon =>
    match h.hold with
    | .kept => some ({ h with node := { h.node with phase := .ended }, hold := .released }, s)
    | _ => none
  | .part =>
    match h.hold, h.node.phase with
    | .leaving removeSelf, .ended =>
      some ({ h with hold := .part removeSelf (h.node.farewell removeSelf) }, s)
    | _, _ => none
  | .farewell =>
    match h.hold with
    | .parting removeSelf (.ask c go) =>
      some ({ h with hold := .part removeSelf (go (Recorded.store store c s).1) },
        (Recorded.store store c s).2)
    | _ => none

/-- The life of a held node. Unless it was given up, it is in a stage with the calls
that its loop has made; its farewell begins behind its end. -/
structure Sound (h : Held) : Prop where
  life : h.node.Stage h.calls ∨ (h.hold = .released ∧ h.node.phase = .ended)
  ended : h.hold.parted = true → h.node.phase = .ended
  farewell : ∀ removeSelf t, h.hold = .parting removeSelf t → t = h.node.farewell removeSelf

end Held

/-! ## What an event does -/

namespace Node

variable {σ : Type} {store : Store σ} {n n' : Node} {s s' : σ} {e : Event}

theorem next_loop (he : Held.ofLoop e = true) (h : n.next store s e = some (n', s')) :
    n.phase ≠ .ended ∧ e ≠ .abort := by
  cases e with
  | tick now =>
    have hp := (next_tick.mp h).1
    exact ⟨by rw [hp]; simp, by simp⟩
  | call =>
    obtain ⟨c, go, hp, -⟩ := next_call.mp h
    exact ⟨by rw [hp]; simp, by simp⟩
  | heed =>
    have hp := (next_heed.mp h).1
    exact ⟨by rw [hp]; simp, by simp⟩
  | signal => cases he
  | abort => cases he

/-- The call that a node in a pass is about to make is one of the pass. -/
theorem stage_ask {log : List Answered} (h : n.Stage log) {c : Call}
    {go : Except Error c.Result → Task storeCalls (Except Error Report)}
    (hp : n.phase = .passing (.ask c go)) : ∃ now, c ∈ passCalls n.config n.role.name? now := by
  cases h with
  | resting _ _ hrest => rw [hp] at hrest; cases hrest
  | stopped _ _ hend => rw [hp] at hend; cases hend
  | terminated _ _ _ _ _ _ _ hend => rw [hp] at hend; cases hend
  | passing _ now made left p _ hpass hcalls _ hmakes _ _ =>
    rw [hp] at hpass
    cases hpass
    cases hmakes with
    | ask _ cs _ _ _ => exact ⟨now, by rw [hcalls]; simp⟩

/-- A node that has ended has made complete passes and at most the part of one whose
last call failed. -/
theorem stage_ended {log : List Answered} (h : n.Stage log) (hp : n.phase = .ended) :
    ∃ nows, log = n.passes nows ∨ ∃ now made left c e,
      log = n.passes nows ++ succeeded made ++ [⟨c, some e⟩] ∧
        passCalls n.config n.role.name? now = made ++ c :: left := by
  cases h with
  | passing _ _ _ _ _ _ hpass => rw [hp] at hpass; cases hpass
  | resting _ _ hrest => rw [hp] at hrest; cases hrest
  | stopped nows hlog => exact ⟨nows, .inl hlog⟩
  | terminated nows now made left c e hlog _ hcalls =>
    exact ⟨nows, .inr ⟨now, made, left, c, e, hlog, hcalls⟩⟩

/-- A farewell is one removal of the own record, or nothing. -/
theorem farewell_cases (n : Node) (removeSelf : Bool) :
    n.farewell removeSelf = .done (.ok ()) ∨
      ∃ name, n.role.name? = some name ∧ n.farewell removeSelf =
        call (.remove n.config.pool name) (fun _ => .done (.ok ())) := by
  unfold farewell
  split
  case h_1 name hname => exact .inr ⟨name, hname, rfl⟩
  case h_2 => exact .inl rfl

end Node

namespace Held

variable {store : Store MemoryStore} {h h' : Held} {s s' : Recorded MemoryStore} {e : Event}

/-- The events that can happen, and what each leaves behind. -/
inductive Does (store : Store MemoryStore) (h : Held) (s : Recorded MemoryStore) :
    Event → Held → Recorded MemoryStore → Prop
  | loop {e : Node.Event} {n : Node} {r : Recorded (Recorded MemoryStore)} :
      ofLoop e = true →
      h.node.next (Recorded.store (Recorded.store store)) ⟨s, h.calls⟩ e = some (n, r) →
      Does store h s (.loop e) { h with node := n, calls := r.calls } r.inner
  | leave (removeSelf : Bool) : h.hold = .kept →
      Does store h s (.leave removeSelf)
        { h with node := { h.node with signalled := true }, hold := .leaving removeSelf } s
  | drop : h.hold = .kept →
      Does store h s .drop
        { h with node := { h.node with signalled := true }, hold := .released } s
  | abandon : h.hold = .kept →
      Does store h s .abandon { h with node := { h.node with phase := .ended }, hold := .released } s
  | part {removeSelf : Bool} : h.hold = .leaving removeSelf → h.node.phase = .ended →
      Does store h s .part { h with hold := .part removeSelf (h.node.farewell removeSelf) } s
  | farewell {removeSelf : Bool} {c : Call}
      {go : Except Error c.Result → Task storeCalls (Except Error Unit)} :
      h.hold = .parting removeSelf (.ask c go) →
      Does store h s .farewell
        { h with hold := .part removeSelf (go (Recorded.store store c s).1) }
        (Recorded.store store c s).2

theorem does_of_next (hnext : h.next store s e = some (h', s')) : Does store h s e h' s' := by
  cases e with
  | loop e =>
    simp only [next] at hnext
    split at hnext
    case isFalse => cases hnext
    case isTrue he =>
      obtain ⟨⟨n, r⟩, hn, heq⟩ := Option.map_eq_some_iff.mp hnext
      cases heq
      exact .loop he hn
  | leave removeSelf =>
    simp only [next] at hnext
    split at hnext
    case h_1 hk => cases hnext; exact .leave removeSelf hk
    case h_2 => cases hnext
  | drop =>
    simp only [next] at hnext
    split at hnext
    case h_1 hk => cases hnext; exact .drop hk
    case h_2 => cases hnext
  | abandon =>
    simp only [next] at hnext
    split at hnext
    case h_1 hk => cases hnext; exact .abandon hk
    case h_2 => cases hnext
  | part =>
    simp only [next] at hnext
    split at hnext
    case h_1 hk hp => cases hnext; exact .part hk hp
    case h_2 => cases hnext
  | farewell =>
    simp only [next] at hnext
    split at hnext
    case h_1 hk => cases hnext; exact .farewell hk
    case h_2 => cases hnext

/-- A node in anyone's hands keeps its role and its settings. -/
theorem next_role (hnext : h.next store s e = some (h', s')) :
    h'.node.role = h.node.role ∧ h'.node.config = h.node.config := by
  cases does_of_next hnext with
  | loop _ hn => exact Node.next_role hn
  | leave | drop | abandon | part | farewell => exact ⟨rfl, rfl⟩

theorem Sound.farewell_ask (hs : h.Sound) {removeSelf : Bool} {c : Call}
    {go : Except Error c.Result → Task storeCalls (Except Error Unit)}
    (hk : h.hold = .parting removeSelf (.ask c go)) :
    ∃ name, h.node.role.name? = some name ∧ c = .remove h.node.config.pool name ∧
      ∀ x, go x = .done (x.map (fun _ => ())) := by
  have htask := hs.farewell removeSelf _ hk
  rcases h.node.farewell_cases removeSelf with hnone | ⟨name, hname, hcall⟩
  · rw [hnone] at htask; cases htask
  · rw [hcall] at htask
    cases htask
    refine ⟨name, hname, rfl, fun x => ?_⟩
    cases x <;> rfl

/-- **Step lemma.** An event of a held node keeps its life. -/
theorem Sound.next (hs : h.Sound) (hnext : h.next store s e = some (h', s')) : h'.Sound := by
  have held (hk : h.hold ≠ .released) : h.node.Stage h.calls :=
    hs.life.resolve_right (fun hr => hk hr.1)
  cases does_of_next hnext with
  | loop he hn =>
    obtain ⟨hp, habort⟩ := Node.next_loop he hn
    have hstage := hs.life.resolve_right (fun hr => hp hr.2)
    exact ⟨.inl (Node.stage_next (s := ⟨s, h.calls⟩) hstage habort hn),
      fun hparted => absurd (hs.ended hparted) hp,
      fun b t ht => absurd (hs.ended (by rw [ht]; rfl)) hp⟩
  | leave b hk =>
    exact ⟨.inl (Node.stage_signal (held (by rw [hk]; simp))), by simp [Hold.parted], by simp⟩
  | drop hk =>
    exact ⟨.inl (Node.stage_signal (held (by rw [hk]; simp))), by simp [Hold.parted], by simp⟩
  | abandon hk => exact ⟨.inr ⟨rfl, rfl⟩, by simp [Hold.parted], by simp⟩
  | part hk hp =>
    refine ⟨.inl (held (by rw [hk]; simp)), fun _ => hp, fun b t ht => ?_⟩
    simp only [Hold.part] at ht
    split at ht
    · cases ht
    · cases ht; rfl
  | farewell hk =>
    obtain ⟨name, -, -, hgo⟩ := hs.farewell_ask hk
    refine ⟨.inl (held (by rw [hk]; simp)), fun _ => hs.ended (by rw [hk]; rfl), fun b t ht => ?_⟩
    rw [hgo] at ht
    cases ht

/-- **The calls of an event.** It makes no call, or one of a pass in flight, or the
removal of the own record behind the end of the node. -/
theorem Sound.next_calls (hs : h.Sound) (hnext : h.next store s e = some (h', s')) :
    s' = s ∨ ∃ c, s' = (Recorded.store store c s).2 ∧
      ((h.node.phase ≠ .ended ∧ ∃ now, c ∈ passCalls h.node.config h.node.role.name? now) ∨
        ∃ name, c = .remove h.node.config.pool name) := by
  cases does_of_next hnext with
  | loop he hn =>
    obtain ⟨hp, -⟩ := Node.next_loop he hn
    have hstage := hs.life.resolve_right (fun hr => hp hr.2)
    rename_i e _ _
    cases e with
    | tick now => exact .inl (by rw [(Node.next_tick.mp hn).2.2])
    | call =>
      obtain ⟨c, go, hpass, -, rfl⟩ := Node.next_call.mp hn
      exact .inr ⟨c, rfl, .inl ⟨hp, Node.stage_ask hstage hpass⟩⟩
    | heed => exact .inl (by rw [(Node.next_heed.mp hn).2.2.2])
    | signal | abort => cases he
  | farewell hk =>
    obtain ⟨name, -, rfl, -⟩ := hs.farewell_ask hk
    exact .inr ⟨_, rfl, .inr ⟨name, rfl⟩⟩
  | leave | drop | abandon | part => exact .inl rfl

/-- Behind its end only the farewell of a node goes on. -/
theorem Sound.parted_next (hs : h.Sound) (hnext : h.next store s e = some (h', s'))
    (hparted : h.hold.parted = true) :
    h'.node = h.node ∧ h'.calls = h.calls ∧ h'.hold.parted = true := by
  cases does_of_next hnext with
  | loop he hn => exact absurd (hs.ended hparted) (Node.next_loop he hn).1
  | leave _ hk | drop hk | abandon hk | part hk => rw [hk] at hparted; cases hparted
  | farewell hk =>
    obtain ⟨name, -, -, hgo⟩ := hs.farewell_ask hk
    exact ⟨rfl, rfl, by rw [hgo]; rfl⟩

/-- A leave with removal succeeds in one event: the removal of the own record. -/
theorem Sound.removed_next (hs : h.Sound) (hnext : h.next store s e = some (h', s'))
    {worker : String} (hrole : h'.node.role = .worker worker)
    (hleft : h'.hold = .left true (.ok ())) :
    h.hold = .left true (.ok ()) ∨
      ∃ r, (store (.remove h'.node.config.pool worker) s.inner).1 = .ok r ∧
        s' = (Recorded.store store (.remove h'.node.config.pool worker) s).2 := by
  cases does_of_next hnext with
  | loop => exact .inl hleft
  | leave | drop | abandon => cases hleft
  | part hk hp =>
    rename_i b
    -- the farewell of a worker that removes itself is not empty
    simp only [Hold.part] at hleft
    split at hleft
    · next hdone =>
      cases hleft
      have hname : h.node.role.name? = some worker := by rw [hrole]; rfl
      simp [Node.farewell, hname, call] at hdone
    · cases hleft
  | farewell hk =>
    obtain ⟨name, hname, rfl, hgo⟩ := hs.farewell_ask hk
    have hname : some worker = some name := by rw [← hname, hrole]; rfl
    cases hname
    rw [hgo] at hleft
    cases hx : (Recorded.store store (.remove h.node.config.pool worker) s).1 with
    | error e => rw [hx] at hleft; cases hleft
    | ok r => exact .inr ⟨r, hx, rfl⟩

end Held

end BidFleet.Pool
