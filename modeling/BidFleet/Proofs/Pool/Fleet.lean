import BidFleet.Pool.Members
import BidFleet.Proofs.Pool.Steps

/-!
Fleets: any number of nodes that share one store in memory. Between two moves
anything may happen elsewhere, so a run of a fleet is any interleaving of the
single calls of its nodes with those of operators. A common time stands beside
the clocks of the nodes, and a ledger keeps every call that took effect together
with the time at which its pass began.
-/

namespace BidFleet.Pool

/-- A call that took effect. -/
structure Effect where
  call : Call
  /-- When the pass that made the call began. -/
  begun : Int
  time : Int

/-- A store in memory and what took effect on it, the latest first. -/
structure Ledger where
  store : MemoryStore
  effects : List Effect := []

namespace Ledger

/-- The store that writes its ledger. A call that meets a fault fails and changes nothing. -/
def calls (begun time : Int) (fault : Option Error) : Store Ledger := fun c l =>
  match fault with
  | some e => (.error e, l)
  | none =>
    ((MemoryStore.store c l.store).1,
      ⟨(MemoryStore.store c l.store).2, ⟨c, begun, time⟩ :: l.effects⟩)

end Ledger

/-- A node and the common time at which its latest pass began. -/
structure Station where
  node : Node
  begun : Int

structure Fleet where
  /-- The common time. -/
  time : Int
  stations : List Station
  ledger : Ledger

namespace Fleet

/-- What may happen in a fleet. -/
inductive Move where
  | elapse (ms : Nat)
  /-- A new node begins its first pass at this reading of its clock. -/
  | enter (role : Role) (config : Config) (now : Int64)
  /-- An event of the node at this place; a call of it may meet a fault. -/
  | act (place : Nat) (event : Node.Event) (fault : Option Error)
  /-- A call from outside the nodes. -/
  | operate (c : Call) (fault : Option Error)

def begunAfter (st : Station) (time : Int) : Node.Event → Int
  | .tick _ => time
  | _ => st.begun

/-- The fleet after a move; `none` when the move cannot happen. -/
def next (f : Fleet) : Move → Option Fleet
  | .elapse ms => some { f with time := f.time + ms }
  | .enter role config now =>
    some { f with stations := f.stations ++ [⟨.start role config now, f.time⟩] }
  | .act place event fault =>
    match f.stations[place]? with
    | none => none
    | some st =>
      match st.node.next (Ledger.calls st.begun f.time fault) f.ledger event with
      | none => none
      | some (n, l) =>
        some ⟨f.time, f.stations.set place ⟨n, begunAfter st f.time event⟩, l⟩
  | .operate c fault =>
    some { f with ledger := (Ledger.calls f.time f.time fault c f.ledger).2 }

/-- Runs whose moves are all allowed where they are made. -/
inductive Run (allowed : Fleet → Move → Prop) : Fleet → Fleet → Prop
  | refl (f : Fleet) : Run allowed f f
  | step {f g h : Fleet} (m : Move) :
      Run allowed f g → allowed g m → g.next m = some h → Run allowed f h

/-- The fleet after several moves; a move that cannot happen is left out. -/
def after (f : Fleet) : List Move → Fleet
  | [] => f
  | m :: ms => ((f.next m).getD f).after ms

/-- Moves that can happen one after the other and are all allowed. -/
def Legal (allowed : Fleet → Move → Prop) (f : Fleet) : List Move → Prop
  | [] => True
  | m :: ms => allowed f m ∧ (f.next m).isSome = true ∧ Legal allowed ((f.next m).getD f) ms

instance decidableLegal (allowed : Fleet → Move → Prop) [∀ f m, Decidable (allowed f m)] :
    (f : Fleet) → (ms : List Move) → Decidable (Legal allowed f ms)
  | _, [] => .isTrue trivial
  | f, m :: ms =>
    have := decidableLegal allowed ((f.next m).getD f) ms
    inferInstanceAs (Decidable (_ ∧ _ ∧ _))

theorem Run.trans {allowed : Fleet → Move → Prop} {f g h : Fleet} (hf : Run allowed f g)
    (hg : Run allowed g h) : Run allowed f h := by
  induction hg with
  | refl => exact hf
  | step m _ hm hnext ih => exact .step m ih hm hnext

theorem Legal.run {allowed : Fleet → Move → Prop} {f : Fleet} {ms : List Move}
    (h : Legal allowed f ms) : Run allowed f (f.after ms) := by
  induction ms generalizing f with
  | nil => exact .refl f
  | cons m ms ih =>
    obtain ⟨hm, hsome, hms⟩ := h
    obtain ⟨g, hg⟩ := Option.isSome_iff_exists.mp hsome
    have : (f.next m).getD f = g := by rw [hg]; rfl
    exact (Run.step m (.refl f) hm (this ▸ hg)).trans (ih hms)

/-- No node yet, and a store with any content. -/
def idle (time : Int) (store : MemoryStore) : Fleet := ⟨time, [], ⟨store, []⟩⟩

/-! ## The ledger grows -/

theorem calls_ledger (begun time : Int) (fault : Option Error) (c : Call) (l : Ledger) :
    (Ledger.calls begun time fault c l).2 = l ∨
      (Ledger.calls begun time fault c l).2 =
        ⟨(MemoryStore.store c l.store).2, ⟨c, begun, time⟩ :: l.effects⟩ := by
  cases fault with
  | some e => exact .inl rfl
  | none => exact .inr rfl

/-- An event of a node writes down nothing, or one effect at the present time. -/
theorem node_ledger {n n' : Node} {l l' : Ledger} {begun time : Int} {fault : Option Error}
    {e : Node.Event} (h : n.next (Ledger.calls begun time fault) l e = some (n', l')) :
    l' = l ∨ ∃ c, l'.effects = ⟨c, begun, time⟩ :: l.effects := by
  cases e with
  | tick now => exact .inl (Node.next_tick.mp h).2.2
  | call =>
    obtain ⟨c, go, -, -, rfl⟩ := Node.next_call.mp h
    rcases calls_ledger begun time fault c l with he | he
    · exact .inl he
    · exact .inr ⟨c, by rw [he]⟩
  | signal => exact .inl (Node.next_signal.mp h).2
  | heed => exact .inl (Node.next_heed.mp h).2.2.2
  | abort => exact .inl (Node.next_abort.mp h).2

/-- A move keeps what is written down, and writes down present effects only. -/
theorem next_grows {f g : Fleet} {m : Move} (h : f.next m = some g) :
    f.time ≤ g.time ∧ ∃ newer, g.ledger.effects = newer ++ f.ledger.effects ∧
      ∀ e ∈ newer, f.time ≤ e.time := by
  cases m with
  | elapse ms =>
    cases h
    exact ⟨by simp only; omega, [], rfl, by simp⟩
  | enter role config now =>
    cases h
    exact ⟨Int.le_refl _, [], rfl, by simp⟩
  | act place event fault =>
    simp only [next] at h
    split at h
    · cases h
    · split at h
      · cases h
      · rename_i n l hn
        cases h
        rcases node_ledger hn with rfl | ⟨c, hc⟩
        · exact ⟨Int.le_refl _, [], rfl, by simp⟩
        · exact ⟨Int.le_refl _, [_], hc, by simp⟩
  | operate c fault =>
    cases h
    rcases calls_ledger f.time f.time fault c f.ledger with he | he
    · exact ⟨Int.le_refl _, [], by simp [he], by simp⟩
    · exact ⟨Int.le_refl _, [⟨c, f.time, f.time⟩], by simp [he], by simp⟩

theorem run_grows {allowed : Fleet → Move → Prop} {f g : Fleet} (h : Run allowed f g) :
    f.time ≤ g.time ∧ ∃ newer, g.ledger.effects = newer ++ f.ledger.effects ∧
      ∀ e ∈ newer, f.time ≤ e.time := by
  induction h with
  | refl => exact ⟨Int.le_refl _, [], rfl, by simp⟩
  | step m _ _ hm ih =>
    obtain ⟨htime, newer, heff, hnew⟩ := ih
    obtain ⟨htime', newer', heff', hnew'⟩ := next_grows hm
    refine ⟨Int.le_trans htime htime', newer' ++ newer, by rw [heff', heff, List.append_assoc], ?_⟩
    intro e he
    rcases List.mem_append.mp he with he | he
    · exact Int.le_trans htime (hnew' e he)
    · exact hnew e he

end Fleet

end BidFleet.Pool
