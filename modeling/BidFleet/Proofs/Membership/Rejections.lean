import BidFleet.Proofs.Membership.Orders
import BidFleet.Proofs.Pool.Conservation

/-!
What requests do to the store in memory, whose calls may fail. A request is answered
with at most one call; but for the health check, which asks for none, only a call that
succeeds is answered by 200, so whatever else a response says, the store is as it was
(`rejected_harmless`). A call that succeeds
changes the set that the path of the request names, in the way of its kind, and no
other set.
-/

namespace BidFleet

namespace Pool

/-- The store in memory, of whose calls some fail and change nothing. -/
def unsteady (fault : Call → MemoryStore → Option Error) : Store MemoryStore := fun c s =>
  match fault c s with
  | some e => (.error e, s)
  | none => MemoryStore.store c s

/-- What a call makes of the scores of its set. -/
def Call.rescores : Call → (String → Option Int64) → String → Option Int64
  | upsert _ name score, scores, member => if member = name then some score else scores member
  | range .., scores, member => scores member
  | removeRange _ low high, scores, member =>
    (scores member).filter (fun score => !(low ≤ score && score ≤ high))
  | remove _ name, scores, member => if member = name then none else scores member

theorem MemoryStore.score?_own (c : Call) (s : MemoryStore) (member : String) :
    (store c s).2.score? c.set member = c.rescores (s.score? c.set) member := by
  cases c with
  | upsert set name score => simp [score?_upsert, Call.set, Call.rescores]
  | range set low high => rfl
  | removeRange set low high => simp [score?_removeRange, Call.set, Call.rescores, Members.within]
  | remove set name => simp [score?_remove, Call.set, Call.rescores]

end Pool

namespace Membership

open Http Server

theorem status_reject (rejection : Rejection) : (reject rejection).status ≠ 200 := by
  intro h
  have hfailure := isSuccess_reject rejection
  rw [h] at hfailure
  cases hfailure

theorem status_finish (request : Request) (response : Response) :
    (finish request response).status = response.status := by
  unfold finish
  split <;> rfl

/-- What the call of a request did to the store, when it was answered by 200. -/
structure Done (request : Request) (c : Pool.Call) (s s' : Pool.MemoryStore) : Prop where
  asked : Asks request c
  state : s' = (Pool.MemoryStore.store c s).2
  own : ∀ member, s'.score? c.set member = c.rescores (s.score? c.set) member
  apart : ∀ set, set ≠ c.set → s'.members set = s.members set

theorem Asks.done {request : Request} {c : Pool.Call} (h : Asks request c)
    (s : Pool.MemoryStore) : Done request c s (Pool.MemoryStore.store c s).2 :=
  ⟨h, rfl, s.score?_own c, fun set hset => s.members_store set hset⟩

/-- **Rejected requests are harmless.** Whatever the octets of a request are and whether
or not calls of the store fail, at most one call is made. A response other than 200 leaves
the store as it was, and so does every request that only reads. A response of 200 comes from
the one call that the request asks for, or without a call, and then it is the health check
that was asked for and no call. -/
theorem rejected_harmless (request : Request)
    (fault : Pool.Call → Pool.MemoryStore → Option Error) (s : Pool.MemoryStore) :
    ∃ response s' journal,
      (respond request).run (Pool.Journaled.store (Pool.unsteady fault)) ⟨s, []⟩ =
        (response, ⟨s', journal⟩) ∧
      journal.length ≤ 1 ∧
      (response.status ≠ 200 → s' = s) ∧
      (response.status = 200 →
        (segments request = ["", "__health"] ∧ (∀ c, ¬Asks request c) ∧ journal = [] ∧ s' = s) ∨
        ∃ c, journal = [⟨c, true⟩] ∧ Done request c s s') ∧
      (request.method = "GET" ∨ request.method = "HEAD" → s' = s) := by
  unfold respond
  split
  · next rejection _ =>
    have hstatus : (finish request (reject rejection)).status ≠ 200 := by
      rw [status_finish]
      exact status_reject rejection
    exact ⟨_, s, [], rfl, Nat.zero_le _, fun _ => rfl, fun h => absurd h hstatus, fun _ => rfl⟩
  · next hgreeted =>
    obtain ⟨hpath, hnothing⟩ := greeted_of_orderOf hgreeted
    exact ⟨_, s, [], rfl, Nat.zero_le _, fun _ => rfl,
      fun _ => .inl ⟨hpath, hnothing, rfl, rfl⟩, fun _ => rfl⟩
  · next c horder =>
    have hasks := orderOf_eq_call_iff.mp horder
    cases hfault : fault c s with
    | some e =>
      have hcall : Pool.unsteady fault c s = (.error e, s) := by simp [Pool.unsteady, hfault]
      have hstatus : (finish request (answered c (.error e))).status ≠ 200 := by
        rw [status_finish]
        simp [answered, plain]
      refine ⟨finish request (answered c (.error e)), s, [⟨c, false⟩], ?_, Nat.le_refl _,
        fun _ => rfl, fun h => absurd h hstatus, fun _ => rfl⟩
      simp only [Task.run, Pool.Journaled.store, hcall]
      rfl
    | none =>
      obtain ⟨r, hr⟩ := Pool.Deed.answer_ok ⟨s, c⟩
      have hcall : Pool.unsteady fault c s = (.ok r, (Pool.MemoryStore.store c s).2) := by
        simp only [Pool.unsteady, hfault]
        exact Prod.ext hr rfl
      have hstatus : (finish request (answered c (.ok r))).status = 200 := by
        rw [status_finish]
        rfl
      refine ⟨finish request (answered c (.ok r)), (Pool.MemoryStore.store c s).2, [⟨c, true⟩],
        ?_, Nat.le_refl _, fun h => absurd hstatus h, fun _ => .inr ⟨c, rfl, hasks.done s⟩, ?_⟩
      · simp only [Task.run, Pool.Journaled.store, hcall]
        rfl
      · intro hmethod
        obtain ⟨set, low, high, rfl⟩ := hasks.reads hmethod
        rfl

end Membership

end BidFleet
