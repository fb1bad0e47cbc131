import BidFleet.Http.Status
import BidFleet.Membership.Server

/-!
What requests ask of a server. `Asks` reads a call off the method of a request, the
segments of its path, its query and its body; a server makes just these calls
(`orderOf_eq_call_iff`), and a request that only reads asks for nothing but a range
(`Asks.reads`).
-/

namespace BidFleet.Membership

open Http Server

/-- The path and the query of a request. -/
def requested (request : Request) : List Char :=
  Text.before '#' (originForm request.target.toList)

/-- The segments of the path of a request, still encoded. -/
def segments (request : Request) : List String :=
  (Text.split '/' (Text.before '?' (requested request))).map String.ofList

/-- The query of a request. -/
def search (request : Request) : List Char := (Text.after? '?' (requested request)).getD []

/-- Whether a segment is the encoded form of a name. -/
def StandsFor (segment name : String) : Prop :=
  Utf8.decode? (Percent.decode (Utf8.encode segment)) = some name

/-- The call that a request asks for. -/
inductive Asks (request : Request) : Pool.Call → Prop
  | upsert {set name : String} {h : Heartbeat} :
      request.method = "POST" → segments request = ["", "sets", set, "members"] →
      StandsFor set name → readHeartbeat request = .ok h →
      Asks request (.upsert name h.member h.score)
  | range {set name : String} {low high : Int64} :
      request.method = "GET" ∨ request.method = "HEAD" →
      segments request = ["", "sets", set, "range"] → StandsFor set name →
      readBounds none none (Query.pairs (search request)) = .ok (low, high) →
      Asks request (.range name low high)
  | removeRange {set name : String} {low high : Int64} :
      request.method = "DELETE" → segments request = ["", "sets", set, "range"] →
      StandsFor set name →
      readBounds none none (Query.pairs (search request)) = .ok (low, high) →
      Asks request (.removeRange name low high)
  | remove {set name member other : String} :
      request.method = "DELETE" → segments request = ["", "sets", set, "members", member] →
      StandsFor set name → member ≠ "" → StandsFor member other →
      Asks request (.remove name other)

/-- What a request asks for is read at the endpoint of its path. -/
theorem orderOf_of_path {request : Request} {endpoint : Endpoint}
    (h : Endpoint.ofPath? (Text.before '?' (requested request)) = some endpoint) :
    orderOf request = readOrder endpoint request (search request) := by
  rw [requested] at h
  simp only [Server.orderOf, h]
  rfl

theorem endpoint_range {request : Request} {set : String}
    (h : segments request = ["", "sets", set, "range"]) :
    Endpoint.ofPath? (Text.before '?' (requested request)) = some (.range set.toList) := by
  rw [segments] at h
  simp only [Endpoint.ofPath?, h]

/-- A call that a request for reading asks for is a range. -/
theorem Asks.reads {request : Request} {c : Pool.Call} (h : Asks request c)
    (hmethod : request.method = "GET" ∨ request.method = "HEAD") :
    ∃ set low high, c = .range set low high := by
  cases h with
  | upsert hpost => simp [hpost] at hmethod
  | range => exact ⟨_, _, _, rfl⟩
  | removeRange hdelete => simp [hdelete] at hmethod
  | remove hdelete => simp [hdelete] at hmethod

theorem readName_eq_ok {parameter segment name : String} :
    readName parameter segment.toList = .ok name ↔ StandsFor segment name := by
  unfold readName StandsFor Utf8.encode
  split
  · next text h => simp [h]
  · next h => simp [h]

/-! ## Endpoints -/

section

variable {request : Request} {c : Pool.Call} {query : List Char} {set member : String}

theorem order_eq_ok_iff {α β : Type} {x : Except Rejection α} {y : Except Rejection β}
    {f : α → β → Order} {order : Order} :
    (do let a ← x; let b ← y; return f a b) = Except.ok order ↔
      ∃ a b, x = .ok a ∧ y = .ok b ∧ f a b = order := by
  constructor
  · intro h
    cases x with
    | error e => cases h
    | ok a =>
      cases y with
      | error e => cases h
      | ok b => exact ⟨a, b, rfl, rfl, Except.ok.inj h⟩
  · rintro ⟨a, b, rfl, rfl, h⟩
    exact congrArg Except.ok h

/-- An endpoint takes its own methods and no others. -/
theorem readOrder_eq_ok {endpoint : Endpoint} {order : Order}
    (h : readOrder endpoint request query = .ok order) : request.method ∈ endpoint.methods := by
  unfold readOrder at h
  split at h
  · cases h
  · next hmethod => simpa using hmethod

/-- Only the health check is no call. -/
theorem readOrder_health {endpoint : Endpoint}
    (h : readOrder endpoint request query = .ok .health) : endpoint = .health := by
  unfold readOrder at h
  split at h
  · cases h
  cases endpoint with
  | health => rfl
  | members set =>
    obtain ⟨_, _, -, -, hcall⟩ := order_eq_ok_iff.mp h
    cases hcall
  | member set member =>
    obtain ⟨_, _, -, -, hcall⟩ := order_eq_ok_iff.mp h
    cases hcall
  | range set =>
    dsimp only at h
    split at h <;>
    · obtain ⟨_, _, -, -, hcall⟩ := order_eq_ok_iff.mp h
      cases hcall

theorem readOrder_members_iff : readOrder (.members set.toList) request query = .ok (.call c) ↔
    request.method = "POST" ∧ ∃ name beat, StandsFor set name ∧ readHeartbeat request = .ok beat ∧
      c = .upsert name beat.member beat.score := by
  refine ⟨fun h => ?_, fun ⟨hmethod, h⟩ => ?_⟩
  · have hmethod : request.method = "POST" := List.mem_singleton.mp (readOrder_eq_ok h)
    rw [readOrder, if_neg (by simp [Endpoint.methods, hmethod])] at h
    obtain ⟨name, beat, hname, hbeat, hc⟩ := order_eq_ok_iff.mp h
    exact ⟨hmethod, name, beat, readName_eq_ok.mp hname, hbeat, (Order.call.inj hc).symm⟩
  · obtain ⟨name, beat, hname, hbeat, rfl⟩ := h
    rw [readOrder, if_neg (by simp [Endpoint.methods, hmethod])]
    exact order_eq_ok_iff.mpr ⟨name, beat, readName_eq_ok.mpr hname, hbeat, rfl⟩

theorem readOrder_member_iff :
    readOrder (.member set.toList member.toList) request query = .ok (.call c) ↔
      request.method = "DELETE" ∧ ∃ name other, StandsFor set name ∧ StandsFor member other ∧
        c = .remove name other := by
  refine ⟨fun h => ?_, fun ⟨hmethod, h⟩ => ?_⟩
  · have hmethod : request.method = "DELETE" := List.mem_singleton.mp (readOrder_eq_ok h)
    rw [readOrder, if_neg (by simp [Endpoint.methods, hmethod])] at h
    obtain ⟨name, other, hname, hother, hc⟩ := order_eq_ok_iff.mp h
    exact ⟨hmethod, name, other, readName_eq_ok.mp hname, readName_eq_ok.mp hother,
      (Order.call.inj hc).symm⟩
  · obtain ⟨name, other, hname, hother, rfl⟩ := h
    rw [readOrder, if_neg (by simp [Endpoint.methods, hmethod])]
    exact order_eq_ok_iff.mpr
      ⟨name, other, readName_eq_ok.mpr hname, readName_eq_ok.mpr hother, rfl⟩

theorem readOrder_range_iff : readOrder (.range set.toList) request query = .ok (.call c) ↔
    ∃ name low high, StandsFor set name ∧
      readBounds none none (Query.pairs query) = .ok (low, high) ∧
      (request.method = "DELETE" ∧ c = .removeRange name low high ∨
        (request.method = "GET" ∨ request.method = "HEAD") ∧ c = .range name low high) := by
  by_cases hdelete : request.method = "DELETE"
  · rw [readOrder, if_neg (by simp [Endpoint.methods, hdelete])]
    simp only [hdelete, if_true]
    refine order_eq_ok_iff.trans ⟨?_, ?_⟩
    · rintro ⟨name, ⟨low, high⟩, hname, hbounds, hc⟩
      exact ⟨name, low, high, readName_eq_ok.mp hname, hbounds,
        .inl ⟨trivial, (Order.call.inj hc).symm⟩⟩
    · rintro ⟨name, low, high, hname, hbounds, ⟨-, rfl⟩ | ⟨hread, -⟩⟩
      · exact ⟨name, (low, high), readName_eq_ok.mpr hname, hbounds, rfl⟩
      · exact absurd hread (by decide)
  · refine ⟨fun h => ?_, ?_⟩
    · have hmethod := readOrder_eq_ok h
      rw [readOrder, if_neg (by simpa using hmethod)] at h
      simp only [hdelete, if_false] at h
      obtain ⟨name, ⟨low, high⟩, hname, hbounds, hc⟩ := order_eq_ok_iff.mp h
      refine ⟨name, low, high, readName_eq_ok.mp hname, hbounds,
        .inr ⟨?_, (Order.call.inj hc).symm⟩⟩
      simpa [Endpoint.methods, hdelete] using hmethod
    · rintro ⟨name, low, high, hname, hbounds, ⟨hmethod, -⟩ | ⟨hmethod, rfl⟩⟩
      · exact absurd hmethod hdelete
      · have hlisted : request.method ∈ (Endpoint.range set.toList).methods := by
          rcases hmethod with hmethod | hmethod <;> simp [Endpoint.methods, hmethod]
        rw [readOrder, if_neg (by simpa using hlisted)]
        simp only [hdelete, if_false]
        exact order_eq_ok_iff.mpr ⟨name, (low, high), readName_eq_ok.mpr hname, hbounds, rfl⟩

end

theorem asks_of_orderOf {request : Request} {c : Pool.Call}
    (h : orderOf request = .ok (.call c)) : Asks request c := by
  simp only [Server.orderOf, Endpoint.ofPath?] at h
  split at h
  · cases h
  next endpoint hpath =>
  split at hpath
  · next set hsegments =>
    cases hpath
    obtain ⟨hmethod, name, beat, hname, hbeat, rfl⟩ := readOrder_members_iff.mp h
    exact .upsert hmethod hsegments hname hbeat
  · next set hsegments =>
    cases hpath
    obtain ⟨name, low, high, hname, hbounds, ⟨hmethod, rfl⟩ | ⟨hmethod, rfl⟩⟩ :=
      readOrder_range_iff.mp h
    · exact .removeRange hmethod hsegments hname hbounds
    · exact .range hmethod hsegments hname hbounds
  · next set member hsegments =>
    split at hpath
    · cases hpath
    next hne =>
    cases hpath
    obtain ⟨hmethod, name, other, hname, hother, rfl⟩ := readOrder_member_iff.mp h
    exact .remove hmethod hsegments hname (by simpa using hne) hother
  · next hsegments =>
    cases hpath
    unfold readOrder at h
    split at h <;> cases h
  · cases hpath

theorem orderOf_of_asks {request : Request} {c : Pool.Call} (h : Asks request c) :
    orderOf request = .ok (.call c) := by
  cases h with
  | @upsert set name beat hmethod hpath hname hbeat =>
    have hendpoint : Endpoint.ofPath? (Text.before '?' (requested request)) =
        some (.members set.toList) := by
      rw [segments] at hpath
      simp only [Endpoint.ofPath?, hpath]
    rw [orderOf_of_path hendpoint]
    exact readOrder_members_iff.mpr ⟨hmethod, name, beat, hname, hbeat, rfl⟩
  | @range set name low high hmethod hpath hname hbounds =>
    rw [orderOf_of_path (endpoint_range hpath)]
    exact readOrder_range_iff.mpr ⟨name, low, high, hname, hbounds, .inr ⟨hmethod, rfl⟩⟩
  | @removeRange set name low high hmethod hpath hname hbounds =>
    rw [orderOf_of_path (endpoint_range hpath)]
    exact readOrder_range_iff.mpr ⟨name, low, high, hname, hbounds, .inl ⟨hmethod, rfl⟩⟩
  | @remove set name member other hmethod hpath hname hne hother =>
    have hendpoint : Endpoint.ofPath? (Text.before '?' (requested request)) =
        some (.member set.toList member.toList) := by
      rw [segments] at hpath
      simp only [Endpoint.ofPath?, hpath, String.isEmpty_iff, hne, if_false]
    rw [orderOf_of_path hendpoint]
    exact readOrder_member_iff.mpr ⟨hmethod, name, other, hname, hother, rfl⟩

/-- **Orders.** A server takes a request for a call just when it asks for it. -/
theorem orderOf_eq_call_iff {request : Request} {c : Pool.Call} :
    orderOf request = .ok (.call c) ↔ Asks request c :=
  ⟨asks_of_orderOf, orderOf_of_asks⟩

/-- **Greetings.** Only a request for the health check is taken without a call, and it asks for
none. -/
theorem greeted_of_orderOf {request : Request} (h : orderOf request = .ok .health) :
    segments request = ["", "__health"] ∧ ∀ c, ¬Asks request c := by
  have hnothing (c : Pool.Call) : ¬Asks request c := by
    intro hasks
    rw [orderOf_eq_call_iff.mpr hasks] at h
    cases h
  simp only [Server.orderOf, Endpoint.ofPath?] at h
  split at h
  · cases h
  next endpoint hpath =>
  cases readOrder_health h
  split at hpath
  case h_4 hsegments => exact ⟨hsegments, hnothing⟩
  case h_3 => split at hpath <;> cases hpath
  all_goals cases hpath

theorem Server.isSuccess_reject (rejection : Rejection) :
    Status.isSuccess (reject rejection).status = false := by
  cases rejection with
  | malformedBody fault body =>
    simp only [reject]
    split <;> rfl
  | unknownPath | unknownMethod | invalidName | noJson | bodyTooLong | missingBound
  | repeatedBound | invalidBound => rfl

end BidFleet.Membership
