import BidFleet.Proofs.Auction.Declining
import BidFleet.Proofs.Serving.Outcomes
import BidFleet.Serving.Wire

/-!
Replies and their responses. A request on a bid path is always answered by a
decision, any other by an answer that is none (`gives_dispatch`). A decision to
decline names its reason in its body (`parse_decline`) and, cleared of control
characters, in a header that is never refused (`header?_set`).
-/

namespace BidFleet

/-! ## Headers -/

namespace Http

/-- **A cleared text is a header value.** -/
theorem headerText_clear (value : String) : headerText (clear value) = true := by
  rw [headerText, List.all_eq_true]
  intro b hb
  rw [Utf8.encode, toList_clear] at hb
  obtain ⟨c, hc, hb⟩ := List.mem_flatMap.mp hb
  have hplain : 32 ≤ c.toNat ∧ ¬(127 ≤ c.toNat ∧ c.toNat ≤ 159) :=
    of_decide_eq_true (List.mem_filter.mp hc).2
  -- an octet of a character that is no control, of ASCII or beyond it
  have hoctet : 32 ≤ b.toNat ∧ b.toNat ≠ 127 := by
    by_cases hascii : c.toNat < 128
    · rw [Utf8.utf8EncodeChar_ascii hascii, List.mem_singleton] at hb
      rw [hb, UInt8.toNat_ofNat', Nat.mod_eq_of_lt (by omega)]
      omega
    · have := Utf8.utf8EncodeChar_high (Nat.le_of_not_lt hascii) b hb
      omega
  have hne : b ≠ 127 := fun h => hoctet.2 (by rw [h]; rfl)
  simp [headerOctet, UInt8.le_iff_toNat_le, hoctet.1, hne]

/-- A text without control characters is clear. -/
theorem clear_of_plain {value : String} (h : ∀ c ∈ value.toList, isControl c = false) :
    clear value = value := by
  rw [clear, List.filter_eq_self.mpr (fun c hc => by rw [h c hc]; rfl), String.ofList_toList]

theorem lookup_filter_ne {name other : String} (h : other ≠ name)
    (headers : List (String × String)) :
    (headers.filter (fun e => e.1 != name)).lookup other = headers.lookup other := by
  induction headers with
  | nil => rfl
  | cons e rest ih =>
    obtain ⟨key, value⟩ := e
    by_cases hk : key = name
    · subst hk
      have hne : (other == key) = false := by simpa using h
      simp [List.lookup_cons, hne, ih]
    · have hkeep : (key != name) = true := by simpa using hk
      rw [List.filter_cons, if_pos hkeep, List.lookup_cons, List.lookup_cons, ih]

namespace Response

variable (r : Response) (name value : String)

/-- **A header that is set is there**, and every other header stays as it was. -/
theorem header?_set (other : String) : (r.set name value).header? other =
    if other = name then some (clear value) else r.header? other := by
  rw [set, if_pos (headerText_clear value), put, header?, List.lookup_append]
  by_cases h : other = name
  · subst h
    have hnone : (r.headers.filter (fun h => h.1 != other)).lookup other = none := by
      rw [List.lookup_eq_none_iff]
      intro p hp
      simpa [bne_comm] using (List.mem_filter.mp hp).2
    simp [hnone]
  · have hne : (other == name) = false := by simpa using h
    rw [lookup_filter_ne h]
    simp [hne, h, header?, List.lookup_cons]

theorem status_set : (r.set name value).status = r.status := by
  rw [set, if_pos (headerText_clear value)]
  rfl

end Response

end Http

namespace Serving

open Auction

/-! ## Declined bodies -/

/-- **A decision to decline is read as its two members.** -/
theorem parse_decline (id reason : String) :
    Json.parse (Utf8.encode (Decision.decline id reason).toJson.compact) =
      .ok (.object [("id", .string id), ("reason", .string reason)]) := by
  have hjson : (Decision.decline id reason).toJson =
      .object [("id", .string id), ("reason", .string reason)] := toJson_noBid ⟨id, reason⟩
  have hmembers : Json.MembersRead (Json.readValue 126)
      [("id", .string id), ("reason", .string reason)]
      [("id", .string id), ("reason", .string reason)] :=
    .cons ⟨rfl, Json.readValue_string 126 id⟩ (.cons ⟨rfl, Json.readValue_string 126 reason⟩ .nil)
  have hkeys : "id" < "reason" := by decide
  rw [hjson]
  exact Json.parse_of_reads (Json.readValue_members hmembers (List.pairwise_pair.mpr hkeys))

/-! ## Answers by route -/

/-- Answers from a state lead to one of the ends. -/
theorem Ends.run {α : Type} {good : Tally → α → Prop} {k : Tally} {t : Serve α} (h : Ends good k t)
    {σ : Type} (answers : Handler questions σ) (s : σ) : ∃ k', good k' (t.run answers s).1 := by
  induction t generalizing k s with
  | done a => exact ⟨k, h⟩
  | ask q next ih => exact ih (answers q s).1 (h (answers q s).1) (answers q s).2

/-- A task ends in a good result, whatever its questions are answered. -/
def Gives {α : Type} (good : α → Prop) (t : Serve α) : Prop := ∀ k, Ends (fun _ a => good a) k t

namespace Gives

variable {α β : Type} {good : β → Prop}

theorem done {b : β} (h : good b) : Gives good (.done b) := fun _ => h

/-- A task in front changes nothing of what the task behind it gives. -/
theorem behind {t : Serve α} {f : α → Serve β} (h : ∀ a, Gives good (f a)) :
    Gives good (t >>= f) := by
  induction t with
  | done a => exact h a
  | ask q next ih => exact fun k r => ih r (k.after q)

theorem run {t : Serve β} (h : Gives good t) {σ : Type} (answers : Handler questions σ) (s : σ) :
    good (t.run answers s).1 := by
  obtain ⟨_, hgood⟩ := (h {}).run answers s
  exact hgood

end Gives

/-- Whether a request of a route is answered by a decision. -/
def Route.decides : Route → Bool
  | bid _ | wrongTarget => true
  | _ => false

/-- An answer that is no decision. -/
structure Reply.Plain (r : Reply) : Prop where
  status : r.status = 200 ∨ r.status = 400 ∨ r.status = 404 ∨ r.status = 503
  elapsed : r.elapsed = none
  reason : r.reason = none

/-- The answers that a request of a route can get. -/
inductive Answers (route : Route) : Reply → Prop
  | decision (x : Decision) (elapsed : UInt64) :
      route.decides = true → Answers route (.decision x elapsed)
  | plain {r : Reply} : route.decides = false → r.Plain → Answers route r

theorem gives_timed {route : Route} (h : route.decides = true) (decide : Serve Decision) :
    Gives (Answers route) (Dispatcher.timed decide) :=
  .behind fun _ => .behind fun x => .behind fun _ => .done (.decision x _ h)

theorem gives_confirm {route : Route} (h : route.decides = false) (d : Dispatcher) :
    Gives (Answers route) d.confirm :=
  .behind fun _ => .done (.plain h ⟨.inl rfl, rfl, rfl⟩)

theorem gives_asset {route : Route} (h : route.decides = false) (type : String)
    (target : List Char) (path : Except Error Path) :
    Gives (Answers route) (Dispatcher.asset type target path) := by
  have missing : Gives (Answers route) (.done
      (Reply.failure 404 ("not found: " ++ String.ofList target))) :=
    .done (.plain h ⟨.inr (.inr (.inl rfl)), rfl, rfl⟩)
  cases path with
  | error e => exact missing
  | ok path =>
    refine .behind fun content => ?_
    cases content with
    | ok content => exact .done (.plain h ⟨.inl rfl, rfl, rfl⟩)
    | error e => exact missing

theorem gives_poolMembers (d : Dispatcher) : Gives (Answers .pool) d.poolMembers := by
  unfold Dispatcher.poolMembers
  cases d.pool with
  | none => exact .done (.plain rfl ⟨.inl rfl, rfl, rfl⟩)
  | some config =>
    refine .behind fun now => .behind fun names => ?_
    cases names with
    | ok names => exact .done (.plain rfl ⟨.inl rfl, rfl, rfl⟩)
    | error e => exact .done (.plain rfl ⟨.inr (.inr (.inr rfl)), rfl, rfl⟩)

theorem gives_applyThrottle (d : Dispatcher) (value : String) :
    Gives (Answers (.throttle value)) (d.applyThrottle value) := by
  unfold Dispatcher.applyThrottle
  cases Text.readUInt8 value.toList with
  | error e => exact .done (.plain rfl ⟨.inr (.inl rfl), rfl, rfl⟩)
  | ok percent =>
    refine .behind fun applied => ?_
    cases applied with
    | error e => exact .done (.plain rfl ⟨.inr (.inl rfl), rfl, rfl⟩)
    | ok _ => exact gives_confirm rfl d

/-- **Every route has its answers**, one case a route. -/
theorem gives_dispatch (d : Dispatcher) (method : String) (target : List Char) (body : Bytes) :
    Gives (Answers (Route.classify method target)) (d.dispatch method target body) := by
  unfold Dispatcher.dispatch
  generalize Route.classify method target = route
  cases route with
  | favicon => exact .done (.plain rfl ⟨.inl rfl, rfl, rfl⟩)
  | simulator =>
    simp only [Dispatcher.serve]
    exact gives_asset rfl _ target _
  | webAsset rel =>
    simp only [Dispatcher.serve]
    exact gives_asset rfl _ target _
  | win notice => exact .done (.plain rfl ⟨.inl rfl, rfl, rfl⟩)
  | status => exact gives_confirm rfl d
  | pool => exact gives_poolMembers d
  | throttle value => exact gives_applyThrottle d value
  | stop => exact .behind fun _ => gives_confirm rfl d
  | start => exact .behind fun _ => gives_confirm rfl d
  | bid x => exact gives_timed rfl _
  | wrongTarget => exact gives_timed rfl _

/-! ## On the wire -/

theorem clear_toString (n : Nat) : Http.clear (toString n) = toString n := by
  apply Http.clear_of_plain
  intro c hc
  rw [Nat.toString_eq_ofList_toDigits, String.toList_ofList] at hc
  have hdigit := Nat.isDigit_of_mem_toDigits (by decide) (by decide) hc
  obtain ⟨hlow, hhigh⟩ : 48 ≤ c.toNat ∧ c.toNat ≤ 57 := by
    simpa [Char.isDigit, UInt32.le_iff_toNat_le] using hdigit
  simp only [Http.isControl, Bool.or_eq_false_iff, decide_eq_false_iff_not, Bool.and_eq_false_iff]
  omega

/-- **Headers.** The time and the reason are in their headers, the reason without its
control characters. -/
theorem header?_toResponse (r : Reply) :
    r.toResponse.header? Reply.timeHeader = r.elapsed.map (fun e => toString e.toNat) ∧
      r.toResponse.header? Reply.reasonHeader = r.reason.map Http.clear := by
  have htime : Reply.timeHeader ≠ Reply.reasonHeader := by decide
  have hbare (name : String) (h : name ≠ "content-type") :
      (Http.Response.ofBody (Http.Status.ofNumber r.status) r.contentType r.body).header? name =
        none := by
    have hne : (name == "content-type") = false := by simpa using h
    simp [Http.Response.ofBody, Http.Response.header?, List.lookup_cons, hne]
  unfold Reply.toResponse
  cases r.elapsed with
  | none =>
    cases r.reason with
    | none => exact ⟨hbare _ (by decide), hbare _ (by decide)⟩
    | some reason =>
      simp only [Http.Response.header?_set, if_neg htime, if_true, Option.map_none, Option.map_some]
      exact ⟨hbare _ (by decide), trivial⟩
  | some elapsed =>
    cases r.reason with
    | none =>
      simp only [Http.Response.header?_set, if_neg htime.symm, if_true, Option.map_none,
        Option.map_some, clear_toString]
      exact ⟨trivial, hbare _ (by decide)⟩
    | some reason =>
      simp only [Http.Response.header?_set, if_neg htime, if_true, Option.map_some, clear_toString,
        and_self]

/-- Of a reason everything but its control characters is in its header. -/
theorem reason_toResponse (r : Reply) :
    (r.reason = none → r.toResponse.header? "x-reason" = none) ∧
      ∀ reason, r.reason = some reason → ∃ value, r.toResponse.header? "x-reason" = some value ∧
        value.toList =
          reason.toList.filter (fun c => 32 ≤ c.toNat ∧ ¬(127 ≤ c.toNat ∧ c.toNat ≤ 159)) := by
  have hreason := (header?_toResponse r).2
  refine ⟨fun h => ?_, fun reason h => ⟨Http.clear reason, ?_, Http.toList_clear reason⟩⟩
  · rw [h] at hreason
    exact hreason
  · rw [h] at hreason
    exact hreason

/-- A reply with a status that is one keeps it. -/
theorem status_toResponse {r : Reply} (h : 100 ≤ r.status ∧ r.status < 1000) :
    r.toResponse.status = r.status := by
  have hbare : Http.Status.ofNumber r.status = r.status := if_pos h
  unfold Reply.toResponse
  cases r.elapsed <;> cases r.reason <;>
    simp only [Http.Response.status_set, Http.Response.ofBody, hbare]

theorem status_decision (x : Decision) : x.status = 200 ∧ x.reason? = none ∨
    x.status = 204 ∧ ∃ id reason, x = .decline id reason := by
  cases x with
  | bid b => exact .inl ⟨rfl, rfl⟩
  | noBid n => exact .inr ⟨rfl, n.id, n.reason, rfl⟩

/-- **Replies reach the wire.** Whatever a request is and whatever the questions of its
task are answered, a request on a bid path gets a decision with its time, as a success,
and any other request an answer without time and reason. Exactly the answers without
content have a reason; their bodies name it, and nothing else but the opportunity. The
response keeps the status, and has a header for the time and one for the reason when
there is one, with all characters of the reason but its controls, which are those below 32
and from 127 to 159. -/
theorem reply_reaches_wire (d : Dispatcher) (method : String) (target : List Char) (body : Bytes)
    {σ : Type} (answers : Handler questions σ) (s : σ) :
    let route := Route.classify method target
    let r := ((d.dispatch method target body).run answers s).1
    (if route.decides then (r.status = 200 ∨ r.status = 204) ∧ r.elapsed.isSome
      else (r.status = 200 ∨ r.status = 400 ∨ r.status = 404 ∨ r.status = 503) ∧
        r.elapsed = none ∧ r.reason = none) ∧
      (r.status = 204 ↔ r.reason.isSome) ∧
      (∀ reason, r.reason = some reason → ∃ id,
        Json.parse r.body = .ok (.object [("id", .string id), ("reason", .string reason)])) ∧
      r.toResponse.status = r.status ∧
      r.toResponse.header? "x-time" = r.elapsed.map (fun e => toString e.toNat) ∧
      (r.reason = none → r.toResponse.header? "x-reason" = none) ∧
      ∀ reason, r.reason = some reason → ∃ value, r.toResponse.header? "x-reason" = some value ∧
        value.toList =
          reason.toList.filter (fun c => 32 ≤ c.toNat ∧ ¬(127 ≤ c.toNat ∧ c.toNat ≤ 159)) := by
  intro route r
  have htime := (header?_toResponse r).1
  have hreason := reason_toResponse r
  have hanswers : Answers route r := (gives_dispatch d method target body).run answers s
  clear_value r
  cases hanswers with
  | decision x elapsed hroute =>
    rw [if_pos hroute]
    rcases status_decision x with ⟨hstatus, hnone⟩ | ⟨hstatus, id, reason, rfl⟩
    · refine ⟨⟨.inl hstatus, rfl⟩, ?_, ?_, status_toResponse ?_, htime, hreason⟩
      · simp [Reply.decision, hstatus, hnone]
      · intro reason h
        rw [Reply.decision, hnone] at h
        cases h
      · simp [Reply.decision, hstatus]
    · refine ⟨⟨.inr hstatus, rfl⟩, ⟨fun _ => rfl, fun _ => hstatus⟩, ?_, status_toResponse ?_,
        htime, hreason⟩
      · intro other h
        cases h
        simp only [Reply.decision]
        exact ⟨id, parse_decline id reason⟩
      · simp [Reply.decision, hstatus]
  | plain hroute hr =>
    rw [if_neg (by rw [hroute]; simp)]
    refine ⟨⟨hr.status, hr.elapsed, hr.reason⟩, ?_, ?_, status_toResponse ?_, htime, hreason⟩
    · rw [hr.reason]
      rcases hr.status with h | h | h | h <;> simp [h]
    · intro reason h
      rw [hr.reason] at h
      cases h
    · rcases hr.status with h | h | h | h <;> rw [h] <;> decide

end Serving

end BidFleet
