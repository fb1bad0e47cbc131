import BidFleet.Proofs.Membership.Requests
import BidFleet.Proofs.Pool.Failures

/-!
A store seen over HTTP. A call that a client makes over a link to a server is made of the
store behind the server, once and unchanged, and the client reads the very result of it;
only the error of a call that fails is not told, but that it failed. Client and server each
set a limit of length, and a call beyond it fails at once and changes nothing (`relayed`).
So the store over the link is the relayed one, call after call.
-/

namespace BidFleet.Membership

open Http

variable {σ : Type}

/-! ## One call -/

/-- What a client sees of an answer: a result as it is, and of an error that the store
failed. -/
def seen {α : Type} : Except Error α → Except Error α
  | .ok r => .ok r
  | .error _ => .error (.storeUnavailable ("store answered with HTTP " ++ Status.text 500))

abbrev Answer := (c : Pool.Call) × Except Error c.Result

/-- Whether the answer is one that a store can give, whose counts have 64 bits. -/
def Answer.Fits : Answer → Prop
  | ⟨c, .ok r⟩ => Membership.Fits c r
  | ⟨_, .error _⟩ => True

theorem Answer.fits_seen {c : Pool.Call} {x : Except Error c.Result} :
    Answer.Fits ⟨c, seen x⟩ ↔ Answer.Fits ⟨c, x⟩ := by
  cases x <;> exact Iff.rfl

theorem receive_answered (client : Client) (c : Pool.Call) (x : Except Error c.Result)
    (h : Answer.Fits ⟨c, x⟩) : client.receive c (some (Server.answered c x)) = seen x := by
  cases x with
  | error e =>
    have hfailure : Status.isSuccess (Server.plain 500 e.message).status = false := rfl
    simp only [Server.answered, Client.receive, hfailure, Bool.false_eq_true, if_false, seen]
    rfl
  | ok r =>
    have hsuccess : Status.isSuccess (Server.json (encodeResult c r)).status = true := rfl
    have hbody : (Server.json (encodeResult c r)).body =
        Utf8.encode (encodeResult c r).compact := rfl
    rw [Server.answered, Client.receive, if_pos hsuccess, hbody, decode_result c r h]
    rfl

theorem receive_bodyTooLong (client : Client) (c : Pool.Call) :
    client.receive c (some (Server.reject .bodyTooLong)) =
      .error (.storeUnavailable "store answered with HTTP 413 Payload Too Large") := by
  have hfailure : Status.isSuccess (Server.reject .bodyTooLong).status = false := rfl
  have htext : "store answered with HTTP " ++ Status.text (Server.reject .bodyTooLong).status =
      "store answered with HTTP 413 Payload Too Large" := by decide +kernel
  rw [Client.receive, if_neg (by rw [hfailure]; decide), htext]

/-- A client asks for whole responses. -/
theorem finish_outgoing (client : Client) (c : Pool.Call) (response : Response) :
    Server.finish (client.outgoing c).request response = response := by
  have hmethod : (client.outgoing c).request.method ≠ "HEAD" := by
    cases c <;> simp [Client.outgoing, Outgoing.request]
  exact if_neg hmethod

/-- What the server makes of the request of a call: the one call of the store, unless its
body is longer than it takes. -/
theorem respond_outgoing {client : Client} (hroot : client.AtRoot) {c : Pool.Call}
    (hc : Carried c) : Server.respond (client.outgoing c).request =
      if Server.bodyLimit < (client.outgoing c).request.body.length then
        .done (Server.reject .bodyTooLong)
      else .ask c (fun x => .done (Server.answered c x)) := by
  simp only [Server.respond, orderOf_outgoing hroot hc, finish_outgoing]
  by_cases hlong : Server.bodyLimit < (client.outgoing c).request.body.length
  · simp only [if_pos hlong]
  · simp only [if_neg hlong]

/-- The store that a client sees over a link to a server. -/
def remote (store : Pool.Store σ) (client : Client) : Pool.Store σ :=
  Link.store (Link.toServer store) client

/-- Why the request of a call does not get through, if it does not. No client makes a request
for a URL of more than 65534 octets, or for a host with odd characters; no server takes a body
of more than 2 MiB. -/
def Client.refusal? (client : Client) (c : Pool.Call) : Option String :=
  let o := client.outgoing c
  if ¬(o.url.text.utf8ByteSize ≤ 65534 ∧ o.url.PlainHost) then
    some ("builder error for url (" ++ o.url.text ++ ")")
  else if 2097152 < o.request.body.length then
    some "store answered with HTTP 413 Payload Too Large"
  else none

/-- The limits are those of client and server. -/
theorem Client.refusal?_cases (client : Client) (c : Pool.Call) :
    ((client.outgoing c).url.isRequestable = false ∧ client.refusal? c =
      some ("builder error for url (" ++ (client.outgoing c).url.text ++ ")")) ∨
    ((client.outgoing c).url.isRequestable = true ∧
      Server.bodyLimit < (client.outgoing c).request.body.length ∧
      client.refusal? c = some "store answered with HTTP 413 Payload Too Large") ∨
    ((client.outgoing c).url.isRequestable = true ∧
      ¬Server.bodyLimit < (client.outgoing c).request.body.length ∧ client.refusal? c = none) := by
  unfold refusal? Server.bodyLimit
  by_cases hsent : (client.outgoing c).url.isRequestable = true
  · by_cases hlong : 2097152 < (client.outgoing c).request.body.length
    · simp [← Url.isRequestable_iff, hsent, hlong]
    · simp [← Url.isRequestable_iff, hsent, hlong]
  · simp [← Url.isRequestable_iff, hsent]

theorem orderOf_through {client : Client} (hroot : client.AtRoot) {c : Pool.Call}
    (hc : Carried c) (h : client.refusal? c = none) :
    Server.orderOf (client.outgoing c).request = .ok (.call c) := by
  obtain ⟨-, hwhy⟩ | ⟨-, -, hwhy⟩ | ⟨-, hshort, -⟩ := client.refusal?_cases c
  · cases h.symm.trans hwhy
  · cases h.symm.trans hwhy
  · rw [orderOf_outgoing hroot hc, if_neg hshort]

/-- A store whose calls fail where they do not get through, and tell of no error but that
there was one. -/
def relayed (store : Pool.Store σ) (client : Client) : Pool.Store σ := fun c s =>
  match client.refusal? c with
  | some why => (.error (.storeUnavailable why), s)
  | none => (seen (store c s).1, (store c s).2)

theorem relayed_through {client : Client} {c : Pool.Call} (h : client.refusal? c = none)
    (store : Pool.Store σ) (s : σ) :
    relayed store client c s = (seen (store c s).1, (store c s).2) := by
  rw [relayed, h]

/-- A request that cannot be made. -/
theorem remote_unsent (store : Pool.Store σ) (client : Client) (c : Pool.Call) (s : σ)
    (h : (client.outgoing c).url.isRequestable = false) :
    remote store client c s = (.error (.storeUnavailable
      ("builder error for url (" ++ (client.outgoing c).url.text ++ ")")), s) := by
  have hunsent : (client.outgoing c).request? = none := if_neg (by simp [h])
  simp only [remote, Link.store, hunsent, Client.receive, Client.unsent, h, Bool.false_eq_true,
    if_false, String.append_assoc]
  rfl

theorem remote_sent (store : Pool.Store σ) (client : Client) (c : Pool.Call) (s : σ)
    (h : (client.outgoing c).url.isRequestable = true) :
    remote store client c s =
      (client.receive c ((Server.respond (client.outgoing c).request).run store s).1,
        ((Server.respond (client.outgoing c).request).run store s).2) := by
  have hsent : (client.outgoing c).request? = some (client.outgoing c).request := if_pos h
  simp only [remote, Link.store, hsent, Link.toServer]

/-- **One call over the link.** -/
theorem remote_call {client : Client} (hroot : client.AtRoot) {c : Pool.Call} (hc : Carried c)
    (store : Pool.Store σ) (s : σ) (hfits : Answer.Fits ⟨c, (relayed store client c s).1⟩) :
    remote store client c s = relayed store client c s := by
  obtain ⟨hunsent, hwhy⟩ | ⟨hsent, hlong, hwhy⟩ | ⟨hsent, hshort, hthrough⟩ :=
    client.refusal?_cases c
  · rw [remote_unsent store client c s hunsent, relayed, hwhy]
  · rw [remote_sent store client c s hsent, respond_outgoing hroot hc, if_pos hlong, relayed, hwhy]
    simp only [Task.run, receive_bodyTooLong]
  · rw [relayed_through hthrough] at hfits ⊢
    rw [remote_sent store client c s hsent, respond_outgoing hroot hc, if_neg hshort]
    simp only [Task.run, receive_answered client c _ (Answer.fits_seen.mp hfits)]

/-! ## Many calls -/

/-- The answers to calls that are made one after the other, and the state behind them. -/
def answers (store : Pool.Store σ) : List Pool.Call → σ → List Answer × σ
  | [], s => ([], s)
  | c :: cs, s =>
    let (rest, s') := answers store cs (store c s).2
    (⟨c, (store c s).1⟩ :: rest, s')

theorem remote_answers {client : Client} (hroot : client.AtRoot) (store : Pool.Store σ)
    {calls : List Pool.Call} (hcalls : ∀ c ∈ calls, Carried c) (s : σ)
    (hfits : ∀ a ∈ (answers (relayed store client) calls s).1, a.Fits) :
    answers (remote store client) calls s = answers (relayed store client) calls s := by
  induction calls generalizing s with
  | nil => rfl
  | cons c cs ih =>
    have hcall := remote_call hroot (hcalls c (List.mem_cons_self ..)) store s
      (hfits _ (List.mem_cons_self ..))
    have hrest := ih (fun x hx => hcalls x (List.mem_cons_of_mem _ hx)) (relayed store client c s).2
      (fun a ha => hfits a (List.mem_cons_of_mem _ ha))
    simp only [answers, hcall, hrest]

/-- **A store over HTTP is the store itself, within the limits of length.** Take a store whose
failing calls change nothing, a client whose base is the root of a server for it, and calls
whose set and path-carried member names stand in a path as themselves. Whatever else the names
hold and whatever the scores are, the calls over the link are answered as the relayed store
answers them, one after the other, and leave the store as it leaves itself. A call that gets
through is answered as the store answers it; one that fails there is a failure of the store
here, and changes nothing, and so is one that does not get through. Different calls that get
through are different requests. -/
theorem remote_refines (store : Pool.Store σ) (hclean : Pool.Clean store) (client : Client)
    (hroot : client.AtRoot) (calls : List Pool.Call) (hcalls : ∀ c ∈ calls, Carried c) (s : σ)
    (hfits : ∀ a ∈ (answers (relayed store client) calls s).1, a.Fits) :
    answers (remote store client) calls s = answers (relayed store client) calls s ∧
      (∀ c ∈ calls, client.refusal? c = none → ∀ s, Answer.Fits ⟨c, (store c s).1⟩ →
        (∀ r, (store c s).1 = .ok r → remote store client c s = (.ok r, (store c s).2)) ∧
        ∀ e, (store c s).1 = .error e →
          ∃ why, remote store client c s = (.error (.storeUnavailable why), s)) ∧
      (∀ c ∈ calls, ∀ why, client.refusal? c = some why →
        ∀ s, remote store client c s = (.error (.storeUnavailable why), s)) ∧
      ∀ c ∈ calls, ∀ c' ∈ calls, client.refusal? c = none → client.refusal? c' = none →
        (client.outgoing c).request = (client.outgoing c').request → c = c' := by
  refine ⟨remote_answers hroot store hcalls s hfits, ?_, ?_, ?_⟩
  · intro c hc hthrough s hfits
    have hrelayed := relayed_through hthrough store s
    have hcall := remote_call hroot (hcalls c hc) store s
      (by rw [hrelayed]; exact Answer.fits_seen.mpr hfits)
    rw [hrelayed] at hcall
    refine ⟨fun r hr => ?_, fun e he => ?_⟩
    · rw [hcall, hr]
      rfl
    · rw [hcall, he, hclean c s e he]
      exact ⟨_, rfl⟩
  · intro c hc why hwhy s
    have hrelayed : relayed store client c s = (.error (.storeUnavailable why), s) := by
      rw [relayed, hwhy]
    rw [remote_call hroot (hcalls c hc) store s (by rw [hrelayed]; trivial), hrelayed]
  · intro c hc c' hc' hthrough hthrough' heq
    have horder := orderOf_through hroot (hcalls c hc) hthrough
    rw [heq, orderOf_through hroot (hcalls c' hc') hthrough'] at horder
    cases horder
    rfl

instance (a : Answer) : Decidable a.Fits :=
  match a with
  | ⟨.removeRange .., .ok removed⟩ => inferInstanceAs (Decidable (removed < UInt64.size))
  | ⟨.upsert .., .ok _⟩ | ⟨.range .., .ok _⟩ | ⟨.remove .., .ok _⟩ | ⟨_, .error _⟩ =>
    inferInstanceAs (Decidable True)

def nearby : Client := ⟨{ scheme := "http", host := "127.0.0.1", port := some 7379, path := [""] }⟩

theorem ofText_nearby : Client.ofText "http://127.0.0.1:7379" = .ok nearby := by
  have hread : (Client.ofText "http://127.0.0.1:7379").toOption = some nearby := by decide +kernel
  cases hcase : Client.ofText "http://127.0.0.1:7379" <;> rw [hcase] at hread <;> cases hread
  rfl

/-- Calls with marks of URLs and of JSON in their names, and the least and the greatest
score. -/
def marked : List Pool.Call := [
  .upsert "a/b?#" "\"%2e\\\n" Int64.minValue, .upsert "a/b?#" "ä +&" Int64.maxValue,
  .range "a/b?#" Int64.minValue Int64.maxValue, .remove "a/b?#" "ä +&",
  .removeRange "a/b?#" Int64.minValue 0, .range "a/b?#" Int64.minValue Int64.maxValue]

/-- A store that fails from its sixth call on. -/
def failing : Pool.Failing Pool.MemoryStore := ⟨{}, some 5, .storeUnavailable "gone"⟩

theorem remote_refines_marked : (Client.ofText "http://127.0.0.1:7379").toOption = some nearby ∧
    (∀ c ∈ marked, nearby.refusal? c = none) ∧
    answers (remote (Pool.Failing.store Pool.MemoryStore.store) nearby) marked failing =
      answers (relayed (Pool.Failing.store Pool.MemoryStore.store) nearby) marked failing ∧
    (answers (relayed (Pool.Failing.store Pool.MemoryStore.store) nearby) marked failing).1.map
      (fun a => a.2.toBool) = [true, true, true, true, true, false] := by
  refine ⟨?_, by decide +kernel, ?_, by decide +kernel⟩
  · rw [ofText_nearby]
    rfl
  · exact (remote_refines (Pool.Failing.store Pool.MemoryStore.store)
      (Pool.Failing.clean Pool.MemoryStore.never_fails) nearby ⟨rfl, rfl⟩ marked (by decide)
      failing (by decide +kernel)).1

/-- A removal that no request can be made for, of a record that is there. -/
theorem remove_long (client : Client) (set : String) {member : String}
    (hmember : Url.Carries member) (hlong : 65534 < member.utf8ByteSize) :
    let s := (Pool.MemoryStore.store (.upsert set member 1) {}).2
    s.score? set member = some 1 ∧
      (Pool.MemoryStore.store (.remove set member) s).1 = .ok true ∧
      ∃ why, remote Pool.MemoryStore.store client (.remove set member) s =
        (.error (.storeUnavailable why), s) := by
  intro s
  have hscore : s.score? set member = some 1 := by
    rw [Pool.MemoryStore.score?_upsert, if_pos ⟨rfl, rfl⟩]
  have hfound : (s.score? set member).isSome = true := by
    rw [hscore]
    rfl
  exact ⟨hscore, congrArg Except.ok hfound, _,
    remote_unsent _ client _ _ (Url.not_requestable_push hmember hlong)⟩

def letters (n : Nat) : String := String.ofList (List.replicate n 'a')

theorem carries_letters {n : Nat} (h : 2 < n) : Url.Carries (letters n) := by
  have hne (name : String) (hname : name.toList.length ≤ 2) : letters n ≠ name := by
    rintro rfl
    rw [letters, String.toList_ofList, List.length_replicate] at hname
    omega
  refine ⟨hne "" (by decide), hne "." (by decide), hne ".." (by decide), fun c hc => ?_⟩
  rw [letters, String.toList_ofList] at hc
  rw [List.eq_of_mem_replicate hc]
  decide

theorem le_size_letters (n : Nat) : n ≤ (letters n).utf8ByteSize := by
  have hsize := Utf8.length_le_encodeChars (List.replicate n 'a')
  rwa [Utf8.length_encodeChars, List.length_replicate] at hsize

/-- **Beyond the limit of length.** The store behind a server removes the record of a name of
65600 letters, which the paths of URLs carry; over the link the removal cannot be asked for,
and the record stays. -/
theorem long_name_not_refined :
    let s := (Pool.MemoryStore.store (.upsert "p" (letters 65600) 1) {}).2
    Carried (.remove "p" (letters 65600)) ∧ s.score? "p" (letters 65600) = some 1 ∧
      (Pool.MemoryStore.store (.remove "p" (letters 65600)) s).1 = .ok true ∧
      ∃ why, remote Pool.MemoryStore.store nearby (.remove "p" (letters 65600)) s =
        (.error (.storeUnavailable why), s) := by
  have hletters : Url.Carries (letters 65600) := carries_letters (by decide)
  exact ⟨⟨by decide, hletters⟩,
    remove_long nearby "p" hletters (Nat.lt_of_lt_of_le (by decide) (le_size_letters _))⟩

end BidFleet.Membership
