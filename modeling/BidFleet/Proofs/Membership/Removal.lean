import BidFleet.Pool.Node
import BidFleet.Proofs.Http.Extension
import BidFleet.Proofs.Membership.Orders
import BidFleet.Proofs.Membership.Refinement

/-!
Removing what was registered. A heartbeat names its member in a body, a removal in the
path of its URL. Where a heartbeat has got through, the path about its set is known
(`Reaches`), so that the removal is one of the name that the path carries for the member,
or none (`remote_remove`). That name is the member's own just when the path carries it as
it is. A body has room for names that no URL has, so a removal may also fail to be made.
-/

namespace BidFleet.Membership

open Http
open Http.Url (Carries Unmarked escaped carriedAs?)

/-! ## Requests and their paths -/

section

variable {path : List String}

def pathText (path : List String) : List Char := '/' :: Text.join '/' (path.map String.toList)

theorem not_mem_pathText (h : Unmarked path) : '?' ∉ pathText path ∧ '#' ∉ pathText path := by
  have hnot {c : Char} (hslash : c ≠ '/') (hc : ∀ segment ∈ path, c ∉ segment.toList) :
      c ∉ pathText path := by
    rw [pathText, List.mem_cons, not_or]
    refine ⟨hslash, Text.not_mem_join hslash fun p hp => ?_⟩
    obtain ⟨segment, hs, rfl⟩ := List.mem_map.mp hp
    exact hc segment hs
  exact ⟨hnot (by decide) fun segment hs => (h segment hs).2.1,
    hnot (by decide) fun segment hs => (h segment hs).2.2⟩

theorem split_pathText (h : Unmarked path) (hne : path ≠ []) :
    (Text.split '/' (pathText path)).map String.ofList = "" :: path := by
  have hpieces : ∀ p ∈ path.map String.toList, '/' ∉ p := by
    intro p hp
    obtain ⟨segment, hs, rfl⟩ := List.mem_map.mp hp
    exact (h segment hs).1
  rw [pathText, Text.split, if_pos rfl, Text.split_join _ (by simpa using hne) hpieces]
  simp [Function.comp_def]

end

theorem segments_request {o : Outgoing} (h : Unmarked o.url.path) (hne : o.url.path ≠ []) :
    segments o.request = "" :: o.url.path := by
  obtain ⟨hquestion, hhash⟩ := not_mem_pathText h
  obtain ⟨tail, htarget, htail⟩ : ∃ tail, o.request.target.toList = pathText o.url.path ++ tail ∧
      (tail = [] ∨ ∃ query, tail = '?' :: query) := by
    refine ⟨_, Url.toList_target o.url, ?_⟩
    cases o.url.query with
    | none => exact .inl rfl
    | some query => exact .inr ⟨query.toList, rfl⟩
  have hpath : Text.before '?' (requested o.request) = pathText o.url.path := by
    have horigin : originForm (pathText o.url.path ++ tail) = pathText o.url.path ++ tail := rfl
    rw [requested, htarget, horigin, Text.before_append_left hhash]
    rcases htail with rfl | ⟨query, rfl⟩
    · exact (congrArg _ (List.append_nil _)).trans (Text.before_of_not_mem hquestion)
    · have hmark : Text.before '#' ('?' :: query) = '?' :: Text.before '#' query := by
        simp [Text.before]
      rw [hmark, Text.before_append hquestion]
  rw [segments, hpath, split_pathText h hne]

/-! ## What a request comes to -/

section

variable {σ : Type} (store : Pool.Store σ) (client : Client) {c : Pool.Call}

theorem receive_failure {response : Response} (h : Status.isSuccess response.status = false) :
    ∃ e, client.receive c (some response) = .error e := by
  rw [Client.receive, if_neg (by rw [h]; decide)]
  exact ⟨_, rfl⟩

/-- Whether a call is a heartbeat or a removal of one member. -/
def Writes : Pool.Call → Prop
  | .upsert .. | .remove .. => True
  | .range .. | .removeRange .. => False

/-- A greeting is a success, but no answer to a heartbeat or a removal. -/
theorem receive_greeting (hwrites : Writes c) :
    ∃ e, client.receive c (some (Server.plain 200 "OK")) = .error e := by
  have hunread : (Json.decode (resultDecoder c) (Utf8.encode "OK")).toBool = false := by
    cases c with
    | upsert => rfl
    | remove => rfl
    | range | removeRange => cases hwrites
  have hsuccess : Status.isSuccess (Server.plain 200 "OK").status = true := rfl
  have hbody : (Server.plain 200 "OK").body = Utf8.encode "OK" := rfl
  rw [Client.receive, if_pos hsuccess, hbody]
  cases hdecode : Json.decode (resultDecoder c) (Utf8.encode "OK") with
  | ok r =>
    rw [hdecode] at hunread
    cases hunread
  | error fault => exact ⟨_, rfl⟩

/-- A heartbeat or a removal that asks for nothing fails. -/
theorem remote_unasked (h : ∀ c', ¬Asks (client.outgoing c).request c') (hwrites : Writes c)
    (s : σ) : ∃ e, remote store client c s = (.error e, s) := by
  cases hsent : (client.outgoing c).url.isRequestable with
  | false => exact ⟨_, remote_unsent store client c s hsent⟩
  | true =>
  rw [remote_sent store client c s hsent]
  simp only [Server.respond]
  cases horder : Server.orderOf (client.outgoing c).request with
  | error rejection =>
    obtain ⟨e, he⟩ := receive_failure client (c := c) (Server.isSuccess_reject rejection)
    exact ⟨e, by simp only [Task.run, finish_outgoing, he]⟩
  | ok order =>
    cases order with
    | call c' => exact absurd (orderOf_eq_call_iff.mp horder) (h c')
    | health =>
      obtain ⟨e, he⟩ := receive_greeting client hwrites
      exact ⟨e, by simp only [Task.run, finish_outgoing, he]⟩

/-- A request that can be made makes the call that it asks for. -/
theorem remote_asked {c' : Pool.Call} (h : Asks (client.outgoing c).request c')
    (hsent : (client.outgoing c).url.isRequestable = true) (s : σ) :
    remote store client c s =
      (client.receive c (some (Server.answered c' (store c' s).1)), (store c' s).2) := by
  rw [remote_sent store client c s hsent]
  simp only [Server.respond, orderOf_eq_call_iff.mpr h, finish_outgoing, Task.run]

/-! ## Heartbeats and removals -/

/-- Whether the requests of a client about a set are about a set of this name at the server. -/
def Client.Reaches (client : Client) (set name : String) : Prop :=
  ∃ segment, (client.url set ["members"]).path = ["sets", segment, "members"] ∧
    StandsFor segment name

theorem Client.ofText_unmarked {text : String} {client : Client}
    (h : Client.ofText text = .ok client) : Unmarked client.base.path := by
  unfold Client.ofText at h
  split at h
  · cases h
  · cases h
  next url hurl =>
  split at h
  · cases h
    rw [Url.withoutUser_path]
    exact Url.parse_unmarked hurl
  · cases h

theorem Client.url_unmarked (h : Unmarked client.base.path) (set : String) (tail : List String) :
    Unmarked (client.url set tail).path := by
  have hset : Unmarked ((client.base.popIfEmpty.push "sets").push set).path :=
    Url.push_unmarked (Url.push_unmarked (Url.popIfEmpty_unmarked h) "sets") set
  have hpush (tail : List String) : ∀ url : Url, Unmarked url.path →
      Unmarked (tail.foldl Url.push url).path := by
    induction tail with
    | nil => exact fun _ hurl => hurl
    | cons name tail ih => exact fun url hurl => ih _ (Url.push_unmarked hurl name)
  exact hpush tail _ hset

theorem Client.members_ne_nil (client : Client) (set : String) :
    (client.url set ["members"]).path ≠ [] := by
  have hmembers : Carries "members" := by decide
  have hpath := (Url.push_carried hmembers ((client.base.popIfEmpty.push "sets").push set)).1
  have hurl : client.url set ["members"] =
      ((client.base.popIfEmpty.push "sets").push set).push "members" := rfl
  rw [hurl, hpath]
  simp

/-- A client at the root reaches the sets whose names its paths carry. -/
theorem Client.reaches_of_carries {client : Client} (hroot : client.AtRoot) {set : String}
    (hset : Carries set) : client.Reaches set set := by
  have htail : ∀ name ∈ ["members"], Carries name := by decide
  have hpath := (Client.url_parts hroot hset htail).1
  have hsets : escaped "sets" = "sets" := by decide
  have hmembers : escaped "members" = "members" := by decide
  refine ⟨escaped set, ?_, readName_eq_ok.mp (readName_escaped "set" set)⟩
  rw [hpath, List.map_cons, List.map_cons, List.map_cons, List.map_nil, hsets, hmembers]

theorem Client.Reaches.unique {client : Client} {set a b : String} (ha : client.Reaches set a)
    (hb : client.Reaches set b) : a = b := by
  obtain ⟨segment, hpath, hname⟩ := ha
  obtain ⟨segment', hpath', hname'⟩ := hb
  cases hpath.symm.trans hpath'
  exact Option.some.inj (hname.symm.trans hname')

theorem Client.url_host (client : Client) (set : String) (tail : List String) :
    (client.url set tail).host = client.base.host := by
  have hpush (tail : List String) : ∀ url : Url, (tail.foldl Url.push url).host = url.host := by
    induction tail with
    | nil => exact fun _ => rfl
    | cons name tail ih => exact fun url => (ih _).trans (Url.push_host url name)
  have hpop : client.base.popIfEmpty.host = client.base.host := by
    unfold Url.popIfEmpty
    split
    · rfl
    · split <;> rfl
  rw [url, hpush, Url.push_host, Url.push_host, hpop]

/-- **A heartbeat that succeeds has reached a set**, and has been made there as it was
meant. -/
theorem remote_upsert (hbase : Unmarked client.base.path) {set member : String} {score : Int64}
    {s : σ} (h : (remote store client (.upsert set member score) s).1 = .ok ()) :
    ∃ name, client.Reaches set name ∧ client.base.PlainHost ∧
      (store (.upsert name member score) s).1 = .ok () ∧
      (remote store client (.upsert set member score) s).2 =
        (store (.upsert name member score) s).2 := by
  have hsent : (client.outgoing (.upsert set member score)).url.isRequestable = true := by
    by_contra hunsent
    rw [remote_unsent store client _ s (Bool.eq_false_iff.mpr hunsent)] at h
    cases h
  have hhost : client.base.PlainHost := by
    have hplain := (Url.isRequestable_iff.mp hsent).2
    rwa [Url.PlainHost, show (client.outgoing (.upsert set member score)).url =
      client.url set ["members"] from rfl, client.url_host] at hplain
  by_cases hasked : ∃ c', Asks (client.outgoing (.upsert set member score)).request c'
  · obtain ⟨c', hc'⟩ := hasked
    have hremote := remote_asked store client hc' hsent s
    have hsegments := segments_request (o := client.outgoing (.upsert set member score))
      (client.url_unmarked hbase set ["members"]) (client.members_ne_nil set)
    have hmethod : (client.outgoing (.upsert set member score)).request.method = "POST" := rfl
    cases hc' with
    | range hget => simp [hmethod] at hget
    | removeRange hdelete => simp [hmethod] at hdelete
    | remove hdelete => simp [hmethod] at hdelete
    | @upsert segment name beat _ hpath hname hbeat =>
      rw [readHeartbeat_outgoing] at hbeat
      split at hbeat
      · cases hbeat
      cases hbeat
      rw [hsegments, List.cons.injEq] at hpath
      rw [hremote] at h ⊢
      refine ⟨name, ⟨segment, hpath.2, hname⟩, hhost, ?_, rfl⟩
      cases hx : (store (.upsert name member score) s).1 with
      | error e =>
        rw [hx] at h
        have hfailure : Status.isSuccess
            (Server.answered (.upsert name member score) (.error e)).status = false := rfl
        obtain ⟨e', he'⟩ := receive_failure client (c := .upsert set member score) hfailure
        cases h.symm.trans he'
      | ok r => rfl
  · obtain ⟨e, he⟩ := remote_unasked store client (fun c' hc' => hasked ⟨c', hc'⟩) trivial s
    rw [he] at h
    cases h

/-- A removal names its member behind the path to all members. -/
theorem segments_removal (hbase : Unmarked client.base.path) {set member : String}
    {path : List String} (h : ((client.url set ["members"]).push member).path = path)
    (hne : path ≠ []) : segments (client.outgoing (.remove set member)).request = "" :: path := by
  have hurl : (client.outgoing (.remove set member)).url =
      (client.url set ["members"]).push member := rfl
  rw [← h, ← hurl]
  exact segments_request (client.url_unmarked hbase set ["members", member]) (by rwa [hurl, h])

/-- A removal asks for the removal of the name that its path carries. -/
theorem removal_asks (hbase : Unmarked client.base.path) {set name member other : String}
    (hreaches : client.Reaches set name) (h : carriedAs? member = some other) :
    Asks (client.outgoing (.remove set member)).request (.remove name other) := by
  obtain ⟨segment, hpath, hname⟩ := hreaches
  have hroot : (client.url set ["members"]).atRoot = false := by simp [Url.atRoot, hpath]
  have hpush := Url.push_path hroot member
  rw [h, hpath] at hpush
  obtain ⟨hcarries, hlast⟩ := hpush
  exact .remove rfl (segments_removal client hbase hlast (by simp)) hname
    (Url.escaped_ne_empty hcarries.1) (readName_eq_ok.mp (readName_escaped "member" other))

/-- A removal whose path carries no name asks for nothing. -/
theorem removal_unasked (hbase : Unmarked client.base.path) {set name member : String}
    (hreaches : client.Reaches set name) (h : carriedAs? member = none) (c : Pool.Call) :
    ¬Asks (client.outgoing (.remove set member)).request c := by
  obtain ⟨segment, hpath, -⟩ := hreaches
  have hroot : (client.url set ["members"]).atRoot = false := by simp [Url.atRoot, hpath]
  have hpush := Url.push_path hroot member
  rw [h, hpath] at hpush
  have hmethod : (client.outgoing (.remove set member)).request.method = "DELETE" := rfl
  have hparent : Url.parent ["sets", segment, "members"] = ["sets", segment] := by
    simp [Url.parent, Url.isDrive]
  -- the path is that of all members, or ends with an empty segment
  have hends : segments (client.outgoing (.remove set member)).request =
      ["", "sets", segment, "members"] ∨
    segments (client.outgoing (.remove set member)).request =
      ["", "sets", segment, "members", ""] ∨
    segments (client.outgoing (.remove set member)).request = ["", "sets", segment, ""] := by
    rcases hpush with hsame | hempty | hup
    · exact .inl (segments_removal client hbase hsame (by simp))
    · exact .inr (.inl (segments_removal client hbase hempty (by simp)))
    · rw [hparent] at hup
      exact .inr (.inr (segments_removal client hbase hup (by simp)))
  intro hasks
  cases hasks with
  | upsert hpost => simp [hmethod] at hpost
  | range hget => simp [hmethod] at hget
  | removeRange _ hrange =>
    rw [hrange] at hends
    simp at hends
  | remove _ hremove _ hne =>
    rw [hremove] at hends
    simp [hne] at hends

/-- **What a removal comes to** where heartbeats succeed: the removal of the name that the
path carries for the member, if its request can be made, or nothing. -/
theorem remote_remove (hbase : Unmarked client.base.path) {set name : String}
    (hreaches : client.Reaches set name) (member : String) (s : σ) :
    match carriedAs? member with
    | some other => (client.url set ["members", member]).isRequestable = true →
        remote store client (.remove set member) s =
          (seen (store (.remove name other) s).1, (store (.remove name other) s).2)
    | none => ∃ e, remote store client (.remove set member) s = (.error e, s) := by
  cases hcarried : carriedAs? member with
  | some other =>
    intro hsent
    -- the answer to a removal does not depend on the names
    have hreceive (x : Except Error Bool) : client.receive (.remove set member)
        (some (Server.answered (.remove name other) x)) = seen x := by
      have hsame : Server.answered (.remove name other) x =
          Server.answered (.remove set member) x := by cases x <;> rfl
      rw [hsame]
      exact receive_answered client (.remove set member) x (by cases x <;> trivial)
    rw [remote_asked store client (removal_asks client hbase hreaches hcarried) hsent, hreceive]
  | none =>
    exact remote_unasked store client (removal_unasked client hbase hreaches hcarried) trivial s

end

/-! ## Leaving over HTTP -/

section

open Pool (MemoryStore Node Config)

/-- Whether a store is as it was but for one record, which is not there. -/
def Without (set member : String) (s s' : MemoryStore) : Prop :=
  ∀ other name, s'.score? other name =
    if other = set ∧ name = member then none else s.score? other name

theorem without_removed (set member : String) (s : MemoryStore) :
    Without set member s (MemoryStore.store (.remove set member) s).2 :=
  fun other name => MemoryStore.score?_remove s other name set member

variable {client : Client} {set name member : String}

/-- Whether the URL of a removal names its member: the path carries the name as it is, and the
URL is no longer than that of a request may be. -/
def Client.Names (client : Client) (set member : String) : Prop :=
  Carries member ∧ (client.url set ["members", member]).text.utf8ByteSize ≤ 65534

instance : Decidable (client.Names set member) :=
  inferInstanceAs (Decidable (Carries member ∧
    (client.url set ["members", member]).text.utf8ByteSize ≤ 65534))

/-- A removal of a member that its URL names. -/
theorem remote_remove_named (hbase : Unmarked client.base.path)
    (hreaches : client.Reaches set name) (hhost : client.base.PlainHost)
    (hnames : client.Names set member) (s : MemoryStore) :
    remote MemoryStore.store client (.remove set member) s =
      MemoryStore.store (.remove name member) s := by
  have hplain : (client.url set ["members", member]).PlainHost := by
    rwa [Url.PlainHost, client.url_host]
  have hremove := remote_remove MemoryStore.store client hbase hreaches member s
  rw [Url.carriedAs?_eq_self_iff.mpr hnames.1] at hremove
  exact hremove (Url.isRequestable_iff.mpr ⟨hnames.2, hplain⟩)

/-- A removal of any other member leaves the member's record as it was. -/
theorem remote_remove_other (hbase : Unmarked client.base.path)
    (hreaches : client.Reaches set name) (hnames : ¬client.Names set member) (s : MemoryStore) :
    (remote MemoryStore.store client (.remove set member) s).2.score? name member =
      s.score? name member := by
  have hremove := remote_remove MemoryStore.store client hbase hreaches member s
  cases hsent : (client.url set ["members", member]).isRequestable with
  | false => rw [remote_unsent MemoryStore.store client (.remove set member) s hsent]
  | true =>
  cases hcarried : carriedAs? member with
  | none =>
    rw [hcarried] at hremove
    obtain ⟨e, he⟩ := hremove
    rw [he]
  | some other =>
    rw [hcarried] at hremove
    have hne : member ≠ other := by
      rintro rfl
      exact hnames ⟨Url.carriedAs?_eq_self_iff.mp hcarried, (Url.isRequestable_iff.mp hsent).1⟩
    have hgone := without_removed name other s name member
    rw [if_neg (fun h => hne h.2)] at hgone
    rw [hremove hsent]
    exact hgone

variable {σ : Type} (store : Pool.Store σ) {worker : String}

theorem joined_worker {config : Config} {now : Int64} {n : Node} {s s' : σ}
    (h : Node.join store (.worker worker) config now s = (.ok n, s')) :
    (store (.upsert config.pool worker now) s).1 = .ok () ∧ n.role = .worker worker ∧
      n.config = config := by
  obtain ⟨report, hpass, rfl⟩ := Node.join_eq_ok_iff.mp h
  refine ⟨?_, rfl, rfl⟩
  cases hbeat : (store (.upsert config.pool worker now) s).1 with
  | ok r => rfl
  | error e => simp [Pool.pass, Pool.Role.name?, Pool.call, Task.run, hbeat] at hpass

theorem leave_worker {n : Node} (h : n.role = .worker worker) (s : σ) :
    (n.leave store true s).1 =
        (store (.remove n.config.pool worker) s).1.map (fun _ => ()) ∧
      (n.leave store true s).2 = (store (.remove n.config.pool worker) s).2 := by
  have hcall : n.shutdown.farewell true =
      Pool.call (.remove n.config.pool worker) (fun _ => .done (.ok ())) := by
    unfold Node.shutdown
    split <;> simp only [Node.farewell, h, Pool.Role.name?]
  rw [Node.leave, hcall]
  simp only [Pool.call, Task.run]
  cases (store (.remove n.config.pool worker) s).1 <;> exact ⟨rfl, rfl⟩

/-- **What was registered over HTTP can be removed over HTTP, where its URL names it.** Take any
client that a text gives. A heartbeat that succeeds over its link has scored the member in a set
of the server. If the URL of its removal names the member, the removal succeeds, has found it,
and takes its record and nothing else; so a worker that has joined over the link can leave with
its record. If the URL does not name the member, the removal leaves the record as it was, and so
does a worker that leaves. -/
theorem registered_removable {text : String} {client : Client}
    (hclient : Client.ofText text = .ok client) :
    (∀ (set member : String) (score : Int64) (s s₁ : MemoryStore),
      remote MemoryStore.store client (.upsert set member score) s = (.ok (), s₁) →
      ∃ name, s₁ = (MemoryStore.store (.upsert name member score) s).2 ∧
        (client.Names set member → ∃ s₂,
          remote MemoryStore.store client (.remove set member) s₁ = (.ok true, s₂) ∧
            Without name member s₁ s₂) ∧
        (¬client.Names set member →
          (remote MemoryStore.store client (.remove set member) s₁).2.score? name member =
            some score)) ∧
    ∀ (config : Config) (worker : String) (now : Int64) (s s₁ : MemoryStore) (n : Node),
      Node.join (remote MemoryStore.store client) (.worker worker) config now s = (.ok n, s₁) →
      ∃ name, client.Reaches config.pool name ∧
        (client.Names config.pool worker → ∃ s₂,
          n.leave (remote MemoryStore.store client) true s₁ = (.ok (), s₂) ∧
            Without name worker s₁ s₂) ∧
        (¬client.Names config.pool worker →
          (n.leave (remote MemoryStore.store client) true s₁).2.score? name worker =
            s₁.score? name worker) := by
  have hbase := Client.ofText_unmarked hclient
  refine ⟨fun set member score s s₁ hupsert => ?_, fun config worker now s s₁ n hjoin => ?_⟩
  · obtain ⟨name, hreaches, hhost, -, hstate⟩ :=
      remote_upsert MemoryStore.store client hbase (congrArg Prod.fst hupsert)
    have hs₁ : s₁ = (MemoryStore.store (.upsert name member score) s).2 :=
      (congrArg Prod.snd hupsert).symm.trans hstate
    have hscore : s₁.score? name member = some score := by
      rw [hs₁, MemoryStore.score?_upsert, if_pos ⟨rfl, rfl⟩]
    refine ⟨name, hs₁, fun hnames => ?_, fun hnames => ?_⟩
    · have hfound : (s₁.score? name member).isSome = true := by rw [hscore]; rfl
      rw [remote_remove_named hbase hreaches hhost hnames]
      exact ⟨(MemoryStore.store (.remove name member) s₁).2,
        Prod.ext (congrArg Except.ok hfound) rfl, without_removed name member s₁⟩
    · rw [remote_remove_other hbase hreaches hnames, hscore]
  · obtain ⟨hbeat, hrole, hconfig⟩ := joined_worker (remote MemoryStore.store client) hjoin
    obtain ⟨name, hreaches, hhost, -⟩ := remote_upsert MemoryStore.store client hbase hbeat
    obtain ⟨hanswer, hstate⟩ := leave_worker (remote MemoryStore.store client) hrole s₁
    rw [hconfig] at hanswer hstate
    refine ⟨name, hreaches, fun hnames => ?_, fun hnames => ?_⟩
    · rw [remote_remove_named hbase hreaches hhost hnames] at hanswer hstate
      exact ⟨_, Prod.ext hanswer hstate, without_removed name worker s₁⟩
    · rw [hstate]
      exact remote_remove_other hbase hreaches hnames s₁

/-- A worker whose name is full of marks comes and goes. -/
theorem registered_removable_marked : ∃ n s₁ s₂,
    Node.join (remote MemoryStore.store nearby) (.worker "a/b %2e?#ä") {} 100000 {} = (.ok n, s₁) ∧
      s₁.score? "bidderspool" "a/b %2e?#ä" = some 100000 ∧
      n.leave (remote MemoryStore.store nearby) true s₁ = (.ok (), s₂) ∧
      s₂.score? "bidderspool" "a/b %2e?#ä" = none := by
  obtain ⟨-, hleaves⟩ := registered_removable ofText_nearby
  cases hjoin : Node.join (remote MemoryStore.store nearby) (.worker "a/b %2e?#ä") {} 100000 {} with
  | mk answer s₁ =>
  have hjoined : (Node.join (remote MemoryStore.store nearby) (.worker "a/b %2e?#ä") {} 100000
      {}).1.toBool = true ∧ (Node.join (remote MemoryStore.store nearby) (.worker "a/b %2e?#ä") {}
      100000 {}).2.score? "bidderspool" "a/b %2e?#ä" = some 100000 := by decide +kernel
  rw [hjoin] at hjoined
  cases answer with
  | error e => cases hjoined.1
  | ok n =>
    obtain ⟨name, hreaches, hnames, -⟩ := hleaves {} "a/b %2e?#ä" 100000 {} s₁ n hjoin
    obtain ⟨s₂, hleave, hwithout⟩ := hnames (by decide +kernel)
    have hpool : "bidderspool" = name :=
      (Client.reaches_of_carries ⟨rfl, rfl⟩ (by decide)).unique hreaches
    exact ⟨n, s₁, s₂, rfl, hjoined.2, hleave, (hwithout _ _).trans (if_pos ⟨hpool, rfl⟩)⟩

/-- **Registered for good.** Heartbeats of a dot and of a name with a tab succeed. The
removal of the dot is refused; that of the other name succeeds, and takes the record of the
name without the tab. -/
theorem registered_not_removable :
    (∃ s, remote MemoryStore.store nearby (.upsert "p" "." 1) {} = (.ok (), s) ∧
      s.score? "p" "." = some 1 ∧
      ∃ e, remote MemoryStore.store nearby (.remove "p" ".") s = (.error e, s)) ∧
    ∃ s s', remote MemoryStore.store nearby (.upsert "p" "a\tb" 2) (.ofList [("p", "ab", 1)]) =
        (.ok (), s) ∧
      remote MemoryStore.store nearby (.remove "p" "a\tb") s = (.ok true, s') ∧
      s'.score? "p" "a\tb" = some 2 ∧ s'.score? "p" "ab" = none := by
  have hroot : nearby.AtRoot := ⟨rfl, rfl⟩
  have hset : Carries "p" := by decide
  have hreaches := Client.reaches_of_carries hroot hset
  have hremove := remote_remove MemoryStore.store nearby Url.unmarked_empty hreaches
  have hdot : carriedAs? "." = none := by decide
  have htab : carriedAs? "a\tb" = some "ab" := by decide
  have hbeat (member : String) (score : Int64) (s : MemoryStore)
      (h : nearby.refusal? (.upsert "p" member score) = none) :
      remote MemoryStore.store nearby (.upsert "p" member score) s =
        (.ok (), (MemoryStore.store (.upsert "p" member score) s).2) := by
    have hrelayed := relayed_through h MemoryStore.store s
    have hcall := remote_call (c := .upsert "p" member score) hroot hset MemoryStore.store s
      (by rw [hrelayed]; trivial)
    exact hcall.trans hrelayed
  constructor
  · have hnothing := hremove "." (MemoryStore.store (.upsert "p" "." 1) {}).2
    rw [hdot] at hnothing
    exact ⟨_, hbeat "." 1 {} (by decide +kernel), by decide, hnothing⟩
  · have hother := hremove "a\tb"
      (MemoryStore.store (.upsert "p" "a\tb" 2) (.ofList [("p", "ab", 1)])).2
    rw [htab] at hother
    exact ⟨_, _, hbeat "a\tb" 2 _ (by decide +kernel), hother (by decide +kernel), by decide,
      by decide⟩

end

end BidFleet.Membership
