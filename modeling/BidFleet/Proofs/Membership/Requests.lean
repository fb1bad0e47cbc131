import BidFleet.Membership.Link
import BidFleet.Proofs.Http.Segments
import BidFleet.Proofs.Membership.Bodies

/-!
Requests and the calls that they ask for. A client makes a request of every call,
and a server reads from the request just that call, whatever characters its names
are made of, when the paths carry the names and the client's base is the root of
the server.
-/

namespace BidFleet.Membership

open Http
open Http.Url (Carries escaped)

/-- Whether the paths of a call carry its names; a heartbeat names its member in its
body. -/
def Carried : Pool.Call → Prop
  | .upsert set _ _ | .range set _ _ | .removeRange set _ _ => Carries set
  | .remove set member => Carries set ∧ Carries member

instance : DecidablePred Carried := fun c =>
  match c with
  | .upsert set _ _ | .range set _ _ | .removeRange set _ _ =>
    inferInstanceAs (Decidable (Carries set))
  | .remove set member => inferInstanceAs (Decidable (Carries set ∧ Carries member))

/-- Whether the base of a client is the root of a server. -/
def Client.AtRoot (client : Client) : Prop := client.base.path = [""] ∧ client.base.query = none

/-! ## Paths -/

/-- The path to something in a set. -/
def route (set : String) (tail : List String) : List Char :=
  '/' :: Text.join '/' (("sets" :: set :: tail).map (fun name => (escaped name).toList))

theorem not_mem_route {c : Char} (hc : c = '?' ∨ c = '#') (set : String) (tail : List String) :
    c ∉ route set tail := by
  have hslash : c ≠ '/' := by rcases hc with rfl | rfl <;> decide
  simp only [route, List.mem_cons, not_or]
  refine ⟨hslash, Text.not_mem_join hslash ?_⟩
  intro p hp
  obtain ⟨name, -, rfl⟩ := List.mem_map.mp hp
  exact Url.not_mem_escaped name (.inr hc)

theorem split_route (set : String) (tail : List String) :
    (Text.split '/' (route set tail)).map String.ofList =
      "" :: "sets" :: escaped set :: tail.map escaped := by
  have hpieces : ∀ p ∈ [] :: ("sets" :: set :: tail).map (fun name => (escaped name).toList),
      '/' ∉ p := by
    intro p hp
    rcases List.mem_cons.mp hp with rfl | hp
    · simp
    · obtain ⟨name, -, rfl⟩ := List.mem_map.mp hp
      exact Url.not_mem_escaped name (.inl rfl)
  have hsplit : Text.split '/' (route set tail) =
      [] :: ("sets" :: set :: tail).map (fun name => (escaped name).toList) :=
    Text.split_join _ (by simp) hpieces
  have hsets : escaped "sets" = "sets" := by decide
  rw [hsplit]
  simp [hsets]

theorem ofPath?_members (set : String) :
    Endpoint.ofPath? (route set ["members"]) = some (.members (escaped set).toList) := by
  have htail : escaped "members" = "members" := by decide
  simp [Endpoint.ofPath?, split_route, htail]

theorem ofPath?_range (set : String) :
    Endpoint.ofPath? (route set ["range"]) = some (.range (escaped set).toList) := by
  have htail : escaped "range" = "range" := by decide
  simp [Endpoint.ofPath?, split_route, htail]

theorem ofPath?_member (set : String) {member : String} (h : member ≠ "") :
    Endpoint.ofPath? (route set ["members", member]) =
      some (.member (escaped set).toList (escaped member).toList) := by
  have htail : escaped "members" = "members" := by decide
  have hne := Url.escaped_ne_empty h
  simp [Endpoint.ofPath?, split_route, htail, hne]

theorem readName_escaped (parameter name : String) :
    Server.readName parameter (escaped name).toList = .ok name := by
  rw [Server.readName, Url.decode_escaped, Utf8.decode?_encode]

/-! ## Queries -/

/-- The query for a range of scores. -/
def bounds (low high : Int64) : List Char :=
  "min".toList ++ '=' :: (Text.integer low.toInt ++ '&' ::
    ("max".toList ++ '=' :: Text.integer high.toInt))

theorem mem_integer {i : Int} {c : Char} (h : c ∈ Text.integer i) : c = '-' ∨ c.isDigit = true := by
  cases i with
  | ofNat n => exact .inr (Text.isDigit_natural h)
  | negSucc n =>
    rcases List.mem_cons.mp h with rfl | h
    · exact .inl rfl
    · exact .inr (Text.isDigit_natural h)

theorem not_mem_integer {i : Int} {c : Char} (hminus : c ≠ '-') (hdigit : c.isDigit = false) :
    c ∉ Text.integer i := by
  intro h
  rcases mem_integer h with hc | hc
  · exact hminus hc
  · rw [hdigit] at hc
    cases hc

/-- Octets of ASCII without plus and percent signs stand for themselves in a query. -/
theorem decode_plain {cs : List Char} (hascii : ∀ c ∈ cs, c.toNat < 128) (hplus : '+' ∉ cs)
    (hpercent : '%' ∉ cs) : Query.decode cs = cs.map (fun c => UInt8.ofNat c.toNat) := by
  have hsame : ∀ c ∈ cs, (if c = '+' then ' ' else c) = c := by
    intro c hc
    have hne : c ≠ '+' := fun he => hplus (he ▸ hc)
    rw [if_neg hne]
  have hmap : cs.map (fun c => if c = '+' then ' ' else c) = cs :=
    (List.map_congr_left hsame).trans (List.map_id' cs)
  have hdecode : ∀ bytes : Bytes, (37 : UInt8) ∉ bytes → Percent.decode bytes = bytes := by
    intro bytes hbytes
    induction bytes with
    | nil => rfl
    | cons b bs ih =>
      rw [List.mem_cons, not_or] at hbytes
      rw [Percent.decode_cons (Ne.symm hbytes.1), ih hbytes.2]
  rw [Query.decode, hmap, Json.encodeChars_map hascii, hdecode]
  intro hmem
  obtain ⟨c, hc, he⟩ := List.mem_map.mp hmem
  have hchar : c = '%' := by
    rw [← Json.ofNat_octet (hascii c hc), he]
    rfl
  exact hpercent (hchar ▸ hc)

theorem readInt64_octets (n : Int64) :
    Text.readInt64 (Query.characters (Query.decode (Text.integer n.toInt))) = .ok n := by
  have hascii : ∀ c ∈ Text.integer n.toInt, c.toNat < 128 := by
    intro c hc
    rcases mem_integer hc with rfl | hdigit
    · decide
    · have := Json.digit_range hdigit
      omega
  have hchars : Query.characters (Query.decode (Text.integer n.toInt)) = Text.integer n.toInt := by
    rw [decode_plain hascii (not_mem_integer (by decide) (by decide))
      (not_mem_integer (by decide) (by decide)), Query.characters, List.map_map]
    exact (List.map_congr_left (fun c hc => Json.ofNat_octet (hascii c hc))).trans (List.map_id' _)
  rw [hchars, Text.readInt64_integer]

theorem pairs_bounds (low high : Int64) :
    Query.pairs (bounds low high) =
      [(Utf8.encode "min", Query.decode (Text.integer low.toInt)),
        (Utf8.encode "max", Query.decode (Text.integer high.toInt))] := by
  have hmin : '&' ∉ "min".toList ++ '=' :: Text.integer low.toInt := by
    simp only [List.mem_append, List.mem_cons, not_or]
    exact ⟨by decide, by decide, not_mem_integer (by decide) (by decide)⟩
  have hmax : '&' ∉ "max".toList ++ '=' :: Text.integer high.toInt := by
    simp only [List.mem_append, List.mem_cons, not_or]
    exact ⟨by decide, by decide, not_mem_integer (by decide) (by decide)⟩
  have hsplit : Text.segments '&' (bounds low high) =
      ["min".toList ++ '=' :: Text.integer low.toInt,
        "max".toList ++ '=' :: Text.integer high.toInt] := by
    have hbounds : bounds low high = ("min".toList ++ '=' :: Text.integer low.toInt) ++
        '&' :: ("max".toList ++ '=' :: Text.integer high.toInt) := by
      simp only [bounds, List.append_assoc, List.cons_append]
    rw [Text.segments, hbounds, Text.split_append hmin, Text.split_of_not_mem hmax]
    rfl
  have hpair (name : String) (value : List Char) (hname : '=' ∉ name.toList)
      (hdecode : Query.decode name.toList = Utf8.encode name) :
      Query.pair (name.toList ++ '=' :: value) = (Utf8.encode name, Query.decode value) := by
    rw [Query.pair, Text.before_append hname, Text.after?_append hname, hdecode]
    rfl
  rw [Query.pairs, hsplit, List.map_cons, List.map_cons, List.map_nil,
    hpair "min" _ (by decide) (by decide), hpair "max" _ (by decide) (by decide)]

/-- **Bounds survive their query.** -/
theorem readBounds_bounds (low high : Int64) :
    Server.readBounds none none (Query.pairs (bounds low high)) = .ok (low, high) := by
  have hne : Utf8.encode "max" ≠ Utf8.encode "min" := by decide
  simp [pairs_bounds, Server.readBounds, readInt64_octets, hne]

/-! ## Targets -/

namespace Client

variable {client : Client} {set : String}

/-- The path and the query of a URL in a set. -/
theorem url_parts (hroot : client.AtRoot) (hset : Carries set) {tail : List String}
    (htail : ∀ name ∈ tail, Carries name) :
    (client.url set tail).path = ("sets" :: set :: tail).map escaped ∧
      (client.url set tail).query = none := by
  have hbase : client.base.popIfEmpty = client.base :=
    if_pos (by simp [Url.atRoot, hroot.1])
  have hcarries : Carries "sets" := by decide
  obtain ⟨hpath, hquery⟩ := Url.push_carried hcarries client.base
  have hsets : escaped "sets" = "sets" := by decide
  rw [if_pos (by simp [Url.atRoot, hroot.1]), List.nil_append, hsets] at hpath
  have hnames : ∀ name ∈ set :: tail, Carries name := by
    intro name hname
    rcases List.mem_cons.mp hname with rfl | hname
    · exact hset
    · exact htail name hname
  have hne : (client.base.push "sets").path ≠ [""] := by rw [hpath]; decide
  obtain ⟨hpath', hquery'⟩ := Url.foldl_push hnames hne
  have hurl : client.url set tail = (set :: tail).foldl Url.push (client.base.push "sets") := by
    rw [url, hbase, List.foldl_cons]
  rw [hurl, hpath', hquery', hpath, hquery, hroot.2, List.map_cons (l := set :: tail), hsets]
  exact ⟨rfl, rfl⟩

theorem toList_target_url (hroot : client.AtRoot) (hset : Carries set) {tail : List String}
    (htail : ∀ name ∈ tail, Carries name) :
    (client.url set tail).target.toList = route set tail := by
  obtain ⟨hpath, hquery⟩ := url_parts hroot hset htail
  rw [Url.toList_target, hpath, hquery]
  simp only [List.append_nil, List.map_map]
  rfl

theorem toList_target_rangeUrl (hroot : client.AtRoot) (hset : Carries set) (low high : Int64) :
    (client.rangeUrl set low high).target.toList =
      route set ["range"] ++ '?' :: bounds low high := by
  have htail : ∀ name ∈ ["range"], Carries name := by decide
  obtain ⟨hpath, hquery⟩ := url_parts hroot hset htail
  obtain ⟨hpath₁, hquery₁⟩ :=
    Url.addQuery_none hquery "min" (String.ofList (Text.integer low.toInt))
  have hne : "min" ++ "=" ++ String.ofList (Text.integer low.toInt) ≠ "" := by
    intro he
    have := congrArg String.toList he
    simp at this
  obtain ⟨hpath₂, hquery₂⟩ := Url.addQuery_some hquery₁ hne "max"
    (String.ofList (Text.integer high.toInt))
  have hbounds : ("min" ++ "=" ++ String.ofList (Text.integer low.toInt) ++ "&" ++
      ("max" ++ "=" ++ String.ofList (Text.integer high.toInt))).toList = bounds low high := by
    simp [bounds]
  rw [Url.toList_target, rangeUrl, hquery₂, hpath₂, hpath₁, hpath]
  simp only [List.map_map, hbounds]
  rfl

end Client

/-! ## Orders -/

theorem orderOf_route {request : Request} {set : String} {tail : List String} {endpoint : Endpoint}
    (htarget : request.target.toList = route set tail)
    (hpath : Endpoint.ofPath? (route set tail) = some endpoint) :
    Server.orderOf request = Server.readOrder endpoint request [] := by
  have horigin : originForm (route set tail) = route set tail := rfl
  simp only [Server.orderOf, htarget, horigin,
    Text.before_of_not_mem (not_mem_route (.inr rfl) set tail),
    Text.before_of_not_mem (not_mem_route (.inl rfl) set tail),
    Text.after?_of_not_mem (not_mem_route (.inl rfl) set tail), hpath, Option.getD_none]

theorem orderOf_query {request : Request} {set : String} {tail : List String} {query : List Char}
    {endpoint : Endpoint} (htarget : request.target.toList = route set tail ++ '?' :: query)
    (hquery : '#' ∉ query) (hpath : Endpoint.ofPath? (route set tail) = some endpoint) :
    Server.orderOf request = Server.readOrder endpoint request query := by
  have horigin : originForm (route set tail ++ '?' :: query) = route set tail ++ '?' :: query := rfl
  have hfragment : '#' ∉ route set tail ++ '?' :: query := by
    simp only [List.mem_append, List.mem_cons, not_or]
    exact ⟨not_mem_route (.inr rfl) set tail, by decide, hquery⟩
  simp only [Server.orderOf, htarget, horigin, Text.before_of_not_mem hfragment,
    Text.before_append (not_mem_route (.inl rfl) set tail),
    Text.after?_append (not_mem_route (.inl rfl) set tail), hpath, Option.getD_some]

theorem not_mem_bounds (low high : Int64) : '#' ∉ bounds low high := by
  have hlow : '#' ∉ Text.integer low.toInt := not_mem_integer (by decide) (by decide)
  have hhigh : '#' ∉ Text.integer high.toInt := not_mem_integer (by decide) (by decide)
  simp [bounds, hlow, hhigh]

/-- The heartbeat of a call is read, unless its body is longer than a server takes. -/
theorem readHeartbeat_outgoing (client : Client) (set member : String) (score : Int64) :
    Server.readHeartbeat (client.outgoing (.upsert set member score)).request =
      if Server.bodyLimit < (client.outgoing (.upsert set member score)).request.body.length then
        .error .bodyTooLong
      else .ok ⟨member, score⟩ := by
  have hjson : MediaType.isJson jsonType = true := by decide
  have hbody : (client.outgoing (.upsert set member score)).request.body =
      Utf8.encode (Heartbeat.mk member score).toJson.compact := by
    simp only [Client.outgoing, Outgoing.request, Option.getD_some]
  have htype : (client.outgoing (.upsert set member score)).request.contentType =
      some jsonType := rfl
  simp only [Server.readHeartbeat, htype, hjson, Bool.not_true, Bool.false_eq_true, if_false, hbody,
    decode_heartbeat]

theorem not_tooLong {request : Request} (h : request.body = []) :
    ¬Server.bodyLimit < request.body.length := by
  rw [h]
  exact Nat.not_lt_zero _

/-- **A request asks for the call it was made of**, if a server takes its body. -/
theorem orderOf_outgoing {client : Client} (hroot : client.AtRoot) {c : Pool.Call}
    (hc : Carried c) : Server.orderOf (client.outgoing c).request =
      if Server.bodyLimit < (client.outgoing c).request.body.length then .error .bodyTooLong
      else .ok (.call c) := by
  cases c with
  | upsert set member score =>
    have htarget : (client.outgoing (.upsert set member score)).request.target.toList =
        route set ["members"] := Client.toList_target_url hroot hc (by decide)
    have hmethod : (client.outgoing (.upsert set member score)).request.method = "POST" := rfl
    rw [orderOf_route htarget (ofPath?_members set)]
    by_cases hlong : Server.bodyLimit <
        (client.outgoing (.upsert set member score)).request.body.length
    · simp [Server.readOrder, Endpoint.methods, hmethod, readName_escaped, readHeartbeat_outgoing,
        hlong, bind, Except.bind]
    · simp [Server.readOrder, Endpoint.methods, hmethod, readName_escaped, readHeartbeat_outgoing,
        hlong, bind, Except.bind]
      rfl
  | range set low high =>
    have htarget : (client.outgoing (.range set low high)).request.target.toList =
        route set ["range"] ++ '?' :: bounds low high :=
      Client.toList_target_rangeUrl hroot hc low high
    have hmethod : (client.outgoing (.range set low high)).request.method = "GET" := rfl
    rw [if_neg (not_tooLong rfl), orderOf_query htarget (not_mem_bounds low high) (ofPath?_range set)]
    simp [Server.readOrder, Endpoint.methods, hmethod, readName_escaped, readBounds_bounds,
      bind, Except.bind]
    rfl
  | removeRange set low high =>
    have htarget : (client.outgoing (.removeRange set low high)).request.target.toList =
        route set ["range"] ++ '?' :: bounds low high :=
      Client.toList_target_rangeUrl hroot hc low high
    have hmethod : (client.outgoing (.removeRange set low high)).request.method = "DELETE" := rfl
    rw [if_neg (not_tooLong rfl), orderOf_query htarget (not_mem_bounds low high) (ofPath?_range set)]
    simp [Server.readOrder, Endpoint.methods, hmethod, readName_escaped, readBounds_bounds,
      bind, Except.bind]
    rfl
  | remove set member =>
    have hnames : ∀ name ∈ ["members", member], Carries name := by
      intro name hname
      simp only [List.mem_cons, List.not_mem_nil, or_false] at hname
      rcases hname with rfl | rfl
      · decide
      · exact hc.2
    have htarget : (client.outgoing (.remove set member)).request.target.toList =
        route set ["members", member] := Client.toList_target_url hroot hc.1 hnames
    have hmethod : (client.outgoing (.remove set member)).request.method = "DELETE" := rfl
    rw [if_neg (not_tooLong rfl), orderOf_route htarget (ofPath?_member set hc.2.1)]
    simp [Server.readOrder, Endpoint.methods, hmethod, readName_escaped, bind, Except.bind]
    rfl

end BidFleet.Membership
