import BidFleet.Pool.Members
import BidFleet.Proofs.Auction.Selection
import BidFleet.Proofs.Json.Values
import BidFleet.Proofs.Serving.Replies
import BidFleet.Proofs.Text.Words

/-!
Winning a bid. An exchange that was answered with a bid reports a win by asking for a
path made of its own name, the id of the bid and a price. The words that pages and
scripts are recognised by are looked for first, anywhere in a path, so the win is
noticed exactly when none of them is there (`classify_notice`, `classify_diverted`):
the word of the icon is in no name, and neither the exchange nor the bid ends in the
word of the scripts. A target is for bids under the same condition, when its path names
an exchange (`classify_eq_bid_iff`).
-/

namespace BidFleet

/-! ## Bids and their ids -/

namespace Auction

open Json in
/-- The id of the bid in an answer is the one that the campaign gave it. -/
theorem Campaign.pointer?_respond (c : Campaign) (o : Opportunity) :
    (c.respond o).body.pointer? "/seatbid/0/bid/0/id" = some (.string (c.bidId o)) := by
  have htokens : Pointer.tokens? "/seatbid/0/bid/0/id" =
      some ["seatbid".toList, "0".toList, "bid".toList, "0".toList, "id".toList] := by
    decide
  have hplace : Pointer.place? "0".toList = some 0 := by decide
  simp only [Value.pointer?, htokens, Campaign.respond, Value.ofMembers, Value.insert,
    List.foldl_cons, List.foldl_nil, String.reduceEq, String.reduceLT, if_true, if_false]
  simp only [Option.bind_some, Value.follow?, Value.step?, Value.get?, hplace]
  rfl

theorem WinNotice.get?_acknowledgement (n : WinNotice) :
    n.acknowledgement.get? "status" = some (.string "ack") ∧
      n.acknowledgement.get? "bid_id" = some (.ofText? n.bid) := by
  simp only [WinNotice.acknowledgement, Json.Value.ofMembers, Json.Value.insert, Json.Value.get?,
    List.foldl_cons, List.foldl_nil, String.reduceEq, String.reduceLT, if_true, if_false]
  exact ⟨rfl, rfl⟩

theorem Campaign.fits_respond (c : Campaign) (o : Opportunity) :
    Json.Fits Json.depthLimit (c.respond o).body := by
  have hprice : Json.Fits 122 (if c.price.isFinite then .float c.price else .null) := by
    split
    · exact .float c.price
    · exact .null
  have hone {depth : Nat} {v : Json.Value} (h : Json.Fits depth v) :
      Json.Fits (depth + 1) (.array [v]) :=
    .array (List.forall_mem_singleton.mpr h)
  -- the answer, its seat and its bid, with a list between each two of them
  refine .ofMembers (List.forall_mem_cons.mpr ⟨.string _, ?_⟩)
  refine List.forall_mem_cons.mpr ⟨hone (.ofMembers ?_), ?_⟩
  · refine List.forall_mem_cons.mpr ⟨.string _, List.forall_mem_singleton.mpr ?_⟩
    refine hone (.ofMembers ?_)
    simp only [List.forall_mem_cons]
    exact ⟨.string _, .string _, hprice, .string _, .string _, List.forall_mem_nil _⟩
  · exact List.forall_mem_singleton.mpr (.string _)

theorem WinNotice.fits_acknowledgement (n : WinNotice) :
    Json.Fits Json.depthLimit n.acknowledgement := by
  refine .ofMembers ?_
  simp only [List.forall_mem_cons]
  refine ⟨.string _, .string _, ?_, ?_, List.forall_mem_nil _⟩
  · cases n.bid with
    | none => exact .null
    | some b => exact .string b
  · cases n.price with
    | none => exact .null
    | some x =>
      dsimp only
      split
      · exact .float x
      · exact .null

/-- What a book bids is the bid of one of its campaigns. -/
theorem Book.select_bid {book : Book} {o : Opportunity} {b : Bid} (h : book.select o = .bid b) :
    ∃ c ∈ book, b = c.respond o ∧ ∃ first, o.First first ∧ c.Bids o first b := by
  have hselects := book.selects o
  rw [h] at hselects
  cases hselects with
  | @bid first hfirst _ c _ hmem _ _ _ _ hbids =>
    exact ⟨c, hmem ▸ List.mem_append_right _ List.mem_cons_self, (c.bids_iff hfirst b).mp hbids,
      first, hfirst, hbids⟩

end Auction

namespace Serving

open Auction

/-- What acknowledges a notice is a success that is read with its bid. -/
theorem acknowledged {n : WinNotice} {b : String} (hb : n.bid = some b) {r : Reply}
    (hr : r = .json 200 n.acknowledgement) :
    r.status = 200 ∧ ∃ ack, Json.parse r.body = .ok ack ∧
      ack.get? "status" = some (.string "ack") ∧ ack.get? "bid_id" = some (.string b) := by
  obtain ⟨hstatus, hbid⟩ := n.get?_acknowledgement
  obtain ⟨ack, hparse, hrereads⟩ := Json.parse_compact n.fits_acknowledgement
  rw [hb] at hbid
  refine ⟨by rw [hr]; rfl, ack, ?_, hrereads.text_of hstatus, hrereads.text_of hbid⟩
  simpa only [hr, Reply.json] using hparse

theorem Outcome.bid_of_status (o : Outcome) (h : o.decision.status = 200) : ∃ b, o = .bid b := by
  cases o with
  | bid b => exact ⟨b, rfl⟩
  | noMatch | noCampaigns | stopped | throttled | refused | panicked | unread | wrongTarget =>
    simp [Outcome.decision, Decision.decline, Decision.status] at h

/-- A success on the path of an exchange is what the book bids on the opportunity that was
posted. -/
theorem bid_of_status {d : Dispatcher} {book : Book} (hbook : d.selector = book.selector)
    {adapter : Adapter} {exchange : String} (he : d.exchanges.get? exchange = some adapter)
    {method : String} {target : List Char} {body : Bytes} {o : Opportunity}
    (htarget : Route.classify method target = .bid exchange) (ho : adapter.parse body = .ok o)
    {σ : Type} (answers : Handler questions σ) (s : σ)
    (h : ((d.dispatch method target body).run answers s).1.status = 200) :
    ∃ bid, book.select o = .bid bid ∧ ((d.dispatch method target body).run answers s).1.body =
      Utf8.encode bid.body.compact := by
  obtain ⟨k, hsettles⟩ := (ends_dispatch d method target body).run answers s
  rw [htarget] at hsettles
  generalize ((d.dispatch method target body).run answers s).1 = r at h hsettles ⊢
  cases hsettles with
  | plain hroute => cases hroute
  | decided outcome elapsed hreaches =>
    obtain ⟨bid, rfl⟩ := outcome.bid_of_status h
    cases hreaches with
    | bid hoffers _ hselect =>
      obtain ⟨other, he', ho'⟩ := hoffers
      rw [he, Option.some.injEq] at he'
      subst he'
      rw [ho, Except.ok.injEq] at ho'
      subst ho'
      rw [hbook] at hselect
      exact ⟨bid, hselect, by simp only [Reply.decision, Outcome.decision, Decision.toJson]⟩

/-! ## Paths of wins -/

/-- The path by which an exchange reports that it took a bid at a price. -/
def noticePath (exchange bid price : List Char) : List Char :=
  '/' :: ("rtb".toList ++ '/' :: ("win".toList ++ '/' :: (exchange ++ '/' :: (bid ++ '/' :: price))))

theorem noticePath_eq (e b p : List Char) : noticePath e b p =
    [] ++ '/' :: ("rtb".toList ++ '/' :: ("win".toList ++ '/' :: (e ++ '/' :: (b ++ '/' :: p)))) :=
  rfl

def priceChar (c : Char) : Bool := c.isDigit || c == '.'

section

variable {e b p : List Char} (he : '/' ∉ e) (hb : '/' ∉ b) (hp : ∀ c ∈ p, priceChar c = true)

include hp in
theorem not_mem_price {c : Char} (hc : priceChar c = false) : c ∉ p := by
  intro h
  rw [hp c h] at hc
  cases hc

include hp in
theorem not_infix_price {word : List Char} {c : Char} (hword : c ∈ word)
    (hc : priceChar c = false) : ¬word <:+: p :=
  fun h => not_mem_price hp hc (h.subset hword)

include hp in
/-- The word of the icon stands in the exchange or in the bid. -/
theorem favicon_notice :
    Route.faviconWord <:+: noticePath e b p ↔
      Route.faviconWord <:+: e ∨ Route.faviconWord <:+: b := by
  have hslash : '/' ∉ Route.faviconWord := by decide
  have hprice : ¬Route.faviconWord <:+: p :=
    not_infix_price hp (by decide : 'f' ∈ Route.faviconWord) (by decide)
  have hempty : ¬Route.faviconWord <:+: [] := by decide
  have hrtb : ¬Route.faviconWord <:+: "rtb".toList := by decide
  have hwin : ¬Route.faviconWord <:+: "win".toList := by decide
  simp only [noticePath_eq, Text.infix_between hslash, hprice, hempty, hrtb, hwin, false_or, or_false]

include he hb hp in
/-- The word of the scripts begins at the end of the exchange or of the bid. -/
theorem web_notice :
    Route.webWord <:+: noticePath e b p ↔ "web".toList <:+ e ∨ "web".toList <:+ b := by
  have hword : Route.webWord = "web".toList ++ ['/'] := by decide
  have hslash : '/' ∉ "web".toList := by decide
  have hprice : ¬"web".toList ++ ['/'] <:+: p :=
    not_infix_price hp (List.mem_append_right _ (List.mem_singleton.mpr rfl)) (by decide)
  have hempty : ¬"web".toList <:+ [] := by decide
  have hrtb : ¬"web".toList <:+ "rtb".toList := by decide
  have hwin : ¬"web".toList <:+ "win".toList := by decide
  rw [hword, noticePath_eq, Text.infix_closed hslash List.not_mem_nil, Text.infix_closed hslash (by decide),
    Text.infix_closed hslash (by decide), Text.infix_closed hslash he,
    Text.infix_closed hslash hb]
  simp only [hprice, hempty, hrtb, hwin, false_or, or_false]

include he hb hp in
/-- The path of the simulator is no part of the path of a win: a bid has a dash. -/
theorem simulator_notice (hdash : '-' ∈ b) : ¬Route.simulatorWord <:+: noticePath e b p := by
  have hword : Route.simulatorWord =
      '/' :: ("xrtb".toList ++ '/' :: ("simulator".toList ++ '/' :: "exchange".toList)) := by decide
  -- a segment of the simulator that begins at the bid would be the bid
  have hbid {segment rest tail : List Char} (hs : '/' ∉ segment) (hd : '-' ∉ segment) :
      ¬segment ++ '/' :: rest <+: b ++ '/' :: tail :=
    fun h => hd ((Text.prefix_joined hs hb h).1 ▸ hdash)
  have hexchange : ¬"xrtb".toList ++ '/' :: ("simulator".toList ++ '/' :: "exchange".toList) <+:
      e ++ '/' :: (b ++ '/' :: p) :=
    fun h => hbid (by decide) (by decide) (Text.prefix_joined (by decide) he h).2
  have hprice {w : List Char} : ¬ '/' :: w <:+: p :=
    not_infix_price hp (List.mem_cons_self ..) (by decide)
  have hstart : ¬"xrtb".toList ++ '/' :: ("simulator".toList ++ '/' :: "exchange".toList) <+: p :=
    fun h => not_mem_price hp (by decide : priceChar 'x' = false) (h.subset (by decide))
  rw [hword, noticePath_eq, Text.infix_opened List.not_mem_nil, Text.infix_opened (by decide),
    Text.infix_opened (by decide), Text.infix_opened he, Text.infix_opened hb]
  rintro (h | h | h | h | h | h)
  · exact absurd (List.cons_prefix_cons.mp h).1 (by decide)
  · exact absurd (List.cons_prefix_cons.mp h).1 (by decide)
  · exact hexchange h
  · exact hbid (by decide) (by decide) h
  · exact hstart h
  · exact hprice h

include hp in
theorem not_mem_noticePath (he' : '?' ∉ e) (hb' : '?' ∉ b) : '?' ∉ noticePath e b p := by
  have hprice : '?' ∉ p := not_mem_price hp (by decide)
  simp [noticePath, he', hb', hprice]

include he hb hp in
/-- The path of a win is read as its notice. -/
theorem ofTarget?_notice (he' : '?' ∉ e) (hb' : '?' ∉ b) (hne : e ≠ []) (hnb : b ≠ []) (hnp : p ≠ []) :
    WinNotice.ofTarget? (noticePath e b p) =
      some ⟨String.ofList e, some (String.ofList b), Decimal.read? p, []⟩ := by
  have hstrip : Text.stripStart? WinNotice.root (noticePath e b p) =
      some (e ++ '/' :: (b ++ '/' :: p)) :=
    Text.stripStart?_eq_some.mpr rfl
  have hprice : '/' ∉ p := not_mem_price hp (by decide)
  have hsegments : Text.segments '/' (e ++ '/' :: (b ++ '/' :: p)) = [e, b, p] := by
    rw [Text.segments, Text.split_append he, Text.split_append hb, Text.split_of_not_mem hprice]
    simp [hne, hnb, hnp]
  rw [WinNotice.ofTarget?, Text.before_of_not_mem (not_mem_noticePath hp he' hb'), hstrip]
  simp only [hsegments, WinNotice.ofSegments?, List.map_nil]

include he hb hp in
/-- **A win is noticed** unless a word of pages or scripts is in its way. -/
theorem classify_notice (he' : '?' ∉ e) (hb' : '?' ∉ b) (hne : e ≠ []) (hnp : p ≠ [])
    (hdash : '-' ∈ b) (method : String)
    (hicon : ¬(Route.faviconWord <:+: e ∨ Route.faviconWord <:+: b))
    (hscript : ¬("web".toList <:+ e ∨ "web".toList <:+ b)) :
    Route.classify method (noticePath e b p) =
      .win ⟨String.ofList e, some (String.ofList b), Decimal.read? p, []⟩ := by
  have hfavicon : Text.occurs Route.faviconWord (noticePath e b p) = false := by
    rw [← favicon_notice hp, ← Text.occurs_iff, Bool.not_eq_true] at hicon
    exact hicon
  have hsimulator : Text.occurs Route.simulatorWord (noticePath e b p) = false := by
    rw [← Bool.not_eq_true, Text.occurs_iff]
    exact simulator_notice he hb hp hdash
  have hweb : Text.afterWord? Route.webWord (noticePath e b p) = none := by
    rw [Text.afterWord?_eq_none, web_notice he hb hp]
    exact hscript
  have hnotice := ofTarget?_notice he hb hp he' hb' hne (List.ne_nil_of_mem hdash) hnp
  simp only [Route.classify, Text.before_of_not_mem (not_mem_noticePath hp he' hb'), hfavicon,
    hsimulator, hweb, hnotice, Bool.false_eq_true, if_false]

include he hb hp in
/-- With such a word it is taken for the icon or for a script. -/
theorem classify_diverted (he' : '?' ∉ e) (hb' : '?' ∉ b) (hdash : '-' ∈ b) (method : String)
    (h : (Route.faviconWord <:+: e ∨ Route.faviconWord <:+: b) ∨
      "web".toList <:+ e ∨ "web".toList <:+ b) :
    Route.classify method (noticePath e b p) = .favicon ∨
      ∃ rest, Route.classify method (noticePath e b p) = .webAsset rest := by
  have hbefore := Text.before_of_not_mem (not_mem_noticePath hp he' hb')
  by_cases hicon : Route.faviconWord <:+: noticePath e b p
  · left
    simp only [Route.classify, hbefore, Text.occurs_iff.mpr hicon, if_true]
  · right
    have hscript : Route.webWord <:+: noticePath e b p := by
      rw [favicon_notice hp] at hicon
      exact (web_notice he hb hp).mpr (h.resolve_left hicon)
    have hfavicon : Text.occurs Route.faviconWord (noticePath e b p) = false := by
      rw [← Bool.not_eq_true, Text.occurs_iff]
      exact hicon
    have hsimulator : Text.occurs Route.simulatorWord (noticePath e b p) = false := by
      rw [← Bool.not_eq_true, Text.occurs_iff]
      exact simulator_notice he hb hp hdash
    obtain ⟨rest, hrest⟩ := Option.isSome_iff_exists.mp (Text.afterWord?_isSome.mpr hscript)
    refine ⟨String.ofList rest, ?_⟩
    simp only [Route.classify, hbefore, hfavicon, hsimulator, hrest, Bool.false_eq_true, if_false]

end

/-! ## Paths of bids -/

theorem exchange?_eq_some {path exchange : List Char} (h : Route.exchange? path = some exchange) :
    exchange ≠ [] ∧ '/' ∉ exchange ∧ exchange <:+: path := by
  unfold Route.exchange? at h
  split at h
  · next rest hrest =>
    simp only at h
    split at h
    · cases h
    · next hplain =>
      cases h
      simp only [Bool.or_eq_true, List.isEmpty_iff, List.contains_iff_mem, not_or] at hplain
      have hprefix : Text.trimEnd '/' rest <+: rest := by
        have hsuffix := List.dropWhile_suffix (· == '/') (l := rest.reverse)
        rw [← List.reverse_prefix, List.reverse_reverse] at hsuffix
        exact hsuffix
      have hpath := Text.stripStart?_eq_some.mp hrest
      exact ⟨hplain.1, hplain.2, hprefix.isInfix.trans (hpath ▸ List.suffix_append _ _).isInfix⟩
  · cases h

theorem ofPath_eq_bid {method : String} {path : List Char} {exchange : String}
    (h : Route.ofPath method path = .bid exchange) :
    Route.exchange? path = some exchange.toList := by
  unfold Route.ofPath at h
  split at h
  · cases h
  split at h
  · cases h
  split at h
  · cases h
  split at h
  · cases h
  split at h
  · cases h
  split at h
  · next hexchange =>
    cases h
    rw [hexchange, String.toList_ofList]
  · cases h

theorem bidRoot_of_exchange? {path exchange : List Char}
    (h : Route.exchange? path = some exchange) : Route.bidRoot <+: path := by
  unfold Route.exchange? at h
  split at h
  · next rest hrest => exact ⟨rest, (Text.stripStart?_eq_some.mp hrest).symm⟩
  · cases h

/-- A path with an exchange is none of the other paths. -/
theorem ofPath_of_exchange? (method : String) {path exchange : List Char}
    (h : Route.exchange? path = some exchange) :
    Route.ofPath method path = .bid (String.ofList exchange) := by
  have hroot := bidRoot_of_exchange? h
  have hne {other : List Char} (hother : ¬Route.bidRoot <+: other) : path ≠ other :=
    fun he => hother (he ▸ hroot)
  have hstatus : path ≠ "/rtb/status".toList := hne (by decide)
  have hpool : path ≠ "/rtb/pool".toList := hne (by decide)
  have hstop : path ≠ "/rtb/admin/stop".toList := hne (by decide)
  have hstart : path ≠ "/rtb/admin/start".toList := hne (by decide)
  have hthrottle : Text.stripStart? Route.throttleRoot path = none :=
    Text.stripStart?_eq_none hroot (by decide) (by decide)
  simp only [Route.ofPath, hstatus, hpool, hstop, hstart, hthrottle, false_and, if_false, h]

/-- **A target is for bids** exactly when its path names an exchange and holds none of the
words of pages and scripts. -/
theorem classify_eq_bid_iff {method : String} {target : List Char} {exchange : String} :
    Route.classify method target = .bid exchange ↔
      ¬Route.faviconWord <:+: Text.before '?' target ∧
      ¬Route.simulatorWord <:+: Text.before '?' target ∧
      ¬Route.webWord <:+: Text.before '?' target ∧
      Route.exchange? (Text.before '?' target) = some exchange.toList := by
  constructor
  · intro h
    unfold Route.classify at h
    simp only [Text.occurs_iff] at h
    split at h
    · cases h
    next hfavicon =>
    split at h
    · cases h
    next hsimulator =>
    split at h
    · cases h
    next hweb =>
    split at h
    · cases h
    · exact ⟨hfavicon, hsimulator, Text.afterWord?_eq_none.mp hweb, ofPath_eq_bid h⟩
  · rintro ⟨hfavicon, hsimulator, hweb, hexchange⟩
    have hroot := bidRoot_of_exchange? hexchange
    have hnotice : WinNotice.ofTarget? (Text.before '?' target) = none := by
      have hstrip : Text.stripStart? WinNotice.root (Text.before '?' target) = none :=
        Text.stripStart?_eq_none hroot (by decide) (by decide)
      rw [WinNotice.ofTarget?, Text.before_of_not_mem (Text.not_mem_before '?' target), hstrip]
    have hpath := ofPath_of_exchange? method hexchange
    rw [String.ofList_toList] at hpath
    simp only [Route.classify, Text.occurs_iff, hfavicon, hsimulator, if_false,
      Text.afterWord?_eq_none.mpr hweb, hnotice, hpath]

/-- The exchange of a bid path is a segment without the word of the icon. -/
theorem exchange_of_classify {method : String} {target : List Char} {exchange : String}
    (h : Route.classify method target = .bid exchange) : exchange.toList ≠ [] ∧
      '/' ∉ exchange.toList ∧ '?' ∉ exchange.toList ∧ ¬Route.faviconWord <:+: exchange.toList := by
  obtain ⟨hfavicon, -, -, hexchange⟩ := classify_eq_bid_iff.mp h
  obtain ⟨hne, hslash, hinfix⟩ := exchange?_eq_some hexchange
  refine ⟨hne, hslash, Text.not_mem_of_infix hinfix (Text.not_mem_before '?' target), ?_⟩
  exact fun hicon => hfavicon (hicon.trans hinfix)

/-! ## Winning -/

/-- A text that can stand as a segment of a path. -/
def Segment (s : String) : Prop := s ≠ "" ∧ '/' ∉ s.toList ∧ '?' ∉ s.toList

/-- A text of digits and at most one dot. -/
def PriceText (p : String) : Prop :=
  p ≠ "" ∧ p.toList.all priceChar = true ∧ p.toList.count '.' ≤ 1

/-- Whether a word by which pages or scripts are recognised gets into the path of a win. -/
def InTheWay (exchange request campaign : String) : Prop :=
  ("favicon".toList <:+: request.toList ∨ "favicon".toList <:+: campaign.toList) ∨
    "web".toList <:+ exchange.toList ∨ "web".toList <:+ campaign.toList

theorem toList_bidId (c : Campaign) (o : Opportunity) :
    (c.bidId o).toList = o.id.toList ++ '-' :: c.id.toList := by
  rw [Campaign.bidId, String.toList_append, String.toList_append, List.append_assoc]
  rfl

/-- The words are in a bid when they are in what its id is made of. -/
theorem inTheWay_iff {exchange : String} (c : Campaign) (o : Opportunity)
    (hicon : ¬Route.faviconWord <:+: exchange.toList) : InTheWay exchange o.id c.id ↔
      (Route.faviconWord <:+: exchange.toList ∨ Route.faviconWord <:+: (c.bidId o).toList) ∨
        "web".toList <:+ exchange.toList ∨ "web".toList <:+ (c.bidId o).toList := by
  have hdash : '-' ∉ Route.faviconWord := by decide
  have hdash' : '-' ∉ "web".toList := by decide
  rw [InTheWay, toList_bidId, Text.infix_between hdash, Text.suffix_between hdash']
  simp only [hicon, false_or]
  exact Iff.rfl

theorem toList_notice (exchange bid price : String) :
    ("/rtb/win/" ++ exchange ++ "/" ++ bid ++ "/" ++ price).toList =
      noticePath exchange.toList bid.toList price.toList := by
  simp [noticePath, String.toList_append]

/-- **A bid that was made can be won**, whatever book and whatever exchange it was for,
unless a word of pages or scripts gets into the path: then the win is taken for a page
or a script, because these are recognised first. The words are looked for in the name of
the exchange, in the id that was posted and in that of the campaign that bids. -/
theorem bid_can_be_won {d : Dispatcher} {book : Book} (hbook : d.selector = book.selector)
    {exchange : String} (he : d.exchanges.get? exchange = some (.plain exchange))
    {method : String} {target : List Char} {body : Bytes} {o : Opportunity}
    (htarget : Route.classify method target = .bid exchange)
    (ho : (Adapter.plain exchange).parse body = .ok o) (hid : Segment o.id)
    (hids : ∀ c ∈ book, Segment c.id) {σ : Type} (answers : Handler questions σ) (s : σ)
    (hbid : ((d.dispatch method target body).run answers s).1.status = 200)
    {price : String} (hprice : PriceText price) :
    ∃ c ∈ book, ∃ first bid answer b,
      o.First first ∧ book.select o = .bid bid ∧ c.Bids o first bid ∧
      ((d.dispatch method target body).run answers s).1.body =
        Utf8.encode (Json.Value.compact bid.body) ∧
      Json.parse ((d.dispatch method target body).run answers s).1.body = .ok answer ∧
      answer.pointer? "/seatbid/0/bid/0/id" = some (.string b) ∧ b = o.id ++ "-" ++ c.id ∧
      let notice := ("/rtb/win/" ++ exchange ++ "/" ++ b ++ "/" ++ price).toList
      (¬InTheWay exchange o.id c.id →
        Route.classify "GET" notice =
          .win ⟨exchange, some b, Decimal.read? price.toList, []⟩ ∧
        ∀ (payload : Bytes) (τ : Type) (answers : Handler questions τ) (t : τ),
          let reply := ((d.dispatch "GET" notice payload).run answers t).1
          reply.status = 200 ∧ ∃ ack, Json.parse reply.body = .ok ack ∧
            ack.get? "status" = some (.string "ack") ∧ ack.get? "bid_id" = some (.string b)) ∧
      (InTheWay exchange o.id c.id →
        Route.classify "GET" notice = .favicon ∨
          ∃ rest, Route.classify "GET" notice = .webAsset rest) := by
  obtain ⟨bid, hselect, hbody⟩ := bid_of_status hbook he htarget ho answers s hbid
  obtain ⟨c, hc, rfl, first, hfirst, hbids⟩ := Book.select_bid hselect
  obtain ⟨hne, hslash, hquery, hicon⟩ := exchange_of_classify htarget
  obtain ⟨-, hidslash, hidquery⟩ := hid
  obtain ⟨-, hcslash, hcquery⟩ := hids c hc
  obtain ⟨hnp, hdigits, -⟩ := hprice
  rw [List.all_eq_true] at hdigits
  have hdash : '-' ∈ (c.bidId o).toList := by rw [toList_bidId]; simp
  have hbslash : '/' ∉ (c.bidId o).toList := by rw [toList_bidId]; simp [hidslash, hcslash]
  have hbquery : '?' ∉ (c.bidId o).toList := by rw [toList_bidId]; simp [hidquery, hcquery]
  have hnp : price.toList ≠ [] := fun h => hnp (String.toList_eq_nil_iff.mp h)
  obtain ⟨answer, hanswer, hrereads⟩ := Json.parse_compact (c.fits_respond o)
  refine ⟨c, hc, first, c.respond o, answer, c.bidId o, hfirst, hselect, hbids, hbody,
    hbody ▸ hanswer, hrereads.text_at (c.pointer?_respond o), rfl, ?_, ?_⟩
  · intro hfree
    rw [inTheWay_iff c o hicon, not_or] at hfree
    have hwin := classify_notice hslash hbslash hdigits hquery hbquery hne hnp hdash "GET"
      hfree.1 hfree.2
    rw [String.ofList_toList, String.ofList_toList] at hwin
    rw [toList_notice]
    refine ⟨hwin, fun payload τ answers t => ?_⟩
    refine acknowledged (n := ⟨exchange, some (c.bidId o), Decimal.read? price.toList, []⟩) rfl ?_
    rw [Dispatcher.dispatch, hwin]
    rfl
  · intro hway
    rw [inTheWay_iff c o hicon] at hway
    rw [toList_notice]
    exact classify_diverted hslash hbslash hdigits hquery hbquery hdash "GET" hway

/-- A bidder with one campaign and no files. -/
def lone (campaign : String) : Dispatcher :=
  ⟨Book.selector [⟨campaign, 1.0, "banner", none, []⟩], .default, {}, none⟩

def fresh : Host Pool.MemoryStore := { store := {} }

/-- A request to bid on one impression. -/
def request : Bytes := Utf8.encode "\x7b\"id\":\"r\",\"imp\":[\x7b\x7d]\x7d"

theorem parse_request : ∃ o, (Adapter.plain "nexage").parse request = .ok o ∧ o.id = "r" := by
  have hid : (((Adapter.plain "nexage").parse request).toOption.map (·.id)) = some "r" := by
    decide +kernel
  cases ho : (Adapter.plain "nexage").parse request with
  | error e => rw [ho] at hid; cases hid
  | ok o =>
    rw [ho] at hid
    exact ⟨o, rfl, Option.some.inj hid⟩

theorem classify_request : Route.classify "POST" "/rtb/bids/nexage".toList = .bid "nexage" := rfl

theorem bid_can_be_won_banner : ∃ answer,
    Json.parse (((lone "first").dispatch "POST" "/rtb/bids/nexage".toList request).run
      (Host.answer Pool.MemoryStore.store) fresh).1.body = .ok answer ∧
    answer.pointer? "/seatbid/0/bid/0/id" = some (.string "r-first") ∧
    Route.classify "GET" ("/rtb/win/" ++ "nexage" ++ "/" ++ "r-first" ++ "/" ++ "0.5").toList =
      .win ⟨"nexage", some "r-first", Decimal.read? "0.5".toList, []⟩ := by
  obtain ⟨o, ho, hid⟩ := parse_request
  have hbook : (lone "first").selector = Book.selector [⟨"first", 1.0, "banner", none, []⟩] := rfl
  have hsegments : ∀ c ∈ [(⟨"first", 1.0, "banner", none, []⟩ : Campaign)], Segment c.id := by
    intro c hc
    rw [List.mem_singleton.mp hc]
    exact ⟨by decide, by decide, by decide⟩
  have hbid : (((lone "first").dispatch "POST" "/rtb/bids/nexage".toList request).run
      (Host.answer Pool.MemoryStore.store) fresh).1.status = 200 := by
    decide +kernel
  have hprice : PriceText "0.5" := ⟨by decide, by decide, by decide⟩
  have hrequest : Segment o.id := by
    rw [hid]
    exact ⟨by decide, by decide, by decide⟩
  obtain ⟨c, hc, _, -, answer, b, -, -, -, -, hanswer, hpointer, hb, hwin, -⟩ :=
    bid_can_be_won hbook rfl classify_request ho hrequest hsegments _ _ hbid hprice
  have hfree : ¬InTheWay "nexage" o.id c.id := by
    rw [hid, List.mem_singleton.mp hc]
    rintro ((h | h) | (h | h))
    · exact absurd h (by decide)
    · exact absurd h (by decide)
    · exact absurd h (by decide)
    · exact absurd h (by decide)
  have hname : b = "r-first" := by
    rw [hb, hid, List.mem_singleton.mp hc]
    decide
  subst hname
  exact ⟨answer, hanswer, hpointer, (hwin hfree).1⟩

/-- The bid of a campaign called `web` cannot be won. -/
theorem web_bid_cannot_be_won :
    (∃ answer, (((lone "web").dispatch "POST" "/rtb/bids/nexage".toList request).run
        (Host.answer Pool.MemoryStore.store) fresh).1.body = Utf8.encode (Json.Value.compact answer) ∧
      answer.pointer? "/seatbid/0/bid/0/id" = some (.string "r-web")) ∧
    Route.classify "GET" "/rtb/win/nexage/r-web/1".toList = .webAsset "1" ∧
    (((lone "web").dispatch "GET" "/rtb/win/nexage/r-web/1".toList []).run
      (Host.answer Pool.MemoryStore.store) fresh).1.status = 404 := by
  have hclass : Route.classify "GET" "/rtb/win/nexage/r-web/1".toList = .webAsset "1" := rfl
  refine ⟨?_, hclass, ?_⟩
  · obtain ⟨o, ho, hid⟩ := parse_request
    have hbook : (lone "web").selector = Book.selector [⟨"web", 1.0, "banner", none, []⟩] := rfl
    have hbid : (((lone "web").dispatch "POST" "/rtb/bids/nexage".toList request).run
        (Host.answer Pool.MemoryStore.store) fresh).1.status = 200 := by
      decide +kernel
    obtain ⟨bid, hselect, hbody⟩ := bid_of_status hbook rfl classify_request ho _ _ hbid
    obtain ⟨c, hc, rfl, -⟩ := Book.select_bid hselect
    refine ⟨_, hbody, ?_⟩
    rw [c.pointer?_respond, Campaign.bidId, hid, List.mem_singleton.mp hc]
    rfl
  · have hname : ¬255 < "web".utf8ByteSize := by decide
    have hpath : ¬4095 < (Path.text ["web", "1"]).utf8ByteSize := by decide
    have hread : fresh.files.read ["web", "1"] = .error .notFound := by
      simp [fresh, FileTree.read, FileTree.walk, Path.longestName, Path.longestPath, hname, hpath]
    have hscript : (lone "web").webRoot.script "1" = .ok ["web", "1"] := rfl
    rw [Dispatcher.dispatch, hclass]
    simp only [Dispatcher.serve, hscript, Dispatcher.asset, query, bind, Task.bind, Task.run,
      Host.answer, hread]
    rfl

end Serving

end BidFleet
