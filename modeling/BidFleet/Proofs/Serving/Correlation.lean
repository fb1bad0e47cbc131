import BidFleet.Proofs.Json.Values
import BidFleet.Proofs.Serving.Wins

/-!
Answers and the requests that they answer. A body that is an object with an id, the last
member of that name, is answered by a decision whose JSON reads back with the same id,
whichever way it was reached, and a bid names the id and its campaign. Every other body
is declined without an id before anything is asked (`bid_correlated`). The id goes
through the reader, the opportunity and the writer, and each of them keeps it: the reader
by its last member (`Json.get?_ofMembers`), the writer because texts survive their JSON
(`Json.parse_compact`).
-/

namespace BidFleet

namespace Auction

/-! ## Requests with an id -/

/-- The body is an object, the last of its members named `id` is this text, and the text is
not empty. -/
def Identifies (body : Bytes) (id : String) : Prop :=
  ∃ ms, Json.ObjectText body ms ∧ ms.reverse.lookup "id" = some (.string id) ∧ id ≠ ""

/-- A request with an id is read as an opportunity with it. -/
theorem Adapter.parse_plain {body : Bytes} {id : String} (h : Identifies body id) (name : String) :
    ∃ payload, (Adapter.plain name).parse body = .ok ⟨id, name, payload⟩ := by
  obtain ⟨ms, hobject, hid, hne⟩ := h
  have hempty : id.isEmpty = false := by
    rw [← Bool.not_eq_true, String.isEmpty_iff]
    exact hne
  refine ⟨.ofMembers ms, ?_⟩
  simp only [plain, hobject.parse, Json.get?_ofMembers, hid, Option.bind_some, Json.Value.asText?,
    hempty, Bool.false_eq_true, if_false]

/-- Every other body is malformed. -/
theorem Adapter.plain_malformed {body : Bytes} (h : ∀ id, ¬Identifies body id) (name : String) :
    ∃ detail, (Adapter.plain name).parse body = .error (.malformedBid detail) := by
  unfold plain
  dsimp only
  split
  · exact ⟨_, rfl⟩
  · next payload hparse =>
    split
    · next id hid =>
      split
      · exact ⟨_, rfl⟩
      · next hne =>
        obtain ⟨v, hget, htext⟩ := Option.bind_eq_some_iff.mp hid
        obtain ⟨ms, hobject, rfl⟩ := Json.objectText_of_parse hparse hget
        rw [Json.get?_ofMembers] at hget
        cases v with
        | string s =>
          obtain rfl : s = id := Option.some.inj htext
          exact absurd ⟨ms, hobject, hget, mt String.isEmpty_iff.mpr hne⟩ (h s)
        | null | bool | number | array | object => cases htext
    · exact ⟨_, rfl⟩

/-! ## Bids -/

theorem Campaign.get?_respond (c : Campaign) (o : Opportunity) :
    (c.respond o).body.get? "id" = some (.string o.id) := by
  rw [Campaign.respond, Json.get?_ofMembers]
  rfl

end Auction

namespace Serving

open Auction

/-- The JSON of a decision reads back with this id, and that of a bid with a bid of this id
for a campaign of the book. -/
def Carries (book : Book) (id : String) (decision : Decision) : Prop :=
  ∃ v, Json.parse (Utf8.encode decision.toJson.compact) = .ok v ∧
    v.get? "id" = some (.string id) ∧
    ∀ b, decision = .bid b → (∃ c ∈ book, b.campaign = c.id) ∧
      v.pointer? "/seatbid/0/bid/0/id" = some (.string (id ++ "-" ++ b.campaign))

theorem carries_decline (book : Book) (id reason : String) :
    Carries book id (.decline id reason) :=
  ⟨_, parse_decline id reason, rfl, fun _ hb => nomatch hb⟩

theorem carries_bid {book : Book} {c : Campaign} (hc : c ∈ book) (o : Opportunity) :
    Carries book o.id (.bid (c.respond o)) := by
  obtain ⟨v, hparse, hrereads⟩ := Json.parse_compact (c.fits_respond o)
  refine ⟨v, hparse, hrereads.text_of (c.get?_respond o), fun b hb => ?_⟩
  cases hb
  exact ⟨⟨c, hc, rfl⟩, hrereads.text_at (c.pointer?_respond o)⟩

/-- Every outcome of a request with an id carries the id, one case an outcome. -/
theorem Reaches.carries {d : Dispatcher} {book : Book} (hbook : d.selector = book.selector)
    {exchange : String} (he : d.exchanges.get? exchange = some (.plain exchange))
    {target : List Char} {body : Bytes} {id : String} (hid : Identifies body id) {outcome : Outcome}
    (h : Reaches d target body (.bid exchange) outcome) : Carries book id outcome.decision := by
  obtain ⟨payload, hparse⟩ := Adapter.parse_plain hid exchange
  have hoffer {o : Opportunity} (ho : Offers d exchange body o) : o.id = id := by
    obtain ⟨adapter, hadapter, ho⟩ := ho
    rw [he] at hadapter
    cases hadapter
    rw [hparse] at ho
    cases ho
    rfl
  cases h with
  | bid ho _ hselect =>
    rw [hbook] at hselect
    obtain ⟨c, hc, rfl, -⟩ := Book.select_bid hselect
    exact hoffer ho ▸ carries_bid hc _
  | noMatch ho | refused ho | panicked ho | noCampaigns ho | stopped ho | throttled ho =>
    exact hoffer ho ▸ carries_decline book _ _
  | unread hadapter herror =>
    rw [he] at hadapter
    cases hadapter
    rw [hparse] at herror
    cases herror
  | unknown hnone =>
    rw [he] at hnone
    cases hnone

/-- **Every answer is correlated with its request.** Whatever the questions of a bid request
with an id are answered, its decision carries the id; a request without one is declined
without an id before anything is asked. -/
theorem bid_correlated {d : Dispatcher} {book : Book} (hbook : d.selector = book.selector)
    {exchange : String} (he : d.exchanges.get? exchange = some (.plain exchange))
    (target : List Char) (body : Bytes) :
    (∀ id, Identifies body id → ∀ {σ : Type} (answers : Handler questions σ) (s : σ),
      Carries book id ((d.bid exchange target body).run answers s).1) ∧
    ((∀ id, ¬Identifies body id) → ∃ detail, d.bid exchange target body =
      .done (.decline "" ("Malformed bid request: " ++ detail))) := by
  constructor
  · intro id hid σ answers s
    obtain ⟨k, outcome, hreaches, hdecision, -⟩ := (ends_bid exchange).run answers s
    rw [hdecision]
    exact hreaches.carries hbook he hid
  · intro hnone
    obtain ⟨detail, hparse⟩ := Adapter.plain_malformed hnone exchange
    refine ⟨detail, ?_⟩
    rw [Dispatcher.bid, he]
    dsimp only
    rw [hparse]
    rfl

/-- A book of one campaign, of the greatest price. -/
def dearest : Book := [⟨"c", Float.ofBits 0x7FEFFFFFFFFFFFFF, "b", none, []⟩]

/-- The members of a request with two ids, the last of which needs an escape. -/
def twiceNamed : List (String × Json.Value) :=
  [("id", .string "x"), ("imp", .array [.null]), ("id", .string "a\"b")]

def twiceNamedBody : Bytes := Utf8.encode (Json.Value.object twiceNamed).compact

theorem identifies_twiceNamed : Identifies twiceNamedBody "a\"b" := by
  have himp : Json.Reads (Json.readValue 126) (.array [.null]) (.array [.null]) :=
    Json.readValue_list (.cons (Json.readValue_null 125) .nil)
  have hmembers : Json.MembersRead (Json.readValue 126) twiceNamed twiceNamed :=
    .cons ⟨rfl, Json.readValue_string 126 "x"⟩
      (.cons ⟨rfl, himp⟩ (.cons ⟨rfl, Json.readValue_string 126 "a\"b"⟩ .nil))
  exact ⟨twiceNamed, Json.objectText_compact hmembers, rfl, by decide⟩

def dearestDecision : Decision :=
  ((Dispatcher.bid { selector := dearest.selector } "nexage" [] twiceNamedBody).run
    (Host.answer Pool.MemoryStore.store) { store := {} }).1

/-- Of two ids the last one is carried, by a bid of the greatest price. -/
theorem bid_correlated_twice_named :
    Identifies twiceNamedBody "a\"b" ∧ dearestDecision.isBid = true ∧
      Carries dearest "a\"b" dearestDecision :=
  ⟨identifies_twiceNamed, by decide +kernel,
    (bid_correlated rfl rfl [] twiceNamedBody).1 _ identifies_twiceNamed _ _⟩

end Serving

end BidFleet
