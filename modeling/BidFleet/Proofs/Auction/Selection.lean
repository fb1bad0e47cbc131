import BidFleet.Auction.Campaign
import BidFleet.Proofs.Decimal.Order
import BidFleet.Proofs.Json.Pointers

/-!
Selection. An opportunity without impressions is refused; of the campaigns that suit
one with impressions the first of the highest price bids. What suits and what is bid is
told by the payload: by the floor of its first impression, by what the constraints point
at, and by the members of the answer (`Suits`, `Bids`). The loop over the book keeps
a campaign that leads those seen so far (`Leads.step`, `Leads.run`). No undefined price
gets into the loop, since it reaches no floor, so the prices that meet there are
comparable. `select_iff` says which selection is made of which book.
-/

namespace BidFleet.Auction

/-! ## Impressions -/

/-- The first impression of a payload. -/
def Opportunity.First (o : Opportunity) (first : Json.Value) : Prop :=
  ∃ members others, o.payload = .object members ∧
    members.lookup "imp" = some (.array (first :: others))

/-- The floor of an impression: the number behind `bidfloor`, or zero. -/
def floorOf : Json.Value → Float
  | .object members =>
    match members.lookup "bidfloor" with
    | some (.number (.int i)) => Float.ofInt i
    | some (.number (.float x)) => x
    | _ => 0.0
  | _ => 0.0

/-- The name of an impression: the text behind `id`, or `1`. -/
def nameOf : Json.Value → String
  | .object members =>
    match members.lookup "id" with
    | some (.string s) => s
    | _ => "1"
  | _ => "1"

section

variable {o : Opportunity} {first : Json.Value}

theorem Opportunity.First.get? (h : o.First first) :
    ∃ others, o.payload.get? "imp" = some (.array (first :: others)) := by
  obtain ⟨members, others, hpayload, himp⟩ := h
  exact ⟨others, by rw [hpayload]; exact himp⟩

theorem Opportunity.First.unique {first' : Json.Value} (h : o.First first) (h' : o.First first') :
    first = first' := by
  obtain ⟨others, himp⟩ := h.get?
  obtain ⟨others', himp'⟩ := h'.get?
  cases himp.symm.trans himp'
  rfl

theorem Opportunity.First.floor (h : o.First first) : o.floor = floorOf first := by
  obtain ⟨others, himp⟩ := h.get?
  rw [floor_of_first himp]
  cases first <;> rfl

theorem Opportunity.First.name (h : o.First first) :
    o.impression?.getD "1" = nameOf first := by
  obtain ⟨others, himp⟩ := h.get?
  rw [impression?_of_first himp]
  cases first with
  | object members =>
    rw [Json.Value.get?, nameOf]
    cases members.lookup "id" with
    | none => rfl
    | some v => cases v <;> rfl
  | null | bool | number | string | array => rfl

theorem Book.hasImpressions_iff : Book.hasImpressions o = true ↔ ∃ first, o.First first := by
  unfold Book.hasImpressions
  constructor
  · intro h
    split at h
    · next first others himp =>
      obtain ⟨v, hv, hitems⟩ := Option.bind_eq_some_iff.mp himp
      cases v with
      | array items =>
        cases hitems
        cases hpayload : o.payload with
        | object members =>
          rw [hpayload] at hv
          exact ⟨first, members, others, hpayload, hv⟩
        | null | bool | number | string | array => rw [hpayload] at hv; cases hv
      | null | bool | number | string | object => cases hitems
    · cases h
  · rintro ⟨first, hfirst⟩
    obtain ⟨others, himp⟩ := hfirst.get?
    rw [himp]
    rfl

end

/-! ## Campaigns that suit an opportunity -/

/-- The constraint agrees with the payload. -/
def Constraint.Agrees (k : Constraint) (payload : Json.Value) : Prop :=
  ∃ v, Json.PointsAt k.pointer payload v ∧ Json.Equal v k.equals

/-- The price reaches the floor of the first impression, and every constraint agrees. -/
def Campaign.Suits (c : Campaign) (o : Opportunity) (first : Json.Value) : Prop :=
  floorOf first ≤ c.price ∧ ∀ k ∈ c.constraints, k.Agrees o.payload

theorem Constraint.holds_iff (k : Constraint) (payload : Json.Value) :
    k.holds payload = true ↔ k.Agrees payload := by
  unfold Constraint.holds Constraint.Agrees
  simp only [← Json.pointer?_eq_some_iff, ← Json.same_iff]
  cases payload.pointer? k.pointer with
  | none => simp
  | some v => simp

theorem Campaign.accepts_iff (c : Campaign) {o : Opportunity} {first : Json.Value}
    (h : o.First first) : c.accepts o = true ↔ c.Suits o first := by
  simp [Campaign.accepts, Campaign.Suits, Constraint.holds_iff, h.floor]

/-- The price of a campaign that accepts an opportunity is defined. -/
theorem Campaign.rank_of_accepts {c : Campaign} {o : Opportunity} (h : c.accepts o = true) :
    ∃ r, Decimal.rank? c.price = some r := by
  rw [accepts, Bool.and_eq_true, decide_eq_true_eq] at h
  exact Decimal.rank_of_le h.1

/-! ## Bids -/

/-- What a campaign bids on an opportunity, down to the members of the answer. -/
structure Campaign.Bids (c : Campaign) (o : Opportunity) (first : Json.Value) (b : Bid) :
    Prop where
  campaign : b.campaign = c.id
  price : b.price = c.price
  creative : b.creative = c.creative
  body : b.body = .object [
    ("cur", .string "USD"), ("id", .string o.id),
    ("seatbid", .array [.object [
      ("bid", .array [.object [
        ("adid", .string c.id), ("crid", .string c.creative),
        ("id", .string (o.id ++ "-" ++ c.id)), ("impid", .string (nameOf first)),
        ("price", if c.price.isFinite then .number (.float c.price) else .null)]]),
      ("seat", .string (c.seat.getD c.id))]])]

theorem Campaign.bids_iff (c : Campaign) {o : Opportunity} {first : Json.Value}
    (h : o.First first) (b : Bid) : c.Bids o first b ↔ b = c.respond o := by
  have hbids : c.Bids o first (c.respond o) := by
    refine ⟨rfl, rfl, rfl, ?_⟩
    simp only [respond, bidId, h.name, Json.Value.float, Json.Value.ofMembers, Json.Value.insert,
      List.foldl_cons, List.foldl_nil, String.reduceEq, String.reduceLT, if_true, if_false]
  refine ⟨fun hb => ?_, fun hb => hb ▸ hbids⟩
  cases b
  cases hb.campaign.trans hbids.campaign.symm
  cases hb.price.trans hbids.price.symm
  cases hb.creative.trans hbids.creative.symm
  cases hb.body.trans hbids.body.symm
  rfl

/-! ## The loop -/

/-- The best campaign of a list: none beats it, and those before it are beaten by it.
An empty list has none. -/
inductive Leads : List Campaign → Option Campaign → Prop
  | nobody : Leads [] none
  | first (front : List Campaign) (c : Campaign) (back : List Campaign)
      (hall : ∀ d ∈ front ++ c :: back, d.price ≤ c.price)
      (hfront : ∀ d ∈ front, d.price < c.price) : Leads (front ++ c :: back) (some c)

theorem Leads.step {cs : List Campaign} {best : Option Campaign} (h : Leads cs best)
    (hranks : ∀ d ∈ cs, ∃ r, Decimal.rank? d.price = some r) {c : Campaign} {r : Decimal.Rank}
    (hc : Decimal.rank? c.price = some r) : Leads (cs ++ [c]) (Book.better best c) := by
  cases h with
  | nobody =>
    refine .first [] c [] (fun d hd => ?_) (fun d hd => nomatch hd)
    rw [List.mem_singleton.mp hd]
    exact Decimal.float_le_self hc
  | first front b back hall hfront =>
    by_cases hb : c.price ≤ b.price
    · rw [Book.better, if_pos hb, List.append_assoc, List.cons_append]
      refine .first front b (back ++ [c]) (fun d hd => ?_) hfront
      rw [← List.cons_append, ← List.append_assoc] at hd
      rcases List.mem_append.mp hd with hd | hd
      · exact hall d hd
      · exact List.mem_singleton.mp hd ▸ hb
    · rw [Book.better, if_neg hb]
      obtain ⟨t, ht⟩ := hranks b (List.mem_append_right _ List.mem_cons_self)
      have hlt : b.price < c.price := Decimal.float_lt_of_not_le ht hc hb
      have hbeaten : ∀ d ∈ front ++ b :: back, d.price < c.price :=
        fun d hd => Decimal.float_lt_of_le_of_lt (hall d hd) hlt
      refine .first (front ++ b :: back) c [] (fun d hd => ?_) hbeaten
      rcases List.mem_append.mp hd with hd | hd
      · exact Decimal.float_le_of_lt (hbeaten d hd)
      · rw [List.mem_singleton.mp hd]
        exact Decimal.float_le_self hc

theorem Leads.run {cs : List Campaign} {best : Option Campaign} (h : Leads cs best)
    (rest : List Campaign) (hranks : ∀ d ∈ cs ++ rest, ∃ r, Decimal.rank? d.price = some r) :
    Leads (cs ++ rest) (rest.foldl Book.better best) := by
  induction rest generalizing cs best with
  | nil =>
    rw [List.append_nil]
    exact h
  | cons c rest ih =>
    obtain ⟨r, hr⟩ := hranks c (List.mem_append_right _ List.mem_cons_self)
    have hstep := h.step (fun d hd => hranks d (List.mem_append_left _ hd)) hr
    rw [List.append_cons]
    exact ih hstep (by rwa [← List.append_cons])

/-- The winner of a book leads the campaigns that accept the opportunity. -/
theorem Book.leads_winner (book : Book) (o : Opportunity) :
    Leads (book.filter fun c => c.accepts o) (book.winner? o) :=
  Leads.nobody.run _ fun _ hd => Campaign.rank_of_accepts (List.mem_filter.mp hd).2

/-! ## Selections -/

/-- What a book makes of an opportunity. -/
inductive Selects (book : Book) (o : Opportunity) : Selection → Prop
  | refused (himp : ∀ first, ¬o.First first) : Selects book o
      (.refused (.selection ("bid request " ++ o.id ++ " has no impressions")))
  | noMatch {first : Json.Value} (himp : o.First first)
      (hnone : ∀ d ∈ book, ¬d.Suits o first) : Selects book o .noMatch
  | bid {first : Json.Value} (himp : o.First first) (front : List Campaign) (c : Campaign)
      (back : List Campaign) (hbook : book = front ++ c :: back) (hsuits : c.Suits o first)
      (hall : ∀ d ∈ book, d.Suits o first → d.price ≤ c.price)
      (hfront : ∀ d ∈ front, d.Suits o first → d.price < c.price) {b : Bid}
      (hbid : c.Bids o first b) : Selects book o (.bid b)

theorem Book.selects (book : Book) (o : Opportunity) : Selects book o (book.select o) := by
  by_cases himp : ∃ first, o.First first
  · rw [Book.select, if_pos (Book.hasImpressions_iff.mpr himp)]
    obtain ⟨first, hfirst⟩ := himp
    have hleads := book.leads_winner o
    generalize hcs : book.filter (fun c => c.accepts o) = cs at hleads
    generalize book.winner? o = best at hleads
    cases hleads with
    | nobody =>
      refine .noMatch hfirst fun d hd hsuits => ?_
      exact List.filter_eq_nil_iff.mp hcs d hd ((d.accepts_iff hfirst).mpr hsuits)
    | first front c back hall hfront =>
      have hmem {d : Campaign} (hd : d ∈ book) (hsuits : d.Suits o first) :
          d ∈ front ++ c :: back :=
        hcs ▸ List.mem_filter.mpr ⟨hd, (d.accepts_iff hfirst).mpr hsuits⟩
      -- the campaigns that suit stand in the book in the same order
      obtain ⟨before, rest, rfl, hbefore, hrest⟩ := List.filter_eq_append_iff.mp hcs
      obtain ⟨skipped, after, rfl, hskipped, hc, -⟩ := List.filter_eq_cons_iff.mp hrest
      refine .bid hfirst (before ++ skipped) c after (List.append_assoc ..).symm
        ((c.accepts_iff hfirst).mp hc) (fun d hd hsuits => hall d (hmem hd hsuits))
        (fun d hd hsuits => ?_) ((c.bids_iff hfirst _).mpr rfl)
      have haccepts := (d.accepts_iff hfirst).mpr hsuits
      rcases List.mem_append.mp hd with hd | hd
      · exact hfront d (hbefore ▸ List.mem_filter.mpr ⟨hd, haccepts⟩)
      · exact absurd haccepts (hskipped d hd)
  · rw [Book.select, if_neg (mt Book.hasImpressions_iff.mp himp)]
    exact .refused (not_exists.mp himp)

/-- Two campaigns that none beats are one, when neither has a predecessor with its price. -/
theorem first_unique {front back front' back' : List Campaign} {c c' : Campaign}
    (hbook : front ++ c :: back = front' ++ c' :: back') (hc : ¬c.price < c'.price)
    (hc' : ¬c'.price < c.price) (hfront : c' ∈ front → c'.price < c.price)
    (hfront' : c ∈ front' → c.price < c'.price) : c = c' := by
  rcases List.append_eq_append_iff.mp hbook with ⟨skipped, rfl, h⟩ | ⟨skipped, rfl, h⟩
  · cases skipped with
    | nil => exact (List.cons.inj h).1
    | cons d skipped =>
      obtain rfl := (List.cons.inj h).1
      exact absurd (hfront' (List.mem_append_right _ List.mem_cons_self)) hc
  · cases skipped with
    | nil => exact (List.cons.inj h).1.symm
    | cons d skipped =>
      obtain rfl := (List.cons.inj h).1
      exact absurd (hfront (List.mem_append_right _ List.mem_cons_self)) hc'

/-- A book makes one thing of an opportunity. -/
theorem Selects.unique {book : Book} {o : Opportunity} {s t : Selection} (hs : Selects book o s)
    (ht : Selects book o t) : s = t := by
  cases hs with
  | refused himp =>
    cases ht with
    | refused => rfl
    | noMatch himp' | bid himp' => exact absurd himp' (himp _)
  | noMatch himp hnone =>
    cases ht with
    | refused himp' => exact absurd himp (himp' _)
    | noMatch => rfl
    | bid himp' front c back hbook hsuits =>
      cases himp.unique himp'
      exact absurd hsuits (hnone c (hbook ▸ List.mem_append_right _ List.mem_cons_self))
  | bid himp front c back hbook hsuits hall hfront hbid =>
    have hmem : c ∈ book := hbook ▸ List.mem_append_right _ List.mem_cons_self
    cases ht with
    | refused himp' => exact absurd himp (himp' _)
    | noMatch himp' hnone =>
      cases himp.unique himp'
      exact absurd hsuits (hnone c hmem)
    | bid himp' front' c' back' hbook' hsuits' hall' hfront' hbid' =>
      cases himp.unique himp'
      have hmem' : c' ∈ book := hbook' ▸ List.mem_append_right _ List.mem_cons_self
      have hc := Decimal.float_not_lt_of_le (hall c' hmem' hsuits')
      have hc' := Decimal.float_not_lt_of_le (hall' c hmem hsuits)
      cases first_unique (hbook.symm.trans hbook') hc hc' (fun h => hfront c' h hsuits')
        (fun h => hfront' c h hsuits)
      rw [(c.bids_iff himp _).mp hbid, (c.bids_iff himp _).mp hbid']

theorem Book.select_without {o : Opportunity} {d : Campaign}
    (h : ∀ first, o.First first → ¬d.Suits o first) (front back : List Campaign) :
    Book.select (front ++ back) o = Book.select (front ++ d :: back) o := by
  by_cases himp : ∃ first, o.First first
  · obtain ⟨first, hfirst⟩ := himp
    have hfilter : (front ++ d :: back).filter (fun c => c.accepts o) =
        (front ++ back).filter (fun c => c.accepts o) := by
      rw [List.filter_append, List.filter_append]
      exact congrArg (front.filter _ ++ ·)
        (List.filter_cons_of_neg (mt (d.accepts_iff hfirst).mp (h first hfirst)))
    rw [Book.select, Book.select, Book.winner?, Book.winner?, hfilter]
  · have hnone := mt Book.hasImpressions_iff.mp himp
    rw [Book.select, Book.select, if_neg hnone, if_neg hnone]

/-- What is selected from a book is known in full. An undefined price suits no opportunity,
and a campaign that does not suit makes no difference. -/
theorem select_iff (book : Book) (o : Opportunity) :
    (∀ s, book.select o = s ↔ Selects book o s) ∧
      (∀ (d : Campaign) (first : Json.Value), d.price.isNaN = true → ¬d.Suits o first) ∧
      ∀ front d back, book = front ++ d :: back → (∀ first, o.First first → ¬d.Suits o first) →
        Book.select (front ++ back) o = book.select o := by
  refine ⟨fun s => ⟨?_, fun h => (book.selects o).unique h⟩, fun d first hd hsuits => ?_, ?_⟩
  · rintro rfl
    exact book.selects o
  · exact Decimal.float_not_le_of_isNaN hd hsuits.1
  · rintro front d back rfl hd
    exact Book.select_without hd front back

/-- The first of two equal prices wins, past an undefined one. -/
example :
    (Book.winner? [⟨"low", 1.0, "a", none, []⟩, ⟨"none", 0.0 / 0.0, "b", none, []⟩,
      ⟨"high", 3.0, "c", none, []⟩, ⟨"late", 3.0, "d", none, []⟩]
      ⟨"r", "x", .object [("imp", .array [.null])]⟩).map (·.id) = some "high" := by
  decide +kernel

end BidFleet.Auction
