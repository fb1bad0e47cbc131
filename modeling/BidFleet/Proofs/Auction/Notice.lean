import BidFleet.Auction.WinNotice
import BidFleet.Proofs.Text.Layouts
import BidFleet.Proofs.Text.Words

/-!
The grammar of win notices. A target is a notice when its path is the root of wins and
pieces behind it, with slashes as one likes before, between and behind them
(`LaidOut`): the pieces are the exchange, the bid, the price and what the exchange adds,
each in its place, and a price that is no number leaves its place empty
(`ofTarget?_of_laidOut`). No other target is one (`laidOut_of_isSome`).
-/

namespace BidFleet.Auction.WinNotice

/-- A target whose path is laid out as a notice of these pieces, each with as many slashes
behind it as it comes with; a query may follow. -/
structure LaidOut (items : List (List Char × Nat)) (target : List Char) : Prop where
  apart : Text.Apart '/' items
  plain : ∀ item ∈ items, '?' ∉ item.1
  written : ∃ lead query, (query = [] ∨ ∃ q, query = '?' :: q) ∧
    target = root ++ (List.replicate lead '/' ++ Text.spread '/' items) ++ query

/-! ## Reading pieces -/

/-- **Each piece has its place**, whatever can be made of the price. -/
theorem ofSegments?_cons (s : List Char) (ss : List (List Char)) :
    ofSegments? (s :: ss) = some {
      exchange := String.ofList s
      bid := ss[0]?.map String.ofList
      price := ss[1]?.bind Decimal.read?
      extra := (ss.drop 2).map String.ofList } := by
  cases ss with
  | nil => rfl
  | cons bid ss =>
    cases ss with
    | nil => rfl
    | cons price extra => rfl

theorem isSome_ofSegments? (ss : List (List Char)) : (ofSegments? ss).isSome ↔ ss ≠ [] := by
  cases ss with
  | nil => simp [ofSegments?]
  | cons s ss => simp [ofSegments?_cons]

/-- The path of a target is what is read. -/
theorem ofTarget?_of_before {target rest : List Char} (h : Text.before '?' target = root ++ rest) :
    ofTarget? target = ofSegments? (Text.segments '/' rest) := by
  rw [ofTarget?, h, Text.stripStart?_eq_some.mpr rfl]

theorem before_of_isSome {target : List Char} (h : (ofTarget? target).isSome) :
    ∃ rest, Text.before '?' target = root ++ rest := by
  unfold ofTarget? at h
  split at h
  · next rest hrest => exact ⟨rest, Text.stripStart?_eq_some.mp hrest⟩
  · cases h

/-- A target is a notice when its path has a segment behind the root. -/
theorem isSome_ofTarget?_iff (target : List Char) : (ofTarget? target).isSome ↔
    ∃ rest, Text.before '?' target = root ++ rest ∧ ∃ s ∈ rest.splitOn '/', s ≠ [] := by
  constructor
  · intro h
    obtain ⟨rest, hrest⟩ := before_of_isSome h
    rw [ofTarget?_of_before hrest, isSome_ofSegments?] at h
    obtain ⟨s, hs⟩ := List.exists_mem_of_ne_nil _ h
    rw [Text.segments_eq_filter, List.mem_filter] at hs
    exact ⟨rest, hrest, s, hs.1, by simpa using hs.2⟩
  · rintro ⟨rest, hrest, s, hs, hne⟩
    have hmem : s ∈ Text.segments '/' rest := by
      rw [Text.segments_eq_filter, List.mem_filter]
      exact ⟨hs, by simpa using hne⟩
    rw [ofTarget?_of_before hrest, isSome_ofSegments?]
    exact List.ne_nil_of_mem hmem

/-- The segments of a notice joined by single slashes are the same notice. -/
theorem ofTarget?_joined {target rest : List Char}
    (h : Text.before '?' target = root ++ rest) :
    ofTarget? (root ++ ['/'].intercalate (Text.segments '/' rest)) = ofTarget? target := by
  have hmark : '?' ∉ rest := by
    have hpath := Text.not_mem_before '?' target
    rw [h, List.mem_append, not_or] at hpath
    exact hpath.2
  have hjoin : '?' ∉ Text.join '/' (Text.segments '/' rest) :=
    Text.not_mem_join (by decide) (fun p hp hm => hmark (Text.subset_of_mem_segments hp hm))
  have hplain : '?' ∉ root ++ ['/'].intercalate (Text.segments '/' rest) := by
    rw [Text.intercalate_eq_join, List.mem_append, not_or]
    exact ⟨by decide, hjoin⟩
  rw [ofTarget?_of_before h, ofTarget?_of_before (Text.before_of_not_mem hplain),
    Text.segments_join]

/-! ## Targets that are laid out -/

theorem not_mem_laid {items : List (List Char × Nat)} (h : ∀ item ∈ items, '?' ∉ item.1)
    (lead : Nat) : '?' ∉ root ++ (List.replicate lead '/' ++ Text.spread '/' items) := by
  have hroot : '?' ∉ root := by decide
  have hspread : '?' ∉ Text.spread '/' items := Text.not_mem_spread (by decide) h
  simp [hroot, hspread]

theorem before_laid {path query : List Char} (hpath : '?' ∉ path)
    (hquery : query = [] ∨ ∃ q, query = '?' :: q) : Text.before '?' (path ++ query) = path := by
  rcases hquery with rfl | ⟨q, rfl⟩
  · rw [List.append_nil, Text.before_of_not_mem hpath]
  · exact Text.before_append hpath q

/-- The pieces of a target are what is read of it. -/
theorem ofTarget?_of_laidOut {items : List (List Char × Nat)} {target : List Char}
    (h : LaidOut items target) : ofTarget? target = ofSegments? (items.map Prod.fst) := by
  obtain ⟨hapart, hplain, lead, query, hquery, rfl⟩ := h
  rw [ofTarget?_of_before (before_laid (not_mem_laid hplain lead) hquery),
    Text.segments_laid lead hapart]

/-- What is no path of pieces is no notice. -/
theorem laidOut_of_isSome {target : List Char} (h : (ofTarget? target).isSome) :
    ∃ items, items ≠ [] ∧ LaidOut items target := by
  obtain ⟨rest, hrest⟩ := before_of_isSome h
  obtain ⟨query, hquery, htarget⟩ := Text.exists_behind '?' target
  obtain ⟨lead, items, hapart, rfl⟩ := Text.exists_laid '/' rest
  have hpath : '?' ∉ root ++ (List.replicate lead '/' ++ Text.spread '/' items) :=
    hrest ▸ Text.not_mem_before '?' target
  rw [ofTarget?_of_before hrest, Text.segments_laid lead hapart, isSome_ofSegments?] at h
  refine ⟨items, fun hnil => h (by rw [hnil, List.map_nil]), hapart, ?_, lead, query, hquery, ?_⟩
  · intro item hitem hmark
    apply hpath
    rw [List.mem_append, List.mem_append]
    exact .inr (.inr (Text.subset_spread hitem hmark))
  · rwa [hrest] at htarget

/-- **The grammar of wins.** A target is a notice exactly when its path is the root of wins
and something behind it that has a segment. Laid out in any way, its pieces are read each
in its place, and only targets that are laid out are read. So the segments of a notice
joined by single slashes are the same notice. -/
theorem notice_grammar :
    (∀ target, (ofTarget? target).isSome ↔ ∃ rest, Text.before '?' target = root ++ rest ∧
      ∃ s ∈ rest.splitOn '/', s ≠ []) ∧
    (∀ s gap more target, LaidOut ((s, gap) :: more) target → ofTarget? target = some {
      exchange := String.ofList s
      bid := more[0]?.map (fun item => String.ofList item.1)
      price := more[1]?.bind (fun item => Decimal.read? item.1)
      extra := (more.drop 2).map (fun item => String.ofList item.1) }) ∧
    (∀ target, (ofTarget? target).isSome → ∃ s gap more, LaidOut ((s, gap) :: more) target) ∧
    (∀ target rest, Text.before '?' target = root ++ rest →
      ofTarget? (root ++ ['/'].intercalate ((rest.splitOn '/').filter (· ≠ []))) =
        ofTarget? target) := by
  refine ⟨isSome_ofTarget?_iff, ?_, ?_, ?_⟩
  · intro s gap more target h
    rw [ofTarget?_of_laidOut h, List.map_cons, ofSegments?_cons]
    simp [Option.bind_map, List.map_drop, Function.comp_def]
  · intro target h
    obtain ⟨items, hne, hlaid⟩ := laidOut_of_isSome h
    cases items with
    | nil => exact absurd rfl hne
    | cons item more => exact ⟨item.1, item.2, more, hlaid⟩
  · intro target rest hrest
    rw [← Text.segments_eq_filter]
    exact ofTarget?_joined hrest

theorem notice_grammar_doubled :
    let items := [("nexage".toList, 1), ("r-1".toList, 3), ("x".toList, 1), ("site".toList, 2)]
    let target := "/rtb/win//nexage/r-1///x/site//?a/b".toList
    LaidOut items target ∧ ofTarget? target = some ⟨"nexage", some "r-1", none, ["site"]⟩ := by
  intro items target
  have hlaid : LaidOut items target :=
    ⟨by decide, by decide, 1, "?a/b".toList, .inr ⟨"a/b".toList, by decide⟩, by decide⟩
  exact ⟨hlaid, notice_grammar.2.1 _ _ _ _ hlaid⟩

end BidFleet.Auction.WinNotice
