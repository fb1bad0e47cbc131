import BidFleet.Proofs.Serving.Wins

/-!
What of a target counts. The query never does: a request with one is of the same route
as the request without it (`classify_query`), asks the same questions and gets the same
answer, but for the text of the target where an answer quotes it (`alike_serve`). Slashes
at the end of a bid path do not count either, unless the first of them makes the word of
the scripts out of the end of the exchange (`web_padded`).
-/

namespace BidFleet.Serving

open Auction

/-! ## Tasks side by side -/

/-- Two tasks that ask the same questions in the same order, whatever these are answered,
and end in related results. -/
inductive Lockstep {α β : Type} (related : α → β → Prop) : Serve α → Serve β → Prop
  | done {a : α} {b : β} : related a b → Lockstep related (.done a) (.done b)
  | ask (q : Question) {next : q.Answer → Serve α} {next' : q.Answer → Serve β} :
      (∀ r, Lockstep related (next r) (next' r)) → Lockstep related (.ask q next) (.ask q next')

namespace Lockstep

variable {α β γ σ : Type} {related : β → γ → Prop}

theorem refl {related : β → β → Prop} (h : ∀ b, related b b) (t : Serve β) :
    Lockstep related t t := by
  induction t with
  | done b => exact .done (h b)
  | ask q next ih => exact .ask q ih

/-- One task in front of two. -/
theorem behind (t : Serve α) {f : α → Serve β} {g : α → Serve γ}
    (h : ∀ a, Lockstep related (f a) (g a)) : Lockstep related (t >>= f) (t >>= g) := by
  induction t with
  | done a => exact h a
  | ask q next ih => exact .ask q ih

/-- **Tasks in lockstep** leave the surroundings in the same state. -/
theorem run {t : Serve β} {u : Serve γ} (h : Lockstep related t u)
    (answers : Handler questions σ) (s : σ) :
    related (t.run answers s).1 (u.run answers s).1 ∧
      (t.run answers s).2 = (u.run answers s).2 := by
  induction h generalizing s with
  | done h => exact ⟨h, rfl⟩
  | ask q _ ih => exact ih (answers q s).1 (answers q s).2

end Lockstep

/-! ## Answers that quote a target -/

/-- Answers to two targets that are the same but for the target, where it is quoted. -/
inductive Reply.Alike (target other : List Char) : Reply → Reply → Prop
  | same (r : Reply) : Alike target other r r
  | wrongTarget (elapsed : UInt64) :
      Alike target other (.decision (.decline "" (Dispatcher.wrongTarget target)) elapsed)
        (.decision (.decline "" (Dispatcher.wrongTarget other)) elapsed)
  | missing :
      Alike target other (.failure 404 ("not found: " ++ String.ofList target))
        (.failure 404 ("not found: " ++ String.ofList other))

/-- Beside the body and the reason, answers that are alike are the same. -/
theorem Reply.Alike.outside {target other : List Char} {r r' : Reply} (h : Alike target other r r') :
    r'.status = r.status ∧ r'.contentType = r.contentType ∧ r'.elapsed = r.elapsed := by
  cases h <;> exact ⟨rfl, rfl, rfl⟩

section

variable (target other : List Char)

theorem alike_refl (t : Serve Reply) : Lockstep (Reply.Alike target other) t t :=
  .refl .same t

theorem alike_wrongTarget : Lockstep (Reply.Alike target other)
    (Dispatcher.timed (return .decline "" (Dispatcher.wrongTarget target)))
    (Dispatcher.timed (return .decline "" (Dispatcher.wrongTarget other))) :=
  .ask _ fun _ => .ask _ fun _ => .done (.wrongTarget _)

theorem alike_asset (type : String) (path : Except Error Path) :
    Lockstep (Reply.Alike target other) (Dispatcher.asset type target path)
      (Dispatcher.asset type other path) := by
  cases path with
  | error e => exact .done .missing
  | ok path =>
    refine .ask _ fun content => ?_
    cases content with
    | ok content => exact .done (.same _)
    | error e => exact .done .missing

theorem alike_bid (d : Dispatcher) (exchange : String) (body : Bytes) :
    Lockstep (Reply.Alike target other) (Dispatcher.timed (d.bid exchange target body))
      (Dispatcher.timed (d.bid exchange other body)) := by
  unfold Dispatcher.bid
  cases d.exchanges.get? exchange with
  | none => exact alike_wrongTarget target other
  | some adapter => exact alike_refl target other _

/-- **A task knows its target by its route**, and beyond that only quotes it. -/
theorem alike_serve (d : Dispatcher) (route : Route) (body : Bytes) :
    Lockstep (Reply.Alike target other) (d.serve route target body) (d.serve route other body) := by
  cases route with
  | simulator =>
    simp only [Dispatcher.serve]
    exact alike_asset target other _ _
  | webAsset rel => exact alike_asset target other _ _
  | bid exchange => exact alike_bid target other d exchange body
  | wrongTarget => exact alike_wrongTarget target other
  | favicon | win | status | pool | throttle | stop | start => exact alike_refl target other _

end

/-! ## Queries -/

/-- A request is classified by its path alone. -/
theorem classify_query (method : String) {path : List Char} (h : '?' ∉ path) (query : List Char) :
    Route.classify method (path ++ '?' :: query) = Route.classify method path := by
  simp only [Route.classify, Text.before_append h, Text.before_of_not_mem h]

/-- **A query never matters.** Whatever it holds, a request with it is classified as the one
without it, and with the same answers to its questions leaves the same state behind and
gets the same answer, except that a wrong target and a page or script that is not there
are told of by the target as it was given. -/
theorem query_never_matters (d : Dispatcher) (method : String) {path : List Char} (h : '?' ∉ path)
    (query : List Char) (body : Bytes) {σ : Type} (answers : Handler questions σ) (s : σ) :
    let full := path ++ '?' :: query
    let plain := (d.dispatch method path body).run answers s
    let queried := (d.dispatch method full body).run answers s
    Route.classify method full = Route.classify method path ∧
      queried.2 = plain.2 ∧
      queried.1.status = plain.1.status ∧ queried.1.contentType = plain.1.contentType ∧
      queried.1.elapsed = plain.1.elapsed ∧
      ((queried.1.body = plain.1.body ∧ queried.1.reason = plain.1.reason) ∨
        (∃ elapsed,
          plain.1 = .decision (.decline "" (Dispatcher.wrongTarget path)) elapsed ∧
          queried.1 = .decision (.decline "" (Dispatcher.wrongTarget full)) elapsed) ∨
        (plain.1 = .failure 404 ("not found: " ++ String.ofList path) ∧
          queried.1 = .failure 404 ("not found: " ++ String.ofList full))) := by
  intro full plain queried
  have hroute : Route.classify method full = Route.classify method path :=
    classify_query method h query
  have hlockstep : Lockstep (Reply.Alike path full) (d.dispatch method path body)
      (d.dispatch method full body) := by
    rw [Dispatcher.dispatch, Dispatcher.dispatch, hroute]
    exact alike_serve path full d _ body
  obtain ⟨halike, hstate⟩ := hlockstep.run answers s
  obtain ⟨hstatus, htype, helapsed⟩ := halike.outside
  refine ⟨hroute, hstate.symm, hstatus, htype, helapsed, ?_⟩
  change Reply.Alike path full plain.1 queried.1 at halike
  clear_value plain queried
  generalize plain.1 = r, queried.1 = r' at halike ⊢
  cases halike with
  | same => exact .inl ⟨rfl, rfl⟩
  | wrongTarget elapsed => exact .inr (.inl ⟨elapsed, rfl, rfl⟩)
  | missing => exact .inr (.inr ⟨rfl, rfl⟩)

theorem query_never_matters_words :
    let full := "/rtb/bids/nexage".toList ++ '?' :: "cb=favicon?/web/x.js".toList
    Route.classify "POST" full = .bid "nexage" ∧
      (((lone "first").dispatch "POST" full request).run
        (Host.answer Pool.MemoryStore.store) fresh).1.status = 200 := by
  have hquery : '?' ∉ "/rtb/bids/nexage".toList := by decide
  have hbid : (((lone "first").dispatch "POST" "/rtb/bids/nexage".toList request).run
      (Host.answer Pool.MemoryStore.store) fresh).1.status = 200 := by
    decide +kernel
  obtain ⟨hroute, -, hstatus, -⟩ := query_never_matters (lone "first") "POST" hquery
    "cb=favicon?/web/x.js".toList request (Host.answer Pool.MemoryStore.store) fresh
  exact ⟨hroute.trans classify_request, hstatus.trans hbid⟩

/-! ## Slashes at the end -/

/-- A path with slashes at its end. -/
def padded (path : List Char) (slashes : Nat) : List Char := path ++ List.replicate slashes '/'

theorem not_mem_padded {path : List Char} (h : '?' ∉ path) (n : Nat) : '?' ∉ padded path n := by
  simp [padded, h]

/-- The words of the icon and of the simulator do not end with a slash. -/
theorem infix_padded_iff (path : List Char) (n : Nat) :
    (Route.faviconWord <:+: padded path n ↔ Route.faviconWord <:+: path) ∧
      (Route.simulatorWord <:+: padded path n ↔ Route.simulatorWord <:+: path) := by
  have hfavicon : Route.faviconWord = "favico".toList ++ ['n'] := by decide
  have hsimulator : Route.simulatorWord = "/xrtb/simulator/exchang".toList ++ ['e'] := by decide
  rw [hfavicon, hsimulator]
  exact ⟨Text.infix_padded (by decide) n, Text.infix_padded (by decide) n⟩

theorem exchange?_padded (e : List Char) (n : Nat) :
    Route.exchange? (padded (Route.bidRoot ++ e) n) = Route.exchange? (Route.bidRoot ++ e) := by
  have hshort : Text.stripStart? Route.bidRoot (Route.bidRoot ++ e) = some e :=
    Text.stripStart?_eq_some.mpr rfl
  have hlong : Text.stripStart? Route.bidRoot (padded (Route.bidRoot ++ e) n) =
      some (e ++ List.replicate n '/') :=
    Text.stripStart?_eq_some.mpr (List.append_assoc ..)
  simp only [Route.exchange?, hshort, hlong, Text.trimEnd_padded]

/-- The root of bid paths by its separators. -/
theorem bidRoot_eq :
    Route.bidRoot = '/' :: ("rtb".toList ++ '/' :: ("bids".toList ++ ['/'])) := by
  decide

/-- **The word of the scripts at the end.** A slash behind a path without that word makes one
exactly when the exchange ends in `web`. -/
theorem web_padded {e : List Char} (hslash : '/' ∉ e) (n : Nat) :
    Route.webWord <:+: padded (Route.bidRoot ++ e) (n + 1) ↔ "web".toList <:+ e := by
  have hpath : padded (Route.bidRoot ++ e) (n + 1) =
      [] ++ '/' :: ("rtb".toList ++ '/' :: ("bids".toList ++ '/' :: (e ++ '/' ::
        List.replicate n '/'))) := by
    simp only [padded, bidRoot_eq, List.replicate_succ, List.append_assoc, List.cons_append,
      List.nil_append]
  have hword : Route.webWord = "web".toList ++ ['/'] := by decide
  have hempty : ¬"web".toList <:+ [] := by decide
  have hrtb : ¬"web".toList <:+ "rtb".toList := by decide
  have hbids : ¬"web".toList <:+ "bids".toList := by decide
  have hslashes : ¬"web".toList ++ ['/'] <:+: List.replicate n '/' := by
    intro h
    have hw := List.eq_of_mem_replicate (h.subset (by decide : 'w' ∈ "web".toList ++ ['/']))
    exact absurd hw (by decide)
  have hweb : '/' ∉ "web".toList := by decide
  rw [hpath, hword, Text.infix_closed hweb List.not_mem_nil, Text.infix_closed hweb (by decide),
    Text.infix_closed hweb (by decide), Text.infix_closed hweb hslash]
  simp only [hempty, hrtb, hbids, hslashes, false_or, or_false]

section

variable {method : String} {e : List Char}
  (h : Route.classify method (Route.bidRoot ++ e) = .bid (String.ofList e))

include h in
/-- The name of an exchange that is bid to has neither slashes nor a query. -/
theorem plain_exchange : '/' ∉ e ∧ '?' ∉ Route.bidRoot ++ e := by
  obtain ⟨-, hslash, hquery, -⟩ := exchange_of_classify h
  rw [String.toList_ofList] at hslash hquery
  refine ⟨hslash, ?_⟩
  rw [List.mem_append, not_or]
  exact ⟨by decide, hquery⟩

include h in
theorem classify_padded (hweb : ¬"web".toList <:+ e) (n : Nat) :
    Route.classify method (padded (Route.bidRoot ++ e) n) = .bid (String.ofList e) := by
  obtain ⟨hslash, hquery⟩ := plain_exchange h
  rw [classify_eq_bid_iff, Text.before_of_not_mem hquery] at h
  obtain ⟨hfavicon, hsimulator, hscript, hexchange⟩ := h
  obtain ⟨hfavicon', hsimulator'⟩ := infix_padded_iff (Route.bidRoot ++ e) n
  rw [classify_eq_bid_iff, Text.before_of_not_mem (not_mem_padded hquery n), hfavicon',
    hsimulator', exchange?_padded]
  refine ⟨hfavicon, hsimulator, ?_, hexchange⟩
  cases n with
  | zero => rwa [padded, List.replicate_zero, List.append_nil]
  | succ n => rwa [web_padded hslash]

include h in
theorem classify_padded_web (hweb : "web".toList <:+ e) (n : Nat) :
    Route.classify method (padded (Route.bidRoot ++ e) (n + 1)) =
      .webAsset (String.ofList (List.replicate n '/')) := by
  obtain ⟨hslash, hquery⟩ := plain_exchange h
  rw [classify_eq_bid_iff, Text.before_of_not_mem hquery] at h
  obtain ⟨hfavicon, hsimulator, hscript, -⟩ := h
  obtain ⟨hfavicon', hsimulator'⟩ := infix_padded_iff (Route.bidRoot ++ e) (n + 1)
  have hword : Route.webWord = "web".toList ++ ['/'] := by decide
  obtain ⟨front, rfl⟩ := hweb
  have hpath : padded (Route.bidRoot ++ (front ++ "web".toList)) (n + 1) =
      Route.bidRoot ++ front ++ (Route.webWord ++ List.replicate n '/') := by
    simp only [padded, hword, List.replicate_succ, List.append_assoc, List.cons_append,
      List.nil_append]
  have hrest : Text.afterWord? Route.webWord
      (padded (Route.bidRoot ++ (front ++ "web".toList)) (n + 1)) =
        some (List.replicate n '/') := by
    rw [hpath]
    apply Text.afterWord?_append
    rwa [show Route.webWord.dropLast = "web".toList by decide, List.append_assoc]
  simp only [Route.classify, Text.before_of_not_mem (not_mem_padded hquery (n + 1)),
    Text.occurs_iff, hfavicon', hsimulator', hfavicon, hsimulator, if_false, hrest]

end

/-- **Slashes at the end of a bid target** do not matter, unless the exchange ends in `web`:
then the first of them makes it the path of a script. Otherwise a request with them is for
the same exchange. If that is registered, they ask and answer the very same; if not, both
are declined as wrong targets, each told of as it was given. -/
theorem trailing_slashes {method : String} {e : List Char}
    (h : Route.classify method (Route.bidRoot ++ e) = .bid (String.ofList e)) (n : Nat) :
    (¬"web".toList <:+ e →
      Route.classify method (padded (Route.bidRoot ++ e) n) = .bid (String.ofList e) ∧
      ∀ (d : Dispatcher) (body : Bytes),
        (∀ adapter, d.exchanges.get? (String.ofList e) = some adapter →
          d.dispatch method (padded (Route.bidRoot ++ e) n) body =
            d.dispatch method (Route.bidRoot ++ e) body) ∧
        (d.exchanges.get? (String.ofList e) = none →
          ∀ target ∈ [Route.bidRoot ++ e, padded (Route.bidRoot ++ e) n],
            d.dispatch method target body =
              Dispatcher.timed (return .decline "" (Dispatcher.wrongTarget target)))) ∧
    ("web".toList <:+ e →
      Route.classify method (padded (Route.bidRoot ++ e) (n + 1)) =
        .webAsset (String.ofList (List.replicate n '/'))) := by
  refine ⟨fun hweb => ?_, fun hweb => classify_padded_web h hweb n⟩
  have hlong := classify_padded h hweb n
  refine ⟨hlong, fun d body => ⟨?_, ?_⟩⟩
  · intro adapter hadapter
    rw [Dispatcher.dispatch, Dispatcher.dispatch, hlong, h]
    simp only [Dispatcher.serve, Dispatcher.bid, hadapter]
  · intro hadapter target htarget
    have hroute : Route.classify method target = .bid (String.ofList e) := by
      rcases List.mem_pair.mp htarget with rfl | rfl
      · exact h
      · exact hlong
    rw [Dispatcher.dispatch, hroute]
    simp only [Dispatcher.serve, Dispatcher.bid, hadapter]

theorem trailing_slashes_three :
    Route.classify "POST" "/rtb/bids/nexage///".toList = .bid "nexage" ∧
      (∀ body, (lone "first").dispatch "POST" "/rtb/bids/nexage///".toList body =
        (lone "first").dispatch "POST" "/rtb/bids/nexage".toList body) ∧
      Route.classify "POST" "/rtb/bids/web///".toList = .webAsset "//" := by
  have hweb : Route.classify "POST" (Route.bidRoot ++ "web".toList) = .bid "web" := rfl
  obtain ⟨hplain, -⟩ := trailing_slashes (e := "nexage".toList) classify_request 3
  obtain ⟨-, hscript⟩ := trailing_slashes (e := "web".toList) hweb 2
  obtain ⟨hroute, hsame⟩ := hplain (by decide)
  refine ⟨hroute, fun body => ?_, hscript (List.suffix_refl _)⟩
  exact (hsame (lone "first") body).1 (.plain "nexage") rfl

/-- The bids of an exchange called `web` do not bear a slash, and those of an exchange that
is not registered are declined with the slash in the reason. -/
theorem slash_diverts_web :
    (¬∀ (method : String) (e : List Char) (n : Nat),
      Route.classify method (Route.bidRoot ++ e) = .bid (String.ofList e) →
        Route.classify method (padded (Route.bidRoot ++ e) n) = .bid (String.ofList e)) ∧
    Route.classify "POST" "/rtb/bids/web".toList = .bid "web" ∧
    Route.classify "POST" "/rtb/bids/web/".toList = .webAsset "" ∧
    (((lone "first").dispatch "POST" "/rtb/bids/other".toList []).run
      (Host.answer Pool.MemoryStore.store) fresh).1.reason = some "wrong target: /rtb/bids/other" ∧
    (((lone "first").dispatch "POST" "/rtb/bids/other/".toList []).run
      (Host.answer Pool.MemoryStore.store) fresh).1.reason = some "wrong target: /rtb/bids/other/" := by
  have hweb : Route.classify "POST" "/rtb/bids/web".toList = .bid "web" := rfl
  have hslash : Route.classify "POST" "/rtb/bids/web/".toList = .webAsset "" := rfl
  refine ⟨fun hall => ?_, hweb, hslash, rfl, rfl⟩
  have hbid := hall "POST" "web".toList 1 hweb
  rw [show padded (Route.bidRoot ++ "web".toList) 1 = "/rtb/bids/web/".toList by decide,
    hslash] at hbid
  cases hbid

end BidFleet.Serving
