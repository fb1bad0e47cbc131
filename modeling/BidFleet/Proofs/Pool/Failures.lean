import BidFleet.Proofs.Pool.LifeCycle
import BidFleet.Proofs.Pool.Sweeping

/-!
Passes that fail. A task that makes calls goes on as long as they succeed, and ends with
the error of the first that does not (`Makes.run`). The removal is the last call of a
pass, so a pass that fails has made its heartbeat at most (`after_made`): nobody is
swept by it (`failed_pass_stops`).
-/

namespace BidFleet.Pool

variable {σ τ α : Type}

/-! ## Stores whose failing calls change nothing -/

section

variable {store : Store σ}

def Clean (store : Store σ) : Prop := ∀ c s e, (store c s).1 = .error e → (store c s).2 = s

theorem MemoryStore.never_fails (c : Call) (s : MemoryStore) (e : Error) :
    (MemoryStore.store c s).1 ≠ .error e := by
  intro h
  cases c <;> cases h

/-- A store that begins to fail is clean if it does not fail before. -/
theorem Failing.clean (h : ∀ c s e, (store c s).1 ≠ .error e) : Clean (Failing.store store) := by
  intro c s e he
  obtain ⟨inner, remaining, error⟩ := s
  match remaining with
  | some 0 => rfl
  | some (n + 1) => exact absurd he (h c inner e)
  | none => exact absurd he (h c inner e)

end

/-! ## Calls until the first failure -/

namespace Recorded

/-- Recording changes nothing about the store either. -/
theorem run_inner {store : Store σ} (t : Task storeCalls α) (s : Recorded σ) :
    (t.run (Recorded.store store) s).2.inner = (t.run store s.inner).2 := by
  induction t generalizing s with
  | done a => rfl
  | ask c go ih => exact ih _ _

end Recorded

/-- Calls that all succeed, from one state of a store to another. -/
inductive Succeeds (store : Store σ) : List Call → σ → σ → Prop
  | nil (s : σ) : Succeeds store [] s s
  | cons {c : Call} {cs : List Call} {s s' : σ} (r : c.Result) :
      (store c s).1 = .ok r → Succeeds store cs (store c s).2 s' → Succeeds store (c :: cs) s s'

/-- **A task ends with all its calls made, or with the first that fails.** -/
theorem Makes.run {calls : List Call} {t : Task storeCalls (Except Error α)} (h : Makes calls t)
    (store : Store σ) (s : Recorded σ) :
    (∃ a s', t.run (Recorded.store store) s = (.ok a, ⟨s', s.calls ++ succeeded calls⟩)) ∨
      ∃ made c left e reached, calls = made ++ c :: left ∧ Succeeds store made s.inner reached ∧
        (store c reached).1 = .error e ∧
        t.run (Recorded.store store) s =
          (.error e, ⟨(store c reached).2, s.calls ++ (succeeded made ++ [⟨c, some e⟩])⟩) := by
  induction h generalizing s with
  | done a => exact .inl ⟨a, s.inner, by simp [succeeded]⟩
  | ask c cs go hok herr ih =>
    cases hc : (store c s.inner).1 with
    | error e =>
      refine .inr ⟨[], c, cs, e, s.inner, rfl, .nil _, hc, ?_⟩
      simp [Task.run, Recorded.store, hc, herr, Recorded.fault?, succeeded]
    | ok r =>
      have hrun : (Task.ask c go).run (Recorded.store store) s =
          (go (.ok r)).run (Recorded.store store)
            ⟨(store c s.inner).2, s.calls ++ [⟨c, none⟩]⟩ := by
        simp only [Task.run, Recorded.store, hc, Recorded.fault?]
      rw [hrun]
      rcases ih r ⟨(store c s.inner).2, s.calls ++ [⟨c, none⟩]⟩ with ⟨a, s', hall⟩ |
        ⟨made, d, left, e, reached, hcalls, hmade, hd, hstop⟩
      · refine .inl ⟨a, s', ?_⟩
        simp [hall, succeeded]
      · refine .inr ⟨c :: made, d, left, e, reached, by rw [hcalls]; rfl, .cons r hc hmade, hd, ?_⟩
        simp [hstop, succeeded]

/-! ## What a store holds -/

/-- Whether a store changes its sets as the store in memory does, as far as its calls
succeed. -/
def Backed (store : Store σ) (content : σ → MemoryStore) : Prop :=
  ∀ c s r, (store c s).1 = .ok r → content (store c s).2 = (MemoryStore.store c (content s)).2

theorem Succeeds.content {store : Store σ} {content : σ → MemoryStore}
    (hbacked : Backed store content) {calls : List Call} {s s' : σ}
    (h : Succeeds store calls s s') : content s' = (content s).after calls := by
  induction h with
  | nil s => rfl
  | cons r hr _ ih => rw [ih, hbacked _ _ r hr]; rfl

theorem Failing.backed : Backed (Failing.store MemoryStore.store) Failing.inner := by
  intro c s r hr
  obtain ⟨inner, remaining, error⟩ := s
  match remaining with
  | some 0 => cases hr
  | some (n + 1) => rfl
  | none => rfl

/-- A pass that is not over has changed nothing but by its heartbeat. -/
theorem after_made {config : Config} {name : Option String} {now : Int64} {made left : List Call}
    {c : Call} (h : passCalls config name now = made ++ c :: left) (m : MemoryStore) :
    m.after made = if made = [] then m else beaten config name now m := by
  cases name with
  | none =>
    -- the range may have been made
    rcases made with _ | ⟨d, _ | ⟨d', made⟩⟩
    · rfl
    · cases h
      rfl
    · simp [passCalls, sweepCalls] at h
  | some name =>
    -- the heartbeat may have been made, and the range behind it
    rcases made with _ | ⟨d, _ | ⟨d', _ | ⟨d'', made⟩⟩⟩
    · rfl
    · cases h
      rfl
    · cases h
      rfl
    · simp [passCalls, sweepCalls] at h

/-- What a pass that was stopped behind these calls has made of the sets. -/
structure Halted (config : Config) (name : Option String) (now : Int64) (made : List Call)
    (m m' : MemoryStore) : Prop where
  unchanged : made = [] ∨ name = none → m' = m
  heartbeat : made ≠ [] → ∀ set member, m'.score? set member =
    if set = config.pool ∧ name = some member then some now else m.score? set member
  kept : ∀ set member, (m.score? set member).isSome → (m'.score? set member).isSome

theorem score?_beaten_any (config : Config) (name : Option String) (now : Int64) (m : MemoryStore)
    (set member : String) : (beaten config name now m).score? set member =
      if set = config.pool ∧ name = some member then some now else m.score? set member := by
  by_cases hset : set = config.pool
  · rw [hset, score?_beaten]
    simp [heartbeat]
  · rw [if_neg (fun h => hset h.1), MemoryStore.score?, members_beaten config name now m hset]
    rfl

theorem halted_after {config : Config} {name : Option String} {now : Int64} {made left : List Call}
    {c : Call} (h : passCalls config name now = made ++ c :: left) (m : MemoryStore) :
    Halted config name now made m (m.after made) := by
  rw [after_made h]
  by_cases hmade : made = []
  · rw [if_pos hmade]
    exact ⟨fun _ => rfl, fun hne => absurd hmade hne, fun _ _ hsome => hsome⟩
  · rw [if_neg hmade]
    refine ⟨?_, fun _ => score?_beaten_any config name now m, fun set member hsome => ?_⟩
    · rintro (hnil | rfl)
      · exact absurd hnil hmade
      · rfl
    · rw [score?_beaten_any]
      split
      · rfl
      · exact hsome

/-- Of calls that ended with a failure, only the last has failed. -/
theorem eq_of_failed {made : List Call} {c : Call} {e e' : Error} {a : Answered}
    (h : a ∈ succeeded made ++ [⟨c, some e⟩]) (hfailed : a.error? = some e') :
    a = ⟨c, some e⟩ ∧ e' = e := by
  rcases List.mem_append.mp h with hmade | hlast
  · rw [Node.error?_succeeded hmade] at hfailed
    cases hfailed
  · rw [List.mem_singleton.mp hlast] at hfailed ⊢
    exact ⟨rfl, (Option.some.inj hfailed).symm⟩

/-- **A pass that fails stops at the failure.** Take any store whose failing calls leave
what is seen of it as it is. A pass returns an error just when one of its calls fails;
then it is the error of that call, all calls before it have succeeded, no other call is
made, and the store is seen as those before it have left it. If the store keeps sets,
they are as they were, but for the heartbeat of a worker when that has succeeded, and
nobody is swept. -/
theorem failed_pass_stops (store : Store σ) (view : σ → τ)
    (hclean : ∀ c s e, (store c s).1 = .error e → view (store c s).2 = view s)
    (config : Config) (name : Option String) (now : Int64) (s : σ) :
    let behind := (pass config name now).run store s
    let calls := ((pass config name now).run (Recorded.store store) ⟨s, []⟩).2.calls
    ((∃ e, behind.1 = .error e) ↔ ∃ a ∈ calls, ∃ e, a.error? = some e) ∧
      ∀ a ∈ calls, ∀ e, a.error? = some e →
        behind.1 = .error e ∧
        ∃ made left reached, passCalls config name now = made ++ a.call :: left ∧
          calls = succeeded made ++ [a] ∧ Succeeds store made s reached ∧
          (store a.call reached).1 = .error e ∧ view behind.2 = view reached ∧
          ∀ content : τ → MemoryStore, Backed store (fun s => content (view s)) →
            Halted config name now made (content (view s)) (content (view behind.2)) := by
  intro behind calls
  have hresult : ((pass config name now).run (Recorded.store store) ⟨s, []⟩).1 = behind.1 :=
    Recorded.run_store _ _
  have hinner : ((pass config name now).run (Recorded.store store) ⟨s, []⟩).2.inner = behind.2 :=
    Recorded.run_inner _ _
  rcases (makes_pass config name now).run store ⟨s, []⟩ with ⟨report, s', hall⟩ |
    ⟨made, c, left, e, reached, hcalls, hmade, hc, hstop⟩
  · rw [hall] at hresult
    have hnone : ∀ a ∈ calls, a.error? = none := by
      intro a ha
      simp only [calls, hall] at ha
      exact Node.error?_succeeded ha
    refine ⟨⟨?_, ?_⟩, ?_⟩
    · rintro ⟨e, he⟩
      cases hresult.trans he
    · rintro ⟨a, ha, e, he⟩
      cases (hnone a ha).symm.trans he
    · intro a ha e he
      cases (hnone a ha).symm.trans he
  · rw [hstop] at hresult hinner
    have hlog : calls = succeeded made ++ [⟨c, some e⟩] := by
      simp only [calls, hstop]
      rfl
    have hview : view behind.2 = view reached :=
      (congrArg view hinner.symm).trans (hclean c reached e hc)
    refine ⟨⟨fun _ => ⟨⟨c, some e⟩, by rw [hlog]; simp, e, rfl⟩, fun _ => ⟨e, hresult.symm⟩⟩, ?_⟩
    intro a ha e' he'
    obtain ⟨rfl, rfl⟩ := eq_of_failed (hlog ▸ ha) he'
    refine ⟨hresult.symm, made, left, reached, hcalls, hlog, hmade, hc, hview, ?_⟩
    intro content hbacked
    have hcontent : content (view reached) = (content (view s)).after made :=
      hmade.content hbacked
    rw [hview, hcontent]
    exact halted_after hcalls (content (view s))

/-- The removal fails behind the heartbeat and the range: the worker has its new score,
and the member that was named stale stays. -/
theorem failed_pass_stops_aged :
    let down : Failing MemoryStore := ⟨aged, some 2, .storeUnavailable "down"⟩
    let behind := (pass { interval := 20 } (some "w") 100).run (Failing.store MemoryStore.store) down
    behind.1 = .error (.storeUnavailable "down") ∧
      behind.2.inner.score? "bidderspool" "w" = some 100 ∧
      behind.2.inner.score? "bidderspool" "on" = some 60 := by
  intro down behind
  obtain ⟨-, hfailed⟩ := failed_pass_stops (Failing.store MemoryStore.store) Failing.inner
    (fun c s e he => congrArg Failing.inner (Failing.clean MemoryStore.never_fails c s e he))
    { interval := 20 } (some "w") 100 down
  have hlast : (⟨.removeRange "bidderspool" 0 60, some (.storeUnavailable "down")⟩ : Answered) ∈
      ((pass { interval := 20 } (some "w") 100).run
        (Recorded.store (Failing.store MemoryStore.store)) ⟨down, []⟩).2.calls := by
    decide +kernel
  obtain ⟨herror, made, left, reached, hcalls, -, -, -, -, hcontent⟩ :=
    hfailed _ hlast _ rfl
  have hmade : made ≠ [] := by
    rintro rfl
    cases hcalls
  have hhalted := hcontent id Failing.backed
  refine ⟨herror, ?_, ?_⟩
  · exact hhalted.heartbeat hmade "bidderspool" "w"
  · exact (hhalted.heartbeat hmade "bidderspool" "on").trans (by decide +kernel)

end BidFleet.Pool
