import BidFleet.Proofs.Serving.Accounting
import BidFleet.Proofs.Serving.Questions

/-!
Requests in traffic. A move brings a request, asks one request its next question, or
leaves the requests alone (`Traffic.getElem?_next`). What every request comes in with
and keeps from question to question holds of all of them (`Traffic.jobs_after`), and
`Traffic.heard` is the list of what one of them was told so far. Requests are never
stuck: asked one question after the other, each is answered
(`Traffic.answered_of_asked`).
-/

namespace BidFleet.Serving

/-! ## What a request is told -/

namespace Traffic

variable {σ : Type} {store : Pool.Store σ}

/-- What the next move tells one request: its question and the answer. -/
def told (store : Pool.Store σ) (n : Nat) (t : Traffic σ) :
    Move σ → List ((q : Question) × q.Answer)
  | .answer i =>
    match t.jobs[n]? with
    | some j =>
      match j.task with
      | .ask q _ => if i = n then [⟨q, (Host.answer store q t.host).1⟩] else []
      | .done _ => []
    | none => []
  | _ => []

/-- What some moves tell one request, in their order. -/
def heard (store : Pool.Store σ) (n : Nat) : Traffic σ → List (Move σ) →
    List ((q : Question) × q.Answer)
  | _, [] => []
  | t, m :: moves => t.told store n m ++ heard store n (t.next store m) moves

/-- What is told is the answer to the question that the request is at. -/
theorem mem_told {t : Traffic σ} {n : Nat} {m : Move σ} {e : (q : Question) × q.Answer}
    (h : e ∈ t.told store n m) : m = .answer n ∧ ∃ j next, t.jobs[n]? = some j ∧
      j.task = .ask e.1 next ∧ e.2 = (Host.answer store e.1 t.host).1 := by
  cases m with
  | request d method target body => cases h
  | drift host => cases h
  | answer i =>
    simp only [told] at h
    split at h
    · next j hj =>
      split at h
      · next q next hask =>
        split at h
        · next hi =>
          cases List.mem_singleton.mp h
          exact ⟨by rw [hi], j, next, hj, hask, rfl⟩
        · cases h
      · cases h
    · cases h

theorem after_append (t : Traffic σ) (moves more : List (Move σ)) :
    t.after store (moves ++ more) = (t.after store moves).after store more :=
  List.foldl_append ..

/-! ## Moves and requests -/

/-- What every request comes in with and keeps from question to question holds of all
jobs. -/
theorem jobs_next {P : Job → Prop} {t : Traffic σ} (h : ∀ j ∈ t.jobs, P j) (m : Move σ)
    (harrive : ∀ d method target body, m = .request d method target body →
      P (.arrive d method target body))
    (hstep : ∀ j host, P j → P (j.step store host).1) : ∀ j ∈ (t.next store m).jobs, P j := by
  intro j hj
  cases m with
  | request d method target body =>
    rcases List.mem_append.mp hj with hj | hj
    · exact h j hj
    · exact List.mem_singleton.mp hj ▸ harrive d method target body rfl
  | drift host => exact h j hj
  | answer i =>
    simp only [next] at hj
    split at hj
    · next k hk =>
      rcases List.mem_or_eq_of_mem_set hj with hj | rfl
      · exact h j hj
      · exact hstep k _ (h k (List.mem_of_getElem? hk))
    · exact h j hj

theorem jobs_after {P : Job → Prop} {t : Traffic σ} (h : ∀ j ∈ t.jobs, P j)
    {moves : List (Move σ)}
    (harrive : ∀ d method target body, .request d method target body ∈ moves →
      P (.arrive d method target body))
    (hstep : ∀ j host, P j → P (j.step store host).1) :
    ∀ j ∈ (t.after store moves).jobs, P j := by
  induction moves generalizing t with
  | nil => exact h
  | cons m ms ih =>
    have hnext := jobs_next h m (fun d method target body hm =>
      harrive d method target body (hm ▸ List.mem_cons_self ..)) hstep
    exact ih hnext fun d method target body hm =>
      harrive d method target body (List.mem_cons_of_mem _ hm)

/-- One move and one request: it may have just come in, be asked its next question, or be
left alone. -/
theorem getElem?_next {t : Traffic σ} {m : Move σ} {n : Nat} {j : Job}
    (h : (t.next store m).jobs[n]? = some j) :
    (∃ d method target body, m = .request d method target body ∧ n = t.jobs.length ∧
      j = .arrive d method target body) ∨
    (∃ k, m = .answer n ∧ t.jobs[n]? = some k ∧ j = (k.step store t.host).1) ∨
    m ≠ .answer n ∧ t.jobs[n]? = some j := by
  cases m with
  | request d method target body =>
    simp only [next] at h
    rw [List.getElem?_append] at h
    split at h
    · exact .inr (.inr ⟨by simp, h⟩)
    · next hn =>
      have hzero : n - t.jobs.length = 0 := by
        have := (List.getElem?_eq_some_iff.mp h).1
        simp only [List.length_singleton] at this
        omega
      rw [hzero] at h
      cases h
      exact .inl ⟨d, method, target, body, rfl, by omega, rfl⟩
  | drift host => exact .inr (.inr ⟨by simp, h⟩)
  | answer i =>
    simp only [next] at h
    by_cases hi : i = n
    · subst hi
      cases hk : t.jobs[i]? with
      | none => simp [hk] at h
      | some k =>
        rw [hk] at h
        have hlt := (List.getElem?_eq_some_iff.mp hk).1
        rw [List.getElem?_set_self hlt] at h
        cases h
        exact .inr (.inl ⟨k, rfl, rfl, rfl⟩)
    · refine .inr (.inr ⟨fun e => hi (Move.answer.inj e), ?_⟩)
      split at h
      · rw [List.getElem?_set_ne hi] at h
        exact h
      · exact h

/-- Requests are not forgotten. -/
theorem jobs_length_next (store : Pool.Store σ) (t : Traffic σ) (m : Move σ) :
    t.jobs.length ≤ (t.next store m).jobs.length := by
  cases m with
  | request d method target body => simp [next]
  | drift host => exact Nat.le_refl _
  | answer i =>
    simp only [next]
    split <;> simp

/-- A request that is not asked stays as it is. -/
theorem getElem?_next_of_ne {t : Traffic σ} {m : Move σ} {n : Nat} {j : Job}
    (h : t.jobs[n]? = some j) (hm : m ≠ .answer n) : (t.next store m).jobs[n]? = some j := by
  have hlt := (List.getElem?_eq_some_iff.mp h).1
  have hlt' := Nat.lt_of_lt_of_le hlt (jobs_length_next store t m)
  obtain ⟨j', hj'⟩ : ∃ j', (t.next store m).jobs[n]? = some j' :=
    ⟨_, List.getElem?_eq_getElem hlt'⟩
  rcases getElem?_next hj' with ⟨_, _, _, _, -, hn, -⟩ | ⟨k, hanswer, -⟩ | ⟨-, hk⟩
  · omega
  · exact absurd hanswer hm
  · rw [hj', ← hk, h]

/-- A request whose next question was some question, and that is answered after some
moves, was asked that question by one of them. -/
theorem asked_of_answered {q : Question} {next : q.Answer → Serve Reply} {n : Nat} {j : Job}
    {t : Traffic σ} {moves : List (Move σ)} (h : t.jobs[n]? = some j) (hask : j.task = .ask q next)
    (hdone : ((t.after store moves).jobs[n]?.bind (·.reply?)).isSome = true) :
    ∃ past rest, moves = past ++ .answer n :: rest ∧ (t.after store past).jobs[n]? = some j := by
  induction moves generalizing t with
  | nil =>
    rw [after, List.foldl_nil, h] at hdone
    simp [Job.reply?, hask] at hdone
  | cons m ms ih =>
    by_cases hm : m = .answer n
    · exact ⟨[], ms, by rw [hm]; rfl, h⟩
    · obtain ⟨past, rest, rfl, hpast⟩ := ih (getElem?_next_of_ne h hm) hdone
      exact ⟨m :: past, rest, rfl, hpast⟩

/-- A request is answered when it is asked its questions one after the other. -/
theorem answered_of_asked (store : Pool.Store σ) {t : Traffic σ} {n : Nat} {j : Job}
    (h : t.jobs[n]? = some j) : ∃ k j' r,
      (t.after store (List.replicate k (.answer n))).jobs[n]? = some j' ∧ j'.isBid = j.isBid ∧
        j'.reply? = some r := by
  obtain ⟨task, htask⟩ : ∃ task, j.task = task := ⟨_, rfl⟩
  induction task generalizing t j with
  | done r => exact ⟨0, j, r, h, rfl, by rw [Job.reply?, htask]⟩
  | ask q next ih =>
    have hlt := (List.getElem?_eq_some_iff.mp h).1
    have hnext : (t.next store (.answer n)).jobs[n]? = some (j.step store t.host).1 := by
      simp only [Traffic.next, h]
      exact List.getElem?_set_self hlt
    have htask' : (j.step store t.host).1.task = next (Host.answer store q t.host).1 := by
      simp only [Job.step, htask, Task.step]
    obtain ⟨k, j', r, hj', hbid, hr⟩ := ih _ hnext htask'
    exact ⟨k + 1, j', r, hj', hbid, hr⟩

end Traffic

theorem Traffic.sound_after {σ : Type} (store : Pool.Store σ) (host : Host σ)
    (moves : List (Move σ)) : ∀ j ∈ (Traffic.after store ⟨host, []⟩ moves).jobs, j.Sound :=
  Traffic.jobs_after (by simp) (fun d method target body _ => Job.sound_arrive d method target body)
    fun _ host h => h.step host

theorem Only.step {kind : Question → Prop} {σ : Type} (store : Pool.Store σ) {j : Job}
    (h : Only kind j.task) (host : Host σ) : Only kind (j.step store host).1.task := by
  cases ht : j.task with
  | done r => simp only [Job.step, ht, Task.step, Only]
  | ask q next =>
    rw [ht] at h
    simpa only [Job.step, ht, Task.step] using h.2 _

end BidFleet.Serving
