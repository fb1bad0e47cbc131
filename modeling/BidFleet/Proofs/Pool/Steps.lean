import BidFleet.Pool.Node

/-!
What one event can do to a node. `Makes` says which calls a task makes and that
it ends with its first error; a pass makes its heartbeat, if it has one, then the
two calls of its sweep (`makes_pass`). `next_tick`, `next_call`, `next_signal`,
`next_heed` and `next_abort` say when an event can happen and what it leaves
behind, and `run` is a sequence of events.
-/

namespace BidFleet.Pool

/-! ## Calls in order -/

/-- A task that makes these calls in this order and ends with the first error. -/
inductive Makes {α : Type} : List Call → Task storeCalls (Except Error α) → Prop
  | done (a : α) : Makes [] (.done (.ok a))
  | ask (c : Call) (cs : List Call)
      (go : Except Error c.Result → Task storeCalls (Except Error α)) :
      (∀ r, Makes cs (go (.ok r))) → (∀ e, go (.error e) = .done (.error e)) →
        Makes (c :: cs) (.ask c go)

theorem makes_call {α : Type} {cs : List Call} (c : Call)
    {next : c.Result → Task storeCalls (Except Error α)} (h : ∀ r, Makes cs (next r)) :
    Makes (c :: cs) (call c next) :=
  .ask c cs _ h (fun _ => rfl)

/-- The calls of a sweep. -/
def sweepCalls (config : Config) (now : Int64) : List Call :=
  [.range config.pool 0 (config.staleBefore now),
    .removeRange config.pool 0 (config.staleBefore now)]

/-- The calls of a pass: the heartbeat of a node that has a name, then the sweep. -/
def passCalls (config : Config) (name : Option String) (now : Int64) : List Call :=
  match name with
  | some name => .upsert config.pool name now :: sweepCalls config now
  | none => sweepCalls config now

theorem makes_sweep (config : Config) (now : Int64) :
    Makes (sweepCalls config now) (sweep config now) :=
  makes_call _ (fun _ => makes_call _ (fun _ => .done _))

theorem makes_pass (config : Config) (name : Option String) (now : Int64) :
    Makes (passCalls config name now) (pass config name now) := by
  cases name with
  | none => exact makes_sweep config now
  | some name => exact makes_call _ (fun _ => makes_sweep config now)

theorem passCalls_ne_nil (config : Config) (name : Option String) (now : Int64) :
    passCalls config name now ≠ [] := by
  cases name <;> simp [passCalls, sweepCalls]

namespace Node

/-! ## Passes of a node -/

/-- A pass with calls left is a phase of its own. -/
theorem resume_makes (n : Node) {c : Call} {cs : List Call}
    {p : Task storeCalls (Except Error Report)} (h : Makes (c :: cs) p) :
    n.resume p = { n with phase := .passing p } := by
  cases h with
  | ask _ _ go _ _ => rfl

/-- A pass that begins is in flight. -/
theorem resume_pass (n : Node) (now : Int64) :
    n.resume (pass n.config n.role.name? now) =
      { n with phase := .passing (pass n.config n.role.name? now) } := by
  obtain ⟨c, cs, hc⟩ := List.exists_cons_of_ne_nil (passCalls_ne_nil n.config n.role.name? now)
  exact resume_makes n (hc ▸ makes_pass _ _ _)

/-- The node at the end of a pass that did not fail. -/
def relax (n : Node) : Node :=
  { n with phase := .resting, state := n.state.alive, joined := some (n.joined.getD (.ok ())) }

theorem resume_makes_nil (n : Node) {p : Task storeCalls (Except Error Report)}
    (h : Makes [] p) : n.resume p = n.relax := by
  cases h with
  | done r => rfl

/-- The node whose pass failed. -/
def collapse (n : Node) (e : Error) : Node :=
  { n with
    phase := .ended
    state := .terminated e.message
    joined := some (n.joined.getD (.error e)) }

theorem resume_error (n : Node) (e : Error) : n.resume (.done (.error e)) = n.collapse e := rfl

/-! ## Events -/

variable {σ : Type} {store : Store σ} {n n' : Node} {s s' : σ}

theorem next_tick {now : Int64} :
    n.next store s (.tick now) = some (n', s') ↔
      n.phase = .resting ∧ n' = n.resume (pass n.config n.role.name? now) ∧ s' = s := by
  cases hp : n.phase with
  | passing p => simp [next, hp]
  | resting =>
    simp only [next, hp, Option.some.injEq, Prod.mk.injEq, true_and]
    constructor
    · rintro ⟨rfl, rfl⟩; exact ⟨rfl, rfl⟩
    · rintro ⟨rfl, rfl⟩; exact ⟨rfl, rfl⟩
  | ended => simp [next, hp]

theorem next_call :
    n.next store s .call = some (n', s') ↔
      ∃ c go, n.phase = .passing (.ask c go) ∧
        n' = n.resume (go (store c s).1) ∧ s' = (store c s).2 := by
  cases hp : n.phase with
  | passing p =>
    cases p with
    | done r => simp [next, hp]
    | ask c go =>
      simp only [next, hp, Option.some.injEq, Prod.mk.injEq]
      constructor
      · rintro ⟨rfl, rfl⟩; exact ⟨c, go, rfl, rfl, rfl⟩
      · rintro ⟨c', go', hc, rfl, rfl⟩
        cases hc
        exact ⟨rfl, rfl⟩
  | resting => simp [next, hp]
  | ended => simp [next, hp]

theorem next_signal :
    n.next store s .signal = some (n', s') ↔ n' = { n with signalled := true } ∧ s' = s := by
  simp only [next, Option.some.injEq, Prod.mk.injEq]
  constructor
  · rintro ⟨rfl, rfl⟩; exact ⟨rfl, rfl⟩
  · rintro ⟨rfl, rfl⟩; exact ⟨rfl, rfl⟩

theorem next_heed :
    n.next store s .heed = some (n', s') ↔
      n.phase = .resting ∧ n.signalled = true ∧
        n' = { n with phase := .ended, state := .stopped } ∧ s' = s := by
  cases hp : n.phase with
  | passing p => simp [next, hp]
  | resting =>
    cases hs : n.signalled with
    | false => simp [next, hp, hs]
    | true =>
      simp only [next, hp, hs, Option.some.injEq, Prod.mk.injEq, true_and]
      constructor
      · rintro ⟨rfl, rfl⟩; exact ⟨rfl, rfl⟩
      · rintro ⟨rfl, rfl⟩; exact ⟨rfl, rfl⟩
  | ended => simp [next, hp]

theorem next_abort :
    n.next store s .abort = some (n', s') ↔ n' = { n with phase := .ended } ∧ s' = s := by
  simp only [next, Option.some.injEq, Prod.mk.injEq]
  constructor
  · rintro ⟨rfl, rfl⟩; exact ⟨rfl, rfl⟩
  · rintro ⟨rfl, rfl⟩; exact ⟨rfl, rfl⟩

/-- The node and the store after several events; `none` when one of them cannot happen. -/
def run (store : Store σ) : List Event → Node → σ → Option (Node × σ)
  | [], n, s => some (n, s)
  | e :: es, n, s =>
    match n.next store s e with
    | some (n, s) => run store es n s
    | none => none

end Node

end BidFleet.Pool
