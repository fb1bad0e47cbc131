import Mathlib.Algebra.Ring.Nat
import BidFleet.Pool.Pass
import BidFleet.Proofs.Pool.Scores

/-!
The books of a store. Any number of clients call one store in memory, each call as a
whole and the calls of different clients in any order. Every call leaves a deed
behind: what the store was and what was asked of it. `Deed.removed_eq` says that a
call reports the members that disappear through it, `Deed.size_after` and
`Deed.presence_after` what it makes of the size of a set and of a name in it, and
`History.balanced` sums this up over all that happened. Passes that race over one
range of scores report together what they removed (`race_next`).
-/

namespace BidFleet.Pool

/-! ## Sizes -/

namespace Members

theorem lookup_of_mem {entries : List Member} (h : (entries.map Prod.fst).Nodup) {e : Member}
    (he : e ∈ entries) : entries.lookup e.1 = some e.2 := by
  induction entries with
  | nil => cases he
  | cons f rest ih =>
    obtain ⟨other, score⟩ := f
    simp only [List.map_cons, List.nodup_cons] at h
    rcases List.mem_cons.mp he with rfl | he
    · simp
    · have hne : (e.1 == other) = false :=
        beq_eq_false_iff_ne.mpr (fun hn => h.1 (List.mem_map.mpr ⟨e, he, hn⟩))
      rw [List.lookup_cons, hne]
      exact ih h.2 he

/-- A member that is listed has the score that it is listed with. -/
theorem score?_of_mem (m : Members) {e : Member} (he : e ∈ m.entries) :
    m.score? e.1 = some e.2 :=
  lookup_of_mem m.distinct he

/-- A member that has a score is listed. -/
theorem mem_of_score? (m : Members) {name : String} {score : Int64}
    (h : m.score? name = some score) : (name, score) ∈ m.entries := by
  obtain ⟨front, back, hentries, -⟩ := List.lookup_eq_some_iff.mp h
  rw [hentries]
  simp

/-- A filter divides the members. -/
theorem size_filter (m : Members) (keep : Member → Bool) :
    (m.filter keep).size + (m.entries.filter (fun e => !keep e)).length = m.size := by
  have h := List.length_eq_countP_add_countP keep (l := m.entries)
  rw [List.countP_eq_length_filter, List.countP_eq_length_filter] at h
  simpa [filter, size] using h.symm

theorem size_erase (m : Members) (name : String) :
    (m.erase name).size + (m.score? name).isSome.toNat = m.size := by
  obtain ⟨entries, distinct⟩ := m
  change (entries.filter (fun e => e.1 != name)).length + (entries.lookup name).isSome.toNat =
    entries.length
  induction entries with
  | nil => rfl
  | cons e rest ih =>
    obtain ⟨other, score⟩ := e
    simp only [List.map_cons, List.nodup_cons] at distinct
    have ih := ih distinct.2
    by_cases h : name = other
    · subst h
      rw [lookup_of_not_mem distinct.1] at ih
      simpa using ih
    · have hne : (name == other) = false := by simpa using h
      have hkeep : (other != name) = true := by simpa using Ne.symm h
      rw [List.lookup_cons, hne, List.filter_cons, if_pos hkeep]
      simp only [List.length_cons]
      omega

theorem size_upsert (m : Members) (name : String) (score : Int64) :
    (m.upsert name score).size = m.size + (m.score? name).isNone.toNat := by
  have h := m.size_erase name
  simp only [upsert, size, List.length_cons] at h ⊢
  cases hs : m.score? name with
  | none => rw [hs] at h; simp at h ⊢; omega
  | some x => rw [hs] at h; simp at h ⊢; omega

end Members

namespace MemoryStore

variable (s : MemoryStore) (set other : String)

theorem members_upsert (name : String) (score : Int64) :
    (store (.upsert other name score) s).2.members set =
      if set = other then (s.members other).upsert name score else s.members set :=
  members_put s set other _

theorem members_removeRange (low high : Int64) :
    (store (.removeRange other low high) s).2.members set =
      if set = other then (s.members set).removeRange low high else s.members set :=
  members_update s set other (·.removeRange low high) rfl

theorem members_remove (name : String) :
    (store (.remove other name) s).2.members set =
      if set = other then (s.members set).erase name else s.members set :=
  members_update s set other (·.erase name) rfl

/-- A call leaves every set but its own as it is. -/
theorem members_store {c : Call} (h : set ≠ c.set) :
    (store c s).2.members set = s.members set := by
  cases c with
  | upsert other name score => exact (s.members_upsert set other name score).trans (if_neg h)
  | range other low high => rfl
  | removeRange other low high => exact (s.members_removeRange set other low high).trans (if_neg h)
  | remove other name => exact (s.members_remove set other name).trans (if_neg h)

end MemoryStore

/-! ## Deeds -/

/-- How many members a call says that it removed. -/
def Call.removals : (c : Call) → Except Error c.Result → Nat
  | .removeRange .., .ok count => count
  | .remove .., .ok found => found.toNat
  | _, _ => 0

/-- A call scores members of its own set. -/
theorem Call.scored?_set {set member : String} {score : Int64} {c : Call}
    (h : c.scored? set member = some score) : set = c.set := by
  cases c with
  | upsert => exact (Option.ite_none_right_eq_some.mp h).1.1
  | range | removeRange | remove => cases h

/-- A call and the store that it met. -/
structure Deed where
  before : MemoryStore
  call : Call

namespace Deed

def answer (d : Deed) : Except Error d.call.Result := (MemoryStore.store d.call d.before).1

def after (d : Deed) : MemoryStore := (MemoryStore.store d.call d.before).2

/-- How many members the answer says were removed. -/
def removed (d : Deed) : Nat := d.call.removals d.answer

/-- Whether a member was put into a set that did not have it. -/
def inserts (d : Deed) : Bool :=
  match d.call with
  | .upsert set member _ => (d.before.score? set member).isNone
  | _ => false

/-- The members that disappeared. -/
def gone (d : Deed) : List Member :=
  (d.before.members d.call.set).entries.filter (fun e => (d.after.score? d.call.set e.1).isNone)

variable (d : Deed)

/-- No call fails. -/
theorem answer_ok : ∃ r, d.answer = .ok r := by
  obtain ⟨before, call⟩ := d
  cases call <;> exact ⟨_, rfl⟩

/-- The members that disappear are those that the set does not keep. -/
theorem gone_eq (s : MemoryStore) (c : Call) (keep : Member → Bool)
    (h : ∀ e : Member, s.score? c.set e.1 = some e.2 →
      ((MemoryStore.store c s).2.score? c.set e.1).isNone = !keep e) :
    (⟨s, c⟩ : Deed).gone = (s.members c.set).entries.filter (fun e => !keep e) :=
  List.filter_congr (fun e he => h e (Members.score?_of_mem _ he))

theorem gone_upsert (s : MemoryStore) (set name : String) (score : Int64) :
    (⟨s, .upsert set name score⟩ : Deed).gone = [] := by
  rw [gone_eq s _ (fun _ => true)]
  · simp
  · intro e he
    rw [MemoryStore.score?_upsert, he]
    split
    · rfl
    · rfl

theorem gone_range (s : MemoryStore) (set : String) (low high : Int64) :
    (⟨s, .range set low high⟩ : Deed).gone = [] := by
  rw [gone_eq s _ (fun _ => true)]
  · simp
  · intro e he
    have hkept : s.score? set e.1 = some e.2 := he
    exact congrArg Option.isNone hkept

theorem gone_removeRange (s : MemoryStore) (set : String) (low high : Int64) :
    (⟨s, .removeRange set low high⟩ : Deed).gone =
      (s.members set).entries.filter (fun e => !!Members.within low high e) := by
  refine gone_eq s _ (fun e => !Members.within low high e) (fun e he => ?_)
  obtain ⟨name, score⟩ := e
  rw [MemoryStore.score?_removeRange, he]
  cases hw : Members.within low high (name, score) <;> simp [Call.set, Option.filter, hw]

theorem gone_remove (s : MemoryStore) (set name : String) :
    (⟨s, .remove set name⟩ : Deed).gone =
      (s.members set).entries.filter (fun e => !(e.1 != name)) := by
  refine gone_eq s _ (fun e => e.1 != name) (fun e he => ?_)
  rw [MemoryStore.score?_remove, he]
  by_cases h : e.1 = name
  · simp [Call.set, h]
  · simp [h]

/-- **Reports.** A call says that it removed as many members as disappear through it. -/
theorem removed_eq (d : Deed) : d.removed = d.gone.length := by
  obtain ⟨s, call⟩ := d
  cases call with
  | upsert set name score => rw [gone_upsert]; rfl
  | range set low high => rw [gone_range]; rfl
  | removeRange set low high =>
    rw [gone_removeRange]
    have h := (s.members set).size_filter (fun e => !Members.within low high e)
    change (s.members set).size - ((s.members set).removeRange low high).size = _
    simp only [Members.removeRange]
    omega
  | remove set name =>
    rw [gone_remove]
    have hfilter := (s.members set).size_filter (fun e => e.1 != name)
    have herase := (s.members set).size_erase name
    change ((s.members set).score? name).isSome.toNat = _
    simp only [Members.erase] at herase
    omega

/-- **Sizes.** A set gains the member that was inserted and loses those that disappeared. -/
theorem size_after (d : Deed) : (d.after.members d.call.set).size + d.removed =
    (d.before.members d.call.set).size + d.inserts.toNat := by
  obtain ⟨s, call⟩ := d
  rw [removed_eq]
  cases call with
  | upsert set name score =>
    rw [gone_upsert]
    simp only [after, Call.set, MemoryStore.members_upsert, if_true, List.length_nil]
    exact (s.members set).size_upsert name score
  | range set low high => rw [gone_range]; rfl
  | removeRange set low high =>
    rw [gone_removeRange]
    simp only [after, Call.set, MemoryStore.members_removeRange, if_true]
    exact (s.members set).size_filter (fun e => !Members.within low high e)
  | remove set name =>
    rw [gone_remove]
    simp only [after, Call.set, MemoryStore.members_remove, if_true]
    exact (s.members set).size_filter (fun e => e.1 != name)

/-- Whether a call puts this member into this set, which did not have it. -/
def enters (d : Deed) (set name : String) : Bool := d.inserts && (d.call.scored? set name).isSome

/-- Whether this member of this set disappears. -/
def vanishes (d : Deed) (set name : String) : Bool :=
  d.call.set == set && d.gone.any (fun e => e.1 == name)

theorem vanishes_self (d : Deed) (name : String) : d.vanishes d.call.set name =
    ((d.before.score? d.call.set name).isSome && (d.after.score? d.call.set name).isNone) := by
  rw [vanishes, beq_self_eq_true, Bool.true_and, Bool.eq_iff_iff, List.any_eq_true, Bool.and_eq_true]
  constructor
  · rintro ⟨e, he, hname⟩
    obtain ⟨he, hafter⟩ := List.mem_filter.mp he
    rw [beq_iff_eq] at hname
    subst hname
    have hbefore := Members.score?_of_mem _ he
    exact ⟨by rw [MemoryStore.score?, hbefore]; rfl, hafter⟩
  · rintro ⟨hbefore, hafter⟩
    obtain ⟨score, hscore⟩ := Option.isSome_iff_exists.mp hbefore
    exact ⟨(name, score), List.mem_filter.mpr ⟨Members.mem_of_score? _ hscore, hafter⟩, by simp⟩

/-- A call that scores a member puts it into its set when the set does not have it. -/
theorem enters_scored {d : Deed} {set name : String} {score : Int64}
    (h : d.call.scored? set name = some score) :
    d.enters set name = (d.before.score? set name).isNone := by
  obtain ⟨s, call⟩ := d
  cases call with
  | upsert other member _ =>
    simp only [Call.scored?, Option.ite_none_right_eq_some] at h
    obtain ⟨⟨rfl, rfl⟩, -⟩ := h
    simp [enters, inserts, Call.scored?]
  | range | removeRange | remove => cases h

/-- **Presence.** A name that was put into a set is in it, one that disappeared is not,
and nothing else happens to it. -/
theorem presence_after (d : Deed) (set name : String) :
    (d.after.score? set name).isSome.toNat + (d.vanishes set name).toNat =
      (d.before.score? set name).isSome.toNat + (d.enters set name).toNat := by
  by_cases hset : set = d.call.set
  · subst hset
    rw [vanishes_self]
    rcases d.before.score?_after d.call.set name d.call with hafter | ⟨hscored, hafter⟩
    · change d.after.score? d.call.set name = _ at hafter
      cases hscored : d.call.scored? d.call.set name with
      | none => rw [hafter, hscored]; simp [enters, hscored]
      | some score =>
        rw [hafter, enters_scored hscored, hscored]
        cases d.before.score? d.call.set name <;> rfl
    · change d.after.score? d.call.set name = _ at hafter
      rw [hafter]
      simp only [enters, hscored]
      cases d.before.score? d.call.set name <;> simp
  · have hafter : d.after.score? set name = d.before.score? set name :=
      congrArg (Members.score? · name) (d.before.members_store set hset)
    have hvanishes : d.vanishes set name = false := by
      have hne : (d.call.set == set) = false := by simpa using Ne.symm hset
      rw [vanishes, hne, Bool.false_and]
    have henters : d.enters set name = false := by
      cases hscored : d.call.scored? set name with
      | none => simp [enters, hscored]
      | some score =>
        rw [d.call.scored?_set hscored] at hset
        exact absurd rfl hset
    rw [hafter, hvanishes, henters]

end Deed

/-! ## What a store remembers -/

/-- The deeds, latest first, that make one store of another. -/
inductive History (s₀ : MemoryStore) : List Deed → MemoryStore → Prop
  | nil : History s₀ [] s₀
  | cons (d : Deed) {deeds : List Deed} :
      History s₀ deeds d.before → History s₀ (d :: deeds) d.after

/-- The deeds on one set. -/
def Deed.on (set : String) (deeds : List Deed) : List Deed := deeds.filter (·.call.set == set)

/-- The books of a store that was `s₀` once. -/
structure Balanced (s₀ : MemoryStore) (deeds : List Deed) (s : MemoryStore) : Prop where
  /-- The deeds are all that happened to the store. -/
  history : History s₀ deeds s
  answers : ∀ d ∈ deeds, ∃ r, d.answer = .ok r
  /-- What disappears through a call is what it reports. -/
  reports : ∀ d ∈ deeds, d.removed = d.gone.length
  /-- No other set changes. -/
  apart : ∀ d ∈ deeds, ∀ set, set ≠ d.call.set → d.after.members set = d.before.members set
  /-- The members now are those at first and those inserted, less those reported. -/
  sizes : ∀ set, (s.members set).size + ((Deed.on set deeds).map Deed.removed).sum =
    (s₀.members set).size + (Deed.on set deeds).countP Deed.inserts
  /-- Each name disappears as often as it was there at first or inserted and is not now. -/
  names : ∀ set name,
    (s.score? set name).isSome.toNat + deeds.countP (·.vanishes set name) =
      (s₀.score? set name).isSome.toNat + deeds.countP (·.enters set name)
  once : ∀ set, ((s.members set).entries.map Prod.fst).Nodup
  /-- A member has the score of its latest upsert, or else its score at first. -/
  scores : ∀ set name score, s.score? set name = some score →
    (deeds.findSome? (·.call.scored? set name)).or (s₀.score? set name) = some score

namespace History

variable {s₀ s : MemoryStore} {deeds : List Deed}

theorem sizes (h : History s₀ deeds s) (set : String) :
    (s.members set).size + ((Deed.on set deeds).map Deed.removed).sum =
      (s₀.members set).size + (Deed.on set deeds).countP Deed.inserts := by
  induction h with
  | nil => simp [Deed.on]
  | cons d _ ih =>
    by_cases hset : d.call.set = set
    · subst hset
      have hsize := d.size_after
      simp only [Deed.on, List.filter_cons, beq_self_eq_true, if_true, List.map_cons,
        List.sum_cons, List.countP_cons] at ih ⊢
      cases hi : d.inserts with
      | true => rw [hi, Bool.toNat_true] at hsize; simp only [if_true]; omega
      | false => rw [hi, Bool.toNat_false] at hsize; simp only [Bool.false_eq_true, if_false]; omega
    · have hne : (d.call.set == set) = false := by simpa using hset
      have hafter : d.after.members set = d.before.members set :=
        d.before.members_store set (Ne.symm hset)
      simp only [Deed.on, List.filter_cons, hne, hafter, Bool.false_eq_true, if_false] at ih ⊢
      exact ih

theorem names (h : History s₀ deeds s) (set name : String) :
    (s.score? set name).isSome.toNat + deeds.countP (·.vanishes set name) =
      (s₀.score? set name).isSome.toNat + deeds.countP (·.enters set name) := by
  induction h with
  | nil => rfl
  | cons d _ ih =>
    have hpresence := d.presence_after set name
    rw [List.countP_cons, List.countP_cons]
    cases hv : d.vanishes set name <;> cases he : d.enters set name <;>
      simp [hv, he] at hpresence ⊢ <;> omega

theorem scores (h : History s₀ deeds s) (set name : String) (score : Int64)
    (hs : s.score? set name = some score) :
    (deeds.findSome? (·.call.scored? set name)).or (s₀.score? set name) = some score := by
  induction h with
  | nil => exact hs
  | cons d _ ih =>
    rw [List.findSome?_cons]
    rcases d.before.score?_after set name d.call with hafter | ⟨hscored, hafter⟩
    · have hscored : d.call.scored? set name = some score := hafter.symm.trans hs
      rw [hscored]
      rfl
    · rw [hscored]
      exact ih (hafter.symm.trans hs)

theorem balanced (h : History s₀ deeds s) : Balanced s₀ deeds s where
  history := h
  answers d _ := d.answer_ok
  reports d _ := d.removed_eq
  apart d _ set hset := d.before.members_store set hset
  sizes := h.sizes
  names := h.names
  once set := (s.members set).distinct
  scores := h.scores

end History

/-! ## Crowds -/

/-- Clients of one store, and what they did to it, the latest first. A node is a new
client with each of its passes. -/
structure Crowd (α : Type) where
  store : MemoryStore
  clients : List (Task storeCalls α) := []
  deeds : List Deed := []

namespace Crowd

variable {α : Type}

inductive Move (α : Type) where
  | join (client : Task storeCalls α)
  /-- The client at this place makes its next call, if it has one. -/
  | step (place : Nat)

def next (c : Crowd α) : Move α → Crowd α
  | .join client => { c with clients := c.clients ++ [client] }
  | .step place =>
    match c.clients[place]? with
    | some (.ask call go) =>
      { store := (MemoryStore.store call c.store).2
        clients := c.clients.set place (go (MemoryStore.store call c.store).1)
        deeds := ⟨c.store, call⟩ :: c.deeds }
    | _ => c

def run (moves : List (Move α)) (c : Crowd α) : Crowd α := moves.foldl next c

theorem history_next {s₀ : MemoryStore} {c : Crowd α} (m : Move α)
    (h : History s₀ c.deeds c.store) : History s₀ (c.next m).deeds (c.next m).store := by
  cases m with
  | join client => exact h
  | step place =>
    simp only [next]
    split
    · exact .cons ⟨c.store, _⟩ h
    · exact h

theorem history_run {s₀ : MemoryStore} {c : Crowd α} (moves : List (Move α))
    (h : History s₀ c.deeds c.store) : History s₀ (c.run moves).deeds (c.run moves).store := by
  induction moves generalizing c with
  | nil => exact h
  | cons m ms ih => exact ih (history_next m h)

end Crowd

/-! ## Races -/

/-- The calls of passes over one range of scores in one set. -/
def Call.Sweeps (pool : String) (bound : Int64) (c : Call) : Prop :=
  (∃ name score, c = .upsert pool name score) ∨ c = .range pool 0 bound ∨
    c = .removeRange pool 0 bound

/-- A pass over the members of a set that are scored from 0 to `bound`, or the rest of one. -/
inductive Racing (pool : String) (bound : Int64) : Task storeCalls (Except Error Report) → Prop
  | beat {config : Config} (name : String) {now : Int64} :
      config.pool = pool → config.staleBefore now = bound →
      Racing pool bound (pass config (some name) now)
  | sweep {config : Config} {now : Int64} :
      config.pool = pool → config.staleBefore now = bound → Racing pool bound (sweep config now)
  | removing (now : Int64) (stale : List String) :
      Racing pool bound (call (.removeRange pool 0 bound)
        (fun removed => .done (.ok ⟨now, bound, stale, removed⟩)))
  | done (report : Report) : Racing pool bound (.done (.ok report))

/-- How many members a pass says that it removed, once it is over. -/
def reported : Task storeCalls (Except Error Report) → Nat
  | .done (.ok report) => report.removed
  | _ => 0

theorem racing_pass {config : Config} (name : Option String) (now : Int64) :
    Racing config.pool (config.staleBefore now) (pass config name now) := by
  cases name with
  | some name => exact .beat name rfl rfl
  | none => exact .sweep rfl rfl

/-- **One call of a race.** It is a call over the range, and a pass that is over with it
reports what the call reported. -/
theorem Racing.ask {pool : String} {bound : Int64} {c : Call}
    {go : Except Error c.Result → Task storeCalls (Except Error Report)}
    (h : Racing pool bound (.ask c go)) : c.Sweeps pool bound ∧ ∀ r : c.Result,
      Racing pool bound (go (.ok r)) ∧ reported (go (.ok r)) = c.removals (.ok r) := by
  generalize ht : (.ask c go : Task storeCalls (Except Error Report)) = t at h
  cases h with
  | beat name hpool hbound =>
    cases ht
    exact ⟨.inl ⟨name, _, by rw [hpool]⟩, fun _ => ⟨.sweep hpool hbound, rfl⟩⟩
  | sweep hpool hbound =>
    cases ht
    refine ⟨.inr (.inl (by rw [hpool, hbound])), fun stale => ⟨?_, rfl⟩⟩
    rw [hpool, hbound]
    exact .removing _ stale
  | removing now stale =>
    cases ht
    exact ⟨.inr (.inr rfl), fun removed => ⟨.done _, rfl⟩⟩
  | done report => cases ht

/-- What disappears through a call of a race was scored from 0 to `bound`. -/
theorem Call.Sweeps.gone {pool : String} {bound : Int64} {c : Call} (h : c.Sweeps pool bound)
    (s : MemoryStore) : ∀ e ∈ (⟨s, c⟩ : Deed).gone, 0 ≤ e.2 ∧ e.2 ≤ bound := by
  intro e he
  rcases h with ⟨name, score, rfl⟩ | rfl | rfl
  · rw [Deed.gone_upsert] at he
    cases he
  · rw [Deed.gone_range] at he
    cases he
  · rw [Deed.gone_removeRange] at he
    have hwithin := (List.mem_filter.mp he).2
    simpa [Members.within] using hwithin

/-- The reports of passes, one of which went on. -/
theorem reported_set {clients : List (Task storeCalls (Except Error Report))} {i : Nat}
    {t : Task storeCalls (Except Error Report)} (t' : Task storeCalls (Except Error Report))
    (h : clients[i]? = some t) (ht : reported t = 0) :
    ((clients.set i t').map reported).sum = (clients.map reported).sum + reported t' := by
  induction clients generalizing i with
  | nil => cases h
  | cons x xs ih =>
    cases i with
    | zero =>
      cases h
      simp only [List.set_cons_zero, List.map_cons, List.sum_cons, ht]
      omega
    | succ i =>
      have hxs := ih (i := i) (by simpa using h)
      simp only [List.set_cons_succ, List.map_cons, List.sum_cons, hxs]
      omega

namespace Crowd

/-- A new pass over the members of a set that are scored from 0 to `bound`. -/
def Move.Races (pool : String) (bound : Int64) : Move (Except Error Report) → Prop
  | .join client => ∃ config name now, client = pass config name now ∧
      config.pool = pool ∧ config.staleBefore now = bound
  | .step _ => True

/-- Passes that race, and what they did. -/
structure Race (pool : String) (bound : Int64) (c : Crowd (Except Error Report)) : Prop where
  clients : ∀ t ∈ c.clients, Racing pool bound t
  deeds : ∀ d ∈ c.deeds, d.call.Sweeps pool bound
  reports : (c.clients.map reported).sum = (c.deeds.map (·.gone.length)).sum

/-- **Step lemma.** What passes report grows by what disappears. -/
theorem race_next {pool : String} {bound : Int64} {c : Crowd (Except Error Report)}
    {m : Move (Except Error Report)} (hm : m.Races pool bound) (h : c.Race pool bound) :
    (c.next m).Race pool bound := by
  cases m with
  | join client =>
    obtain ⟨config, name, now, rfl, rfl, rfl⟩ := hm
    refine ⟨fun t ht => ?_, h.deeds, ?_⟩
    · rcases List.mem_append.mp ht with ht | ht
      · exact h.clients t ht
      · rw [List.mem_singleton.mp ht]
        exact racing_pass name now
    · have hzero : reported (pass config name now) = 0 := by cases name <;> rfl
      simp only [next, List.map_append, List.sum_append, List.map_cons, List.map_nil,
        List.sum_cons, List.sum_nil, hzero]
      exact h.reports
  | step place =>
    simp only [next]
    split
    · next call go hplace =>
      obtain ⟨hcall, hgo⟩ := (h.clients _ (List.mem_of_getElem? hplace)).ask
      obtain ⟨r, hr⟩ := Deed.answer_ok ⟨c.store, call⟩
      have hr : (MemoryStore.store call c.store).1 = .ok r := hr
      obtain ⟨hracing, hreport⟩ := hgo r
      rw [hr]
      refine ⟨fun t ht => ?_, fun d hd => ?_, ?_⟩
      · rcases List.mem_or_eq_of_mem_set ht with ht | rfl
        · exact h.clients t ht
        · exact hracing
      · rcases List.mem_cons.mp hd with rfl | hd
        · exact hcall
        · exact h.deeds d hd
      · have hremoved : reported (go (.ok r)) = (⟨c.store, call⟩ : Deed).gone.length := by
          rw [← Deed.removed_eq, hreport]
          exact congrArg call.removals hr.symm
        rw [reported_set (go (.ok r)) hplace rfl, h.reports, hremoved, List.map_cons,
          List.sum_cons]
        omega
    · exact h

/-- **Run lemma.** -/
theorem race_run {pool : String} {bound : Int64} {c : Crowd (Except Error Report)}
    {moves : List (Move (Except Error Report))} (hmoves : ∀ m ∈ moves, m.Races pool bound)
    (h : c.Race pool bound) : (c.run moves).Race pool bound := by
  induction moves generalizing c with
  | nil => exact h
  | cons m ms ih =>
    exact ih (fun m hm => hmoves m (List.mem_cons_of_mem _ hm))
      (race_next (hmoves m (List.mem_cons_self ..)) h)

/-- A store that nobody calls yet. -/
def quiet (store : MemoryStore) : Crowd α := { store }

/-- **No removal is lost or counted twice.** Whatever clients come, and however their
calls are interleaved, the books of the store balance. Passes over one range of scores
never fail, and report together as many removals as members disappeared, each of which
was scored in the range. -/
theorem removals_conserved :
    (∀ (α : Type) (s₀ : MemoryStore) (moves : List (Move α)),
      Balanced s₀ ((quiet s₀).run moves).deeds ((quiet s₀).run moves).store) ∧
    ∀ (s₀ : MemoryStore) (moves : List (Move (Except Error Report))) (pool : String)
      (bound : Int64), (∀ m ∈ moves, m.Races pool bound) →
      (∀ e, .done (.error e) ∉ ((quiet s₀).run moves).clients) ∧
      (((quiet s₀).run moves).clients.map reported).sum =
        (((quiet s₀).run moves).deeds.map (·.gone.length)).sum ∧
      ∀ d ∈ ((quiet s₀).run moves).deeds,
        d.call.set = pool ∧ ∀ e ∈ d.gone, 0 ≤ e.2 ∧ e.2 ≤ bound := by
  constructor
  · intro α s₀ moves
    exact (history_run moves .nil).balanced
  · intro s₀ moves pool bound hmoves
    have hrace : ((quiet s₀).run moves).Race pool bound :=
      race_run hmoves ⟨by simp [quiet], by simp [quiet], rfl⟩
    refine ⟨fun e he => ?_, hrace.reports, fun d hd => ?_⟩
    · generalize ht : (.done (.error e) : Task storeCalls (Except Error Report)) = t at he
      cases hrace.clients t he with
      | beat | sweep | removing | done => cases ht
    · have hcall := hrace.deeds d hd
      refine ⟨?_, hcall.gone d.before⟩
      obtain ⟨s, call⟩ := d
      rcases hcall with ⟨name, score, rfl⟩ | rfl | rfl
      · rfl
      · rfl
      · rfl

/-- A worker and a coordinator begin a pass at once over two stale members. -/
def twoSweeps : List (Move (Except Error Report)) :=
  [.join (pass { interval := 20 } (some "w") 100), .join (pass { interval := 20 } none 100),
    .step 0, .step 1, .step 0, .step 1, .step 0]

/-- The second removal finds nothing left, and reports nothing. -/
theorem removals_conserved_two_sweeps :
    (((quiet (.ofList [("bidderspool", "a", 10), ("bidderspool", "b", 60),
      ("bidderspool", "c", 61)])).run twoSweeps).deeds.map (·.gone.length)).sum = 2 := by
  have hraces : ∀ m ∈ twoSweeps, m.Races "bidderspool" 60 := by
    intro m hm
    cases m with
    | step => trivial
    | join client =>
      simp only [twoSweeps, List.mem_cons, Move.join.injEq, List.not_mem_nil, reduceCtorEq,
        or_false] at hm
      rcases hm with rfl | rfl
      · exact ⟨_, _, _, rfl, rfl, by decide⟩
      · exact ⟨_, _, _, rfl, rfl, by decide⟩
  rw [← (removals_conserved.2 _ _ _ _ hraces).2.1]
  decide +kernel

end Crowd

end BidFleet.Pool
