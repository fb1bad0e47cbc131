import BidFleet.Proofs.Text.Cuts

/-!
Texts laid out as pieces with separators around them: any number of these before the
first piece and behind the last one, and at least one between neighbours. The pieces are
the segments of the text (`segments_laid`), and every text is laid out like that
(`exists_laid`).
-/

namespace BidFleet.Text

variable {sep : Char}

/-- The segments of a text are its pieces that are not empty. -/
theorem segments_eq_filter (sep : Char) (text : List Char) :
    segments sep text = (text.splitOn sep).filter (· ≠ []) := by
  rw [segments, split_eq_splitOn]
  congr 1
  funext piece
  cases piece <;> rfl

/-- **Segments are cut at a separator**, wherever it stands. -/
theorem segments_append (a b : List Char) :
    segments sep (a ++ sep :: b) = segments sep a ++ segments sep b := by
  rw [segments, split_append_sep, List.filter_append, ← segments, ← segments]

theorem segments_cons_sep (b : List Char) : segments sep (sep :: b) = segments sep b :=
  segments_append [] b

/-- Separators at the front belong to no segment. -/
theorem segments_replicate (n : Nat) (b : List Char) :
    segments sep (List.replicate n sep ++ b) = segments sep b := by
  induction n with
  | zero => rfl
  | succ n ih => rw [List.replicate_succ, List.cons_append, segments_cons_sep, ih]

/-- A text without separators is one segment. -/
theorem segments_of_not_mem {a : List Char} (hne : a ≠ []) (h : sep ∉ a) :
    segments sep a = [a] := by
  rw [segments, split_of_not_mem h]
  simp [hne]

theorem mem_segments {text piece : List Char} (h : piece ∈ segments sep text) :
    piece ≠ [] ∧ sep ∉ piece := by
  obtain ⟨hmem, hne⟩ := List.mem_filter.mp h
  exact ⟨by simpa using hne, not_mem_split sep text piece hmem⟩

/-! ## Layouts -/

/-- Pieces, each with as many separators behind it as it comes with. -/
def spread (sep : Char) : List (List Char × Nat) → List Char
  | [] => []
  | (piece, gap) :: rest => piece ++ List.replicate gap sep ++ spread sep rest

/-- Pieces that are neither empty nor cut, kept apart from their neighbours. -/
def Apart (sep : Char) : List (List Char × Nat) → Prop
  | [] => True
  | (piece, gap) :: rest => piece ≠ [] ∧ sep ∉ piece ∧ (rest ≠ [] → 0 < gap) ∧ Apart sep rest

instance decidableApart (sep : Char) :
    (items : List (List Char × Nat)) → Decidable (Apart sep items)
  | [] => isTrue trivial
  | (piece, gap) :: rest =>
    have := decidableApart sep rest
    inferInstanceAs (Decidable (piece ≠ [] ∧ sep ∉ piece ∧ (rest ≠ [] → 0 < gap) ∧ Apart sep rest))

theorem not_mem_spread {c : Char} (hc : c ≠ sep) {items : List (List Char × Nat)}
    (h : ∀ item ∈ items, c ∉ item.1) : c ∉ spread sep items := by
  induction items with
  | nil => exact List.not_mem_nil
  | cons item rest ih =>
    have hpiece := h item (List.mem_cons_self ..)
    have hrest := ih (fun x hx => h x (List.mem_cons_of_mem _ hx))
    simp [spread, hpiece, hrest, hc]

theorem subset_spread {items : List (List Char × Nat)} {item : List Char × Nat}
    (h : item ∈ items) : item.1 ⊆ spread sep items := by
  induction items with
  | nil => cases h
  | cons first rest ih =>
    intro c hc
    rw [spread, List.mem_append, List.mem_append]
    rcases List.mem_cons.mp h with rfl | h
    · exact .inl (.inl hc)
    · exact .inr (ih h hc)

/-- **The segments of a layout** are its pieces. -/
theorem segments_spread {items : List (List Char × Nat)} (h : Apart sep items) :
    segments sep (spread sep items) = items.map Prod.fst := by
  induction items with
  | nil => rfl
  | cons item rest ih =>
    obtain ⟨piece, gap⟩ := item
    obtain ⟨hne, hsep, hgap, hrest⟩ := h
    cases gap with
    | zero =>
      -- only the last piece has nothing behind it
      have hlast : rest = [] :=
        Classical.byContradiction fun hmore => absurd (hgap hmore) (Nat.lt_irrefl 0)
      subst hlast
      simpa [spread] using segments_of_not_mem hne hsep
    | succ gap =>
      rw [spread, List.replicate_succ, List.append_assoc, List.cons_append, segments_append,
        segments_of_not_mem hne hsep, segments_replicate, ih hrest]
      rfl

theorem segments_laid (lead : Nat) {items : List (List Char × Nat)} (h : Apart sep items) :
    segments sep (List.replicate lead sep ++ spread sep items) = items.map Prod.fst := by
  rw [segments_replicate, segments_spread h]

/-- **Every text is laid out.** -/
theorem exists_laid (sep : Char) (text : List Char) : ∃ lead items,
    Apart sep items ∧ text = List.replicate lead sep ++ spread sep items := by
  induction text with
  | nil => exact ⟨0, [], trivial, rfl⟩
  | cons c cs ih =>
    obtain ⟨lead, items, hapart, rfl⟩ := ih
    by_cases hc : c = sep
    · subst hc
      exact ⟨lead + 1, items, hapart, by rw [List.replicate_succ, List.cons_append]⟩
    have hsingle : sep ∉ [c] := by simpa using Ne.symm hc
    cases lead with
    | succ lead =>
      -- the separators at the front come to stand behind the new piece
      refine ⟨0, ([c], lead + 1) :: items, ⟨by simp, hsingle, fun _ => by omega, hapart⟩, ?_⟩
      simp [spread]
    | zero =>
      cases items with
      | nil => exact ⟨0, [([c], 0)], ⟨by simp, hsingle, fun h => absurd rfl h, trivial⟩, rfl⟩
      | cons item rest =>
        obtain ⟨piece, gap⟩ := item
        obtain ⟨-, hsep, hgap, hrest⟩ := hapart
        have hlonger : sep ∉ c :: piece := by
          rw [List.mem_cons, not_or]
          exact ⟨Ne.symm hc, hsep⟩
        exact ⟨0, (c :: piece, gap) :: rest, ⟨by simp, hlonger, hgap, hrest⟩, by simp [spread]⟩

/-- A segment holds nothing that its text does not. -/
theorem subset_of_mem_segments {text piece : List Char} (h : piece ∈ segments sep text) :
    piece ⊆ text := by
  obtain ⟨lead, items, hapart, rfl⟩ := exists_laid sep text
  rw [segments_laid lead hapart] at h
  obtain ⟨item, hitem, rfl⟩ := List.mem_map.mp h
  intro c hc
  exact List.mem_append_right _ (subset_spread hitem hc)

/-- Segments joined again are the segments of what is joined. -/
theorem segments_join (sep : Char) (text : List Char) :
    segments sep ([sep].intercalate (segments sep text)) = segments sep text := by
  rw [intercalate_eq_join]
  cases hsegments : segments sep text with
  | nil => rfl
  | cons piece pieces =>
    have hmem : ∀ p ∈ piece :: pieces, p ≠ [] ∧ sep ∉ p := by
      intro p hp
      exact mem_segments (hsegments ▸ hp)
    rw [segments, split_join _ (by simp) (fun p hp => (hmem p hp).2)]
    apply List.filter_eq_self.mpr
    intro p hp
    simpa using (hmem p hp).1

end BidFleet.Text
