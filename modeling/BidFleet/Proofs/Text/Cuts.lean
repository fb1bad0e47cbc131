import BidFleet.Text.Segments

/-!
Cutting texts that were put together. A text without the separator is one piece,
and one that has it behind such a piece is cut right there. Separators at the end
are trimmed, however many there are.
-/

namespace BidFleet.Text

variable {sep : Char} {a : List Char}

theorem bne_of_not_mem (h : sep ∉ a) : ∀ c ∈ a, (c != sep) = true := by
  intro c hc
  simp only [bne_iff_ne, ne_eq]
  exact fun he => h (he ▸ hc)

theorem before_append_left (h : sep ∉ a) (b : List Char) :
    before sep (a ++ b) = a ++ before sep b :=
  List.takeWhile_append_of_pos (bne_of_not_mem h)

theorem before_append (h : sep ∉ a) (b : List Char) : before sep (a ++ sep :: b) = a := by
  rw [before_append_left h]
  simp [before]

theorem before_of_not_mem (h : sep ∉ a) : before sep a = a := by
  simpa [before] using before_append_left h []

theorem not_mem_before (sep : Char) (text : List Char) : sep ∉ before sep text := by
  induction text with
  | nil => simp [before]
  | cons c cs ih =>
    by_cases h : c = sep
    · simp [before, h]
    · simpa [before, h, Ne.symm h] using ih

/-- Behind the part before the first separator is nothing, or that separator. -/
theorem exists_behind (sep : Char) (text : List Char) :
    ∃ rest, (rest = [] ∨ ∃ r, rest = sep :: r) ∧ text = before sep text ++ rest := by
  induction text with
  | nil => exact ⟨[], .inl rfl, rfl⟩
  | cons c cs ih =>
    by_cases h : c = sep
    · exact ⟨c :: cs, .inr ⟨cs, by rw [h]⟩, by simp [before, h]⟩
    · obtain ⟨rest, hrest, htext⟩ := ih
      refine ⟨rest, hrest, ?_⟩
      have hkeep : before sep (c :: cs) = c :: before sep cs := by simp [before, h]
      rw [hkeep, List.cons_append, ← htext]

theorem after?_append (h : sep ∉ a) (b : List Char) : after? sep (a ++ sep :: b) = some b := by
  simp [after?, List.dropWhile_append_of_pos (bne_of_not_mem h)]

theorem after?_of_not_mem (h : sep ∉ a) : after? sep a = none := by
  have hdrop : (a ++ []).dropWhile (· != sep) = [].dropWhile (· != sep) :=
    List.dropWhile_append_of_pos (bne_of_not_mem h)
  simp only [List.append_nil, List.dropWhile_nil] at hdrop
  simp only [after?, hdrop]

theorem trimEnd_padded (a : List Char) (n : Nat) :
    trimEnd sep (a ++ List.replicate n sep) = trimEnd sep a := by
  have hpad : ∀ c ∈ List.replicate n sep, (c == sep) = true := by
    intro c hc
    simp [List.eq_of_mem_replicate hc]
  rw [trimEnd, trimEnd, List.reverse_append, List.reverse_replicate,
    List.dropWhile_append_of_pos hpad]

theorem split_eq_splitOn (sep : Char) (text : List Char) : split sep text = text.splitOn sep := by
  induction text with
  | nil => rfl
  | cons c cs ih =>
    rw [split, ih, List.splitOn, List.splitOn, List.splitOnP_cons_eq_if_modifyHead]
    by_cases h : c = sep
    · simp [h]
    · simp only [h, if_false, beq_iff_eq]
      cases hpieces : List.splitOnP (· == sep) cs with
      | nil => exact absurd hpieces (List.splitOnP_ne_nil _ cs)
      | cons piece pieces => rfl

theorem split_append_sep (a b : List Char) :
    split sep (a ++ sep :: b) = split sep a ++ split sep b := by
  simp only [split_eq_splitOn, List.splitOn]
  exact List.splitOnP_append_cons a b (beq_self_eq_true sep)

theorem split_of_not_mem (h : sep ∉ a) : split sep a = [a] := by
  induction a with
  | nil => rfl
  | cons c cs ih =>
    rw [List.mem_cons, not_or] at h
    rw [split, if_neg (Ne.symm h.1), ih h.2]

theorem split_append (h : sep ∉ a) (b : List Char) :
    split sep (a ++ sep :: b) = a :: split sep b := by
  rw [split_append_sep, split_of_not_mem h, List.singleton_append]

/-- No piece holds the separator. -/
theorem not_mem_split (sep : Char) (text : List Char) : ∀ p ∈ split sep text, sep ∉ p := by
  induction text with
  | nil => simp [split]
  | cons c cs ih =>
    intro p hp
    rw [split] at hp
    split at hp
    · rcases List.mem_cons.mp hp with rfl | hp
      · exact List.not_mem_nil
      · exact ih p hp
    next hne =>
    split at hp
    · rw [List.mem_singleton.mp hp, List.mem_singleton]
      exact Ne.symm hne
    · next piece pieces hcs =>
      rw [hcs] at ih
      rcases List.mem_cons.mp hp with rfl | hp
      · rw [List.mem_cons, not_or]
        exact ⟨Ne.symm hne, ih piece (List.mem_cons_self ..)⟩
      · exact ih p (List.mem_cons_of_mem _ hp)

/-- **Splitting takes joined pieces apart again.** -/
theorem split_join (pieces : List (List Char)) (hne : pieces ≠ []) (h : ∀ p ∈ pieces, sep ∉ p) :
    split sep (join sep pieces) = pieces := by
  induction pieces with
  | nil => exact absurd rfl hne
  | cons p ps ih =>
    have hp := h p (List.mem_cons_self ..)
    cases ps with
    | nil => exact split_of_not_mem hp
    | cons q qs =>
      rw [join, split_append hp, ih (by simp) (fun x hx => h x (List.mem_cons_of_mem _ hx))]
      simp

theorem not_mem_join {c : Char} {pieces : List (List Char)} (hc : c ≠ sep)
    (h : ∀ p ∈ pieces, c ∉ p) : c ∉ join sep pieces := by
  induction pieces with
  | nil => simp [join]
  | cons p ps ih =>
    have hp := h p (List.mem_cons_self ..)
    cases ps with
    | nil => exact hp
    | cons q qs =>
      have hrest := ih (fun x hx => h x (List.mem_cons_of_mem _ hx))
      rw [join]
      · simp only [List.mem_append, List.mem_cons, not_or]
        exact ⟨hp, hc, hrest⟩
      · simp

theorem intercalate_eq_join (pieces : List (List Char)) :
    [sep].intercalate pieces = join sep pieces := by
  induction pieces with
  | nil => rfl
  | cons p ps ih =>
    cases ps with
    | nil => simp [join]
    | cons q qs =>
      rw [join, ← ih]
      · simp
      · simp

end BidFleet.Text
