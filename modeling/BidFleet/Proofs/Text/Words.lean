import BidFleet.Proofs.Text.Cuts

/-!
Words in texts. A word occurs in a text when it is an infix of it (`occurs_iff`).
Where a text is put together at a separator, a word without the separator stands on
one side (`infix_between`), a word that ends with it stands behind a suffix
(`infix_closed`), and a word that begins with it before a prefix (`infix_opened`).
Separators behind a text end no word but those that end with one (`infix_padded`).
-/

namespace BidFleet.Text

variable {sep : Char} {word text a b : List Char}

/-! ## Finding words -/

theorem stripStart?_eq_some {rest : List Char} :
    stripStart? word text = some rest ↔ text = word ++ rest := by
  unfold stripStart?
  induction word generalizing text with
  | nil =>
    have hnil : List.isPrefixOf? [] text = some text := by cases text <;> rfl
    simp [hnil, eq_comm]
  | cons c cs ih =>
    cases text with
    | nil =>
      have hnil : List.isPrefixOf? (c :: cs) [] = none := rfl
      simp [hnil]
    | cons d ds =>
      have hcons : List.isPrefixOf? (c :: cs) (d :: ds) =
          if c == d then List.isPrefixOf? cs ds else none := rfl
      rw [hcons, List.cons_append, List.cons.injEq]
      by_cases h : c = d
      · simp [h, ih]
      · simp [h, Ne.symm h]

/-- No word stands at the start where another one does that neither begins. -/
theorem stripStart?_eq_none {other : List Char} (hother : other <+: text) (h : ¬word <+: other)
    (h' : ¬other <+: word) : stripStart? word text = none := by
  rw [Option.eq_none_iff_forall_ne_some]
  intro rest hrest
  have hword : word <+: text := ⟨rest, (stripStart?_eq_some.mp hrest).symm⟩
  exact (List.prefix_or_prefix_of_prefix hword hother).elim h h'

theorem afterWord?_isSome : (afterWord? word text).isSome = true ↔ word <:+: text := by
  have hstrip (s : List Char) : (stripStart? word s).isSome = true ↔ word <+: s := by
    rw [Option.isSome_iff_exists]
    constructor
    · rintro ⟨rest, h⟩
      exact ⟨rest, (stripStart?_eq_some.mp h).symm⟩
    · rintro ⟨rest, h⟩
      exact ⟨rest, stripStart?_eq_some.mpr h.symm⟩
  induction text with
  | nil => rw [afterWord?, hstrip, List.prefix_nil, List.infix_nil]
  | cons c cs ih =>
    rw [List.infix_cons_iff, ← hstrip, afterWord?]
    cases stripStart? word (c :: cs) with
    | none => simpa using ih
    | some rest => simp

theorem afterWord?_eq_none : afterWord? word text = none ↔ ¬word <:+: text := by
  rw [← afterWord?_isSome]
  cases afterWord? word text <;> simp

theorem occurs_iff : occurs word text = true ↔ word <:+: text := afterWord?_isSome

/-- **The rest of a text behind a word** that does not occur before its last character. -/
theorem afterWord?_append (h : ¬word <:+: a ++ word.dropLast) (rest : List Char) :
    afterWord? word (a ++ (word ++ rest)) = some rest := by
  induction a with
  | nil =>
    have hstrip := stripStart?_eq_some.mpr (rfl : word ++ rest = word ++ rest)
    rw [List.nil_append]
    cases htext : word ++ rest with
    | nil => rwa [afterWord?, ← htext]
    | cons c cs => rw [afterWord?, ← htext, hstrip]
  | cons c cs ih =>
    have hearlier : stripStart? word (c :: (cs ++ (word ++ rest))) = none := by
      rw [Option.eq_none_iff_forall_ne_some]
      intro other hother
      -- an occurrence at the start would end before the last character
      have hlong : word.length ≤ (c :: cs ++ word.dropLast).length := by
        simp only [List.length_append, List.length_cons, List.length_dropLast]
        omega
      have htext : c :: cs ++ word.dropLast <+: c :: (cs ++ (word ++ rest)) := by
        have hdrop := (List.dropLast_prefix word).trans (List.prefix_append word rest)
        exact List.cons_prefix_cons.mpr ⟨rfl, (List.prefix_append_right_inj cs).mpr hdrop⟩
      have hword : word <+: c :: (cs ++ (word ++ rest)) :=
        ⟨other, (stripStart?_eq_some.mp hother).symm⟩
      exact h (List.prefix_of_prefix_length_le hword htext hlong).isInfix
    rw [List.cons_append, afterWord?, hearlier]
    exact ih (fun hlater => h (hlater.trans (List.suffix_cons c _).isInfix))

/-! ## Words and separators -/

theorem not_mem_of_infix (h : word <:+: a) (hsep : sep ∉ a) : sep ∉ word :=
  fun hw => hsep (h.subset hw)

theorem suffix_behind : b <:+ a ++ sep :: b :=
  (List.suffix_cons sep b).trans (List.suffix_append a (sep :: b))

/-- A word without the separator stands on one side of it. -/
theorem infix_between (h : sep ∉ word) : word <:+: a ++ sep :: b ↔ word <:+: a ∨ word <:+: b := by
  have empty {w : List Char} (hw : sep ∉ w) (hp : w <+: sep :: b) : w = [] := by
    rcases List.prefix_cons_iff.mp hp with rfl | ⟨t, rfl, -⟩
    · rfl
    · simp at hw
  constructor
  · intro hinfix
    rcases List.infix_append_iff.mp hinfix with ha | hb | ⟨front, back, rfl, hfront, hback⟩
    · exact .inl ha
    · rcases List.infix_cons_iff.mp hb with hp | hb
      · rw [empty h hp]
        exact .inl (List.nil_infix)
      · exact .inr hb
    · have hempty := empty (fun hs => h (List.mem_append_right _ hs)) hback
      rw [hempty, List.append_nil]
      exact .inl hfront.isInfix
  · rintro (ha | hb)
    · exact ha.trans (List.prefix_append a (sep :: b)).isInfix
    · exact hb.trans suffix_behind.isInfix

/-- A word without the separator that ends a text stands behind it. -/
theorem suffix_between (h : sep ∉ word) : word <:+ a ++ sep :: b ↔ word <:+ b := by
  constructor
  · intro hsuffix
    rcases List.suffix_or_suffix_of_suffix hsuffix (List.suffix_append a (sep :: b)) with hw | hb
    · rcases List.suffix_cons_iff.mp hw with rfl | hw
      · exact absurd (List.mem_cons_self ..) h
      · exact hw
    · exact absurd (hb.subset (List.mem_cons_self ..)) h
  · exact fun hb => hb.trans suffix_behind

/-- A word that ends with the separator, of which no other one is part. -/
theorem infix_closed (hw : sep ∉ word) (ha : sep ∉ a) :
    word ++ [sep] <:+: a ++ sep :: b ↔ word <:+ a ∨ word ++ [sep] <:+: b := by
  constructor
  · intro hinfix
    rcases List.infix_append_iff.mp hinfix with hx | hb | ⟨front, back, heq, hfront, hback⟩
    · exact absurd (hx.subset (by simp)) ha
    · rcases List.infix_cons_iff.mp hb with hp | hb
      · cases word with
        | nil => exact .inl (List.nil_suffix)
        | cons c cs =>
          have hc : c = sep := (List.cons_prefix_cons.mp hp).1
          simp [hc] at hw
      · exact .inr hb
    · rcases List.prefix_cons_iff.mp hback with rfl | ⟨t, rfl, -⟩
      · rw [List.append_nil] at heq
        exact absurd (hfront.subset (heq ▸ by simp)) ha
      · -- both sides are cut at their first separator
        have hcut := congrArg (before sep) heq
        rw [before_append hw, before_append (fun hs => ha (hfront.subset hs))] at hcut
        exact .inl (hcut ▸ hfront)
  · rintro (⟨front, rfl⟩ | hb)
    · exact ⟨front, b, by simp⟩
    · exact hb.trans suffix_behind.isInfix

/-- A word that begins with the separator. -/
theorem infix_opened (ha : sep ∉ a) :
    sep :: word <:+: a ++ sep :: b ↔ word <+: b ∨ sep :: word <:+: b := by
  constructor
  · intro hinfix
    rcases List.infix_append_iff.mp hinfix with hx | hb | ⟨front, back, heq, hfront, hback⟩
    · exact absurd (hx.subset (List.mem_cons_self ..)) ha
    · rcases List.infix_cons_iff.mp hb with hp | hb
      · exact .inl (List.cons_prefix_cons.mp hp).2
      · exact .inr hb
    · cases front with
      | nil =>
        rw [List.nil_append] at heq
        exact .inl (List.cons_prefix_cons.mp (heq ▸ hback)).2
      | cons c cs =>
        rw [List.cons_append, List.cons.injEq] at heq
        exact absurd (hfront.subset (heq.1 ▸ List.mem_cons_self ..)) ha
  · rintro (⟨rest, rfl⟩ | hb)
    · exact ⟨a, rest, by simp⟩
    · exact hb.trans suffix_behind.isInfix

/-- A word that ends with another character than the one at the end of a text is in
what stands before these. -/
theorem infix_padded {x : Char} (h : x ≠ sep) (n : Nat) :
    word ++ [x] <:+: a ++ List.replicate n sep ↔ word ++ [x] <:+: a := by
  induction n with
  | zero => simp
  | succ n ih =>
    have hend : ¬word ++ [x] <:+ a ++ List.replicate n sep ++ [sep] := by
      rintro ⟨front, heq⟩
      rw [← List.append_assoc] at heq
      exact h (List.singleton_inj.mp (List.append_inj' heq rfl).2)
    rw [List.replicate_succ', ← List.append_assoc, List.infix_concat_iff, ih]
    simp only [hend, false_or]

/-- The first pieces of a text and of its front are the same. -/
theorem prefix_joined {u w : List Char} (hu : sep ∉ u) (ha : sep ∉ a)
    (h : u ++ sep :: w <+: a ++ sep :: b) : u = a ∧ w <+: b := by
  obtain ⟨rest, h⟩ := h
  have hcut := congrArg (before sep) h
  rw [List.append_assoc, List.cons_append, before_append hu, before_append ha] at hcut
  subst hcut
  simp only [List.append_assoc, List.cons_append, List.append_cancel_left_eq, List.cons.injEq,
    true_and] at h
  exact ⟨rfl, rest, h⟩

end BidFleet.Text
