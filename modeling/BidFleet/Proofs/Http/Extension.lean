import BidFleet.Proofs.Http.Segments

/-!
Paths that grow. The segments of a path hold none of the marks that part a URL
(`Unmarked`): not those that are read from a text (`parse_unmarked`), and not those that
are added to it (`push_unmarked`). A name that is added counts without its tabs and line
ends. What is left of it stands at the end of the path, unless that is empty or dots, which
only move about there (`push_path`).
-/

namespace BidFleet.Http.Url

/-! ## Marks -/

/-- Whether no segment of a path holds a slash, a question mark or a hash. -/
def Unmarked (path : List String) : Prop :=
  ∀ segment ∈ path, '/' ∉ segment.toList ∧ '?' ∉ segment.toList ∧ '#' ∉ segment.toList

theorem Unmarked.mono {path path' : List String} (h : Unmarked path) (hsub : path' ⊆ path) :
    Unmarked path' :=
  fun segment hs => h segment (hsub hs)

theorem Unmarked.append {path path' : List String} (h : Unmarked path) (h' : Unmarked path') :
    Unmarked (path ++ path') := by
  intro segment hs
  rcases List.mem_append.mp hs with hs | hs
  · exact h segment hs
  · exact h' segment hs

theorem unmarked_empty : Unmarked [""] := by
  intro segment hs
  rw [List.mem_singleton.mp hs]
  decide

/-- A mark in an escaped text was in the text, and is not escaped. -/
theorem mem_escape {reserved : UInt8 → Bool} {text : List Char} {c : Char}
    (hc : c = '/' ∨ c = '?' ∨ c = '#') (h : c ∈ (escape reserved text).toList) :
    c ∈ text ∧ reserved (UInt8.ofNat c.toNat) = false := by
  have hrange : c.toNat < 128 ∧ c.toNat ≠ 37 ∧ ¬(48 ≤ c.toNat ∧ c.toNat ≤ 57) ∧
      ¬(65 ≤ c.toNat ∧ c.toNat ≤ 70) := by
    rcases hc with rfl | rfl | rfl <;> decide
  rw [escape, String.toList_ofList] at h
  obtain ⟨x, hx, hchar⟩ := List.mem_map.mp h
  have hnat : x.toNat = c.toNat := by rw [← hchar, Utf8.toNat_ofNat_octet]
  rcases Percent.mem_encode hx with rfl | ⟨n, hn, rfl⟩ | ⟨hmem, hfree⟩
  · exact absurd hnat.symm hrange.2.1
  · rw [Percent.hexDigit_toNat hn] at hnat
    split at hnat <;> omega
  · have hoctet : x = UInt8.ofNat c.toNat := by rw [← hnat, UInt8.ofNat_toNat]
    rw [← hoctet]
    exact ⟨Utf8.mem_of_octet hrange.1 (hoctet ▸ hmem), hfree⟩

/-- The pieces of a path, escaped. -/
theorem unmarked_escape {parts : List (List Char)} (h : ∀ p ∈ parts, '/' ∉ p) :
    Unmarked (parts.map (escape inPath)) := by
  intro segment hs
  obtain ⟨p, hp, rfl⟩ := List.mem_map.mp hs
  refine ⟨fun hc => h p hp (mem_escape (.inl rfl) hc).1, fun hc => ?_, fun hc => ?_⟩
  · exact absurd (mem_escape (.inr (.inl rfl)) hc).2 (by decide)
  · exact absurd (mem_escape (.inr (.inr rfl)) hc).2 (by decide)

theorem unmarked_escaped (name : String) : Unmarked [escaped name] := by
  intro segment hs
  rw [List.mem_singleton.mp hs]
  exact ⟨not_mem_escaped name (.inl rfl), not_mem_escaped name (.inr (.inl rfl)),
    not_mem_escaped name (.inr (.inr rfl))⟩

/-! ## Paths that are read -/

theorem parent_subset (path : List String) : parent path ⊆ path := by
  unfold parent
  split
  · exact fun _ h => h
  · exact List.dropLast_subset path

theorem resolve_unmarked {path segments : List String} (hpath : Unmarked path)
    (hsegments : Unmarked segments) : Unmarked (resolve path segments) := by
  induction segments generalizing path with
  | nil => exact hpath
  | cons segment rest ih =>
    have hsegment : Unmarked [segment] := hsegments.mono (by simp)
    have hparent : Unmarked (parent path) := hpath.mono (parent_subset path)
    cases rest with
    | nil =>
      rw [resolve]
      split
      · exact hparent.append unmarked_empty
      · split
        · exact hpath.append unmarked_empty
        · exact hpath.append hsegment
    | cons next rest =>
      have hrest : Unmarked (next :: rest) := hsegments.mono (by simp)
      rw [resolve]
      · split
        · exact ih hparent hrest
        · split
          · exact ih hpath hrest
          · exact ih (hpath.append hsegment) hrest
      · simp

theorem readPath_unmarked (text : List Char) : Unmarked (readPath text) := by
  have hpieces : ∀ p ∈ pieces text, '/' ∉ p := Text.not_mem_split '/' _
  have hnil : Unmarked [] := fun _ h => absurd h List.not_mem_nil
  unfold readPath
  split
  · next first rest heq =>
    refine resolve_unmarked hnil (unmarked_escape fun p hp => hpieces p ?_)
    rw [heq]
    exact List.mem_cons_of_mem _ hp
  · exact resolve_unmarked hnil (unmarked_escape hpieces)

theorem readAuthority_unmarked {scheme : String} {domains : Bool} {text : List Char} {url : Url}
    (h : readAuthority scheme domains text = .ok url) : Unmarked url.path := by
  simp only [readAuthority, bind, Except.bind] at h
  split at h
  · cases h
  split at h
  · cases h
  split at h
  · cases h
  cases h
  exact readPath_unmarked _

/-- **The path of a URL that was read holds no marks.** -/
theorem parse_unmarked {text : String} {url : Url} (h : parse text = .ok (.hosted url)) :
    Unmarked url.path := by
  unfold parse at h
  split at h
  · cases h
  next scheme rest _ =>
  split at h
  · simp only [Except.map] at h
    split at h
    · cases h
    next url' hread =>
    cases h
    exact readAuthority_unmarked hread
  · -- another scheme gives no URL with a host
    split at h
    · simp only [Except.map] at h
      split at h <;> cases h
    · split at h
      · simp only [Except.map] at h
        split at h <;> cases h
      · cases h

theorem withoutUser_path (url : Url) : url.withoutUser.path = url.path := by
  simp only [withoutUser]
  split <;> rfl

/-! ## Paths that are added to -/

theorem ignored_counted {name : String} {c : Char} (h : c ∈ (counted name).toList) :
    ignored c = false := by
  rw [counted, String.toList_ofList] at h
  simpa using (List.mem_filter.mp h).2

/-- The name that a path carries for one that is added to it, if it carries one. -/
def carriedAs? (name : String) : Option String :=
  if name = "." ∨ name = ".." then none
  else if Carries (counted name) then some (counted name)
  else none

theorem carriedAs?_eq_self_iff {name : String} : carriedAs? name = some name ↔ Carries name := by
  constructor
  · intro h
    unfold carriedAs? at h
    split at h
    · cases h
    split at h
    · next hcarries =>
      rw [Option.some.injEq] at h
      exact h ▸ hcarries
    · cases h
  · intro h
    have hdots : ¬(name = "." ∨ name = "..") := not_or.mpr ⟨h.2.1, h.2.2.1⟩
    rw [carriedAs?, if_neg hdots, counted_of_carries h, if_pos h]

/-- A name without characters that do not count is lost when it is empty or dots. -/
theorem counted_lost {name : String} (h : ¬Carries (counted name)) :
    counted name = "" ∨ counted name = "." ∨ counted name = ".." := by
  by_cases hempty : counted name = ""
  · exact .inl hempty
  by_cases hdot : counted name = "."
  · exact .inr (.inl hdot)
  by_cases hdouble : counted name = ".."
  · exact .inr (.inr hdouble)
  exact absurd ⟨hempty, hdot, hdouble, fun c hc => ignored_eq_false_iff.mp (ignored_counted hc)⟩ h

/-- **Where a name leads.** It stands at the end of the path as what counts of it; else it
is not there: the path is as it was, or ends with an empty segment. -/
theorem push_path {url : Url} (hroot : url.atRoot = false) (name : String) :
    match carriedAs? name with
    | some other => Carries other ∧ (url.push name).path = url.path ++ [escaped other]
    | none => (url.push name).path = url.path ∨ (url.push name).path = url.path ++ [""] ∨
        (url.push name).path = parent url.path ++ [""] := by
  by_cases hdots : name = "." ∨ name = ".."
  · rw [carriedAs?, if_pos hdots, push_dots hdots]
    exact .inl rfl
  rw [carriedAs?, if_neg hdots, push_counted hdots, hroot, if_neg Bool.false_ne_true]
  by_cases hcarries : Carries (counted name)
  · rw [if_pos hcarries]
    exact ⟨hcarries, resolve_carried hcarries url.path⟩
  · rw [if_neg hcarries]
    rcases counted_lost hcarries with h | h | h
    · have hempty : escaped "" = "" := by decide
      have hdot : isDot (escaped "") = false := escaped_not_dot (by decide)
      have hdouble : isDoubleDot (escaped "") = false := escaped_not_doubleDot (by decide)
      rw [h, resolve, hdouble, hdot, hempty]
      exact .inr (.inl rfl)
    · have hsame : escaped "." = "." := by decide
      have hdot : isDot (escaped ".") = true := by simp [hsame, isDot]
      have hdouble : isDoubleDot (escaped ".") = false := escaped_not_doubleDot (by decide)
      rw [h, resolve, hdouble, hdot]
      exact .inr (.inl rfl)
    · have hsame : escaped ".." = ".." := by decide
      have hdouble : isDoubleDot (escaped "..") = true := by simp [hsame, isDoubleDot]
      rw [h, resolve, hdouble]
      exact .inr (.inr rfl)

theorem popIfEmpty_unmarked {url : Url} (h : Unmarked url.path) : Unmarked url.popIfEmpty.path := by
  unfold popIfEmpty
  split
  · exact h
  · split
    · exact h.mono (List.dropLast_subset _)
    · exact h

theorem push_unmarked {url : Url} (h : Unmarked url.path) (name : String) :
    Unmarked (url.push name).path := by
  by_cases hdots : name = "." ∨ name = ".."
  · rw [push_dots hdots]
    exact h
  · rw [push_counted hdots]
    have hfront : Unmarked (if url.atRoot = true then [] else url.path) := by
      cases url.atRoot
      · exact h
      · exact fun _ hs => absurd hs List.not_mem_nil
    exact resolve_unmarked hfront (unmarked_escaped (counted name))

end BidFleet.Http.Url
