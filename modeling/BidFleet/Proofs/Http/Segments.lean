import BidFleet.Http.Url
import BidFleet.Proofs.Text.Cuts
import BidFleet.Proofs.Text.Octets

/-!
Names in paths. A name that is added to a path as a segment is escaped, so that it
holds none of the marks of a URL, and unescaping gives the name back. Only a name
that is empty, a dot or a double dot, or has characters that do not count, would
not stand in the path as itself.
-/

namespace BidFleet.Http.Url

open Utf8 (encodeChars)

/-- Whether a path carries a name as a segment of its own. -/
def Carries (name : String) : Prop :=
  name ≠ "" ∧ name ≠ "." ∧ name ≠ ".." ∧ ∀ c ∈ name.toList, c ≠ '\t' ∧ c ≠ '\n' ∧ c ≠ '\r'

theorem ignored_eq_false_iff {c : Char} :
    ignored c = false ↔ c ≠ '\t' ∧ c ≠ '\n' ∧ c ≠ '\r' := by
  simp [ignored, and_assoc]

theorem carries_iff {name : String} : Carries name ↔
    name ≠ "" ∧ name ≠ "." ∧ name ≠ ".." ∧ name.toList.any ignored = false := by
  simp only [Carries, List.any_eq_false, Bool.not_eq_true, ignored_eq_false_iff]

instance : DecidablePred Carries := fun _ => decidable_of_iff _ carries_iff.symm

/-! ## Escaped names -/

/-- A name as it stands in a path. -/
def escaped (name : String) : String := escape inSegment name.toList

theorem toList_escaped (name : String) :
    (escaped name).toList =
      (Percent.encode inSegment (Utf8.encode name)).map (fun b => Char.ofNat b.toNat) := by
  rw [escaped, escape, String.toList_ofList, Utf8.encode]

/-- An octet of an escaped name: the percent sign, a digit of an escape, or one that
needs no escape. -/
theorem octet_escaped {name : String} {x : UInt8}
    (h : x ∈ Percent.encode inSegment (Utf8.encode name)) :
    x.toNat = 37 ∨ (48 ≤ x.toNat ∧ x.toNat ≤ 57) ∨ (65 ≤ x.toNat ∧ x.toNat ≤ 70) ∨
      inSegment x = false := by
  rcases Percent.mem_encode h with rfl | ⟨n, hn, rfl⟩ | ⟨-, hx⟩
  · exact .inl rfl
  · rw [Percent.hexDigit_toNat hn]
    split <;> omega
  · exact .inr (.inr (.inr hx))

theorem ascii_escaped (name : String) :
    ∀ x ∈ Percent.encode inSegment (Utf8.encode name), x.toNat < 128 := by
  intro x hx
  rcases octet_escaped hx with h | h | h | h
  · omega
  · omega
  · omega
  · simp only [inSegment, inPath, outside, Bool.or_eq_false_iff, decide_eq_false_iff_not] at h
    have hlt : ¬ (127 : UInt8) ≤ x := h.1.1.2
    rw [UInt8.le_iff_toNat_le] at hlt
    have : (127 : UInt8).toNat = 127 := rfl
    omega

/-- **Names survive their escapes.** -/
theorem decode_escaped (name : String) :
    Percent.decode (encodeChars (escaped name).toList) = Utf8.encode name := by
  rw [toList_escaped, Utf8.encodeChars_ascii (ascii_escaped name),
    Percent.decode_encode (by decide)]

/-- A mark of a URL is no part of an escaped name. -/
theorem not_mem_escaped {c : Char} (name : String)
    (hc : c = '/' ∨ c = '?' ∨ c = '#') : c ∉ (escaped name).toList := by
  intro h
  rw [toList_escaped] at h
  obtain ⟨x, hx, rfl⟩ := List.mem_map.mp h
  have hnat : x.toNat = 47 ∨ x.toNat = 63 ∨ x.toNat = 35 := by
    rw [← Utf8.toNat_ofNat_octet x]
    rcases hc with h | h | h <;> rw [h] <;> decide
  rcases octet_escaped hx with h | h | h | h
  · omega
  · omega
  · omega
  · rcases hnat with hn | hn | hn
    · rw [show x = 47 from UInt8.toNat_inj.mp hn] at h
      exact absurd h (by decide)
    · rw [show x = 63 from UInt8.toNat_inj.mp hn] at h
      exact absurd h (by decide)
    · rw [show x = 35 from UInt8.toNat_inj.mp hn] at h
      exact absurd h (by decide)

/-! ## Dots -/

/-- Lowering changes the capital letters only, by 32. -/
theorem toLower_cases (c : Char) :
    c.toLower = c ∨ (65 ≤ c.toNat ∧ c.toNat ≤ 90 ∧ c.toLower.toNat = c.toNat + 32) := by
  unfold Char.toLower
  split
  case isTrue h =>
    have hlow : 65 ≤ c.val.toNat := UInt32.le_iff_toNat_le.mp h.1
    have hhigh : c.val.toNat ≤ 90 := UInt32.le_iff_toNat_le.mp h.2
    refine .inr ⟨hlow, hhigh, ?_⟩
    have hsum : (c.val + ('a'.val - 'A'.val)).toNat = c.val.toNat + 32 := by
      rw [UInt32.toNat_add, show ('a'.val - 'A'.val).toNat = 32 by decide]
      omega
    exact hsum
  case isFalse h => exact .inl rfl

/-- A mark below the letters comes from itself alone. -/
theorem of_toLower_mark {c d : Char} (h : c.toLower = d) (hd : d.toNat < 97) : c = d := by
  rcases toLower_cases c with hc | ⟨hlow, -, hc⟩
  · rw [← hc, h]
  · rw [h] at hc
    omega

theorem of_toLower_e {c : Char} (h : c.toLower = 'e') : c = 'e' ∨ c = 'E' := by
  rcases toLower_cases c with hc | ⟨-, -, hc⟩
  · exact .inl (by rw [← hc, h])
  · have hnat : c.toNat = 69 := by
      rw [h] at hc
      have : 'e'.toNat = 101 := rfl
      omega
    exact .inr (by rw [← Char.ofNat_toNat c, hnat])

/-- A dot at the front, as it is. -/
theorem decode_dot {cs ds : List Char} (h : cs.map Char.toLower = '.' :: ds) :
    ∃ rest, Percent.decode (encodeChars cs) = 46 :: Percent.decode (encodeChars rest) ∧
      rest.map Char.toLower = ds := by
  obtain ⟨c, rest, rfl, hc, hrest⟩ := List.map_eq_cons_iff.mp h
  have hc := of_toLower_mark hc (by decide)
  subst hc
  refine ⟨rest, ?_, hrest⟩
  rw [Utf8.encodeChars_cons, Utf8.utf8EncodeChar_ascii (by decide)]
  exact Percent.decode_cons (by decide) _

/-- A dot at the front, escaped. -/
theorem decode_escapedDot {cs ds : List Char} (h : cs.map Char.toLower = '%' :: '2' :: 'e' :: ds) :
    ∃ rest, Percent.decode (encodeChars cs) = 46 :: Percent.decode (encodeChars rest) ∧
      rest.map Char.toLower = ds := by
  obtain ⟨c₁, cs₁, rfl, h₁, h⟩ := List.map_eq_cons_iff.mp h
  obtain ⟨c₂, cs₂, rfl, h₂, h⟩ := List.map_eq_cons_iff.mp h
  obtain ⟨c₃, rest, rfl, h₃, hrest⟩ := List.map_eq_cons_iff.mp h
  have h₁ := of_toLower_mark h₁ (by decide)
  have h₂ := of_toLower_mark h₂ (by decide)
  subst h₁ h₂
  refine ⟨rest, ?_, hrest⟩
  rcases of_toLower_e h₃ with rfl | rfl
  · simp only [Utf8.encodeChars_cons]
    rfl
  · simp only [Utf8.encodeChars_cons]
    rfl

/-- The octets that a segment stands for. -/
def octets (segment : String) : Bytes := Percent.decode (encodeChars segment.toList)

theorem toList_of_toLower {segment lower : String} (h : segment.toLower = lower) :
    segment.toList.map Char.toLower = lower.toList := by
  have hlower : segment.toLower = segment.map Char.toLower := rfl
  rw [← h, hlower, String.toList_map]

theorem octets_of_isDot {segment : String} (h : isDot segment = true) : octets segment = [46] := by
  simp only [isDot, Bool.or_eq_true, decide_eq_true_eq] at h
  rcases h with rfl | h
  · rfl
  · obtain ⟨rest, hrest, hnil⟩ := decode_escapedDot (toList_of_toLower h)
    rw [octets, hrest, List.map_eq_nil_iff.mp hnil]
    rfl

theorem octets_of_isDoubleDot {segment : String} (h : isDoubleDot segment = true) :
    octets segment = [46, 46] := by
  simp only [isDoubleDot, Bool.or_eq_true, decide_eq_true_eq] at h
  rcases h with ((rfl | h) | h) | h
  · rfl
  · obtain ⟨cs, hcs, h⟩ := decode_dot (toList_of_toLower h)
    obtain ⟨rest, hrest, hnil⟩ := decode_escapedDot h
    rw [octets, hcs, hrest, List.map_eq_nil_iff.mp hnil]
    rfl
  · obtain ⟨cs, hcs, h⟩ := decode_escapedDot (toList_of_toLower h)
    obtain ⟨rest, hrest, hnil⟩ := decode_dot h
    rw [octets, hcs, hrest, List.map_eq_nil_iff.mp hnil]
    rfl
  · obtain ⟨cs, hcs, h⟩ := decode_escapedDot (toList_of_toLower h)
    obtain ⟨rest, hrest, hnil⟩ := decode_escapedDot h
    rw [octets, hcs, hrest, List.map_eq_nil_iff.mp hnil]
    rfl

/-- A name with the octets of another text is that text. -/
theorem eq_of_octets_escaped {name text : String} (h : octets (escaped name) = Utf8.encode text) :
    name = text := by
  have hname : Utf8.decode? (Utf8.encode name) = Utf8.decode? (Utf8.encode text) := by
    rw [← h, octets, decode_escaped]
  rw [Utf8.decode?_encode, Utf8.decode?_encode] at hname
  exact Option.some.inj hname

theorem escaped_ne_empty {name : String} (h : name ≠ "") : escaped name ≠ "" :=
  fun he => h (eq_of_octets_escaped (by rw [he]; rfl))

theorem escaped_not_dot {name : String} (h : name ≠ ".") : isDot (escaped name) = false :=
  Bool.eq_false_iff.mpr (fun hdot => h (eq_of_octets_escaped (octets_of_isDot hdot)))

theorem escaped_not_doubleDot {name : String} (h : name ≠ "..") :
    isDoubleDot (escaped name) = false :=
  Bool.eq_false_iff.mpr (fun hdot => h (eq_of_octets_escaped (octets_of_isDoubleDot hdot)))

/-! ## Paths -/

/-- What counts of a name. -/
def counted (name : String) : String := String.ofList (name.toList.filter (fun c => !ignored c))

theorem counted_of_carries {name : String} (h : Carries name) : counted name = name := by
  have hfilter : name.toList.filter (fun c => !ignored c) = name.toList := by
    rw [List.filter_eq_self]
    intro c hc
    simp [ignored_eq_false_iff.mpr (h.2.2.2 c hc)]
  rw [counted, hfilter, String.ofList_toList]

theorem push_dots {url : Url} {name : String} (h : name = "." ∨ name = "..") :
    url.push name = url := if_pos h

theorem push_counted {url : Url} {name : String} (h : ¬(name = "." ∨ name = "..")) :
    (url.push name).path =
      resolve (if url.atRoot then [] else url.path) [escaped (counted name)] := by
  rw [push, if_neg h, escaped, counted, String.toList_ofList]

theorem push_query (url : Url) (name : String) : (url.push name).query = url.query := by
  rw [push]
  split <;> rfl

theorem resolve_carried {name : String} (h : Carries name) (path : List String) :
    resolve path [escaped name] = path ++ [escaped name] := by
  simp [resolve, escaped_not_dot h.2.1, escaped_not_doubleDot h.2.2.1]

/-- **A name that is carried is added as its escaped self**, and nothing else changes
for a request. -/
theorem push_carried {name : String} (h : Carries name) (url : Url) :
    (url.push name).path = (if url.atRoot then [] else url.path) ++ [escaped name] ∧
      (url.push name).query = url.query := by
  have hdots : ¬(name = "." ∨ name = "..") := not_or.mpr ⟨h.2.1, h.2.2.1⟩
  rw [push_counted hdots, counted_of_carries h, resolve_carried h]
  exact ⟨rfl, push_query url name⟩

/-- Names behind a path that does not end at the root. -/
theorem foldl_push {names : List String} (h : ∀ name ∈ names, Carries name) {url : Url}
    (hroot : url.path ≠ [""]) :
    (names.foldl push url).path = url.path ++ names.map escaped ∧
      (names.foldl push url).query = url.query := by
  induction names generalizing url with
  | nil => simp
  | cons name names ih =>
    have hname := h name (List.mem_cons_self ..)
    obtain ⟨hpath, hquery⟩ := push_carried hname url
    rw [if_neg (by simpa [atRoot] using hroot)] at hpath
    have hroot' : (url.push name).path ≠ [""] := by
      have hne := escaped_ne_empty hname.1
      rw [hpath]
      cases url.path with
      | nil => simp [hne]
      | cons s ss => simp
    obtain ⟨hpath', hquery'⟩ := ih (fun n hn => h n (List.mem_cons_of_mem _ hn)) hroot'
    rw [List.foldl_cons, hpath', hquery', hpath, hquery]
    simp

/-! ## Queries and targets -/

theorem addQuery_none {url : Url} (h : url.query = none) (name value : String) :
    (url.addQuery name value).path = url.path ∧
      (url.addQuery name value).query = some (name ++ "=" ++ value) := by
  simp [addQuery, h]

theorem addQuery_some {url : Url} {query : String} (h : url.query = some query) (hne : query ≠ "")
    (name value : String) :
    (url.addQuery name value).path = url.path ∧
      (url.addQuery name value).query = some (query ++ "&" ++ (name ++ "=" ++ value)) := by
  simp [addQuery, h, hne]

/-- The target of a URL, with its segments joined behind a slash. -/
theorem toList_target (url : Url) :
    url.target.toList = '/' :: Text.join '/' (url.path.map String.toList) ++
      (match url.query with
        | some query => '?' :: query.toList
        | none => []) := by
  rw [target, String.toList_append, String.toList_append, String.toList_intercalate,
    show "/".toList = ['/'] from rfl, Text.intercalate_eq_join]
  cases url.query with
  | none => rfl
  | some query => rw [String.toList_append]; rfl

/-! ## Requests -/

/-- Whether the host of a URL is free of the four characters that no request may name. -/
def PlainHost (url : Url) : Prop := ∀ c ∈ url.host.toList, c ∉ "\"`\x7b\x7d".toList

theorem plainHost_iff {url : Url} : url.PlainHost ↔
    url.host.toList.any (fun c => "\"`\x7b\x7d".toList.contains c) = false := by
  simp [PlainHost]

instance : DecidablePred PlainHost := fun _ => decidable_of_iff _ plainHost_iff.symm

theorem isRequestable_iff {url : Url} :
    url.isRequestable = true ↔ url.text.utf8ByteSize ≤ 65534 ∧ url.PlainHost := by
  simp only [isRequestable, plainHost_iff, Bool.and_eq_true, decide_eq_true_eq, Bool.not_eq_true']

theorem push_host (url : Url) (name : String) : (url.push name).host = url.host := by
  rw [push]
  split <;> rfl

theorem size_le_escaped (name : String) : name.utf8ByteSize ≤ (escaped name).utf8ByteSize := by
  have hescaped := Utf8.length_encodeChars (escaped name).toList
  rw [toList_escaped, Utf8.encodeChars_ascii (ascii_escaped name), ← toList_escaped,
    String.ofList_toList] at hescaped
  rw [← hescaped, ← Utf8.length_encode]
  exact Percent.length_le_encode _ _

theorem size_le_intercalate {path : List String} {segment : String} (h : segment ∈ path) :
    segment.utf8ByteSize ≤ ("/".intercalate path).utf8ByteSize := by
  induction path with
  | nil => cases h
  | cons first rest ih =>
    cases rest with
    | nil =>
      have hfirst : segment = first := List.mem_singleton.mp h
      simp only [String.intercalate_singleton, hfirst, Nat.le_refl]
    | cons next rest =>
      rw [String.intercalate_cons_cons, String.utf8ByteSize_append, String.utf8ByteSize_append]
      rcases List.mem_cons.mp h with rfl | h
      · omega
      · have hrest := ih h
        omega

theorem size_le_text {url : Url} {segment : String} (h : segment ∈ url.path) :
    segment.utf8ByteSize ≤ url.text.utf8ByteSize := by
  have hpath := size_le_intercalate h
  simp only [text, String.utf8ByteSize_append]
  omega

/-- **A name that is too long for a URL.** -/
theorem not_requestable_push {url : Url} {name : String} (h : Carries name)
    (hlong : 65534 < name.utf8ByteSize) : (url.push name).isRequestable = false := by
  have hlast : escaped name ∈ (url.push name).path := by
    rw [(push_carried h url).1]
    exact List.mem_append_right _ (List.mem_singleton_self _)
  have hname := size_le_escaped name
  have htext := size_le_text hlast
  refine Bool.eq_false_iff.mpr fun hsent => ?_
  have hfits := (isRequestable_iff.mp hsent).1
  omega

end BidFleet.Http.Url
