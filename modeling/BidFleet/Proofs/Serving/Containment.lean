import BidFleet.Pool.Members
import BidFleet.Proofs.Serving.Questions

/-!
Containment. A request for a page or a script reads at most one path, the path of the
web root with segments behind it of which none is `..`. A walk along such segments
never looks above the place where it begins (`FileTree.walk_below`), so what a request
reads depends on the web root and what is below it alone (`FileTree.read_agree`). Which
texts are refused is decided on their components, in which the empty segments and most
of the `.` are left out; what is opened is found by walking all segments. The two
readings agree: a text that is not refused leads to the file that its components name
(`FileTree.walk_names`).
-/

namespace BidFleet.Serving

namespace FileTree

/-! ## Walks -/

/-- A walk that never goes up does not see what is above. -/
theorem walk_below {rel : Path} (h : ".." ∉ rel) (t : FileTree) (above above' : List FileTree) :
    walk rel t above = walk rel t above' := by
  induction rel generalizing t above above' with
  | nil => rfl
  | cons name rel ih =>
    rw [List.mem_cons, not_or] at h
    obtain ⟨hname, hrel⟩ := h
    cases t with
    | file content => rfl
    | directory entries =>
      simp only [walk, if_neg (Ne.symm hname)]
      split
      · exact ih hrel ..
      · split
        · rfl
        · split
          · exact ih hrel ..
          · rfl

/-- Segments behind a path are walked from where the path leads. -/
theorem walk_append {rel : Path} (h : ".." ∉ rel) (path : Path) (t : FileTree)
    (above : List FileTree) :
    walk (path ++ rel) t above = (walk path t above).bind (fun here => walk rel here []) := by
  induction path generalizing t above with
  | nil => exact walk_below h ..
  | cons name path ih =>
    cases t with
    | file content => rfl
    | directory entries =>
      simp only [List.cons_append, walk]
      split
      · exact ih ..
      · split
        · split <;> exact ih ..
        · split
          · rfl
          · split
            · exact ih ..
            · rfl

theorem walk_of_read {t : FileTree} {path : Path} {content : Bytes}
    (h : t.read path = .ok content) : walk path t [] = .ok (file content) := by
  unfold read at h
  split at h
  · cases h
  · split at h
    · cases h
    · split at h
      · cases h
      · split at h
        · next hwalk =>
          cases h
          exact hwalk
        · cases h
        · cases h

/-! ## Trees that agree -/

/-- Two trees have the same at a path, or nothing that can be reached. -/
def Agree (path : Path) (t t' : FileTree) : Prop :=
  (walk path t []).toOption = (walk path t' []).toOption

/-- Below a place that is the same, the same is read. -/
theorem read_agree {rel : Path} (h : ".." ∉ rel) {path : Path} {t t' : FileTree}
    (hagree : walk path t [] = walk path t' []) :
    t.read (path ++ rel) = t'.read (path ++ rel) := by
  unfold read
  rw [walk_append h, walk_append h, hagree]

/-- Nothing is read below a place that is not there. -/
theorem read_unreachable {rel : Path} (h : ".." ∉ rel) {path : Path} {t : FileTree}
    {fault : FileFault} (hfault : walk path t [] = .error fault) :
    (t.read (path ++ rel)).toOption = none := by
  unfold read
  rw [walk_append h, hfault]
  split
  · rfl
  · split
    · rfl
    · split <;> rfl

theorem toOption_read_agree {rel : Path} (h : ".." ∉ rel) {path : Path} {t t' : FileTree}
    (hagree : Agree path t t') :
    (t.read (path ++ rel)).toOption = (t'.read (path ++ rel)).toOption := by
  unfold Agree at hagree
  cases hwalk : walk path t [] with
  | ok here =>
    cases hwalk' : walk path t' [] with
    | ok here' =>
      rw [hwalk, hwalk'] at hagree
      cases hagree
      rw [read_agree h (hwalk.trans hwalk'.symm)]
    | error fault =>
      rw [hwalk, hwalk'] at hagree
      cases hagree
  | error fault =>
    cases hwalk' : walk path t' [] with
    | ok here' =>
      rw [hwalk, hwalk'] at hagree
      cases hagree
    | error fault' => rw [read_unreachable h hwalk, read_unreachable h hwalk']

end FileTree

/-! ## Components -/

inductive Component where
  | root
  | current
  | parent
  | name (name : String)
  deriving DecidableEq, Repr

namespace Component

/-- The component that a segment is, wherever it stands but at the beginning. -/
def ofSegment? (segment : String) : Option Component :=
  if segment = "" ∨ segment = "." then none
  else if segment = ".." then some parent
  else some (name segment)

/-- The components of a text: a slash or a `.` that it begins with is one, further
slashes and `.` are none. -/
def ofText (text : String) : List Component :=
  match Path.ofText text with
  | [] => []
  | first :: rest =>
    if first = "" ∧ text ≠ "" then root :: rest.filterMap ofSegment?
    else if first = "." then current :: rest.filterMap ofSegment?
    else (first :: rest).filterMap ofSegment?

def names (components : List Component) : Path :=
  components.filterMap fun
    | name n => some n
    | _ => none

end Component

theorem Component.parent_not_mem_names (path : Path) :
    ".." ∉ names (path.filterMap ofSegment?) := by
  intro h
  obtain ⟨c, hc, hname⟩ := List.mem_filterMap.mp h
  obtain ⟨segment, -, hsegment⟩ := List.mem_filterMap.mp hc
  cases c with
  | name n =>
    cases hname
    unfold ofSegment? at hsegment
    split at hsegment
    · cases hsegment
    · next hblank =>
      split at hsegment
      · cases hsegment
      · next hparent => exact hparent (Component.name.inj (Option.some.inj hsegment))
  | _ => cases hname

/-- A walk that arrives without going up arrives where the names alone lead. -/
theorem FileTree.walk_names {rel : Path} (h : ".." ∉ rel) {t found : FileTree}
    {above : List FileTree} (hfound : walk rel t above = .ok found) :
    walk (Component.names (rel.filterMap Component.ofSegment?)) t above = .ok found := by
  induction rel generalizing t above with
  | nil => exact hfound
  | cons name rel ih =>
    rw [List.mem_cons, not_or] at h
    obtain ⟨hname, hrel⟩ := h
    cases t with
    | file content => cases hfound
    | directory entries =>
      by_cases hblank : name = "" ∨ name = "."
      · have hnone : Component.ofSegment? name = none := by simp [Component.ofSegment?, hblank]
        simp only [walk, if_pos hblank] at hfound
        simpa only [List.filterMap_cons, hnone] using ih hrel hfound
      · have hsome : Component.ofSegment? name = some (.name name) := by
          simp [Component.ofSegment?, hblank, Ne.symm hname]
        simp only [walk, if_neg hblank, if_neg (Ne.symm hname)] at hfound
        simp only [List.filterMap_cons, hsome, Component.names, walk, if_neg hblank,
          if_neg (Ne.symm hname)]
        split at hfound
        · cases hfound
        · next hlength =>
          rw [if_neg hlength]
          split at hfound
          · exact ih hrel hfound
          · cases hfound

/-! ## Refused texts -/

/-- The texts that are no path below the web root: the empty text, and those that begin
with a slash or with the component `.`, or have a component `..`. -/
def Refused (rel : String) : Prop :=
  rel = "" ∨ rel.toList.head? = some '/' ∨ (Path.ofText rel).head? = some "." ∨
    ".." ∈ Path.ofText rel

theorem ofText_ne_nil (text : String) : Path.ofText text ≠ [] := by
  simpa [Path.ofText] using Text.split_ne_nil '/' text.toList

/-- The first segment is empty when there is nothing before the first slash. -/
theorem head?_ofText (text : String) :
    (Path.ofText text).head? = some "" ↔ text = "" ∨ text.toList.head? = some '/' := by
  have hempty : text = "" ↔ text.toList = [] := by simp
  rw [hempty, Path.ofText, List.head?_map]
  cases text.toList with
  | nil => simp [Text.split]
  | cons c cs =>
    by_cases hc : c = '/'
    · simp [Text.split, hc]
    · cases hs : Text.split '/' cs <;> simp [Text.split, hc, hs, String.ext_iff]

theorem plain_iff (rel : String) : WebRoot.plain (Path.ofText rel) = true ↔ ¬Refused rel := by
  have hhead := head?_ofText rel
  unfold Refused
  rw [← or_assoc, ← hhead]
  cases hsegments : Path.ofText rel with
  | nil => exact absurd hsegments (ofText_ne_nil rel)
  | cons first rest => simp [WebRoot.plain, and_assoc]

/-- A component that is no name is `..`, behind the first segment. -/
theorem mem_components {path : Path} :
    (∃ c ∈ path.filterMap Component.ofSegment?, ∀ n, c ≠ .name n) ↔ ".." ∈ path := by
  constructor
  · rintro ⟨c, hc, hname⟩
    obtain ⟨segment, hmem, hsegment⟩ := List.mem_filterMap.mp hc
    unfold Component.ofSegment? at hsegment
    split at hsegment
    · cases hsegment
    · split at hsegment
      · next hparent => exact hparent ▸ hmem
      · cases hsegment
        exact absurd rfl (hname segment)
  · intro h
    exact ⟨.parent, List.mem_filterMap.mpr ⟨"..", h, by decide⟩, nofun⟩

/-- The components of a text that is not refused are those of its segments. -/
theorem components_of_plain {rel : String} (h : ¬Refused rel) :
    Component.ofText rel = (Path.ofText rel).filterMap Component.ofSegment? := by
  have hplain := (plain_iff rel).mpr h
  unfold Component.ofText
  cases hsegments : Path.ofText rel with
  | nil => rfl
  | cons first rest =>
    rw [hsegments] at hplain
    simp only [WebRoot.plain, Bool.and_eq_true, bne_iff_ne] at hplain
    simp [hplain.1.1, hplain.1.2]

/-- **A text is refused on its components**: it has none, or one that is no name. -/
theorem refused_iff_components (rel : String) :
    Refused rel ↔ rel = "" ∨ ∃ c ∈ Component.ofText rel, ∀ n, c ≠ .name n := by
  by_cases hempty : rel = ""
  · simp [Refused, hempty]
  · have hhead := head?_ofText rel
    simp only [Refused, hempty, false_or] at hhead ⊢
    rw [← hhead]
    unfold Component.ofText
    cases hsegments : Path.ofText rel with
    | nil => exact absurd hsegments (ofText_ne_nil rel)
    | cons first rest =>
      by_cases hslash : first = ""
      · simp [hslash, hempty]
      · by_cases hdot : first = "."
        · simp [hdot]
        · simp only [hslash, false_and, if_false, hdot, mem_components]
          simp [hslash, hdot]

theorem script_eq (root : WebRoot) (rel : String) :
    (Refused rel → root.script rel =
        .error (.invalidRequest ("asset path not allowed: " ++ rel))) ∧
      (¬Refused rel → root.script rel = .ok (root.path ++ Path.ofText rel)) := by
  unfold WebRoot.script
  refine ⟨fun h => ?_, fun h => ?_⟩
  · rw [if_neg (fun hplain => (plain_iff rel).mp hplain h)]
  · rw [if_pos ((plain_iff rel).mpr h)]

/-! ## Requests for pages and scripts -/

/-- The paths that a dispatcher reads for a request are below its web root. -/
theorem below_root {root : WebRoot} {path : Path}
    (h : path = root.simulatorPage ∨ ∃ rel, root.script rel = .ok path) :
    ∃ rel, ".." ∉ rel ∧ path = root.path ++ rel := by
  rcases h with rfl | ⟨rel, hscript⟩
  · exact ⟨["exchange.html"], by decide, rfl⟩
  · by_cases hrefused : Refused rel
    · rw [(script_eq root rel).1 hrefused] at hscript
      cases hscript
    · rw [(script_eq root rel).2 hrefused] at hscript
      cases hscript
      exact ⟨_, fun h => hrefused (.inr (.inr (.inr h))), rfl⟩

/-- **What is served is what the names lead to.** -/
theorem served_by_names {root : WebRoot} {rel : String} {path : Path} {files : FileTree}
    {content : Bytes} (hscript : root.script rel = .ok path)
    (hread : files.read path = .ok content) :
    FileTree.walk (root.path ++ Component.names (Component.ofText rel)) files [] =
      .ok (.file content) := by
  have hnot : ¬Refused rel := fun hrefused => by
    rw [(script_eq root rel).1 hrefused] at hscript
    cases hscript
  rw [(script_eq root rel).2 hnot] at hscript
  cases hscript
  have hbelow : ".." ∉ Path.ofText rel := fun h => hnot (.inr (.inr (.inr h)))
  have hwalk := FileTree.walk_of_read hread
  rw [FileTree.walk_append hbelow] at hwalk
  rw [components_of_plain hnot, FileTree.walk_append (Component.parent_not_mem_names _)]
  cases hroot : FileTree.walk root.path files [] with
  | error fault =>
    rw [hroot] at hwalk
    cases hwalk
  | ok here =>
    rw [hroot] at hwalk
    exact FileTree.walk_names hbelow hwalk

/-- For a script that is refused nothing is asked. -/
theorem refused_asks_nothing (d : Dispatcher) {method : String} {target : List Char} {rel : String}
    (hrel : Refused rel) (body : Bytes) (hroute : Route.classify method target = .webAsset rel) :
    Only (fun _ => False) (d.dispatch method target body) := by
  have honly := only_dispatch d method target body
  rw [hroute] at honly
  refine honly.mono fun q hq => ?_
  obtain ⟨path, hscript, -⟩ := hq
  rw [(script_eq d.webRoot rel).1 hrel] at hscript
  cases hscript

/-- Only the content of a file is told, or that it cannot be read. -/
theorem run_asset {σ : Type} (store : Pool.Store σ) (h : Host σ) (type : String)
    (target : List Char) (path : Path) :
    ((Dispatcher.asset type target (.ok path)).run (Host.answer store) h).1 =
      match (h.files.read path).toOption with
      | some content => ⟨200, type, content, none, none⟩
      | none => .failure 404 ("not found: " ++ String.ofList target) := by
  cases hread : h.files.read path <;>
    simp only [Dispatcher.asset, query, bind, Task.bind, Task.run, Host.answer, hread] <;> rfl

variable {σ τ : Type}

/-- **Requests for pages and scripts tell of the web root only.** -/
theorem reply_agree (d : Dispatcher) (store : Pool.Store σ) (store' : Pool.Store τ) {h : Host σ}
    {h' : Host τ} (hagree : FileTree.Agree d.webRoot.path h.files h'.files) {method : String}
    {target : List Char} (body : Bytes)
    (hroute : Route.classify method target = .simulator ∨
      ∃ rel, Route.classify method target = .webAsset rel) :
    ((d.dispatch method target body).run (Host.answer store) h).1 =
      ((d.dispatch method target body).run (Host.answer store') h').1 := by
  have hasset (type : String) {path : Path} (hpath : path = d.webRoot.simulatorPage ∨
      ∃ rel, d.webRoot.script rel = .ok path) :
      ((Dispatcher.asset type target (.ok path)).run (Host.answer store) h).1 =
        ((Dispatcher.asset type target (.ok path)).run (Host.answer store') h').1 := by
    obtain ⟨rel, hrel, rfl⟩ := below_root hpath
    rw [run_asset, run_asset, FileTree.toOption_read_agree hrel hagree]
  unfold Dispatcher.dispatch
  rcases hroute with hroute | ⟨rel, hroute⟩
  · rw [hroute]
    exact hasset _ (.inl rfl)
  · rw [hroute]
    simp only [Dispatcher.serve]
    cases hscript : d.webRoot.script rel with
    | error e => rfl
    | ok path => exact hasset _ (.inr ⟨rel, hscript⟩)

/-- **Pages and scripts are contained in the web root.** Take two hosts whose file trees
agree on the web root and what is below it, and may differ in everything else. A request
for a page or a script gets the same reply from both. Whatever path is read for it holds
the same file, or none, in both trees, with the same fault when the root is found in the
same way, and the file is the one that the names of the path lead to. A script is
refused, before anything is asked, exactly when its path is empty, is absolute, begins
with `.` or has `..` anywhere; that is when one of its components is no name. -/
theorem assets_contained (d : Dispatcher) (store : Pool.Store σ) (store' : Pool.Store τ)
    (h : Host σ) (h' : Host τ) (hagree : FileTree.Agree d.webRoot.path h.files h'.files)
    (method : String) (target : List Char) (body : Bytes) (rel : String) :
    let script := d.webRoot.script rel
    ((Route.classify method target = .simulator ∨
        Route.classify method target = .webAsset rel) →
      ((d.dispatch method target body).run (Host.answer store) h).1 =
        ((d.dispatch method target body).run (Host.answer store') h').1) ∧
    (∀ path, path = d.webRoot.simulatorPage ∨ script = .ok path →
      (h.files.read path).toOption = (h'.files.read path).toOption ∧
      (FileTree.walk d.webRoot.path h.files [] = FileTree.walk d.webRoot.path h'.files [] →
        h.files.read path = h'.files.read path)) ∧
    (∀ path content, script = .ok path → h.files.read path = .ok content →
      FileTree.walk (d.webRoot.path ++ Component.names (Component.ofText rel)) h.files [] =
        .ok (.file content)) ∧
    (Refused rel → script = .error (.invalidRequest ("asset path not allowed: " ++ rel)) ∧
      (Route.classify method target = .webAsset rel →
        Only (fun _ => False) (d.dispatch method target body))) ∧
    (¬Refused rel → ∃ path, script = .ok path) ∧
    (Refused rel ↔ rel = "" ∨ ∃ c ∈ Component.ofText rel, ∀ n, c ≠ .name n) := by
  intro script
  obtain ⟨hrefused, hplain⟩ := script_eq d.webRoot rel
  refine ⟨?_, ?_, fun path content => served_by_names, ?_, fun hnot => ⟨_, hplain hnot⟩,
    refused_iff_components rel⟩
  · rintro (hroute | hroute)
    · exact reply_agree d store store' hagree body (.inl hroute)
    · exact reply_agree d store store' hagree body (.inr ⟨rel, hroute⟩)
  · intro path hpath
    obtain ⟨below, hbelow, rfl⟩ := below_root (hpath.imp_right fun hscript => ⟨rel, hscript⟩)
    exact ⟨FileTree.toOption_read_agree hbelow hagree, FileTree.read_agree hbelow⟩
  · exact fun hrel => ⟨hrefused hrel, refused_asks_nothing d hrel body⟩

/-- A host with a script in its web root, and a secret beside it. -/
def guarded (secret : Bytes) : Host Pool.MemoryStore where
  files := .directory [("web", .directory [("a.js", .file [49])]), ("secret", .file secret)]
  store := {}

def replyTo (path : String) (secret : Bytes) : Reply :=
  ((Dispatcher.dispatch { selector := ⟨0, [], fun _ => .noMatch⟩ } "GET" path.toList []).run
    (Host.answer Pool.MemoryStore.store) (guarded secret)).1

/-- The script is served, and the secret beside the web root is not told. -/
theorem assets_contained_beside :
    (replyTo "/web/a.js" [1]).body = [49] ∧ replyTo "/web/a.js" [1] = replyTo "/web/a.js" [2] ∧
      (replyTo "/web/../secret" [1]).status = 404 := by
  have hagree : FileTree.Agree ["web"] (guarded [1]).files (guarded [2]).files := rfl
  have hnames : ¬255 < "web".utf8ByteSize ∧ ¬255 < "a.js".utf8ByteSize := by decide +kernel
  have hpath : Path.text ["web", "a.js"] ≠ "" ∧
      ¬4095 < (Path.text ["web", "a.js"]).utf8ByteSize := by decide +kernel
  have hread : (guarded [1]).files.read ["web", "a.js"] = .ok [49] := by
    simp [guarded, FileTree.read, FileTree.walk, Path.longestName, Path.longestPath, hnames, hpath]
  have hserved : (replyTo "/web/a.js" [1]).body = [49] := by
    show ((Dispatcher.asset _ _ (.ok ["web", "a.js"])).run _ _).1.body = _
    rw [run_asset, hread]
    rfl
  exact ⟨hserved, (assets_contained { selector := ⟨0, [], fun _ => .noMatch⟩ }
    Pool.MemoryStore.store Pool.MemoryStore.store (guarded [1]) (guarded [2]) hagree "GET"
    "/web/a.js".toList [] "a.js").1 (.inr rfl), by decide +kernel⟩

end BidFleet.Serving
