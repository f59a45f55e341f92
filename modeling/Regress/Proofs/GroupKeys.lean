import Regress.Proofs.ArtifactDirs
import Regress.Proofs.Rewrites

/-!
# A group's key as one path element

With artifacts kept apart by group, a group's artifacts go to its key joined under the artifact
root, so the key is meant to be a single name. It is not always one. The key cleans the group's
path, trims its slashes and writes each `../` as `up_` and every other slash as `_`; a path that
cleans to `..` has no slash after its `..`, and its key is `..` itself. The artifact directory of
such a group is the parent of the artifact root (`parent_group_artifacts_escape_root`).

Every other path gives a name: the key is never empty, holds no slash and is not `.`, and it is
`..` exactly when the path cleans to `..` (`Group.key_isName_iff`). What decides it is the shape
of a cleaned path: its elements are names, after some `..` when it is relative and never under
the root (`Path.CleanStack`, carried through cleaning by `CleanStack.push`). So the key's artifact
directory is a direct child of the artifact root: its directory is the cleaned root and its last
element the key (`scoped_artifactDir_is_child`). Cleaning what stands before a child gives the
cleaned root back (`Path.clean_childPrefix`), because pushing a cleaned path's elements again
rebuilds them (`CleanStack.foldl_reverse`).
-/

namespace Regress

namespace Path

/-- The parts of a path split at its slashes, as texts. -/
theorem slash_not_mem_of_mem_parts {p part : String}
    (h : part ∈ (p.toList.splitOn '/').map String.ofList) : '/' ∉ part.toList := by
  obtain ⟨cs, hcs, rfl⟩ := List.mem_map.mp h
  simpa using slash_not_mem_of_mem_splitOn hcs

theorem eq_of_toList_eq {s : String} {cs : List Char} (h : s.toList = cs) : s = String.ofList cs := by
  rw [← h, String.ofList_toList]

/-- The cleaned elements so far, last first: names on top of some `..`, and no `..` under the
root, where `..` removes nothing. -/
def CleanStack (rooted : Bool) (stack : List String) : Prop :=
  ∃ names k, stack = names ++ List.replicate k ".." ∧ (∀ e ∈ names, IsName e.toList) ∧
    (rooted = true → k = 0)

namespace CleanStack

theorem nil (rooted : Bool) : CleanStack rooted [] :=
  ⟨[], 0, rfl, by simp, fun _ => rfl⟩

/-- One element of a path keeps the stack clean: `.` and empty elements change nothing, `..`
takes a name off or goes on the other `..`, and a name goes on top. -/
theorem push {rooted : Bool} {stack : List String} (h : CleanStack rooted stack) {part : String}
    (hpart : '/' ∉ part.toList) : CleanStack rooted (pushElement rooted stack part) := by
  obtain ⟨names, k, rfl, hnames, hroot⟩ := h
  unfold pushElement
  split
  · exact ⟨names, k, rfl, hnames, hroot⟩
  rename_i hskip
  simp only [Bool.or_eq_true, String.isEmpty_iff, beq_iff_eq, not_or] at hskip
  split
  · cases names with
    | cons top rest =>
      have htop : top ≠ ".." := fun h => (hnames top (by simp)).2.2.1 (by simp [h])
      simp only [List.cons_append, beq_iff_eq, htop, ↓reduceIte]
      exact ⟨rest, k, rfl, fun e he => hnames e (by simp [he]), hroot⟩
    | nil =>
      cases k with
      | zero =>
        cases rooted
        · exact ⟨[], 1, rfl, by simp, by simp⟩
        · exact nil true
      | succ k =>
        have hk : rooted = false := by
          cases rooted
          · rfl
          · exact absurd (hroot rfl) (by omega)
        simp only [List.nil_append, List.replicate_succ, beq_self_eq_true, ↓reduceIte]
        exact ⟨[], k + 2, by simp [List.replicate_succ], by simp, by simp [hk]⟩
  · rename_i hdots
    refine ⟨part :: names, k, rfl, ?_, hroot⟩
    have hname : IsName part.toList := by
      refine ⟨fun h => hskip.1 (by simpa using eq_of_toList_eq h), fun h => hskip.2 ?_,
        fun h => hdots ?_, hpart⟩
      · rw [eq_of_toList_eq h]
      · rw [eq_of_toList_eq h]; rfl
    intro e he
    rcases List.mem_cons.mp he with rfl | he
    · exact hname
    · exact hnames e he

theorem foldl {rooted : Bool} :
    ∀ {parts stack : List String}, (∀ part ∈ parts, '/' ∉ part.toList) →
      CleanStack rooted stack → CleanStack rooted (parts.foldl (pushElement rooted) stack)
  | [], _, _, h => h
  | part :: rest, _, hparts, h => by
    rw [List.foldl_cons]
    exact foldl (fun q hq => hparts q (List.mem_cons_of_mem part hq))
      (h.push (hparts part List.mem_cons_self))

theorem foldl_dotdots (k : Nat) :
    (List.replicate k "..").foldl (pushElement false) [] = List.replicate k ".." := by
  induction k with
  | zero => rfl
  | succ k ih =>
    rw [List.replicate_succ', List.foldl_append, ih]
    cases k with
    | zero => rfl
    | succ k =>
      rw [← List.replicate_succ']
      simp [pushElement, List.replicate_succ]

theorem foldl_reverse {rooted : Bool} {stack : List String} (h : CleanStack rooted stack) :
    stack.reverse.foldl (pushElement rooted) [] = stack := by
  obtain ⟨names, k, rfl, hnames, hroot⟩ := h
  have hdots : (List.replicate k "..").foldl (pushElement rooted) [] = List.replicate k ".." := by
    cases rooted
    · exact foldl_dotdots k
    · rw [hroot rfl]; rfl
  have hparts : names.reverse = (names.reverse.map String.toList).map String.ofList := by simp
  rw [List.reverse_append, List.reverse_replicate, List.foldl_append, hdots, hparts,
    foldl_pushElement_names _ (fun part hp => by
      obtain ⟨e, he, rfl⟩ := List.mem_map.mp hp
      exact hnames e (List.mem_reverse.mp he))]
  simp

end CleanStack

/-- A path's cleaned elements, last first, are a clean stack. -/
theorem cleanStack_cleanElements (p : String) : CleanStack (isAbs p) (cleanElements p).reverse := by
  rw [cleanElements, List.reverse_reverse]
  exact CleanStack.foldl (fun _ hq => slash_not_mem_of_mem_parts hq) (CleanStack.nil _)

theorem foldl_pushElement_filter (rooted : Bool) (parts stack : List String) :
    parts.foldl (pushElement rooted) stack =
      (parts.filter fun part => !part.isEmpty).foldl (pushElement rooted) stack := by
  induction parts generalizing stack with
  | nil => rfl
  | cons part rest ih =>
    by_cases h : part.isEmpty = true
    · simp [h, ih, pushElement]
    · simp [h, ih]

theorem splitOn_intercalate_cleanElements (p : String) (hE : cleanElements p ≠ []) :
    (['/'].intercalate ((cleanElements p).map String.toList)).splitOn '/' =
      (cleanElements p).map String.toList := by
  exact List.splitOn_intercalate _ (fun l hl => by
      obtain ⟨e, he, rfl⟩ := List.mem_map.mp hl
      exact (mem_cleanElements he).2)
    (by simpa using hE)

/-- The parts of what stands before a child, split at its slashes: the cleaned elements, with an
empty part after them and, under the root, one before them. -/
theorem splitOn_childPrefix (p : String) :
    (childPrefix p).toList.splitOn '/' =
      (if isAbs p then [[]] else []) ++ (cleanElements p).map String.toList ++ [[]] := by
  unfold childPrefix
  by_cases h0 : cleanElements p = []
  · cases isAbs p <;> simp [h0, List.splitOn_nil, List.splitOn_cons_eq_if_modifyHead]
  · have hbody : (("/".intercalate (cleanElements p)).toList ++ ['/']).splitOn '/' =
        (cleanElements p).map String.toList ++ [[]] := by
      rw [String.toList_intercalate, show "/".toList = ['/'] from rfl,
        List.splitOn_append_cons_self, splitOn_intercalate_cleanElements p h0, List.splitOn_nil]
    cases isAbs p
    · simp only [Bool.false_eq_true, ↓reduceIte, h0, String.toList_append,
        show "/".toList = ['/'] from rfl, String.toList_empty, List.nil_append]
      rw [hbody]
    · simp only [↓reduceIte, h0, String.toList_append, show "/".toList = ['/'] from rfl,
        List.singleton_append, List.splitOn_cons_eq_if_modifyHead, beq_self_eq_true]
      rw [hbody]
      simp

/-- Where a clean path is put before a name, cleaning it again gives its own elements. -/
theorem cleanElements_childPrefix (p : String) :
    isAbs (childPrefix p) = isAbs p ∧ cleanElements (childPrefix p) = cleanElements p := by
  have hE := cleanStack_cleanElements p
  have hnonempty : ((cleanElements p).filter fun part => !part.isEmpty) = cleanElements p := by
    rw [List.filter_eq_self]
    intro e he
    simpa [String.isEmpty_iff] using (mem_cleanElements he).1
  -- the slash after the elements is an empty last part; a leading slash an empty first part
  have habs : isAbs (childPrefix p) = isAbs p := by
    unfold childPrefix
    cases hp : isAbs p
    · by_cases h0 : cleanElements p = []
      · simp [h0, isAbs]
      · obtain ⟨e, es, hes⟩ := List.exists_cons_of_ne_nil h0
        have he := mem_cleanElements (hes ▸ List.mem_cons_self : e ∈ cleanElements p)
        obtain ⟨c, cs, hc⟩ := List.exists_cons_of_ne_nil
          fun h => he.1 (String.toList_eq_nil_iff.mp h)
        have hslash : c ≠ '/' := fun h => he.2 (by simp [hc, h])
        cases es <;> simp [hes, isAbs, hc, hslash, String.toList_intercalate]
    · simp [isAbs]
  have hparts : (((childPrefix p).toList.splitOn '/').map String.ofList).filter
      (fun part => !part.isEmpty) = cleanElements p := by
    rw [splitOn_childPrefix]
    cases isAbs p <;> simp [List.filter_append, hnonempty]
  refine ⟨habs, ?_⟩
  rw [cleanElements, habs, foldl_pushElement_filter, hparts]
  conv => lhs; rw [← List.reverse_reverse (cleanElements p)]
  rw [hE.foldl_reverse, List.reverse_reverse]

/-- Cleaning what stands before a child of `p` gives the cleaned `p`. -/
theorem clean_childPrefix (p : String) : clean (childPrefix p) = clean p := by
  obtain ⟨habs, helems⟩ := cleanElements_childPrefix p
  simp only [clean, habs, helems]

theorem childPrefix_toList (p : String) :
    (childPrefix p).toList = [] ∨ ∃ cs, (childPrefix p).toList = cs ++ ['/'] := by
  unfold childPrefix
  by_cases h0 : cleanElements p = []
  · cases isAbs p
    · simp [h0]
    · exact .inr ⟨[], by simp [h0]⟩
  · exact .inr ⟨(if isAbs p then "/" else "").toList ++ ("/".intercalate (cleanElements p)).toList,
      by simp [h0]⟩

theorem reverse_childPrefix_dropWhile (p : String) :
    ((childPrefix p).toList.reverse.dropWhile (· ≠ '/')) = (childPrefix p).toList.reverse ∧
      (childPrefix p).toList.reverse.takeWhile (· ≠ '/') = [] := by
  rcases childPrefix_toList p with h | ⟨cs, h⟩ <;> simp [h]

/-- The last element of a name put after a clean path is the name. -/
theorem base_childPrefix_append (p : String) {q : String} (hq : IsName q.toList) :
    base (childPrefix p ++ q) = q := by
  obtain ⟨hne, -, -, hslash⟩ := hq
  obtain ⟨c, cs, hc⟩ := List.exists_cons_of_ne_nil (List.reverse_ne_nil_iff.mpr hne)
  have hc' : c ≠ '/' := fun h => hslash (List.mem_reverse.mp (by simp [hc, h]))
  have hall : ∀ x ∈ q.toList.reverse, decide (x ≠ '/') = true := by
    intro x hx
    have hx' : x ≠ '/' := fun h => hslash (List.mem_reverse.mp (h ▸ hx))
    simpa using hx'
  have htrail : dropTrailingSlashes (childPrefix p ++ q) = childPrefix p ++ q := by
    rw [dropTrailingSlashes, String.toList_append, List.reverse_append, hc, List.cons_append,
      List.dropWhile_cons_of_neg (by simpa using hc'), ← List.cons_append, ← hc,
      List.reverse_append, List.reverse_reverse, List.reverse_reverse, ← String.toList_append,
      String.ofList_toList]
  have hnonempty : (childPrefix p ++ q).isEmpty = false := by
    rw [String.isEmpty_eq_false_iff, Ne, String.append_eq_empty_iff]
    rintro ⟨-, rfl⟩
    exact hne rfl
  rw [base, if_neg (by simp [hnonempty]), htrail, if_neg (by simp [hnonempty]),
    String.toList_append, List.reverse_append, List.takeWhile_append_of_pos hall,
    (reverse_childPrefix_dropWhile p).2]
  simp

/-- The directory of a name put after a clean path is the cleaned path. -/
theorem dir_childPrefix_append (p : String) {q : String} (hq : IsName q.toList) :
    dir (childPrefix p ++ q) = clean p := by
  have hall : ∀ x ∈ q.toList.reverse, decide (x ≠ '/') = true := by
    intro x hx
    have hx' : x ≠ '/' := fun h => hq.2.2.2 (List.mem_reverse.mp (h ▸ hx))
    simpa using hx'
  rw [dir, String.toList_append, List.reverse_append, List.dropWhile_append_of_pos hall,
    (reverse_childPrefix_dropWhile p).1, List.reverse_reverse, String.ofList_toList,
    clean_childPrefix]

theorem ofNames_of_isName {q : String} (hq : IsName q.toList) : OfNames q := by
  intro part hpart
  rw [List.splitOn_eq_singleton hq.2.2.2, List.mem_singleton] at hpart
  exact hpart ▸ hq

/-- The parts of a cleaned path put together with slashes are not empty, so it starts and ends
with an element. -/
theorem parts_intercalate_ne_nil (p : String) :
    ∀ part ∈ ("/".intercalate (cleanElements p)).toList.splitOn '/',
      part ≠ [] ∨ cleanElements p = [] := by
  intro part hpart
  by_cases h0 : cleanElements p = []
  · exact .inr h0
  · rw [String.toList_intercalate, show "/".toList = ['/'] from rfl,
      splitOn_intercalate_cleanElements p h0] at hpart
    obtain ⟨e, he, rfl⟩ := List.mem_map.mp hpart
    exact .inl fun h => (mem_cleanElements he).1 (String.toList_eq_nil_iff.mp h)

end Path

namespace Group

theorem length_upLevels (cs : List Char) : (upLevels cs).length = cs.length := by
  fun_induction upLevels cs <;> simp_all

theorem upLevels_of_length_le_two {cs : List Char} (h : cs.length ≤ 2) : upLevels cs = cs := by
  match cs, h with
  | [], _ => rfl
  | [a], _ => simp [upLevels]
  | [a, b], _ => simp [upLevels]

theorem trimSlashes_slash_cons (cs : List Char) : trimSlashes ('/' :: cs) = trimSlashes cs := by
  simp [trimSlashes]

theorem trimSlashes_of_parts_ne_nil {cs : List Char} (h : ∀ part ∈ cs.splitOn '/', part ≠ []) :
    trimSlashes cs = cs := by
  have hhead : ∀ rest, cs ≠ '/' :: rest := fun rest hrest =>
    h [] (by simp [hrest, List.splitOn_cons_eq_if_modifyHead]) rfl
  have hlast : ∀ rest, cs.reverse ≠ '/' :: rest := by
    intro rest hrest
    have hcs : cs = rest.reverse ++ ['/'] := by simpa using congrArg List.reverse hrest
    exact h [] (by simp [hcs, List.splitOn_append_cons_self, List.splitOn_nil]) rfl
  rw [trimSlashes, dropWhile_slash_of_ne hhead, dropWhile_slash_of_ne hlast, List.reverse_reverse]

/-- What the key starts from is `..` exactly when the path cleans to `..`: under the root a
cleaned path has no `..`, and elsewhere the trimmed path is the cleaned one. -/
theorem trimSlashes_clean_eq_dotdot_iff (q : String) :
    trimSlashes (Path.clean q).toList = ['.', '.'] ↔ Path.clean q = ".." := by
  constructor
  · intro h
    have hbody : trimSlashes ("/".intercalate (Path.cleanElements q)).toList =
        ("/".intercalate (Path.cleanElements q)).toList := by
      by_cases h0 : Path.cleanElements q = []
      · simp [h0, trimSlashes]
      · exact trimSlashes_of_parts_ne_nil fun part hp =>
          ((Path.parts_intercalate_ne_nil q part hp).resolve_right h0)
    unfold Path.clean at h ⊢
    cases habs : Path.isAbs q
    · simp only [habs, Bool.false_eq_true, ↓reduceIte] at h ⊢
      split at h
      · simp [trimSlashes] at h
      · rename_i hne
        rw [if_neg hne]
        rw [hbody] at h
        exact Path.eq_of_toList_eq h
    · -- under the root, the only element would be `..`, which cleaning drops there
      simp only [habs, ↓reduceIte, String.toList_append, show "/".toList = ['/'] from rfl,
        List.singleton_append, trimSlashes_slash_cons, hbody] at h
      exfalso
      have hE : Path.cleanElements q ≠ [] := by
        intro h0
        simp [h0] at h
      have hsplit := Path.splitOn_intercalate_cleanElements q hE
      rw [← show "/".toList = ['/'] from rfl, ← String.toList_intercalate, h] at hsplit
      have hdd : ".." ∈ (Path.cleanElements q).reverse := by
        have : ['.', '.'] ∈ (Path.cleanElements q).map String.toList := by
          rw [← hsplit]
          decide
        obtain ⟨e, he, hee⟩ := List.mem_map.mp this
        have hdots : e = ".." := by rw [← String.toList_inj, hee]; rfl
        exact List.mem_reverse.mpr (hdots ▸ he)
      obtain ⟨names, k, hstack, hnames, hroot⟩ := habs ▸ Path.cleanStack_cleanElements q
      rw [hstack, hroot rfl, List.replicate_zero, List.append_nil] at hdd
      exact (hnames _ hdd).2.2.1 rfl
  · intro h
    rw [h]
    rfl

/-- A flattened path is a name unless it is `..`, once the empty path and `.` are set apart. -/
theorem isName_flatten_upLevels_iff {p : List Char} (hne : p ≠ []) (hdot : p ≠ ['.']) :
    Path.IsName (flatten (upLevels p)) ↔ p ≠ ['.', '.'] := by
  -- a result of one or two characters is the path itself, which the key rewrites not at all
  have hshort : ∀ {ds : List Char}, ds.length ≤ 2 → '_' ∉ ds → flatten (upLevels p) = ds →
      p = ds := by
    intro ds hlen hu h
    have hup := eq_of_flatten_eq h hu
    have hlen' : p.length ≤ 2 := by
      rw [← length_upLevels p, hup]
      exact hlen
    rw [← upLevels_of_length_le_two hlen', hup]
  constructor
  · rintro ⟨-, -, hdots, -⟩ rfl
    exact hdots rfl
  · intro hdots
    refine ⟨?_, fun h => hdot (hshort (by decide) (by decide) h),
      fun h => hdots (hshort (by decide) (by decide) h), slash_not_mem_flatten _⟩
    intro h
    have : (flatten (upLevels p)).length = p.length := by simp [flatten, length_upLevels]
    rw [h] at this
    exact hne (List.length_eq_zero_iff.mp this.symm)

/-- A group's key is a name exactly when the group's path does not clean to `..`. -/
theorem key_isName_iff (g : Group) : Path.IsName g.key.toList ↔ Path.clean g.path ≠ ".." := by
  rw [Ne, ← trimSlashes_clean_eq_dotdot_iff g.path, key]
  generalize trimSlashes (Path.clean g.path).toList = p
  split
  · rename_i hroot
    simp only [Bool.or_eq_true, List.isEmpty_iff, decide_eq_true_eq] at hroot
    constructor
    · rintro - rfl
      simp at hroot
    · intro _
      decide
  · rename_i hkept
    simp only [Bool.or_eq_true, List.isEmpty_iff, decide_eq_true_eq, not_or] at hkept
    rw [String.toList_ofList]
    exact isName_flatten_upLevels_iff hkept.1 hkept.2

end Group

/-- With artifacts kept apart by group, a group whose path does not clean to `..` has a key that
is a name (not empty, not `.` or `..`, no slash), and its artifact directory is a direct child of
the artifact root: its directory is the cleaned root and its last element the key. -/
theorem scoped_artifactDir_is_child (w : Workspace) (hw : w.byGroup = true) (g : Group)
    (hg : Path.clean g.path ≠ "..") :
    Path.IsName g.key.toList ∧ Path.dir (w.artifactDir g) = Path.clean w.artifactRoot ∧
      Path.base (w.artifactDir g) = g.key := by
  have hkey := (Group.key_isName_iff g).mpr hg
  have hdir : w.artifactDir g = Path.childPrefix w.artifactRoot ++ g.key := by
    rw [Workspace.artifactDir, if_pos hw, Path.join_childPrefix _ (Path.ofNames_of_isName hkey)]
  rw [hdir]
  exact ⟨hkey, Path.dir_childPrefix_append _ hkey, Path.base_childPrefix_append _ hkey⟩

theorem upper_group_artifacts_stay_under_root :
    Path.clean "../lists" ≠ ".." ∧ Path.IsName (⟨"../lists"⟩ : Group).key.toList ∧
      Path.dir ((Workspace.mk "out" "art" true).artifactDir ⟨"../lists"⟩) = Path.clean "art" ∧
      Path.base ((Workspace.mk "out" "art" true).artifactDir ⟨"../lists"⟩) =
        (⟨"../lists"⟩ : Group).key :=
  ⟨by decide, scoped_artifactDir_is_child (Workspace.mk "out" "art" true) rfl ⟨"../lists"⟩
    (by decide)⟩

/-- A group whose path is `..` has the key `..`, so its artifacts go to the parent of the
artifact root, here the working directory. -/
theorem parent_group_artifacts_escape_root :
    (⟨".."⟩ : Group).key = ".." ∧ (Workspace.mk "out" "art" true).artifactDir ⟨".."⟩ = "." := by
  decide +kernel

end Regress
