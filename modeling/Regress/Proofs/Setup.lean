import Regress.Proofs.Rescan
import Regress.Proofs.NamePatterns

/-!
# Which workspaces can be set up

Making a directory with its missing parents succeeds exactly when the path can be made
(`Makeable`): it is not empty, it is shorter than `maxPathLength` bytes, each of its names fits
in `maxNameLength` bytes, and no file lies on it, neither at a directory it goes down into nor at
its end. A directory that is missing is no obstacle, since it is made; the walk to the path goes
on as if it were there (`descents`). A parent's text is a prefix of the path's, so it is no
longer (`nameSize_le_of_isPrefix`). This holds in every tree a file system has (`Sound`): the
working directory is a directory, and so is the parent of every node. The process is taken to
be allowed to search and write every directory, as `FileTree` has no permission checks there.

`mkdirAllKeeping` makes a path's parent before the path itself, and the parent's elements are
the path's but the last (`elements_of_parent`). So one induction over its recursion carries
three facts at once (`MadeAs`): the tree stays sound, the run succeeds exactly when the path
can be made, and every directory it adds is one the path goes down into
(`mkdirAllKeeping_madeAs`). Whether a path can be made does not change while directories are
added (`makeable_congr`), so setting up a workspace succeeds exactly when each of its
directories can be made in the tree it started from, and a failure names the first that cannot
(`setup_succeeds_iff_makeable`).
-/

namespace Regress

theorem Utf8.byteSize_eq_length (s : String) : Utf8.byteSize s = (Utf8.octets s).length := by
  unfold Utf8.byteSize
  split
  · rfl
  · rename_i h
    -- without stand-ins, both count the UTF-8 octets of every character
    have hutf : ∀ l : List Char,
        (String.ofList l).utf8ByteSize = (l.flatMap String.utf8EncodeChar).length := by
      intro l
      induction l with
      | nil => simp
      | cons c l ih => simp [String.ofList_cons, ih, String.length_utf8EncodeChar]
    rw [Utf8.octets, if_neg h, ← hutf, String.ofList_toList]

namespace FileTree

/-! ## A path's parent -/

section Parent

/-- A path is its parent prefix, then its last element, then slashes. -/
theorem parentPrefix_split (cs : List Char) :
    ∃ last slashes, cs = parentPrefix cs ++ last ++ slashes ∧ '/' ∉ last ∧
      (∀ c ∈ slashes, c = '/') ∧
      (parentPrefix cs ≠ [] → last ≠ [] ∧ (parentPrefix cs).getLast? = some '/') := by
  -- read backwards: the trailing slashes, then the last element up to a slash
  obtain ⟨r₁, hr₁⟩ : ∃ r₁, cs.reverse.dropWhile (· = '/') = r₁ := ⟨_, rfl⟩
  obtain ⟨r₂, hr₂⟩ : ∃ r₂, r₁.dropWhile (· ≠ '/') = r₂ := ⟨_, rfl⟩
  have hpre : parentPrefix cs = r₂.reverse := by rw [parentPrefix, hr₁, hr₂]
  have hrev : cs.reverse =
      cs.reverse.takeWhile (· = '/') ++ (r₁.takeWhile (· ≠ '/') ++ r₂) := by
    rw [← hr₂, List.takeWhile_append_dropWhile, ← hr₁, List.takeWhile_append_dropWhile]
  refine ⟨(r₁.takeWhile (· ≠ '/')).reverse, (cs.reverse.takeWhile (· = '/')).reverse, ?_, ?_, ?_,
    ?_⟩
  · calc cs = cs.reverse.reverse := (List.reverse_reverse cs).symm
      _ = _ := congrArg List.reverse hrev
      _ = _ := by simp [hpre]
  · intro hmem
    have := List.all_eq_true.1 List.all_takeWhile _ (List.mem_reverse.1 hmem)
    simp at this
  · intro c hc
    simpa using List.all_eq_true.1 List.all_takeWhile _ (List.mem_reverse.1 hc)
  · intro hne
    rw [hpre, ne_eq, List.reverse_eq_nil_iff] at hne
    have hslash : r₂.head hne = '/' := by
      subst hr₂
      simpa using List.head_dropWhile_not (fun c => decide (c ≠ '/')) hne
    have hr₁ne : r₁ ≠ [] := by
      rintro h
      simp [← hr₂, h] at hne
    have hfirst : r₁.head hr₁ne ≠ '/' := by
      subst hr₁
      simpa using List.head_dropWhile_not (fun c => decide (c = '/')) hr₁ne
    refine ⟨?_, ?_⟩
    · obtain ⟨c, rest, hc⟩ := List.exists_cons_of_ne_nil hr₁ne
      have hc' : c ≠ '/' := by simpa [hc] using hfirst
      simp [hc, hc']
    · obtain ⟨c, rest, hc⟩ := List.exists_cons_of_ne_nil hne
      have hc' : c = '/' := by simpa [hc] using hslash
      rw [hpre, hc, hc']
      simp

theorem parentPrefix_isPrefix (cs : List Char) : parentPrefix cs <+: cs := by
  obtain ⟨last, slashes, hcs, -⟩ := parentPrefix_split cs
  exact ⟨last ++ slashes, by rw [← List.append_assoc, ← hcs]⟩

theorem elements_append_slash (u v : List Char) :
    elements (String.ofList (u ++ '/' :: v)) =
      elements (String.ofList u) ++ elements (String.ofList v) := by
  simp [elements, List.splitOn_append_cons_self]

theorem elements_slashes : ∀ {cs : List Char}, (∀ c ∈ cs, c = '/') → elements (String.ofList cs) = []
  | [], _ => by simp [elements, List.splitOn_nil]
  | c :: rest, h => by
    have hc : c = '/' := h c List.mem_cons_self
    subst hc
    have := elements_append_slash [] rest
    rw [List.nil_append] at this
    rw [this, elements_slashes fun c hc => h c (List.mem_cons_of_mem _ hc)]
    simp [elements, List.splitOn_nil]

theorem elements_last_slashes {last slashes : List Char} (hlast : '/' ∉ last)
    (hslashes : ∀ c ∈ slashes, c = '/') :
    elements (String.ofList (last ++ slashes)) =
      if last = [] then [] else [String.ofList last] := by
  cases slashes with
  | nil =>
    by_cases h : last = [] <;> simp [elements, List.splitOn_eq_singleton hlast, h]
  | cons c rest =>
    have hc : c = '/' := hslashes c List.mem_cons_self
    subst hc
    rw [elements_append_slash, elements_slashes fun c hc => hslashes c (List.mem_cons_of_mem _ hc)]
    by_cases h : last = [] <;> simp [elements, List.splitOn_eq_singleton hlast, h]

variable {cs : List Char}

/-- When `mkdirAllKeeping` makes a parent first, the parent has the path's elements but the
last, and starts where the path starts. -/
theorem elements_of_parent (h : (parentPrefix cs).length > 1) :
    ∃ last, elements (String.ofList cs) =
        elements (String.ofList ((parentPrefix cs).take ((parentPrefix cs).length - 1))) ++
          [last] ∧
      Path.isAbs (String.ofList ((parentPrefix cs).take ((parentPrefix cs).length - 1))) =
        Path.isAbs (String.ofList cs) ∧
      String.ofList ((parentPrefix cs).take ((parentPrefix cs).length - 1)) ≠ "" := by
  obtain ⟨last, slashes, hcs, hlast, hslashes, hne⟩ := parentPrefix_split cs
  have hpre : parentPrefix cs ≠ [] := by
    rintro h'
    simp [h'] at h
  obtain ⟨hlastne, hend⟩ := hne hpre
  obtain ⟨par, hpar⟩ := List.getLast?_eq_some_iff.1 hend
  have htake : (parentPrefix cs).take ((parentPrefix cs).length - 1) = par := by
    simp [hpar]
  have hparne : par ≠ [] := by
    rintro rfl
    simp [hpar] at h
  rw [htake]
  refine ⟨String.ofList last, ?_, ?_, ?_⟩
  · rw [hcs, hpar, List.append_assoc, List.append_assoc, List.singleton_append, elements_append_slash,
      elements_last_slashes hlast hslashes, if_neg hlastne]
  · obtain ⟨c, rest, rfl⟩ := List.exists_cons_of_ne_nil hparne
    rw [hcs, hpar]
    simp [Path.isAbs]
  · simpa [← String.toList_inj] using hparne

/-- Without a parent to make first, a path has one element at most. -/
theorem elements_of_no_parent (h : ¬ (parentPrefix cs).length > 1) :
    (elements (String.ofList cs)).length ≤ 1 := by
  obtain ⟨last, slashes, hcs, hlast, hslashes, hne⟩ := parentPrefix_split cs
  have hone : elements (String.ofList (last ++ slashes)) = [] ∨
      elements (String.ofList (last ++ slashes)) = [String.ofList last] := by
    rw [elements_last_slashes hlast hslashes]
    split <;> simp
  rcases hpre : parentPrefix cs with _ | ⟨c, rest⟩
  · rw [hpre, List.nil_append] at hcs
    rw [hcs]
    rcases hone with h' | h' <;> rw [h'] <;> simp
  · have hend := (hne (by simp [hpre])).2
    have hrest : rest = [] := by
      rw [hpre, List.length_cons] at h
      exact List.eq_nil_of_length_eq_zero (by omega)
    subst hrest
    have hc : c = '/' := by simpa [hpre] using hend
    subst hc
    rw [hpre, List.append_assoc, show ['/'] ++ (last ++ slashes) = [] ++ '/' :: (last ++ slashes)
      from rfl] at hcs
    rw [hcs, elements_append_slash]
    rcases hone with h' | h' <;> rw [h'] <;> simp [elements, List.splitOn_nil]

end Parent

/-! ## Trees a file system has -/

/-- A tree as a file system has it: the working directory is a directory, and so is the parent
of every node. -/
def Sound (t : FileTree) (cwd : List String) : Prop :=
  t.get? cwd = some .dir ∧ ∀ e ∈ t.nodes, t.get? e.1.dropLast = some .dir

instance (t : FileTree) (cwd : List String) : Decidable (t.Sound cwd) :=
  inferInstanceAs (Decidable (_ ∧ ∀ e ∈ t.nodes, _))

namespace Sound

variable {t : FileTree} {cwd : List String}

theorem parent_dir (h : t.Sound cwd) {p : List String} {n : Node} (hp : t.get? p = some n) :
    t.get? p.dropLast = some .dir := by
  by_cases hnil : p = []
  · subst hnil
    rfl
  · obtain ⟨e, he, hep⟩ : ∃ e ∈ t.nodes, e.1 = p := by
      simp only [get?, List.isEmpty_iff, hnil, if_false, Option.map_eq_some_iff] at hp
      obtain ⟨e, hfind, -⟩ := hp
      exact ⟨e, List.mem_of_find?_eq_some hfind, by simpa using List.find?_some hfind⟩
    exact hep ▸ h.2 e he

theorem prefix_dir (h : t.Sound cwd) {p q : List String} (hp : t.get? p = some .dir)
    (hq : q <+: p) : t.get? q = some .dir := by
  -- climb from `p` one directory at a time, reading `p` from its end
  obtain ⟨r, rfl⟩ : ∃ r, p = r.reverse := ⟨p.reverse, by simp⟩
  induction r generalizing q with
  | nil =>
    rw [List.reverse_nil] at hq
    rw [List.prefix_nil.1 hq]
    rfl
  | cons a r ih =>
    rw [List.reverse_cons] at hp hq
    rcases List.prefix_concat_iff.1 hq with rfl | hq
    · exact hp
    · exact ih (by simpa using h.parent_dir hp) hq

/-- Where a walk starts, from the root or from the working directory, is a directory, and so
is every directory above it. -/
theorem start_dir (h : t.Sound cwd) (abs : Bool) {q : List String}
    (hq : q <+: if abs then [] else cwd) : t.get? q = some .dir := by
  cases abs with
  | true => rw [List.prefix_nil.1 hq]; rfl
  | false => exact h.prefix_dir h.1 hq

end Sound

/-! ## What making a path goes through -/

/-- The directories that making a path goes down into, from `cur` over the elements `es`, in
order: where each element that is not `.` or `..` leads, the last one's included. -/
def descents (cur : List String) : List String → List (List String)
  | [] => []
  | e :: rest =>
    if e == "." then descents cur rest
    else if e == ".." then descents cur.dropLast rest
    else (cur ++ [e]) :: descents (cur ++ [e]) rest

theorem descents_append (cur : List String) (es es' : List String) :
    descents cur (es ++ es') = descents cur es ++ descents (descend cur es) es' := by
  induction es generalizing cur with
  | nil => rfl
  | cons e rest ih =>
    simp only [List.cons_append, descents, descend]
    split
    · exact ih cur
    · split
      · exact ih cur.dropLast
      · rw [ih (cur ++ [e]), List.cons_append]

/-- Where a walk arrives is a directory it went down into, or one above where it started. -/
theorem descend_mem_or_prefix (cur : List String) (es : List String) :
    descend cur es ∈ descents cur es ∨ descend cur es <+: cur := by
  induction es generalizing cur with
  | nil => exact .inr (List.prefix_refl cur)
  | cons e rest ih =>
    simp only [descend, descents]
    split
    · exact ih cur
    · split
      · rcases ih cur.dropLast with h | h
        · exact .inl h
        · exact .inr (h.trans (List.dropLast_prefix cur))
      · rcases ih (cur ++ [e]) with h | h
        · exact .inl (List.mem_cons_of_mem _ h)
        · rcases List.prefix_concat_iff.1 h with h | h
          · exact .inl (by rw [h]; exact List.mem_cons_self)
          · exact .inr h

/-- Whether making the directory `p` from the working directory `cwd` can succeed: the path is
not empty and shorter than `maxPathLength` bytes, each of its names fits in `maxNameLength`
bytes, and no file lies on it, at a directory it goes down into or at its end. A directory that
is missing is no obstacle: it is made. -/
def Makeable (t : FileTree) (cwd : List String) (p : String) : Prop :=
  p ≠ "" ∧ t.nameSize p < maxPathLength ∧
    (∀ e ∈ elements p, e ≠ "." → e ≠ ".." → t.nameSize e ≤ maxNameLength) ∧
    ∀ q ∈ descents (if Path.isAbs p then [] else cwd) (elements p),
      t.get? q = none ∨ t.get? q = some .dir

instance (t : FileTree) (cwd : List String) (p : String) : Decidable (t.Makeable cwd p) :=
  inferInstanceAs (Decidable (_ ∧ _ ∧ _ ∧ _))

/-! ## The size of a path -/

theorem nameSize_le_of_isPrefix (t : FileTree) {a b : List Char} (h : a <+: b) :
    t.nameSize (String.ofList a) ≤ t.nameSize (String.ofList b) := by
  obtain ⟨rest, rfl⟩ := h
  unfold nameSize
  split
  · simp
  · rw [Utf8.byteSize_eq_length, Utf8.byteSize_eq_length, Utf8.octets_ofList, Utf8.octets_ofList,
      List.flatMap_append, List.length_append]
    omega

/-! ## Walks that get through -/

section Walk

variable {t : FileTree} {cwd cur : List String}

/-- A walk that gets through has checked the length of every name, and every directory it went
down into is there, but for where it arrives. -/
theorem walk_descents {es : List String} {r : List String × Option String}
    (h : t.walk cur es = .ok r) :
    (∀ e ∈ es, e ≠ "." → e ≠ ".." → t.nameSize e ≤ maxNameLength) ∧
      ∀ q ∈ descents cur es, t.get? q = some .dir ∨ q = descend cur es := by
  fun_induction walk t cur es with
  | case1 => simp [descents]
  | case2 cur last hdot =>
    have : last = "." := by simpa using hdot
    simp [descents, this]
  | case3 cur last hdot hup =>
    have : last = ".." := by simpa using hup
    simp [descents, this]
  | case5 cur last hdot hup hlong =>
    refine ⟨fun e he _ _ => by simp_all, ?_⟩
    simp [descents, descend, hdot, hup]
  | case6 cur e rest _ hdot ih =>
    obtain ⟨hnames, hdirs⟩ := ih h
    have he : e = "." := by simpa using hdot
    refine ⟨fun e' he' => ?_, by simpa [descents, descend, hdot] using hdirs⟩
    rcases List.mem_cons.1 he' with rfl | he'
    · exact fun hne => absurd he hne
    · exact hnames e' he'
  | case7 cur e rest _ hdot hup ih =>
    obtain ⟨hnames, hdirs⟩ := ih h
    have he : e = ".." := by simpa using hup
    refine ⟨fun e' he' => ?_, by simpa [descents, descend, hdot, hup] using hdirs⟩
    rcases List.mem_cons.1 he' with rfl | he'
    · exact fun _ hne => absurd he hne
    · exact hnames e' he'
  | case9 cur e rest _ hdot hup hlong hd ih =>
    obtain ⟨hnames, hdirs⟩ := ih h
    refine ⟨fun e' he' => ?_, ?_⟩
    · rcases List.mem_cons.1 he' with rfl | he'
      · exact fun _ _ => by simpa using hlong
      · exact hnames e' he'
    · simp only [descents, descend, hdot, hup, Bool.false_eq_true, if_false, List.mem_cons,
        forall_eq_or_imp]
      exact ⟨.inl hd, hdirs⟩
  | case4 | case8 | case10 | case11 => cases h

theorem walk_append_last {es : List String} {r : List String × Option String} (last : String)
    (h : t.walk cur es = .ok r) (hd : t.get? (descend cur es) = some .dir) :
    t.walk cur (es ++ [last]) = t.walk (descend cur es) [last] := by
  fun_induction walk t cur es with
  | case1 => rfl
  | case2 cur e hdot => simp [walk, descend, hdot]
  | case3 cur e hdot hup => simp [walk, descend, hdot, hup]
  | case5 cur e hdot hup hlong =>
    simp only [descend, hdot, hup, Bool.false_eq_true, if_false] at hd
    simp [walk, hdot, hup, hlong, hd, descend]
  -- the other cases match `e :: rest` only for a `rest` that is not empty
  | case6 cur e rest hrest hdot ih =>
    cases rest with
    | nil => exact absurd rfl hrest
    | cons e' rest =>
      have hdesc : descend cur (e :: e' :: rest) = descend cur (e' :: rest) := by
        rw [descend.eq_2, if_pos hdot]
      rw [hdesc] at hd ⊢
      rw [List.cons_append, walk.eq_3 _ _ _ _ (by simp), if_pos hdot]
      exact ih h hd
  | case7 cur e rest hrest hdot hup ih =>
    cases rest with
    | nil => exact absurd rfl hrest
    | cons e' rest =>
      have hdesc : descend cur (e :: e' :: rest) = descend cur.dropLast (e' :: rest) := by
        rw [descend.eq_2, if_neg hdot, if_pos hup]
      rw [hdesc] at hd ⊢
      rw [List.cons_append, walk.eq_3 _ _ _ _ (by simp), if_neg hdot, if_pos hup]
      exact ih h hd
  | case9 cur e rest hrest hdot hup hlong hdir ih =>
    cases rest with
    | nil => exact absurd rfl hrest
    | cons e' rest =>
      have hdesc : descend cur (e :: e' :: rest) = descend (cur ++ [e]) (e' :: rest) := by
        rw [descend.eq_2, if_neg hdot, if_neg hup]
      rw [hdesc] at hd ⊢
      rw [List.cons_append, walk.eq_3 _ _ _ _ (by simp), if_neg hdot, if_neg hup, if_neg hlong,
        hdir]
      exact ih h hd
  | case4 | case8 | case10 | case11 => cases h

/-- In a sound tree a walk that starts at a directory arrives in one. -/
theorem walk_parent_dir (hs : t.Sound cwd) {es : List String} {parent : List String}
    {name : Option String} (hcur : t.get? cur = some .dir)
    (h : t.walk cur es = .ok (parent, name)) : t.get? parent = some .dir := by
  fun_induction walk t cur es with
  | case1 | case2 | case5 => cases h; exact hcur
  | case3 cur => cases h; exact hs.parent_dir hcur
  | case6 cur e rest _ hdot ih => exact ih hcur h
  | case7 cur e rest _ hdot hup ih => exact ih (hs.parent_dir hcur) h
  | case9 cur e rest _ hdot hup hlong hd ih => exact ih hd h
  | case4 | case8 | case10 | case11 => cases h

theorem locate_of_walk {p : String} {parent : List String} {name : Option String}
    (hp : p ≠ "") (hshort : t.nameSize p < maxPathLength)
    (h : t.walk (if Path.isAbs p then [] else cwd) (elements p) = .ok (parent, name)) :
    t.locate cwd p = .ok ⟨parent, name, p.toList.getLast? == some '/'⟩ := by
  have hempty : p.isEmpty = false := by simpa [String.isEmpty_iff] using hp
  simp [locate, hempty, Nat.not_le.2 hshort, h]

theorem isDirAt_of_locate {p : String} {pl : Place} (h : t.locate cwd p = .ok pl)
    (hd : t.get? pl.full = some .dir) : t.isDirAt cwd p = true := by
  simp [isDirAt, stat, h, hd]

theorem mkdir_of_locate {p : String} {pl : Place} {n : String} (h : t.locate cwd p = .ok pl)
    (hn : pl.name = some n) (hnone : t.get? pl.full = none) :
    t.mkdir cwd p = .ok (t.set pl.full .dir) := by
  simp [mkdir, h, hn, hnone]

end Walk

/-! ## What `mkdir` keeps -/

/-- Setting a directory where there was nothing, in a directory, keeps a tree sound. -/
theorem Sound.set_dir {t : FileTree} {cwd parent : List String} {n : String} (hs : t.Sound cwd)
    (hparent : t.get? parent = some .dir) (hnone : t.get? (parent ++ [n]) = none) :
    (t.set (parent ++ [n]) .dir).Sound cwd := by
  have hkeep : ∀ q, t.get? q = some .dir → (t.set (parent ++ [n]) .dir).get? q = some .dir := by
    intro q hq
    by_cases hqn : q = parent ++ [n]
    · rw [hqn, get?_set_self _ (by simp)]
    · rw [get?_set_of_ne _ hqn, hq]
  have hnodes : (t.set (parent ++ [n]) .dir).nodes = (parent ++ [n], .dir) :: t.nodes := by
    rw [set_of_get?_eq_none hnone]
  refine ⟨hkeep cwd hs.1, ?_⟩
  rintro ⟨q, node⟩ hq
  rw [hnodes] at hq
  rcases List.mem_cons.1 hq with hq | hq
  · cases hq
    rw [List.dropLast_concat]
    exact hkeep _ hparent
  · exact hkeep _ (hs.2 _ hq)

theorem Sound.mkdir {t t' : FileTree} {cwd : List String} {p : String} (hs : t.Sound cwd)
    (h : t.mkdir cwd p = .ok t') : t'.Sound cwd := by
  obtain ⟨pl, n, hloc, hname, hnone, rfl⟩ := mkdir_eq h
  have hfull : pl.full = pl.parent ++ [n] := by simp [Place.full, hname]
  have hparent : t.get? pl.parent = some .dir :=
    walk_parent_dir hs (hs.start_dir _ (List.prefix_refl _)) (locate_ok hloc).2
  rw [hfull] at hnone ⊢
  exact hs.set_dir hparent hnone

/-- `mkdir` adds the directory the path leads to, and no other. -/
theorem mkdir_made {t t' : FileTree} {cwd : List String} {p : String}
    (h : t.mkdir cwd p = .ok t') {q : List String} (hq : t.get? q = none)
    (hq' : t'.get? q = some .dir) : q = target cwd p := by
  obtain ⟨pl, n, hloc, -, -, rfl⟩ := mkdir_eq h
  rw [← locate_full hloc]
  by_cases hne : q = pl.full
  · exact hne
  · rw [get?_set_of_ne _ hne, hq] at hq'
    cases hq'

/-! ## Paths that can be made -/

section Makeable

variable {t : FileTree} {cwd : List String} {p : String}

/-- A path that leads to a directory, or to nothing, through directories can be made. -/
theorem makeable_of_locate {pl : Place} (h : t.locate cwd p = .ok pl)
    (hfull : t.get? pl.full = none ∨ t.get? pl.full = some .dir) : t.Makeable cwd p := by
  obtain ⟨hempty, hwalk⟩ := locate_ok h
  obtain ⟨hnames, hdirs⟩ := walk_descents hwalk
  refine ⟨by simpa [String.isEmpty_iff] using hempty, locate_short h, hnames, fun q hq => ?_⟩
  rcases hdirs q hq with hd | rfl
  · exact .inr hd
  · rwa [locate_full h] at hfull

theorem not_makeable_of_stat_file (hs : t.Sound cwd) {c : String} {x : Bool}
    (h : t.stat cwd p = .ok (.file c x)) : ¬ t.Makeable cwd p := by
  intro hm
  have hfile := stat_file h
  -- the file is where the walk arrives: a directory it went down into, or one above the start
  rcases descend_mem_or_prefix (if Path.isAbs p then [] else cwd) (elements p) with hq | hq
  · rcases hm.2.2.2 _ hq with hq' | hq' <;> simp [target, hq'] at hfile
  · have := hs.start_dir _ hq
    simp [target, this] at hfile

/-- Whether a path can be made reads only where files are, and how names are measured. -/
theorem makeable_congr {t' : FileTree} (hadd : t.DirsAdded t') (hsize : t'.nameSize = t.nameSize) :
    t'.Makeable cwd p ↔ t.Makeable cwd p := by
  have hq : ∀ q, (t'.get? q = none ∨ t'.get? q = some .dir) ↔
      (t.get? q = none ∨ t.get? q = some .dir) := by
    intro q
    rcases hadd q with h | ⟨hn, hd⟩
    · rw [h]
    · simp [hn, hd]
  simp only [Makeable, hsize, hq]

theorem nameSize_replicate (ht : t.octets = false) {c : Char} (hc : Utf8.isRaw c = false)
    (n : Nat) : t.nameSize (String.ofList (List.replicate n c)) = n * c.utf8Size := by
  have hbytes : (String.ofList (List.replicate n c)).utf8ByteSize = n * c.utf8Size := by
    induction n with
    | zero => simp
    | succ n ih =>
      rw [List.replicate_succ, String.ofList_cons, String.utf8ByteSize_append, ih, Nat.succ_mul]
      simp [Nat.add_comm]
  simp [nameSize, ht, Utf8.byteSize, Utf8.hasRaw, List.any_replicate, hc, hbytes]

/-- A name longer than `maxNameLength` bytes on a path keeps it from being made. -/
theorem not_makeable_of_long_name {e : String} (he : e ∈ elements p) (hdot : e ≠ ".")
    (hup : e ≠ "..") (hlong : maxNameLength < t.nameSize e) : ¬ t.Makeable cwd p :=
  fun hm => Nat.not_le.2 hlong (hm.2.2.1 e he hdot hup)

/-- A path that can be made has a parent that can be made. -/
theorem makeable_parent {par : String} {last : String}
    (helem : elements p = elements par ++ [last]) (habs : Path.isAbs par = Path.isAbs p)
    (hpar : par ≠ "") (hsize : t.nameSize par ≤ t.nameSize p) (hm : t.Makeable cwd p) :
    t.Makeable cwd par := by
  obtain ⟨-, hshort, hnames, hfiles⟩ := hm
  rw [helem, ← habs, descents_append] at hfiles
  rw [helem] at hnames
  exact ⟨hpar, Nat.lt_of_le_of_lt hsize hshort, fun e he => hnames e (List.mem_append_left _ he),
    fun q hq => hfiles q (List.mem_append_left _ hq)⟩

theorem descents_parent {par : String} {last : String}
    (helem : elements p = elements par ++ [last]) (habs : Path.isAbs par = Path.isAbs p)
    {q : List String} (hq : q ∈ descents (if Path.isAbs par then [] else cwd) (elements par)) :
    q ∈ descents (if Path.isAbs p then [] else cwd) (elements p) := by
  rw [helem, ← habs, descents_append]
  exact List.mem_append_left _ hq

/-- Where the last element goes from a directory the walk got to: a path that can be made is
made there by `mkdir`, or is a directory already. -/
theorem mkdir_or_isDirAt (hs : t.Sound cwd) (hm : t.Makeable cwd p) {es : List String}
    {last : String} (helem : elements p = es ++ [last]) {r : List String × Option String}
    (hwalk : t.walk (if Path.isAbs p then [] else cwd) es = .ok r)
    (hd : t.get? (descend (if Path.isAbs p then [] else cwd) es) = some .dir) :
    (∃ t', t.mkdir cwd p = .ok t') ∨ t.isDirAt cwd p = true := by
  obtain ⟨hp, hshort, hnames, hfiles⟩ := hm
  have hw : t.walk (if Path.isAbs p then [] else cwd) (elements p) =
      t.walk (descend (if Path.isAbs p then [] else cwd) es) [last] := by
    rw [helem]
    exact walk_append_last last hwalk hd
  by_cases hdot : last = "."
  · -- the path names the directory the walk got to
    have hlast : t.walk (descend (if Path.isAbs p then [] else cwd) es) [last] =
        .ok (descend (if Path.isAbs p then [] else cwd) es, none) := by simp [walk, hdot]
    exact .inr (isDirAt_of_locate (locate_of_walk hp hshort (hw.trans hlast)) hd)
  by_cases hup : last = ".."
  · -- the path names the directory above
    have hlast : t.walk (descend (if Path.isAbs p then [] else cwd) es) [last] =
        .ok ((descend (if Path.isAbs p then [] else cwd) es).dropLast, none) := by
      simp [walk, hup]
    exact .inr (isDirAt_of_locate (locate_of_walk hp hshort (hw.trans hlast)) (hs.parent_dir hd))
  · have hname : t.nameSize last ≤ maxNameLength := hnames last (by simp [helem]) hdot hup
    have hlast : t.walk (descend (if Path.isAbs p then [] else cwd) es) [last] =
        .ok (descend (if Path.isAbs p then [] else cwd) es, some last) := by
      simp [walk, hdot, hup, Nat.not_lt.2 hname]
    have hloc := locate_of_walk hp hshort (hw.trans hlast)
    have hmem : descend (if Path.isAbs p then [] else cwd) es ++ [last] ∈
        descents (if Path.isAbs p then [] else cwd) (elements p) := by
      rw [helem, descents_append]
      simp [descents, hdot, hup]
    rcases hfiles _ hmem with hnone | hdir
    · exact .inl ⟨_, mkdir_of_locate hloc rfl hnone⟩
    · exact .inr (isDirAt_of_locate hloc hdir)

theorem target_mem_descents (hs : t.Sound cwd) (hnone : t.get? (target cwd p) = none) :
    target cwd p ∈ descents (if Path.isAbs p then [] else cwd) (elements p) := by
  rcases descend_mem_or_prefix (if Path.isAbs p then [] else cwd) (elements p) with h | h
  · exact h
  · have := hs.start_dir _ h
    simp [target, this] at hnone

end Makeable

/-! ## Making a path's directories -/

/-- What making the directories of `p` gave, `r`, against the tree `t` it started from: the tree
stays sound, the run succeeds exactly when the path can be made, and every directory it added
is one the path goes down into. -/
structure MadeAs (t : FileTree) (cwd : List String) (p : String) (r : FileTree × Option FsError) :
    Prop where
  sound : r.1.Sound cwd
  ok_iff : r.2 = none ↔ t.Makeable cwd p
  made : ∀ q, t.get? q = none → r.1.get? q = some .dir →
    q ∈ descents (if Path.isAbs p then [] else cwd) (elements p)

/-- What making a path's parent first leaves for the path itself: a sound tree with directories
added, each one the path goes down into; a failure only where the path cannot be made; and,
where it can, a `mkdir` that succeeds or a directory already there. -/
structure ParentMade (t : FileTree) (cwd : List String) (p : String) (t' : FileTree)
    (o : Option FsError) : Prop where
  sound : t'.Sound cwd
  added : t.DirsAdded t'
  size : t'.nameSize = t.nameSize
  made : ∀ q, t.get? q = none → t'.get? q = some .dir →
    q ∈ descents (if Path.isAbs p then [] else cwd) (elements p)
  failed : o ≠ none → ¬ t.Makeable cwd p
  ready : o = none → t'.Makeable cwd p → (∃ t'', t'.mkdir cwd p = .ok t'') ∨ t'.isDirAt cwd p = true

theorem parent_made {t t' : FileTree} {cwd : List String} {cs : List Char} {o : Option FsError}
    (hs : t.Sound cwd)
    (hparent : (if _h : (parentPrefix cs).length > 1 then
        mkdirAllKeeping.go t cwd ((parentPrefix cs).take ((parentPrefix cs).length - 1))
      else (t, none)) = (t', o))
    (ih : (parentPrefix cs).length > 1 →
      MadeAs t cwd (String.ofList ((parentPrefix cs).take ((parentPrefix cs).length - 1)))
        (mkdirAllKeeping.go t cwd ((parentPrefix cs).take ((parentPrefix cs).length - 1)))) :
    ParentMade t cwd (String.ofList cs) t' o := by
  split at hparent
  · -- the parent is made first, and the path has one element more
    rename_i hlen
    obtain ⟨last, helem, habs, hpar⟩ := elements_of_parent hlen
    have hm := ih hlen
    have hadded := mkdirAllKeeping_go_rel DirsAdded.keptByMkdir t cwd
      ((parentPrefix cs).take ((parentPrefix cs).length - 1))
    have hpre := mkdirAllKeeping_go_rel DirsPrepended.keptByMkdir t cwd
      ((parentPrefix cs).take ((parentPrefix cs).length - 1))
    rw [hparent] at hm hadded hpre
    refine ⟨hm.sound, hadded, hpre.nameSize_eq, fun q hq hq' => descents_parent helem habs
      (hm.made q hq hq'), fun ho hmake => ho (hm.ok_iff.2 (makeable_parent helem habs hpar
        (nameSize_le_of_isPrefix t ((List.take_prefix _ _).trans (parentPrefix_isPrefix cs))) hmake)),
      fun ho hmake => ?_⟩
    have hstat := @mkdirAllKeeping_go_stat t cwd
      ((parentPrefix cs).take ((parentPrefix cs).length - 1)) (by rw [hparent]; exact ho)
    rw [hparent] at hstat
    obtain ⟨pl, hloc, hdir⟩ := stat_dir_locate hstat
    have hwalk := (locate_ok hloc).2
    rw [locate_full hloc, target] at hdir
    rw [habs] at hwalk hdir
    exact mkdir_or_isDirAt hm.sound hmake helem hwalk hdir
  · -- no parent to make: the path has one element at most
    rename_i hlen
    cases hparent
    have hone := elements_of_no_parent hlen
    refine ⟨hs, DirsAdded.refl t, rfl, fun q hq hq' => by simp [hq] at hq', fun ho => absurd rfl ho,
      fun _ hmake => ?_⟩
    have hstart := hs.start_dir (Path.isAbs (String.ofList cs)) (List.prefix_refl _)
    match hel : elements (String.ofList cs), hone with
    | [], _ =>
      have hwalk : t.walk (if Path.isAbs (String.ofList cs) then [] else cwd)
          (elements (String.ofList cs)) = .ok (if Path.isAbs (String.ofList cs) then [] else cwd, none) := by
        rw [hel]; rfl
      exact .inr (isDirAt_of_locate (locate_of_walk hmake.1 hmake.2.1 hwalk) hstart)
    | [last], _ =>
      exact mkdir_or_isDirAt hs hmake (show _ = [] ++ [last] from hel) rfl hstart

/-- In a sound tree, making the directories of a path succeeds exactly when the path can be
made, keeps the tree sound, and adds only directories the path goes down into. -/
theorem mkdirAllKeeping_go_madeAs {t : FileTree} {cwd : List String} (hs : t.Sound cwd)
    (cs : List Char) : MadeAs t cwd (String.ofList cs) (mkdirAllKeeping.go t cwd cs) := by
  -- the parent is made first; `ParentMade` says what that leaves for the path itself
  fun_induction mkdirAllKeeping.go t cwd cs with
  | case1 cs path hdir =>
    obtain ⟨pl, hloc, hget⟩ := stat_dir_locate hdir
    exact ⟨hs, iff_of_true rfl (makeable_of_locate hloc (.inr hget)),
      fun q hq hq' => by simp [hq] at hq'⟩
  | case2 cs path c x hfile =>
    exact ⟨hs, iff_of_false (by simp) (not_makeable_of_stat_file hs hfile),
      fun q hq hq' => by simp [hq] at hq'⟩
  | case3 cs path _ _ parent t' e hparent ih =>
    have hp := parent_made hs hparent ih
    exact ⟨hp.sound, iff_of_false (by simp) (hp.failed (by simp)), hp.made⟩
  | case4 cs path _ _ parent t' hparent t'' hmade ih =>
    have hp := parent_made hs hparent ih
    obtain ⟨pl, n, hloc, -, hnone, -⟩ := mkdir_eq hmade
    refine ⟨hp.sound.mkdir hmade,
      iff_of_true rfl ((makeable_congr hp.added hp.size).1 (makeable_of_locate hloc (.inl hnone))),
      fun q hq hq'' => ?_⟩
    rcases mkdir_dirsAdded hmade q with hq' | ⟨hq', -⟩
    · exact hp.made q hq (hq' ▸ hq'')
    · have htarget := mkdir_made hmade hq' hq''
      subst htarget
      exact target_mem_descents hs hq
  | case5 cs path _ _ parent t' hparent e _ hdir ih =>
    have hp := parent_made hs hparent ih
    obtain ⟨pl, hloc, hget⟩ := stat_dir_locate (isDirAt_stat hdir)
    exact ⟨hp.sound,
      iff_of_true rfl ((makeable_congr hp.added hp.size).1 (makeable_of_locate hloc (.inr hget))),
      hp.made⟩
  | case6 cs path _ _ parent t' hparent e hfail hdir ih =>
    have hp := parent_made hs hparent ih
    refine ⟨hp.sound, iff_of_false (by simp) fun hmake => ?_, hp.made⟩
    rcases hp.ready rfl ((makeable_congr hp.added hp.size).2 hmake) with ⟨t'', hok⟩ | hok
    · rw [hok] at hfail
      cases hfail
    · exact hdir hok

theorem mkdirAllKeeping_madeAs {t : FileTree} {cwd : List String} (hs : t.Sound cwd)
    (p : String) : MadeAs t cwd p (t.mkdirAllKeeping cwd p) := by
  simpa [mkdirAllKeeping] using mkdirAllKeeping_go_madeAs hs p.toList

/-! ## Making a path's directories a second time -/

theorem mkdirAllKeeping_go_of_stat_dir {t : FileTree} {cwd : List String} {cs : List Char}
    (h : t.stat cwd (String.ofList cs) = .ok .dir) : mkdirAllKeeping.go t cwd cs = (t, none) := by
  rw [mkdirAllKeeping.go]
  simp only [h]

theorem mkdirAllKeeping_go_of_stat_file {t : FileTree} {cwd : List String} {cs : List Char}
    {c : String} {x : Bool} (h : t.stat cwd (String.ofList cs) = .ok (.file c x)) :
    mkdirAllKeeping.go t cwd cs = (t, some ⟨"mkdir", String.ofList cs, .notDir⟩) := by
  rw [mkdirAllKeeping.go]
  simp only [h]

/-- Making a path's directories again right after it succeeded changes nothing. -/
theorem mkdirAllKeeping_go_again {t t₁ : FileTree} {cwd : List String} {cs : List Char}
    (h : mkdirAllKeeping.go t cwd cs = (t₁, none)) : mkdirAllKeeping.go t₁ cwd cs = (t₁, none) := by
  have hstat := @mkdirAllKeeping_go_stat t cwd cs (by rw [h])
  rw [h] at hstat
  exact mkdirAllKeeping_go_of_stat_dir hstat

/-- In a sound tree, making a path's directories again right after it failed fails again and
makes nothing. -/
theorem mkdirAllKeeping_go_fails_again {t : FileTree} {cwd : List String} (hs : t.Sound cwd)
    (cs : List Char) {t₁ : FileTree} {e : FsError} (h : mkdirAllKeeping.go t cwd cs = (t₁, some e)) :
    ∃ e', mkdirAllKeeping.go t₁ cwd cs = (t₁, some e') := by
  fun_induction mkdirAllKeeping.go t cwd cs generalizing t₁ e with
  | case1 => cases h
  | case2 =>
    rename_i cs path c x hfile
    cases h
    exact ⟨_, mkdirAllKeeping_go_of_stat_file hfile⟩
  | case3 =>
    rename_i cs path _ _ parent t' e' hparent ih
    cases h
    -- the parent failed, and fails again; the path cannot be made, so it is no directory yet
    have hp := parent_made hs hparent fun _ => mkdirAllKeeping_go_madeAs hs _
    have hnot : ¬ t'.Makeable cwd (String.ofList cs) :=
      fun hm => hp.failed (by simp) ((makeable_congr hp.added hp.size).1 hm)
    have hparent' : (if h : (parentPrefix cs).length > 1 then
        mkdirAllKeeping.go t cwd ((parentPrefix cs).take ((parentPrefix cs).length - 1))
      else (t, none)) = (t', some e') := hparent
    split at hparent'
    case isFalse => cases hparent'
    rename_i hcond
    obtain ⟨e'', hagain⟩ := ih hcond hparent'
    rcases hst : t'.stat cwd (String.ofList cs) with err | (⟨c, x⟩ | _)
    · refine ⟨e'', ?_⟩
      rw [mkdirAllKeeping.go]
      simp only [hst, if_pos hcond, hagain]
    · exact ⟨_, mkdirAllKeeping_go_of_stat_file hst⟩
    · obtain ⟨pl, hloc, hget⟩ := stat_dir_locate hst
      exact absurd (makeable_of_locate hloc (.inr hget)) hnot
  | case4 => cases h
  | case5 => cases h
  | case6 =>
    rename_i cs path _ _ parent t' hparent e' hfail hdir ih
    cases h
    -- the parent is made already, and `mkdir` fails on the same tree as before
    have hparent' : (if h : (parentPrefix cs).length > 1 then
        mkdirAllKeeping.go t cwd ((parentPrefix cs).take ((parentPrefix cs).length - 1))
      else (t, none)) = (t', none) := hparent
    have hagain : (if (parentPrefix cs).length > 1 then
        mkdirAllKeeping.go t' cwd ((parentPrefix cs).take ((parentPrefix cs).length - 1))
      else (t', none)) = (t', none) := by
      split at hparent'
      · rename_i hcond
        rw [if_pos hcond]
        exact mkdirAllKeeping_go_again hparent'
      · rename_i hcond
        rw [if_neg hcond]
    have hfail' : t'.mkdir cwd (String.ofList cs) = .error e' := hfail
    have hdir' : ¬ t'.isDirAt cwd (String.ofList cs) = true := hdir
    rcases hst : t'.stat cwd (String.ofList cs) with err | (⟨c, x⟩ | _)
    · refine ⟨e', ?_⟩
      rw [mkdirAllKeeping.go]
      simp only [hst, hagain, hfail', hdir', Bool.false_eq_true, ↓reduceIte]
    · exact ⟨_, mkdirAllKeeping_go_of_stat_file hst⟩
    · exact absurd (by simp only [isDirAt, hst]) hdir'

end FileTree

namespace Workspace

open FileTree

variable {cwd : List String}

/-- What setting up the directories `dirs` gave, `r`, against the tree `t` it started from: the
tree stays sound; it succeeds exactly when every directory can be made; a failure is the
workspace failure of the first directory that cannot be made, all before it can; and every
directory it added is one that some of `dirs` goes down into. -/
structure SetUpAs (t : FileTree) (cwd : List String) (dirs : List String)
    (r : FileTree × Option Failure) : Prop where
  sound : r.1.Sound cwd
  ok_iff : r.2 = none ↔ ∀ d ∈ dirs, t.Makeable cwd d
  first_failure : ∀ f, r.2 = some f → ∃ pre d post, dirs = pre ++ d :: post ∧
    (∀ x ∈ pre, t.Makeable cwd x) ∧ ¬ t.Makeable cwd d ∧
    ∃ e : FsError, f = Failure.workspace ("create " ++ d ++ ": " ++ e.message)
  made : ∀ q, t.get? q = none → r.1.get? q = some .dir →
    ∃ d ∈ dirs, q ∈ descents (if Path.isAbs d then [] else cwd) (elements d)

theorem SetUpAs.cons {t t' : FileTree} {d : String} {rest : List String}
    {r : FileTree × Option Failure} (hm : MadeAs t cwd d (t', none)) (hadd : t.DirsAdded t')
    (hpre : t.DirsPrepended t') (ih : SetUpAs t' cwd rest r) : SetUpAs t cwd (d :: rest) r := by
  have hcongr : ∀ x, t'.Makeable cwd x ↔ t.Makeable cwd x :=
    fun x => makeable_congr hadd hpre.nameSize_eq
  refine ⟨ih.sound, ?_, fun f hf => ?_, fun q hq hq' => ?_⟩
  · rw [ih.ok_iff, List.forall_mem_cons]
    simp only [hcongr]
    exact ⟨fun h => ⟨hm.ok_iff.1 rfl, h⟩, fun h => h.2⟩
  · obtain ⟨pre, x, post, hdirs, hpre', hx, he⟩ := ih.first_failure f hf
    refine ⟨d :: pre, x, post, by simp [hdirs], ?_, fun h => hx ((hcongr x).2 h), he⟩
    rw [List.forall_mem_cons]
    exact ⟨hm.ok_iff.1 rfl, fun y hy => (hcongr y).1 (hpre' y hy)⟩
  · -- made by the first directory, or by the rest
    rcases hadd q with h | ⟨-, hd⟩
    · obtain ⟨x, hx, hq''⟩ := ih.made q (h.trans hq) hq'
      exact ⟨x, List.mem_cons_of_mem _ hx, hq''⟩
    · exact ⟨d, List.mem_cons_self, hm.made q hq hd⟩

theorem ensureAll_setUpAs : ∀ {t : FileTree} (_ : t.Sound cwd) (dirs : List String),
    SetUpAs t cwd dirs (ensureAll t cwd dirs)
  | t, hs, [] => ⟨hs, by simp [ensureAll], by simp [ensureAll],
      fun q hq hq' => by simp [ensureAll, hq] at hq'⟩
  | t, hs, d :: rest => by
    have hm := mkdirAllKeeping_madeAs hs d
    rcases hmk : t.mkdirAllKeeping cwd d with ⟨t', _ | e⟩
    · -- the first directory is made: the rest are set up from the tree it left
      rw [hmk] at hm
      have hensure : ensure t cwd d = (t', none) := by simp [ensure, hmk]
      have hadd : t.DirsAdded (ensure t cwd d).1 :=
        ensure_rel DirsAdded.keptByMkdir t d
      have hpre : t.DirsPrepended (ensure t cwd d).1 :=
        ensure_rel DirsPrepended.keptByMkdir t d
      rw [hensure] at hadd hpre
      have hrun : ensureAll t cwd (d :: rest) = ensureAll t' cwd rest := by
        rw [ensureAll, hensure]
      rw [hrun]
      exact SetUpAs.cons hm hadd hpre (ensureAll_setUpAs hm.sound rest)
    · -- the first directory cannot be made: the setup stops there
      rw [hmk] at hm
      have hrun : ensureAll t cwd (d :: rest) =
          (t', some (Failure.workspace ("create " ++ d ++ ": " ++ e.message))) := by
        simp [ensureAll, ensure, hmk]
      rw [hrun]
      have hd : ¬ t.Makeable cwd d := fun h => by simpa using hm.ok_iff.2 h
      refine ⟨hm.sound, ?_, fun f hf => ?_, fun q hq hq' => ⟨d, List.mem_cons_self, hm.made q hq hq'⟩⟩
      · simp only [reduceCtorEq, false_iff, List.forall_mem_cons, not_and]
        exact fun h => absurd h hd
      · cases hf
        exact ⟨[], d, rest, rfl, by simp, hd, e, rfl⟩

/-- In a sound tree, setting up directories again right after it failed fails again and makes
nothing. -/
theorem ensureAll_fails_again : ∀ {t : FileTree} (_ : t.Sound cwd) (dirs : List String)
    {t₁ : FileTree} {f : Failure}, ensureAll t cwd dirs = (t₁, some f) →
      ∃ f', ensureAll t₁ cwd dirs = (t₁, some f')
  | _, _, [], _, _, h => by cases h
  | t, hs, d :: rest, t₁, f, h => by
    rcases hmk : t.mkdirAllKeeping cwd d with ⟨t', _ | e⟩
    · -- the first directory was made; it is still there, and the rest fail again
      have hm := mkdirAllKeeping_madeAs hs d
      rw [hmk] at hm
      have hensure : ensure t cwd d = (t', none) := by simp [ensure, hmk]
      rw [ensureAll, hensure] at h
      dsimp only at h
      obtain ⟨f', hagain⟩ := ensureAll_fails_again hm.sound rest h
      have hadd : DirsAdded t' (ensureAll t' cwd rest).1 := ensureAll_rel DirsAdded.keptByMkdir t' rest
      have hpre : DirsPrepended t' (ensureAll t' cwd rest).1 :=
        ensureAll_rel DirsPrepended.keptByMkdir t' rest
      rw [h] at hadd hpre
      have hthere : t₁.stat cwd d = .ok .dir :=
        stat_of_dirsAdded hpre.nameSize_eq hadd (ensure_stat hensure)
      refine ⟨f', ?_⟩
      rw [ensureAll, ensure_of_stat_dir hthere]
      exact hagain
    · -- the first directory failed, and fails again on the tree it left
      have hrun : ensureAll t cwd (d :: rest) =
          (t', some (Failure.workspace ("create " ++ d ++ ": " ++ e.message))) := by
        simp [ensureAll, ensure, hmk]
      rw [hrun] at h
      cases h
      obtain ⟨e', hagain⟩ := mkdirAllKeeping_go_fails_again hs d.toList hmk
      exact ⟨Failure.workspace ("create " ++ d ++ ": " ++ e'.message),
        by simp [ensureAll, ensure, mkdirAllKeeping, hagain]⟩

/-- What setting up the workspace `w` for `groups` gave, `r`, against the tree `t` it started
from: it only added directories; it succeeded exactly when each of its directories (the output
directory, then each group's artifact directory when scoped) can be made, and otherwise failed
as a workspace failure that names the first directory that cannot be made, all before it can.
After success every directory is there; unscoped, the only directories added are those that the
output directory's path goes down into and that were missing; and a second setup changes
nothing. -/
structure PreparedAs (w : Workspace) (t : FileTree) (cwd : List String) (groups : List Group)
    (r : FileTree × Option Failure) : Prop where
  dirsAdded : t.DirsAdded r.1
  ok_iff : r.2 = none ↔ ∀ d ∈ w.directories groups, t.Makeable cwd d
  first_failure : ∀ f, r.2 = some f → f.kind = .workspace ∧
    ∃ pre d post, w.directories groups = pre ++ d :: post ∧ (∀ x ∈ pre, t.Makeable cwd x) ∧
      ¬ t.Makeable cwd d ∧ ∃ e : FsError, f = Failure.workspace ("create " ++ d ++ ": " ++ e.message)
  there : r.2 = none → ∀ d ∈ w.directories groups, r.1.stat cwd d = .ok .dir
  unscoped_made : w.byGroup = false → ∀ q, t.get? q = none → r.1.get? q = some .dir →
    q ∈ descents (if Path.isAbs w.outputDir then [] else cwd) (elements w.outputDir)
  again : r.2 = none → w.prepare r.1 cwd groups = (r.1, none)

/-- Setting up a workspace in a tree a file system has does what `PreparedAs` says: it only adds
directories, succeeds exactly when each of its directories can be made, fails naming the first
that cannot, leaves them all there on success, adds unscoped only what the output directory's
path goes down into, and a second setup changes nothing. -/
theorem prepare_succeeds_iff_makeable (w : Workspace) (t : FileTree) (cwd : List String)
    (groups : List Group) (hs : t.Sound cwd) :
    PreparedAs w t cwd groups (w.prepare t cwd groups) := by
  have hset : SetUpAs t cwd (w.directories groups) (w.prepare t cwd groups) :=
    ensureAll_setUpAs hs _
  have hthere : (w.prepare t cwd groups).2 = none →
      ∀ d ∈ w.directories groups, (w.prepare t cwd groups).1.stat cwd d = .ok .dir := by
    intro hok
    exact ensureAll_stat (by rw [← hok]; rfl)
  refine ⟨prepare_dirsAdded w t groups, hset.ok_iff, fun f hf => ⟨?_, hset.first_failure f hf⟩,
    hthere, fun hunscoped q hq hq' => ?_, fun hok => ensureAll_of_stat_dir (hthere hok)⟩
  · exact prepare_failure_kind
      (show w.prepare t cwd groups = ((w.prepare t cwd groups).1, some f) by rw [← hf])
  · -- unscoped, the output directory is the only one
    obtain ⟨d, hd, hmem⟩ := hset.made q hq hq'
    simp only [directories, hunscoped, Bool.false_eq_true, if_false, List.mem_singleton] at hd
    exact hd ▸ hmem

/-- A scoped workspace set up beside a file. -/
theorem scoped_setup_beside_file :
    ({ nodes := [(["w"], .dir), (["w", "f"], .file "" false)] } : FileTree).Sound ["w"] ∧
      PreparedAs ⟨"out", "art", true⟩ { nodes := [(["w"], .dir), (["w", "f"], .file "" false)] }
        ["w"] [⟨"g"⟩]
        ((Workspace.mk "out" "art" true).prepare
          { nodes := [(["w"], .dir), (["w", "f"], .file "" false)] } ["w"] [⟨"g"⟩]) :=
  ⟨by decide, prepare_succeeds_iff_makeable _ _ _ _ (by decide)⟩

/-- In a tree that holds no file, an empty output directory and one named by 256 bytes both
fail to be set up: no file lies on their paths, but `mkdir` refuses an empty path and a name
longer than `maxNameLength` bytes. -/
theorem setup_fails_without_files :
    ({ nodes := [(["w"], .dir)] } : FileTree).Sound ["w"] ∧
      (∀ e ∈ ({ nodes := [(["w"], .dir)] } : FileTree).nodes, e.2 = .dir) ∧
      ((Workspace.mk "" "art" false).prepare { nodes := [(["w"], .dir)] } ["w"] []).2 ≠ none ∧
      ((Workspace.mk (String.ofList (List.replicate 256 'a')) "art" false).prepare
        { nodes := [(["w"], .dir)] } ["w"] []).2 ≠ none := by
  have hs : ({ nodes := [(["w"], .dir)] } : FileTree).Sound ["w"] := by decide
  refine ⟨hs, by decide, by decide +kernel, fun hok => ?_⟩
  -- the name is measured, not computed: its length stands for any length over the limit
  have hm := (ensureAll_setUpAs hs _).ok_iff.1 hok _ List.mem_cons_self
  generalize hn : 256 = n at hm
  have hlen : (String.ofList (List.replicate n 'a')).length = n := by simp
  have helem : elements (String.ofList (List.replicate n 'a')) =
      [String.ofList (List.replicate n 'a')] := by
    simpa [show n ≠ 0 by omega] using elements_last_slashes
      (show '/' ∉ List.replicate n 'a' by simp [List.mem_replicate])
      (show ∀ c ∈ ([] : List Char), c = '/' by simp)
  have hsize : ({ nodes := [(["w"], .dir)] } : FileTree).nameSize
      (String.ofList (List.replicate n 'a')) = n := by
    rw [nameSize_replicate rfl (by decide), show 'a'.utf8Size = 1 by decide, Nat.mul_one]
  refine not_makeable_of_long_name (e := String.ofList (List.replicate n 'a')) (by simp [helem])
    (fun h => ?_) (fun h => ?_) ?_ hm
  · rw [h, show (".": String).length = 1 by decide] at hlen
    omega
  · rw [h, show ("..": String).length = 2 by decide] at hlen
    omega
  · rw [hsize, maxNameLength]
    omega

end Workspace

end Regress
