import Regress.Workspace

/-!
# Which groups share an artifact directory

With artifacts kept apart by group, a group's artifacts go to the directory named by its key
under the artifact root. Joining a path with a relative path of names only puts those names
after it (`Path.join_names`), so two keys give one directory exactly when they are equal
(`Workspace.artifactDir_eq_iff_key_eq`).

The key flattens the group's cleaned path, so two groups whose paths differ only where one has
a slash and the other an underscore share a key, and so an artifact directory
(`underscored_group_shares_artifact_dir`). For groups named by relative paths of plain elements,
with no `_` and none ending in `..`, splitting the key at `_` gives the elements back, and the
artifact directories tell two groups apart exactly when their directories do
(`scoped_artifactDir_eq_iff_dir_eq`).
-/

namespace Regress

namespace Path

/-- A single path element that is a name: not empty, not `.` or `..`, and without a slash. -/
def IsName (part : List Char) : Prop :=
  part ≠ [] ∧ part ≠ ['.'] ∧ part ≠ ['.', '.'] ∧ '/' ∉ part

instance (part : List Char) : Decidable (IsName part) :=
  inferInstanceAs (Decidable (_ ∧ _ ∧ _ ∧ _))

/-- A relative path made of names only, which cleaning leaves as it is. -/
def OfNames (q : String) : Prop :=
  ∀ part ∈ q.toList.splitOn '/', IsName part

instance (q : String) : Decidable (OfNames q) :=
  inferInstanceAs (Decidable (∀ part ∈ q.toList.splitOn '/', IsName part))

theorem pushElement_name (rooted : Bool) (stack : List String) {part : List Char}
    (h : IsName part) :
    pushElement rooted stack (String.ofList part) = String.ofList part :: stack := by
  obtain ⟨hne, hdot, hdotdot, -⟩ := h
  have hdot' : String.ofList part ≠ "." := fun h => hdot (by simpa using congrArg String.toList h)
  have hdotdot' : String.ofList part ≠ ".." := fun h =>
    hdotdot (by simpa using congrArg String.toList h)
  simp [pushElement, hne, hdot', hdotdot']

/-- Names are pushed as they come: no element of the stack is taken off. -/
theorem foldl_pushElement_names (rooted : Bool) {parts : List (List Char)}
    (h : ∀ part ∈ parts, IsName part) (stack : List String) :
    (parts.map String.ofList).foldl (pushElement rooted) stack =
      (parts.map String.ofList).reverse ++ stack := by
  induction parts generalizing stack with
  | nil => rfl
  | cons part rest ih =>
    rw [List.map_cons, List.foldl_cons, pushElement_name rooted stack (h part (by simp)),
      ih (fun q hq => h q (by simp [hq]))]
    simp

theorem isAbs_append {p : String} (hp : p ≠ "") (q : String) : isAbs (p ++ q) = isAbs p := by
  obtain ⟨c, cs, hc⟩ := List.exists_cons_of_ne_nil (by simpa using hp : p.toList ≠ [])
  simp [isAbs, hc]

/-- The separators of a path put back between its elements give the path. -/
theorem intercalate_elements (q : String) :
    "/".intercalate ((q.toList.splitOn '/').map String.ofList) = q := by
  rw [← String.toList_inj, String.toList_intercalate]
  simp

namespace OfNames

variable {q : String} (h : OfNames q)
include h

theorem toList_ne_nil : q.toList ≠ [] := by
  intro hq
  exact (h [] (by simp [hq, List.splitOn_nil])).1 rfl

theorem ne_empty : q ≠ "" := by
  simpa using h.toList_ne_nil

theorem toList_ne_slash_cons (ys : List Char) : q.toList ≠ '/' :: ys := by
  intro hq
  exact (h [] (by simp [hq, List.splitOn_cons_eq_if_modifyHead])).1 rfl

theorem toList_ne_append_slash (xs : List Char) : q.toList ≠ xs ++ ['/'] := by
  intro hq
  exact (h [] (by simp [hq, List.splitOn_append_cons_self, List.splitOn_nil])).1 rfl

theorem isAbs_eq_false : isAbs q = false := by
  cases hq : q.toList with
  | nil => exact absurd hq h.toList_ne_nil
  | cons c cs =>
    have hc : c ≠ '/' := by
      rintro rfl
      exact h.toList_ne_slash_cons cs hq
    simp [isAbs, hq, hc]

theorem cleanElements_eq : cleanElements q = (q.toList.splitOn '/').map String.ofList := by
  rw [cleanElements, foldl_pushElement_names _ h, List.append_nil, List.reverse_reverse]

/-- Cleaning leaves a path of names as it is. -/
theorem clean_eq : clean q = q := by
  have hbody : "/".intercalate (cleanElements q) = q := by
    rw [h.cleanElements_eq, intercalate_elements]
  simp [clean, hbody, h.isAbs_eq_false, h.ne_empty]

end OfNames

/-- Cleaning a path followed by names cleans the path and keeps the names. -/
theorem cleanElements_append_names {p q : String} (hp : p ≠ "") (hq : OfNames q) :
    cleanElements (p ++ "/" ++ q) =
      cleanElements p ++ (q.toList.splitOn '/').map String.ofList := by
  have hsplit : (p ++ "/" ++ q).toList.splitOn '/' =
      p.toList.splitOn '/' ++ q.toList.splitOn '/' := by
    simp [List.splitOn_append_cons_self]
  rw [cleanElements, cleanElements, hsplit, String.append_assoc, isAbs_append hp, List.map_append,
    List.foldl_append, foldl_pushElement_names _ hq, List.reverse_append, List.reverse_reverse]

/-- What stands before a name joined under the path `p`: the cleaned path and a slash, or
nothing where the cleaned path is empty and relative. -/
def childPrefix (p : String) : String :=
  (if isAbs p then "/" else "") ++
    (if cleanElements p = [] then "" else "/".intercalate (cleanElements p) ++ "/")

/-- Joining a path with a relative path of names puts the names after the cleaned path. -/
theorem join_childPrefix (p : String) {q : String} (hq : OfNames q) :
    join [p, q] = childPrefix p ++ q := by
  by_cases hp : p = ""
  · simp [join, childPrefix, cleanElements, hp, hq.ne_empty, hq.clean_eq, isAbs, List.splitOn_nil,
      pushElement]
  · have hjoin : join [p, q] = clean (p ++ "/" ++ q) := by
      simp [join, hp, hq.ne_empty, String.intercalate_cons_cons]
    have hbody : "/".intercalate (cleanElements (p ++ "/" ++ q)) =
        (if cleanElements p = [] then "" else "/".intercalate (cleanElements p) ++ "/") ++ q := by
      rw [cleanElements_append_names hp hq]
      split
      · simp [*, intercalate_elements]
      · rw [String.intercalate_append_of_ne_nil ‹_› (by simp), intercalate_elements]
    rw [hjoin, clean, hbody, String.append_assoc, isAbs_append hp, childPrefix]
    cases isAbs p <;> simp [hq.ne_empty, String.append_assoc]

/-- Joining a path with a relative path of names puts the names after it: what stands before
them depends on the first path only. -/
theorem join_names (p : String) : ∃ pre, ∀ q, OfNames q → join [p, q] = pre ++ q :=
  ⟨childPrefix p, fun _ hq => join_childPrefix p hq⟩

/-- Joined to one path, two relative paths of names give one path only when they are equal. -/
theorem join_names_eq_iff (p : String) {q₁ q₂ : String} (h₁ : OfNames q₁) (h₂ : OfNames q₂) :
    join [p, q₁] = join [p, q₂] ↔ q₁ = q₂ := by
  obtain ⟨pre, hpre⟩ := join_names p
  rw [hpre q₁ h₁, hpre q₂ h₂, String.append_right_inj]

end Path

namespace Group

/-- A path element the key keeps as it is: a name with no `_` that does not end in `..` (the key
writes every `../` as `up_`). -/
def PlainPart (part : List Char) : Prop :=
  Path.IsName part ∧ '_' ∉ part ∧ ¬ ['.', '.'] <:+ part

instance (part : List Char) : Decidable (PlainPart part) :=
  inferInstanceAs (Decidable (_ ∧ _ ∧ _))

/-- A group named by a relative path of plain elements. -/
def Plain (g : Group) : Prop :=
  ∀ part ∈ g.path.toList.splitOn '/', PlainPart part

instance (g : Group) : Decidable g.Plain :=
  inferInstanceAs (Decidable (∀ part ∈ g.path.toList.splitOn '/', PlainPart part))

theorem upLevels_of_slash_not_mem {cs : List Char} (h : '/' ∉ cs) : upLevels cs = cs := by
  fun_induction upLevels cs with
  | case1 rest => simp at h
  | case2 c rest _ ih => rw [ih (fun hm => h (List.mem_cons_of_mem c hm))]
  | case3 => rfl

/-- An element that does not end in `..`, followed by a slash, is kept as it is. -/
theorem upLevels_append_slash {cs : List Char} (hs : '/' ∉ cs) (hdots : ¬ ['.', '.'] <:+ cs)
    (rest : List Char) : upLevels (cs ++ '/' :: rest) = cs ++ '/' :: upLevels rest := by
  induction cs with
  | nil => simp [upLevels]
  | cons c cs ih =>
    have hcs : '/' ∉ cs := fun hm => hs (List.mem_cons_of_mem c hm)
    have hdots' : ¬ ['.', '.'] <:+ cs := fun hsuf => hdots (hsuf.trans (List.suffix_cons c cs))
    rw [List.cons_append, upLevels.eq_2, ih hcs hdots']
    · rfl
    -- the first equation of upLevels would need the element to be `.` and the slash right after
    · rintro rest' rfl heq
      match cs, heq with
      | [], heq => simp at heq
      | [d], heq =>
        obtain ⟨rfl, -⟩ : d = '.' ∧ rest = rest' := by simpa using heq
        exact hdots (List.suffix_refl _)
      | d :: e :: es, heq =>
        have he : e = '/' := by simp at heq; exact heq.2.1
        exact hcs (by simp [he])

theorem upLevels_intercalate {parts : List (List Char)}
    (h : ∀ part ∈ parts, '/' ∉ part ∧ ¬ ['.', '.'] <:+ part) :
    upLevels (['/'].intercalate parts) = ['/'].intercalate parts := by
  induction parts with
  | nil => rfl
  | cons part rest ih =>
    have hpart := h part (by simp)
    cases rest with
    | nil => simp [upLevels_of_slash_not_mem hpart.1]
    | cons next rest =>
      rw [List.intercalate_cons_cons, List.append_assoc, List.singleton_append,
        upLevels_append_slash hpart.1 hpart.2, ih (fun q hq => h q (by simp_all))]

theorem slash_not_mem_flatten (cs : List Char) : '/' ∉ flatten cs := by
  simp only [flatten, List.mem_map, not_exists, not_and]
  intro c _
  split <;> simp_all

/-- Flattening only writes slashes as `_`: a result without `_` is the path itself. -/
theorem eq_of_flatten_eq {cs ds : List Char} (h : flatten cs = ds) (hd : '_' ∉ ds) : cs = ds := by
  induction cs generalizing ds with
  | nil => simpa [flatten] using h
  | cons c cs ih =>
    cases ds with
    | nil => simp [flatten] at h
    | cons d ds =>
      simp only [flatten, List.map_cons, List.cons.injEq] at h
      simp only [List.mem_cons, not_or] at hd
      have hcd : c = d := by split at h <;> simp_all
      rw [hcd, ih h.2 hd.2]

theorem flatten_of_slash_not_mem {cs : List Char} (h : '/' ∉ cs) : flatten cs = cs := by
  rw [flatten, List.map_congr_left (g := id), List.map_id]
  intro c hc
  simp [show c ≠ '/' from fun hs => h (hs ▸ hc)]

@[simp] theorem flatten_append (cs ds : List Char) :
    flatten (cs ++ ds) = flatten cs ++ flatten ds :=
  List.map_append

theorem flatten_intercalate {parts : List (List Char)} (h : ∀ part ∈ parts, '/' ∉ part) :
    flatten (['/'].intercalate parts) = ['_'].intercalate parts := by
  induction parts with
  | nil => rfl
  | cons part rest ih =>
    have hpart := h part (by simp)
    cases rest with
    | nil => simp [flatten_of_slash_not_mem hpart]
    | cons next rest =>
      rw [List.intercalate_cons_cons, flatten_append, flatten_append,
        flatten_of_slash_not_mem hpart, ih (fun q hq => h q (by simp_all)),
        List.intercalate_cons_cons]
      rfl

/-- Dropping leading slashes from a path that does not start with one keeps it. -/
theorem dropWhile_slash_of_ne {cs : List Char} (h : ∀ rest, cs ≠ '/' :: rest) :
    cs.dropWhile (· = '/') = cs := by
  cases cs with
  | nil => rfl
  | cons c rest =>
    have hc : c ≠ '/' := fun hc => h rest (by rw [hc])
    simp [hc]

theorem trimSlashes_of_ofNames {q : String} (h : Path.OfNames q) :
    trimSlashes q.toList = q.toList := by
  rw [trimSlashes, dropWhile_slash_of_ne h.toList_ne_slash_cons, dropWhile_slash_of_ne,
    List.reverse_reverse]
  intro rest hrest
  exact h.toList_ne_append_slash rest.reverse (by simpa using congrArg List.reverse hrest)

namespace Plain

variable {g : Group} (h : g.Plain)
include h

theorem ofNames : Path.OfNames g.path := fun part hpart => (h part hpart).1

/-- A plain group's directory is its path joined to the corpus root. -/
theorem dir_eq (root : String) : g.dir root = Path.join [root, g.path] := by
  simp [dir, h.ofNames.isAbs_eq_false]

/-- The key of a plain group is its path with each slash written `_`. -/
theorem key_eq : g.key = String.ofList (flatten g.path.toList) := by
  have hq := h.ofNames
  have hup : upLevels g.path.toList = g.path.toList := by
    have := upLevels_intercalate (fun part hpart => ⟨(h part hpart).1.2.2.2, (h part hpart).2.2⟩)
    rwa [List.intercalate_splitOn] at this
  have hdot : g.path.toList ≠ ['.'] := fun hdot => (hq ['.'] (by rw [hdot]; decide)).2.1 rfl
  simp [key, hq.clean_eq, trimSlashes_of_ofNames hq, hq.toList_ne_nil, hdot, hup]

/-- The key of a plain group is a single name, so it stands as one element under the artifact
root. -/
theorem key_ofNames : Path.OfNames g.key := by
  have hq := h.ofNames
  intro part hpart
  rw [h.key_eq, String.toList_ofList, List.splitOn_eq_singleton (slash_not_mem_flatten _),
    List.mem_singleton] at hpart
  subst hpart
  -- a key of one or two dots would be the path itself, which is no name
  refine ⟨?_, fun hdot => ?_, fun hdots => ?_, slash_not_mem_flatten _⟩
  · simpa [flatten] using hq.toList_ne_nil
  · have hpath := eq_of_flatten_eq hdot (by decide)
    exact (hq ['.'] (by rw [hpath]; decide)).2.1 rfl
  · have hpath := eq_of_flatten_eq hdots (by decide)
    exact (hq ['.', '.'] (by rw [hpath]; decide)).2.2.1 rfl

/-- Splitting the key at `_` gives the elements of the path back. -/
theorem splitOn_key : g.key.toList.splitOn '_' = g.path.toList.splitOn '/' := by
  have hflat : flatten g.path.toList = ['_'].intercalate (g.path.toList.splitOn '/') := by
    have := flatten_intercalate (fun part hpart => (h part hpart).1.2.2.2)
    rwa [List.intercalate_splitOn] at this
  rw [h.key_eq, String.toList_ofList, hflat, List.splitOn_intercalate _
    (fun part hpart => (h part hpart).2.1) (List.splitOn_ne_nil _ _)]

end Plain

/-- Splitting the key of a plain group at `_` gives the elements of its path back, so two plain
groups have one key only when they have one path. -/
theorem key_eq_iff_of_plain {g₁ g₂ : Group} (h₁ : g₁.Plain) (h₂ : g₂.Plain) :
    g₁.key = g₂.key ↔ g₁.path = g₂.path := by
  constructor
  · intro hk
    have hparts : g₁.path.toList.splitOn '/' = g₂.path.toList.splitOn '/' := by
      rw [← h₁.splitOn_key, ← h₂.splitOn_key, hk]
    rw [← String.toList_inj]
    calc g₁.path.toList = ['/'].intercalate (g₁.path.toList.splitOn '/') :=
          (List.intercalate_splitOn _).symm
      _ = ['/'].intercalate (g₂.path.toList.splitOn '/') := by rw [hparts]
      _ = g₂.path.toList := List.intercalate_splitOn _
  · intro hp
    rw [show g₁ = g₂ from by cases g₁; cases g₂; simp_all]

end Group

namespace Workspace

/-- With artifacts kept apart by group, two groups whose keys are names share an artifact
directory exactly when their keys are equal. -/
theorem artifactDir_eq_iff_key_eq (w : Workspace) (hw : w.byGroup = true) {g₁ g₂ : Group}
    (h₁ : Path.OfNames g₁.key) (h₂ : Path.OfNames g₂.key) :
    w.artifactDir g₁ = w.artifactDir g₂ ↔ g₁.key = g₂.key := by
  simp only [artifactDir, hw, if_true]
  exact Path.join_names_eq_iff _ h₁ h₂

end Workspace

/-- With artifacts kept apart by group, two groups named by relative paths of plain elements
share an artifact directory exactly when they share a directory, whatever the corpus root. -/
theorem scoped_artifactDir_eq_iff_dir_eq (w : Workspace) (hw : w.byGroup = true) (root : String)
    {g₁ g₂ : Group} (h₁ : g₁.Plain) (h₂ : g₂.Plain) :
    w.artifactDir g₁ = w.artifactDir g₂ ↔ g₁.dir root = g₂.dir root := by
  rw [w.artifactDir_eq_iff_key_eq hw h₁.key_ofNames h₂.key_ofNames,
    Group.key_eq_iff_of_plain h₁ h₂, h₁.dir_eq, h₂.dir_eq,
    Path.join_names_eq_iff root h₁.ofNames h₂.ofNames]

theorem nested_groups_keep_artifacts_apart :
    (Workspace.mk "out" "art" true).byGroup = true ∧ (⟨"lists"⟩ : Group).Plain ∧
      (⟨"lists/sort.v2"⟩ : Group).Plain ∧
      ((Workspace.mk "out" "art" true).artifactDir ⟨"lists"⟩ =
          (Workspace.mk "out" "art" true).artifactDir ⟨"lists/sort.v2"⟩ ↔
        (⟨"lists"⟩ : Group).dir "corpus" = (⟨"lists/sort.v2"⟩ : Group).dir "corpus") :=
  ⟨rfl, by decide, by decide,
    scoped_artifactDir_eq_iff_dir_eq _ rfl "corpus" (by decide) (by decide)⟩

/-- The key writes a slash as `_`, so the groups `a_b` and `a/b` have different directories and
one artifact directory. -/
theorem underscored_group_shares_artifact_dir :
    (⟨"a_b"⟩ : Group).dir "corpus" ≠ (⟨"a/b"⟩ : Group).dir "corpus" ∧
      (Workspace.mk "out" "art" true).artifactDir ⟨"a_b"⟩ =
        (Workspace.mk "out" "art" true).artifactDir ⟨"a/b"⟩ := by
  decide +kernel

end Regress
