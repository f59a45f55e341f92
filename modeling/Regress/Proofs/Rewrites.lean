import Regress.Proofs.Files

/-!
# Trees that writes have run ahead of

A run changes the tree only by writing files, and a write sets one node: the file it leaves at
its path's target (`update`, `writeFile_eq_update`). A run's writes are then a list of updates
made in order (`setAll`), and making the same updates a second time leaves the tree as the first
time did (`setAll_setAll`).

A tree `u` is `Ahead` of `t` when, at some paths, it holds files that writes made over what `t`
holds there: over a file, keeping whether it may be executed, or where there was nothing, under a
directory (`Pending`). Both trees have the same directories, and a read or a write of a path
cannot tell them apart unless it looks at one of those paths, at the path's target or at a
directory on its way there (`readFile_congr`, `update_congr`). A write through a path that ends
in a slash is the exception, since it tells a file from nothing; a cleaned path ends in a slash
only when it is the root (`Path.clean_eq_root`).
-/

namespace Regress

namespace FileTree

/-! ## Updates made in order -/

/-- The tree after the updates `ws`, made in order. -/
def setAll (t : FileTree) (ws : List (List String × Node)) : FileTree :=
  ws.foldl (fun t w => t.set w.1 w.2) t

@[simp] theorem setAll_nil (t : FileTree) : t.setAll [] = t := rfl

@[simp] theorem setAll_cons (t : FileTree) (w : List String × Node) (ws : List (List String × Node)) :
    t.setAll (w :: ws) = (t.set w.1 w.2).setAll ws := rfl

theorem setAll_append (t : FileTree) (ws ws' : List (List String × Node)) :
    t.setAll (ws ++ ws') = (t.setAll ws).setAll ws' :=
  List.foldl_append

@[simp] theorem octets_setAll (t : FileTree) (ws : List (List String × Node)) :
    (t.setAll ws).octets = t.octets := by
  induction ws generalizing t with
  | nil => rfl
  | cons w ws ih => exact ih _

@[simp] theorem modes_setAll (t : FileTree) (ws : List (List String × Node)) :
    (t.setAll ws).modes = t.modes := by
  induction ws generalizing t with
  | nil => rfl
  | cons w ws ih => exact ih _

@[simp] theorem closeFaults_setAll (t : FileTree) (ws : List (List String × Node)) :
    (t.setAll ws).closeFaults = t.closeFaults := by
  induction ws generalizing t with
  | nil => rfl
  | cons w ws ih => exact ih _

@[simp] theorem nameSize_setAll (t : FileTree) (ws : List (List String × Node)) :
    (t.setAll ws).nameSize = t.nameSize := by
  funext name
  simp [nameSize]

/-- The nodes of a tree outside the paths `ps`, in order. -/
def outside (t : FileTree) (ps : List (List String)) : List (List String × Node) :=
  t.nodes.filter fun e => e.1 ∉ ps

/-- An update keeps the nodes outside a list of paths it sets, and puts itself in front of them
when its own path is outside. -/
theorem outside_set (t : FileTree) (p : List String) (n : Node) (ps : List (List String)) :
    (t.set p n).outside ps =
      (if p ∈ ps then [] else [(p, n)]) ++ t.outside (p :: ps) := by
  have hrest : (t.nodes.filter fun e => e.1 != p).filter (fun e => e.1 ∉ ps) =
      t.outside (p :: ps) := by
    rw [List.filter_filter]
    apply List.filter_congr
    intro e _
    by_cases h : e.1 = p <;> simp [h]
  show (((p, n) :: t.nodes.filter (·.1 != p)).filter fun e => e.1 ∉ ps) = _
  rw [List.filter_cons, hrest]
  by_cases hp : p ∈ ps <;> simp [hp]

theorem outside_setAll (t : FileTree) (ws : List (List String × Node)) {ps : List (List String)}
    (h : ∀ w ∈ ws, w.1 ∈ ps) : (t.setAll ws).outside ps = t.outside ps := by
  induction ws generalizing t with
  | nil => rfl
  | cons w ws ih =>
    rw [setAll_cons, ih _ fun w' hw' => h w' (List.mem_cons_of_mem _ hw'), outside_set,
      if_pos (h w List.mem_cons_self), List.nil_append]
    -- every path outside `ps` is already outside `w.1`
    have hw := h w List.mem_cons_self
    simp only [outside, List.mem_cons, not_or]
    congr 1
    funext e
    by_cases he : e.1 ∈ ps
    · simp [he]
    · simp [he, show e.1 ≠ w.1 from fun h' => he (h' ▸ hw)]

/-- Updates made to two trees leave the same tree when the trees have the same nodes outside the
updated paths. -/
theorem setAll_congr {t t' : FileTree} (ws : List (List String × Node))
    (hout : t.outside (ws.map Prod.fst) = t'.outside (ws.map Prod.fst)) (hoct : t.octets = t'.octets)
    (hmodes : t.modes = t'.modes) (hfaults : t.closeFaults = t'.closeFaults) :
    t.setAll ws = t'.setAll ws := by
  induction ws generalizing t t' with
  | nil =>
    have hself (u : FileTree) : u.outside [] = u.nodes := List.filter_eq_self.2 (by simp)
    have hnodes : t.nodes = t'.nodes := by simpa [hself] using hout
    cases t
    cases t'
    simp_all
  | cons w ws ih =>
    rw [setAll_cons, setAll_cons]
    refine ih ?_ hoct hmodes hfaults
    rw [outside_set, outside_set]
    exact congrArg (_ ++ ·) hout

/-- Making a list of updates a second time changes nothing. -/
theorem setAll_setAll (t : FileTree) (ws : List (List String × Node)) :
    (t.setAll ws).setAll ws = t.setAll ws :=
  setAll_congr ws (outside_setAll t ws fun _ hw => List.mem_map_of_mem hw) (octets_setAll t ws)
    (modes_setAll t ws) (closeFaults_setAll t ws)

theorem get?_setAll_of_not_mem {t : FileTree} {ws : List (List String × Node)} {q : List String}
    (h : q ∉ ws.map Prod.fst) : (t.setAll ws).get? q = t.get? q := by
  induction ws generalizing t with
  | nil => rfl
  | cons w ws ih =>
    simp only [List.map_cons, List.mem_cons, not_or] at h
    rw [setAll_cons, ih h.2, get?_set_of_ne _ h.1]

/-! ## Files written over what was there -/

/-- Whether the file at `q` may be executed, `false` where there is no file: a write over a file
keeps it, and a new file may not be executed. -/
def bitAt (t : FileTree) (q : List String) : Bool :=
  match t.get? q with
  | some (.file _ x) => x
  | _ => false

/-- `u` holds at `q` a file written over what `t` holds there: over a file, with the same
executable bit, or, where `t` has nothing at `q` and a directory above it, a new file that may
not be executed. -/
def Pending (t u : FileTree) (q : List String) : Prop :=
  (∃ c c' x, t.get? q = some (.file c x) ∧ u.get? q = some (.file c' x)) ∨
    (t.get? q = none ∧ t.get? q.dropLast = some .dir ∧ ∃ c', u.get? q = some (.file c' false))

section Pending

variable {t u t' u' : FileTree} {q : List String}

theorem Pending.ne_dir (h : Pending t u q) : t.get? q ≠ some .dir ∧ u.get? q ≠ some .dir := by
  rcases h with ⟨c, c', x, ht, hu⟩ | ⟨ht, -, c', hu⟩ <;> simp [ht, hu]

theorem Pending.bitAt_eq (h : Pending t u q) : u.bitAt q = t.bitAt q := by
  rcases h with ⟨c, c', x, ht, hu⟩ | ⟨ht, -, c', hu⟩ <;> simp [bitAt, ht, hu]

/-- A pending file stays pending when neither tree changes at its path and the directory above
it stays a directory. -/
theorem Pending.of_eq (h : Pending t u q) (ht : t'.get? q = t.get? q) (hu : u'.get? q = u.get? q)
    (hdir : t.get? q.dropLast = some .dir → t'.get? q.dropLast = some .dir) : Pending t' u' q := by
  rcases h with ⟨c, c', x, ht₀, hu₀⟩ | ⟨ht₀, hdir₀, c', hu₀⟩
  · exact .inl ⟨c, c', x, ht.trans ht₀, hu.trans hu₀⟩
  · exact .inr ⟨ht.trans ht₀, hdir hdir₀, c', hu.trans hu₀⟩

end Pending

/-- The update `w` is one a write makes to `t`: it leaves a file at its path over what `t` holds
there. -/
def IsWrite (t : FileTree) (w : List String × Node) : Prop :=
  Pending t (t.set w.1 w.2) w.1

/-- Each update is one a write makes to the tree that the updates before it leave. -/
def Overwrites : FileTree → List (List String × Node) → Prop
  | _, [] => True
  | t, w :: ws => IsWrite t w ∧ Overwrites (t.set w.1 w.2) ws

section IsWrite

variable {t : FileTree} {w : List String × Node}

theorem IsWrite.ne_nil (h : IsWrite t w) : w.1 ≠ [] := by
  rintro hnil
  have hroot : (t.set w.1 w.2).get? w.1 = some .dir := by simp [get?, hnil]
  exact (Pending.ne_dir h).2 hroot

/-- A write keeps every directory. -/
theorem IsWrite.get?_dir (h : IsWrite t w) {r : List String} (hr : t.get? r = some .dir) :
    (t.set w.1 w.2).get? r = some .dir := by
  have hne : r ≠ w.1 := by
    rintro rfl
    exact (Pending.ne_dir h).1 hr
  rw [get?_set_of_ne _ hne, hr]

theorem overwrites_append {t : FileTree} {ws ws' : List (List String × Node)} :
    Overwrites t (ws ++ ws') ↔ Overwrites t ws ∧ Overwrites (t.setAll ws) ws' := by
  induction ws generalizing t with
  | nil => simp [Overwrites]
  | cons w ws ih => simp [Overwrites, ih, and_assoc]

end IsWrite

/-- `u` is `t` with writes made ahead of it, at paths where `Z` holds: at every other path the two
trees agree, names are measured alike and the same files fail to close. -/
structure Ahead (t u : FileTree) (Z : List String → Prop) : Prop where
  nameSize_eq : u.nameSize = t.nameSize
  closeFaults_eq : u.closeFaults = t.closeFaults
  agree : ∀ q, u.get? q = t.get? q ∨ Z q ∧ Pending t u q

namespace Ahead

variable {t u : FileTree} {Z Z' : List String → Prop}

theorem refl (t : FileTree) (Z : List String → Prop) : Ahead t t Z :=
  ⟨rfl, rfl, fun _ => .inl rfl⟩

theorem mono (h : Ahead t u Z) (hZ : ∀ q, Z q → Z' q) : Ahead t u Z' :=
  ⟨h.nameSize_eq, h.closeFaults_eq, fun q => (h.agree q).imp_right fun ⟨hz, hp⟩ => ⟨hZ q hz, hp⟩⟩

theorem get?_eq (h : Ahead t u Z) {q : List String} (hq : ¬ Z q) : u.get? q = t.get? q :=
  (h.agree q).resolve_right fun ⟨hz, _⟩ => hq hz

theorem dir_iff (h : Ahead t u Z) (r : List String) :
    u.get? r = some .dir ↔ t.get? r = some .dir := by
  rcases h.agree r with heq | ⟨-, hp⟩
  · rw [heq]
  · simp [(Pending.ne_dir hp).1, (Pending.ne_dir hp).2]

theorem bitAt_eq (h : Ahead t u Z) (q : List String) : u.bitAt q = t.bitAt q := by
  rcases h.agree q with heq | ⟨-, hp⟩
  · simp [bitAt, heq]
  · exact hp.bitAt_eq

/-- Writes ahead of writes ahead are writes ahead. -/
theorem trans {t' : FileTree} (h₁ : Ahead t t' Z) (h₂ : Ahead t' u Z') :
    Ahead t u (fun q => Z q ∨ Z' q) := by
  refine ⟨h₂.nameSize_eq.trans h₁.nameSize_eq, h₂.closeFaults_eq.trans h₁.closeFaults_eq,
    fun q => ?_⟩
  have hdir : t.get? q.dropLast = some .dir → t'.get? q.dropLast = some .dir :=
    (h₁.dir_iff _).2
  rcases h₂.agree q with h₂q | ⟨hz', hp₂⟩
  · rcases h₁.agree q with h₁q | ⟨hz, hp₁⟩
    · exact .inl (h₂q.trans h₁q)
    · exact .inr ⟨.inl hz, hp₁.of_eq rfl h₂q id⟩
  · rcases h₁.agree q with h₁q | ⟨hz, hp₁⟩
    · exact .inr ⟨.inr hz', hp₂.of_eq h₁q.symm rfl ((h₁.dir_iff _).1)⟩
    -- both wrote at `q`: the second wrote over the file the first left
    · refine .inr ⟨.inl hz, ?_⟩
      obtain ⟨c₁, hc₁⟩ : ∃ c₁, t'.get? q = some (.file c₁ (t.bitAt q)) := by
        rcases hp₁ with ⟨c, c', x, ht, hu⟩ | ⟨ht, -, c', hu⟩
        · exact ⟨c', by simp [bitAt, ht, hu]⟩
        · exact ⟨c', by simp [bitAt, ht, hu]⟩
      rcases hp₂ with ⟨c, c', x, ht', hu⟩ | ⟨ht', -, -⟩
      · rw [hc₁] at ht'
        cases ht'
        rcases hp₁ with ⟨c₀, -, x₀, ht, -⟩ | ⟨ht, hpar, -⟩
        · exact .inl ⟨c₀, c', x₀, ht, by simpa [bitAt, ht] using hu⟩
        · exact .inr ⟨ht, hpar, c', by simpa [bitAt, ht] using hu⟩
      · simp [hc₁] at ht'

/-- The same write made to both trees keeps one ahead of the other, and they agree at its path. -/
theorem set_both (h : Ahead t u Z) {w : List String × Node} (hw : IsWrite t w) :
    Ahead (t.set w.1 w.2) (u.set w.1 w.2) (fun q => q ≠ w.1 ∧ Z q) := by
  refine ⟨h.nameSize_eq, h.closeFaults_eq, fun q => ?_⟩
  by_cases hq : q = w.1
  · subst hq
    left
    simp [get?_set_self _ hw.ne_nil]
  · rw [get?_set_of_ne _ hq, get?_set_of_ne _ hq]
    exact (h.agree q).imp_right fun ⟨hz, hp⟩ =>
      ⟨⟨hq, hz⟩, hp.of_eq (get?_set_of_ne _ hq) (get?_set_of_ne _ hq) hw.get?_dir⟩

theorem setAll_both (h : Ahead t u Z) {ws : List (List String × Node)} (hws : Overwrites t ws) :
    Ahead (t.setAll ws) (u.setAll ws) (fun q => q ∉ ws.map Prod.fst ∧ Z q) := by
  induction ws generalizing t u Z with
  | nil => simpa using h
  | cons w ws ih =>
    refine (ih (h.set_both hws.1) hws.2).mono ?_
    rintro q ⟨hq, hne, hz⟩
    simp_all

end Ahead

theorem ahead_set {t : FileTree} {w : List String × Node} (hw : IsWrite t w) :
    Ahead t (t.set w.1 w.2) (· = w.1) := by
  refine ⟨rfl, rfl, fun q => ?_⟩
  by_cases hq : q = w.1
  · subst hq
    exact .inr ⟨rfl, hw⟩
  · exact .inl (get?_set_of_ne _ hq)

theorem ahead_setAll {t : FileTree} {ws : List (List String × Node)} (hws : Overwrites t ws) :
    Ahead t (t.setAll ws) (· ∈ ws.map Prod.fst) := by
  induction ws generalizing t with
  | nil => exact Ahead.refl t _
  | cons w ws ih =>
    refine ((ahead_set hws.1).trans (ih hws.2)).mono ?_
    rintro q (rfl | hq) <;> simp_all

/-! ## Reads and writes that cannot tell the trees apart -/

/-- The directories a walk from `cur` over the elements `es` goes down into on its way: every
element but the last that is not `.` or `..`. -/
def passage (cur : List String) : List String → List (List String)
  | [] => []
  | [_] => []
  | e :: rest =>
    if e == "." then passage cur rest
    else if e == ".." then passage cur.dropLast rest
    else (cur ++ [e]) :: passage (cur ++ [e]) rest

/-- The directories that the way to `p` from the working directory goes down into. -/
def way (cwd : List String) (p : String) : List (List String) :=
  passage (if Path.isAbs p then [] else cwd) (elements p)

/-- A walk reads the tree only at the directories it goes down into. -/
theorem walk_congr {t u : FileTree} (hsize : u.nameSize = t.nameSize) {cur : List String}
    {es : List String} (h : ∀ q ∈ passage cur es, u.get? q = t.get? q) :
    u.walk cur es = t.walk cur es := by
  fun_induction walk t cur es with
  | case1 => simp [walk]
  | case2 cur last hdot => simp [walk, hdot]
  | case3 cur last hdot hup => simp [walk, hdot, hup]
  | case4 cur last hdot hup hlong => simp [walk, hdot, hup, hsize, hlong]
  | case5 cur last hdot hup hlong => simp [walk, hdot, hup, hsize, hlong]
  -- the other cases match `e :: rest` only for a `rest` that is not empty
  | case6 cur e rest hrest hdot ih =>
    cases rest with
    | nil => exact absurd rfl hrest
    | cons e' rest =>
      simp only [passage, hdot, ↓reduceIte] at h
      simp [walk, hdot, ih h]
  | case7 cur e rest hrest hdot hup ih =>
    cases rest with
    | nil => exact absurd rfl hrest
    | cons e' rest =>
      simp only [passage, hdot, hup, Bool.false_eq_true, ↓reduceIte] at h
      simp [walk, hdot, hup, ih h]
  | case8 cur e rest hrest hdot hup hlong =>
    cases rest with
    | nil => exact absurd rfl hrest
    | cons e' rest => simp [walk, hdot, hup, hsize, hlong]
  | case9 cur e rest hrest hdot hup hlong hd ih =>
    cases rest with
    | nil => exact absurd rfl hrest
    | cons e' rest =>
      simp only [passage, hdot, hup, Bool.false_eq_true, ↓reduceIte, List.mem_cons,
        forall_eq_or_imp] at h
      simp [walk, hdot, hup, hsize, hlong, h.1, hd, ih h.2]
  | case10 cur e rest hrest hdot hup hlong c x hf =>
    cases rest with
    | nil => exact absurd rfl hrest
    | cons e' rest =>
      simp only [passage, hdot, hup, Bool.false_eq_true, ↓reduceIte, List.mem_cons,
        forall_eq_or_imp] at h
      simp [walk, hdot, hup, hsize, hlong, h.1, hf]
  | case11 cur e rest hrest hdot hup hlong hn =>
    cases rest with
    | nil => exact absurd rfl hrest
    | cons e' rest =>
      simp only [passage, hdot, hup, Bool.false_eq_true, ↓reduceIte, List.mem_cons,
        forall_eq_or_imp] at h
      simp [walk, hdot, hup, hsize, hlong, h.1, hn]

namespace Ahead

variable {t u : FileTree} {Z : List String → Prop} {cwd : List String} {p : String}

theorem locate_eq (h : Ahead t u Z) (hway : ∀ q ∈ way cwd p, ¬ Z q) :
    u.locate cwd p = t.locate cwd p := by
  have hwalk := walk_congr h.nameSize_eq fun q hq => h.get?_eq (hway q hq)
  simp only [locate, hwalk, h.nameSize_eq]

theorem closeFault_eq (h : Ahead t u Z) (hway : ∀ q ∈ way cwd p, ¬ Z q) :
    u.closeFault cwd p = t.closeFault cwd p := by
  simp only [closeFault, h.locate_eq hway, h.closeFaults_eq]

theorem stat_eq (h : Ahead t u Z) (hway : ∀ q ∈ way cwd p, ¬ Z q) (hp : ¬ Z (target cwd p)) :
    u.stat cwd p = t.stat cwd p := by
  unfold stat
  rw [h.locate_eq hway]
  rcases hloc : t.locate cwd p with e | pl
  · rfl
  · simp only [locate_full hloc, h.get?_eq hp]

theorem readFile_eq (h : Ahead t u Z) (hway : ∀ q ∈ way cwd p, ¬ Z q) (hp : ¬ Z (target cwd p)) :
    u.readFile cwd p = t.readFile cwd p := by
  simp only [readFile, h.stat_eq hway hp]

theorem openRead_eq (h : Ahead t u Z) (hway : ∀ q ∈ way cwd p, ¬ Z q) (hp : ¬ Z (target cwd p)) :
    u.openRead cwd p = t.openRead cwd p := by
  simp only [openRead, h.stat_eq hway hp]

end Ahead

/-- Why a write of `p` fails, if it does: the path cannot be reached, names no file, holds a
directory, or is new where its parent is no directory. -/
def writeCheck (t : FileTree) (cwd : List String) (p : String) : Option FsError :=
  match t.locate cwd p with
  | .error e => some ⟨"open", p, e⟩
  | .ok pl =>
    match pl.name with
    | none => some ⟨"open", p, .isDir⟩
    | some _ =>
      match t.get? pl.full with
      | some .dir => some ⟨"open", p, .isDir⟩
      | some (.file _ _) => if pl.trailingSlash then some ⟨"open", p, .notDir⟩ else none
      | none =>
        if t.get? pl.parent = some .dir then
          if pl.trailingSlash then some ⟨"open", p, .isDir⟩ else none
        else some ⟨"open", p, .noEntry⟩

/-- The update a write of `content` to `p` makes: a file at the path's target that keeps the
executable bit there, or the failure that stops it. -/
def update (t : FileTree) (cwd : List String) (p content : String) :
    Except FsError (List String × Node) :=
  match t.writeCheck cwd p with
  | some e => .error e
  | none => .ok (target cwd p, .file content (t.bitAt (target cwd p)))

/-- A write is its update, made to the tree. -/
theorem writeFile_eq_update (t : FileTree) (cwd : List String) (p content : String) :
    t.writeFile cwd p content = (t.update cwd p content).map fun w => t.set w.1 w.2 := by
  unfold writeFile update writeCheck
  rcases hloc : t.locate cwd p with e | pl
  · rfl
  · have hfull := locate_full hloc
    rcases hname : pl.name with _ | n
    · simp [hname, Except.map]
    · rcases hf : t.get? pl.full with _ | (⟨c, x⟩ | _) <;>
        rcases hpar : t.get? pl.parent with _ | (⟨c', x'⟩ | _) <;>
        cases hslash : pl.trailingSlash <;>
        simp [← hfull, bitAt, hf, hname, hpar, hslash, Except.map]

theorem update_fst {t : FileTree} {cwd : List String} {p content : String}
    {w : List String × Node} (h : t.update cwd p content = .ok w) : w.1 = target cwd p := by
  unfold update at h
  split at h <;> cases h
  rfl

/-- An update that a write makes is a write over what was there. -/
theorem update_isWrite {t : FileTree} {cwd : List String} {p content : String}
    {w : List String × Node} (h : t.update cwd p content = .ok w) : IsWrite t w := by
  unfold update writeCheck at h
  rcases hloc : t.locate cwd p with e | pl
  · simp [hloc] at h
  · have hfull := locate_full hloc
    rw [← hfull] at h
    rcases hname : pl.name with _ | n
    · simp [hloc, hname] at h
    · have hne : pl.full ≠ [] := Place.full_ne_nil hname
      have hset : (t.set pl.full (.file content (t.bitAt pl.full))).get? pl.full =
          some (.file content (t.bitAt pl.full)) := get?_set_self _ hne
      rcases hf : t.get? pl.full with _ | (⟨c, x⟩ | _)
      · -- a new file, under a directory
        by_cases hdir : t.get? pl.parent = some .dir
        · cases hs : pl.trailingSlash
          · obtain rfl : w = (pl.full, .file content (t.bitAt pl.full)) := by
              simpa [hloc, hname, hf, hdir, hs] using h.symm
            refine .inr ⟨hf, by simpa [Place.full, hname] using hdir, content, ?_⟩
            simpa [bitAt, hf] using hset
          · simp [hloc, hname, hf, hdir, hs] at h
        · simp [hloc, hname, hf, hdir] at h
      · -- over a file
        cases hs : pl.trailingSlash
        · obtain rfl : w = (pl.full, .file content (t.bitAt pl.full)) := by
            simpa [hloc, hname, hf, hs] using h.symm
          exact .inl ⟨c, content, x, hf, by simpa [bitAt, hf] using hset⟩
        · simp [hloc, hname, hf, hs] at h
      · simp [hloc, hname, hf] at h

/-- Whether a located path ends in a slash is read off its text. -/
theorem locate_trailingSlash {t : FileTree} {cwd : List String} {p : String} {pl : Place}
    (h : t.locate cwd p = .ok pl) : pl.trailingSlash = (p.toList.getLast? == some '/') := by
  unfold locate at h
  dsimp only at h
  split at h
  · cases h
  split at h
  · cases h
  · revert h
    cases t.walk (if Path.isAbs p then [] else cwd) (elements p) with
    | ok r =>
      intro h
      cases h
      rfl
    | error e =>
      intro h
      cases h

/-- A write of a path reads and finds the same in both trees when no directory on its way is one
where they may differ, unless the path ends in a slash at a target that is not the root. -/
theorem Ahead.update_eq {t u : FileTree} {Z : List String → Prop} {cwd : List String}
    {p : String} (h : Ahead t u Z) (hway : ∀ q ∈ way cwd p, ¬ Z q)
    (hslash : p.toList.getLast? = some '/' → target cwd p = []) (content : String) :
    u.update cwd p content = t.update cwd p content := by
  have hcheck : u.writeCheck cwd p = t.writeCheck cwd p := by
    unfold writeCheck
    rw [h.locate_eq hway]
    rcases hloc : t.locate cwd p with e | pl
    · rfl
    · have hfull := locate_full hloc
      rcases hname : pl.name with _ | n
      · simp [hname]
      · have hparent : (u.get? pl.parent = some .dir) = (t.get? pl.parent = some .dir) :=
          propext (h.dir_iff pl.parent)
        rcases h.agree pl.full with heq | ⟨-, hp⟩
        · simp [hname, heq, hparent]
        · -- a pending file is written over as a file, unless the path ends in a slash
          have hslash' : pl.trailingSlash = false := by
            cases hs : pl.trailingSlash
            · rfl
            · rw [locate_trailingSlash hloc] at hs
              have hroot := hslash (by simpa using hs)
              exact absurd (hfull.trans hroot) (Place.full_ne_nil hname)
          have hpar : pl.parent = pl.full.dropLast := by simp [Place.full, hname]
          rcases hp with ⟨c, c', x, ht, hu⟩ | ⟨ht, hdir, c', hu⟩
          · simp [hname, ht, hu, hslash']
          · simp [hname, ht, hu, hslash', hpar, hdir]
  simp only [update, hcheck, h.bitAt_eq]

end FileTree

namespace Path

/-- The parts of a text between its slashes hold no slash. -/
theorem slash_not_mem_of_mem_splitOn {cs part : List Char} (h : part ∈ cs.splitOn '/') :
    '/' ∉ part := by
  induction cs generalizing part with
  | nil => simp_all [List.splitOn_nil]
  | cons c cs ih =>
    rw [List.splitOn_cons_eq_if_modifyHead] at h
    split at h
    · simp only [List.mem_cons] at h
      rcases h with rfl | h
      · simp
      · exact ih h
    · rename_i hc
      obtain ⟨first, rest, hsplit⟩ := List.exists_cons_of_ne_nil (List.splitOn_ne_nil '/' cs)
      rw [hsplit] at h
      simp only [List.modifyHead_cons, List.mem_cons] at h
      rcases h with rfl | h
      · simp only [List.mem_cons, not_or]
        exact ⟨fun h' => hc (by simp [← h']), ih (by simp [hsplit])⟩
      · exact ih (by simp [hsplit, h])

/-- What a step of cleaning keeps: `..`, the part itself when it is not empty, or what was kept
before. -/
theorem mem_pushElement {rooted : Bool} {stack : List String} {part e : String}
    (h : e ∈ pushElement rooted stack part) : e = ".." ∨ (e = part ∧ part ≠ "") ∨ e ∈ stack := by
  unfold pushElement at h
  split at h
  · exact .inr (.inr h)
  · rename_i hpart
    split at h
    · split at h
      · split at h
        · rcases List.mem_cons.1 h with rfl | h
          · exact .inl rfl
          · exact .inr (.inr h)
        · exact .inr (.inr (List.mem_cons_of_mem _ h))
      · split at h
        · simp at h
        · simp only [List.mem_singleton] at h
          exact .inl h
    · simp only [List.mem_cons] at h
      rcases h with rfl | h
      · refine .inr (.inl ⟨rfl, ?_⟩)
        rintro rfl
        simp at hpart
      · exact .inr (.inr h)

/-- The elements of a cleaned path are not empty and hold no slash. -/
theorem mem_cleanElements {p e : String} (h : e ∈ cleanElements p) :
    e ≠ "" ∧ '/' ∉ e.toList := by
  unfold cleanElements at h
  rw [List.mem_reverse] at h
  -- cleaning keeps only `..` and parts of the path, and no part holds a slash
  have hfold : ∀ (parts stack : List String), (∀ part ∈ parts, '/' ∉ part.toList) →
      (∀ e ∈ stack, e ≠ "" ∧ '/' ∉ e.toList) →
      ∀ e ∈ parts.foldl (pushElement (isAbs p)) stack, e ≠ "" ∧ '/' ∉ e.toList := by
    intro parts
    induction parts with
    | nil => exact fun _ _ hs => hs
    | cons part parts ih =>
      intro stack hparts hs
      refine ih _ (fun q hq => hparts q (List.mem_cons_of_mem _ hq)) fun e he => ?_
      rcases mem_pushElement he with rfl | ⟨rfl, hne⟩ | he
      · decide
      · exact ⟨hne, hparts _ List.mem_cons_self⟩
      · exact hs e he
  refine hfold _ [] ?_ (by simp) e h
  simp only [List.mem_map, forall_exists_index, and_imp]
  rintro _ cs hcs rfl
  simpa using slash_not_mem_of_mem_splitOn hcs

/-- Elements without slashes, put together with slashes, end in no slash. -/
theorem intercalate_getLast?_ne_slash {es : List String} (hes : ∀ e ∈ es, e ≠ "" ∧ '/' ∉ e.toList) :
    ("/".intercalate es).toList.getLast? ≠ some '/' := by
  intro hlast
  have hne : es ≠ [] := by
    rintro rfl
    simp at hlast
  obtain ⟨init, hinit⟩ := List.getLast?_eq_some_iff.1 hlast
  rw [String.toList_intercalate] at hinit
  -- splitting at the slashes gives the elements back, the last of them empty
  have hsplit := @List.splitOn_intercalate _ (es.map String.toList) _ _ '/'
    (fun l hl => by
      obtain ⟨e, he, rfl⟩ := List.mem_map.1 hl
      exact (hes e he).2)
    (by simpa using hne)
  rw [show "/".toList = ['/'] from rfl] at hinit
  rw [hinit, List.splitOn_append_cons_self, List.splitOn_nil] at hsplit
  have hlastpart := congrArg List.getLast? hsplit
  rw [List.getLast?_append, List.getLast?_singleton, List.getLast?_map] at hlastpart
  obtain ⟨e, he, hel⟩ : ∃ e, es.getLast? = some e ∧ e.toList = [] := by
    rcases hl : es.getLast? with _ | e
    · simp [hl] at hlastpart
    · exact ⟨e, rfl, by simpa [hl] using hlastpart.symm⟩
  exact (hes e (List.mem_of_getLast? he)).1 (by simpa using hel)

/-- A cleaned path ends in a slash only when it is the root. -/
theorem clean_eq_root {p : String} (h : (clean p).toList.getLast? = some '/') : clean p = "/" := by
  have hbody := intercalate_getLast?_ne_slash fun e he => mem_cleanElements (p := p) he
  unfold clean at h ⊢
  dsimp only at h ⊢
  split
  · rename_i habs
    rw [if_pos habs] at h
    rcases hb : ("/".intercalate (cleanElements p)).toList with _ | ⟨c, cs⟩
    · have hempty : "/".intercalate (cleanElements p) = "" := String.toList_eq_nil_iff.1 hb
      rw [hempty]
      rfl
    · rw [String.toList_append, hb] at h
      rw [hb] at hbody
      exact absurd (by simpa using h) hbody
  · rename_i habs
    rw [if_neg habs] at h
    split at h
    · simp at h
    · exact absurd h hbody

/-- A joined path ends in a slash only when it is the root. -/
theorem join_eq_root {parts : List String} (h : (join parts).toList.getLast? = some '/') :
    join parts = "/" := by
  unfold join at h ⊢
  dsimp only at h ⊢
  split
  · rename_i hkept
    rw [if_pos hkept] at h
    simp at h
  · rename_i hkept
    rw [if_neg hkept] at h
    exact clean_eq_root h

end Path

end Regress
