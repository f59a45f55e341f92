import Regress.Proofs.Plan
import Regress.Listing

/-!
# The case tree of a plan

A listing draws the planned cases as a tree: a headline with the number of cases and of groups,
then one line per group in the order given, the last with a corner, and under each group either
a placeholder or one line per name, the last with a corner (`render_snoc`, `groupLines_nil`,
`groupLines_snoc`, from `map_zipIdx_last`).

The names under a group are those of all the cases of that group (`Listing.namesUnder`). A plan
gives every group its own cases, group after group (`plan_cases_or_first_failure`), so under a
group stand the names of its own cases, once for each time the group is given
(`namesUnder_flatMap`). When no group is given twice, the names read from the top down are the
plan's in run order, each once (`namesUnder_flatMap_of_nodup`); a group given twice shows all
its cases twice under each of its two lines (`repeated_group_listed_twice`).
-/

namespace Regress

/-- Marking the last element of a list: the elements before it are marked as not last. -/
theorem map_zipIdx_last {α β : Type} (f : α → Bool → β) (xs : List α) (x : α) :
    (xs ++ [x]).zipIdx.map (fun p => f p.1 (p.2 + 1 == (xs ++ [x]).length)) =
      xs.map (fun a => f a false) ++ [f x true] := by
  rw [List.zipIdx_append, List.map_append, List.zipIdx_singleton]
  congr 1
  · -- an element before the last has an index below the length of the others
    calc xs.zipIdx.map (fun p => f p.1 (p.2 + 1 == (xs ++ [x]).length))
        = xs.zipIdx.map (fun p => f p.1 false) := by
          apply List.map_congr_left
          intro p hp
          have hlt : p.2 < xs.length := (List.mem_zipIdx' hp).1
          have hne : (p.2 + 1 == (xs ++ [x]).length) = false := by
            rw [beq_eq_false_iff_ne, List.length_append, List.length_singleton]
            omega
          rw [hne]
      _ = (xs.zipIdx.map Prod.fst).map (fun a => f a false) := by rw [List.map_map]; rfl
      _ = xs.map (fun a => f a false) := by rw [List.zipIdx_map_fst]
  · simp

namespace Listing

/-- The names a listing draws under a group: those of the cases of the group, in order. -/
def namesUnder (cases : List Case) (g : Group) : List String :=
  (cases.filter (·.group == g)).map (·.name)

theorem nameLines_snoc (pad : String) (ns : List String) (n : String) :
    nameLines pad (ns ++ [n]) =
      String.join (ns.map fun m => pad ++ "├── " ++ m ++ "\n") ++ (pad ++ "└── " ++ n ++ "\n") := by
  have h := map_zipIdx_last (fun m last => pad ++ branch last ++ m ++ "\n") ns n
  unfold nameLines
  rw [show (List.map (fun p => pad ++ branch (p.2 + 1 == (ns ++ [n]).length) ++ p.1 ++ "\n")
      (ns ++ [n]).zipIdx) = _ from h, String.join_append]
  rfl

theorem groupLines_nil (last : Bool) (g : Group) :
    groupLines last g [] =
      branch last ++ g.label ++ "\n" ++ indent last ++ "└── " ++ "(no cases found)\n" := by
  simp only [groupLines, List.isEmpty_nil, if_true, branch]
  simp only [String.append_assoc]

theorem groupLines_snoc (last : Bool) (g : Group) (ns : List String) (n : String) :
    groupLines last g (ns ++ [n]) =
      branch last ++ g.label ++ "\n" ++
        (String.join (ns.map fun m => indent last ++ "├── " ++ m ++ "\n") ++
          (indent last ++ "└── " ++ n ++ "\n")) := by
  have hne : (ns ++ [n]).isEmpty = false := by simp
  simp only [groupLines, hne, Bool.false_eq_true, if_false]
  rw [nameLines_snoc]

/-- The headline, then one block per group, the last group's with a corner. -/
theorem render_snoc (gs : List Group) (g : Group) (cases : List Case) :
    render (gs ++ [g]) cases =
      "Found " ++ toString cases.length ++ " case(s) in " ++ toString (gs ++ [g]).length ++
        " group(s):\n" ++
        (String.join (gs.map fun g' => groupLines false g' (namesUnder cases g')) ++
          groupLines true g (namesUnder cases g)) := by
  have h := map_zipIdx_last (fun g' last => groupLines last g' (namesUnder cases g')) gs g
  unfold render
  dsimp only
  unfold namesUnder at h ⊢
  rw [h, String.join_append]
  rfl

/-- Of cases that each belong to the group they were made for, those of a group `g` are the
cases made for `g`, once for each time `g` is given. -/
theorem filter_group_flatMap (F : Group → List Case) (hF : ∀ g c, c ∈ F g → c.group = g)
    (g : Group) : ∀ groups : List Group,
      (groups.flatMap F).filter (·.group == g) = (groups.filter (· == g)).flatMap F
  | [] => rfl
  | g' :: gs => by
    rw [List.flatMap_cons, List.filter_append, filter_group_flatMap F hF g gs, List.filter_cons]
    by_cases hg : g' = g
    · subst hg
      have hall : (F g').filter (·.group == g') = F g' :=
        List.filter_eq_self.mpr fun c hc => by simp [hF g' c hc]
      simp [hall]
    · have hnone : (F g').filter (·.group == g) = [] :=
        List.filter_eq_nil_iff.mpr fun c hc => by simp [hF g' c hc, hg]
      simp [hnone, hg]

theorem namesUnder_flatMap (F : Group → List Case) (hF : ∀ g c, c ∈ F g → c.group = g)
    (groups : List Group) (g : Group) :
    namesUnder (groups.flatMap F) g =
      (List.replicate (groups.count g) ((F g).map (·.name))).flatten := by
  rw [namesUnder, filter_group_flatMap F hF g groups, List.filter_beq, List.flatMap_replicate,
    List.map_flatten, List.map_replicate]

/-- With no group given twice, the names drawn group after group are the names of the cases in
their order. -/
theorem namesUnder_flatMap_of_nodup (F : Group → List Case) (hF : ∀ g c, c ∈ F g → c.group = g)
    {groups : List Group} (hnodup : groups.Nodup) :
    groups.flatMap (namesUnder (groups.flatMap F)) = (groups.flatMap F).map (·.name) := by
  -- each group is given once, so its names are drawn once
  have honce : ∀ g ∈ groups, namesUnder (groups.flatMap F) g = (F g).map (·.name) := by
    intro g hg
    rw [namesUnder_flatMap F hF, hnodup.count, if_pos hg]
    simp
  rw [List.map_flatMap]
  exact congrArg List.flatten (List.map_congr_left honce)

end Listing

namespace Suite

variable {m : Type → Type} (s : Suite m)

theorem group_of_mem_casesFor {g : Group} {names : List String} {c : Case}
    (h : c ∈ s.casesFor g names) : c.group = g := by
  unfold casesFor at h
  obtain ⟨n, -, rfl⟩ := List.mem_map.mp h
  rfl

end Suite

/-- The case tree of a plan. It has a headline with the numbers of cases and groups, then one
block per group in order, the last group's drawn with a corner. A block is the group's line and
under it the placeholder when the group has no cases, or one line per name, the last with a
corner. The names under a group are the names of its own cases in order, once for each time the
group is given; so when no group is given twice, the names read from the top down are those of
the plan's cases in run order, each once. -/
theorem listing_of_plan {m : Type → Type} (s : Suite m) (t : FileTree) (cwd : List String)
    {groups : List Group} {cases : List Case} (hplan : s.plan t cwd groups = .ok cases) :
    (∀ gs g, groups = gs ++ [g] →
      Listing.render groups cases =
        "Found " ++ toString cases.length ++ " case(s) in " ++ toString groups.length ++
          " group(s):\n" ++
          (String.join
              (gs.map fun g' => Listing.groupLines false g' (Listing.namesUnder cases g')) ++
            Listing.groupLines true g (Listing.namesUnder cases g))) ∧
    (∀ last g, Listing.groupLines last g [] =
      Listing.branch last ++ g.label ++ "\n" ++ Listing.indent last ++ "└── " ++
        "(no cases found)\n") ∧
    (∀ last g ns n, Listing.groupLines last g (ns ++ [n]) =
      Listing.branch last ++ g.label ++ "\n" ++
        (String.join (ns.map fun m => Listing.indent last ++ "├── " ++ m ++ "\n") ++
          (Listing.indent last ++ "└── " ++ n ++ "\n"))) ∧
    (∃ names : Group → List String, (∀ g ∈ groups, s.scan t cwd g = .ok (names g)) ∧
      ∀ g, Listing.namesUnder cases g =
        (List.replicate (groups.count g) ((s.casesFor g (names g)).map (·.name))).flatten) ∧
    (groups.Nodup → groups.flatMap (Listing.namesUnder cases) = cases.map (·.name)) := by
  -- a plan that succeeds is every group's own cases in turn
  obtain ⟨names, hcases, hscans⟩ : ∃ names : Group → List String,
      cases = groups.flatMap (fun g => s.casesFor g (names g)) ∧
        ∀ g ∈ groups, s.scan t cwd g = .ok (names g) := by
    rcases s.plan_cases_or_first_failure t cwd groups with
      ⟨names, hok, hall⟩ | ⟨pre, g, post, f, -, -, -, -, herr⟩
    · rw [hplan] at hok
      cases hok
      exact ⟨names, rfl, fun g hg => (hall g hg).1⟩
    · rw [hplan] at herr
      cases herr
  have hF : ∀ g c, c ∈ s.casesFor g (names g) → c.group = g :=
    fun g _ hc => s.group_of_mem_casesFor hc
  subst hcases
  refine ⟨fun gs g hsplit => ?_, Listing.groupLines_nil, Listing.groupLines_snoc,
    ⟨names, hscans, Listing.namesUnder_flatMap _ hF groups⟩,
    fun hnodup => Listing.namesUnder_flatMap_of_nodup _ hF hnodup⟩
  subst hsplit
  exact Listing.render_snoc gs g _

/-- A suite over the corpus `corpus` that only plans. -/
def planningSuite : Suite Id where
  config := { Config.defaults with corpusRoot := "corpus" }
  runner := fun _ => pure default
  reporter := ⟨fun _ => pure (), fun _ => pure (), fun _ => pure ()⟩

/-- A corpus with one case, `a`, at its root. -/
def oneCaseCorpus : FileTree :=
  { nodes := [(["corpus"], .dir), (["corpus", "a.lama"], .file "x" false)] }

/-- A corpus of two groups, `p` and `q`, with one case each, `a` and `b`. -/
def twoGroupCorpus : FileTree :=
  { nodes := [(["corpus"], .dir), (["corpus", "p"], .dir),
      (["corpus", "p", "a.lama"], .file "x" false), (["corpus", "q"], .dir),
      (["corpus", "q", "b.lama"], .file "y" false)] }

/-- With two distinct groups, the listing shows each group's case once, under its own group,
in run order. -/
theorem distinct_groups_listed_once :
    ∃ cases, planningSuite.plan twoGroupCorpus [] [⟨"p"⟩, ⟨"q"⟩] = .ok cases ∧
      cases.map (·.name) = ["a", "b"] ∧
      [⟨"p"⟩, ⟨"q"⟩].flatMap (Listing.namesUnder cases) = ["a", "b"] ∧
      Listing.render [⟨"p"⟩, ⟨"q"⟩] cases =
        "Found 2 case(s) in 2 group(s):\n├── p\n│   └── a\n└── q\n    └── b\n" := by
  have hplan : planningSuite.plan twoGroupCorpus [] [⟨"p"⟩, ⟨"q"⟩] =
      .ok (planningSuite.casesFor ⟨"p"⟩ ["a"] ++ planningSuite.casesFor ⟨"q"⟩ ["b"]) :=
    Except.eq_ok_of_toOption (by decide +kernel)
  have hnames : (planningSuite.casesFor ⟨"p"⟩ ["a"] ++ planningSuite.casesFor ⟨"q"⟩ ["b"]).map
      (·.name) = ["a", "b"] := by
    decide +kernel
  refine ⟨_, hplan, hnames, ?_, by decide +kernel⟩
  rw [(listing_of_plan planningSuite twoGroupCorpus [] hplan).2.2.2.2 (by decide), hnames]

/-- The root group given twice is planned with its one case twice, but the listing draws that
case twice under each of the group's two lines: four case lines for two cases. -/
theorem repeated_group_listed_twice :
    ((planningSuite.plan oneCaseCorpus [] [⟨"."⟩, ⟨"."⟩]).map fun cases =>
        (cases.map (·.name), [⟨"."⟩, ⟨"."⟩].flatMap (Listing.namesUnder cases),
          Listing.render [⟨"."⟩, ⟨"."⟩] cases)).toOption =
      some (["a", "a"], ["a", "a", "a", "a"],
        ("Found 2 case(s) in 2 group(s):\n├── .\n│   ├── a\n│   └── a\n" ++
          "└── .\n    ├── a\n    └── a\n")) := by
  decide +kernel

end Regress
