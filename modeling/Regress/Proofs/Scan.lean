import Regress.Proofs.Decoding
import Regress.Proofs.Plan

/-!
# What a scan of a group directory finds

A directory listing as a file system gives it has no two entries with the same octets, and no
entry whose name holds the UTF-8 form of a stand-in's code point (`SoundListing`). Of such a
listing, the case names are exactly the non-empty texts whose octets, followed by the suffix's,
are those of an entry that is not a directory (`mem_filterMap_caseName`), each written as its
own octets read back: what stands before the suffix reads back as the same octets
(`Utf8.octets_decode`). Two entries with different octets give names with different octets
(`pairwise_octets_ne`), so the sorted names are strictly ascending in octet order, even where
taking the suffix away changes the order of the entries, and a strictly ascending list is the
only one of its elements: the names do not depend on the order the listing comes in
(`mergeSort_caseName_perm`).

Scanning a directory gives those names; a path that names nothing, or a file, fails to scan,
with a discovery failure naming the cleaned path (`caseNames_finds_exactly`).
-/

namespace Regress

namespace Utf8

/-- `octetsLE.go` is the order of lists of octets. -/
theorem octetsLE.go_eq_true_iff : ∀ {xs ys : List UInt8}, octetsLE.go xs ys = true ↔ xs ≤ ys
  | [], ys => by simp [octetsLE.go, List.nil_le]
  | x :: xs, [] => by simp [octetsLE.go, List.le_nil]
  | x :: xs, y :: ys => by
    rw [octetsLE.go_cons_cons, List.cons_le_cons_iff, octetsLE.go_eq_true_iff]

/-- Of two texts in octet order with different octets, the first's octets come strictly
first. -/
theorem octets_lt_of_octetsLE {a b : String} (h : octetsLE a b = true)
    (hne : octets a ≠ octets b) : octets a < octets b := by
  rw [octetsLE_eq_go, octetsLE.go_eq_true_iff] at h
  exact (List.le_iff_lt_or_eq.1 h).resolve_right hne

theorem ofChar_ne_nil (c : Char) : ofChar c ≠ [] := by
  rw [ofChar_eq]
  split
  · exact List.cons_ne_nil _ _
  · exact String.utf8EncodeChar_ne_nil

theorem octets_eq_nil_iff {s : String} : octets s = [] ↔ s = "" := by
  rw [octets_eq_flatMap, List.flatMap_eq_nil_iff, ← String.toList_eq_nil_iff]
  constructor
  · intro h
    cases hs : s.toList with
    | nil => rfl
    | cons c cs => exact absurd (h c (by simp [hs])) (ofChar_ne_nil c)
  · intro hs c hc
    simp [hs] at hc

end Utf8

theorem FileTree.readDir_ok_of_stat_dir {t : FileTree} {cwd : List String} {p : String}
    (h : t.stat cwd p = .ok .dir) : ∃ entries, t.readDir cwd p = .ok entries := by
  unfold FileTree.stat at h
  unfold FileTree.readDir
  cases hloc : t.locate cwd p with
  | error e => simp [hloc] at h
  | ok pl =>
    cases hget : t.get? pl.full with
    | none => simp [hloc, hget] at h
    | some n =>
      cases n with
      | file content x =>
        simp only [hloc, hget] at h
        split at h <;> cases h
      | dir => exact ⟨t.children pl.full, by simp [hget]⟩

namespace Discovery

/-- A directory listing as a file system gives it: no two entries have the same octets, and no
entry's name holds the UTF-8 form of a stand-in's code point. -/
def SoundListing (entries : List (String × Node)) : Prop :=
  (entries.map fun e => Utf8.octets e.1).Nodup ∧
    ∀ e ∈ entries, Utf8.noStandIns (Utf8.octets e.1) = true

instance (entries : List (String × Node)) : Decidable (SoundListing entries) :=
  inferInstanceAs (Decidable (_ ∧ ∀ e ∈ entries, _))

variable {suffix : String} {entries entries' : List (String × Node)}

theorem SoundListing.perm (hs : SoundListing entries) (hp : entries'.Perm entries) :
    SoundListing entries' :=
  ⟨((hp.map _).nodup_iff).2 hs.1, fun e he => hs.2 e (hp.mem_iff.1 he)⟩

/-- The name a source entry gives is written as its own octets, and those are what stands
before the suffix in the entry's name. -/
theorem octets_of_caseName {entry : String × Node} {n : String}
    (hfree : Utf8.noStandIns (Utf8.octets entry.1) = true) (h : caseName suffix entry = some n) :
    Utf8.octets entry.1 = Utf8.octets n ++ Utf8.octets suffix ∧ n ≠ "" ∧
      Utf8.decode (Utf8.octets n) = n := by
  obtain ⟨-, p, hp, he, rfl⟩ := caseName_eq_some.1 h
  have hround : Utf8.octets (Utf8.decode p) = p := by
    refine Utf8.octets_decode (Utf8.noStandIns_of_append (Utf8.octets suffix) ?_)
    rw [← he]
    exact hfree
  rw [hround]
  refine ⟨he, fun hnil => hp ?_, rfl⟩
  rw [← hround]
  exact Utf8.octets_eq_nil_iff.2 hnil

/-- The case names of a sound listing are the non-empty texts, each its own octets read back,
whose octets and then the suffix's are those of an entry that is not a directory. -/
theorem mem_filterMap_caseName (hs : SoundListing entries) {n : String} :
    n ∈ entries.filterMap (caseName suffix) ↔
      n ≠ "" ∧ Utf8.decode (Utf8.octets n) = n ∧
        ∃ e node, (e, node) ∈ entries ∧ node ≠ .dir ∧
          Utf8.octets e = Utf8.octets n ++ Utf8.octets suffix := by
  rw [List.mem_filterMap]
  constructor
  · rintro ⟨⟨e, node⟩, hmem, hname⟩
    obtain ⟨he, hne, hround⟩ := octets_of_caseName (hs.2 _ hmem) hname
    obtain ⟨⟨content, x, hnode⟩, -⟩ := caseName_eq_some.1 hname
    exact ⟨hne, hround, e, node, hmem, (by rintro rfl; cases hnode), he⟩
  · rintro ⟨hne, hround, e, node, hmem, hnode, he⟩
    -- a node that is not a directory is a file
    obtain ⟨content, x, rfl⟩ : ∃ content x, node = .file content x := by
      cases node with
      | file content x => exact ⟨content, x, rfl⟩
      | dir => exact absurd rfl hnode
    have hp : Utf8.octets n ≠ [] := (not_congr Utf8.octets_eq_nil_iff).2 hne
    exact ⟨(e, .file content x), hmem,
      caseName_eq_some.2 ⟨⟨content, x, rfl⟩, _, hp, he, hround.symm⟩⟩

theorem pairwise_octets_ne (hs : SoundListing entries) :
    (entries.filterMap (caseName suffix)).Pairwise
      fun a b => Utf8.octets a ≠ Utf8.octets b := by
  have hne : entries.Pairwise fun a b => Utf8.octets a.1 ≠ Utf8.octets b.1 :=
    List.pairwise_map.1 hs.1
  -- each name's octets fix its entry's, since the entries are free of stand-ins' forms
  have hfree : entries.Pairwise fun a b => Utf8.noStandIns (Utf8.octets a.1) = true ∧
      Utf8.noStandIns (Utf8.octets b.1) = true ∧ Utf8.octets a.1 ≠ Utf8.octets b.1 :=
    hne.imp_of_mem fun ha hb h => ⟨hs.2 _ ha, hs.2 _ hb, h⟩
  refine hfree.filterMap _ fun a b ⟨ha, hb, hdiff⟩ n hn n' hn' hsame => hdiff ?_
  rw [(octets_of_caseName ha hn).1, (octets_of_caseName hb hn').1, hsame]

/-- The sorted case names of a sound listing are strictly ascending in octet order. -/
theorem ascending_mergeSort_caseName (hs : SoundListing entries) :
    ((entries.filterMap (caseName suffix)).mergeSort fun a b => Utf8.octetsLE a b).Pairwise
      fun a b => Utf8.octets a < Utf8.octets b := by
  have hsorted := Utf8.pairwise_mergeSort_octetsLE (entries.filterMap (caseName suffix))
  have hne := (@pairwise_octets_ne suffix _ hs).perm
    (List.mergeSort_perm _ fun a b => Utf8.octetsLE a b).symm fun h => Ne.symm h
  exact (hsorted.and hne).imp fun ⟨hle, hne⟩ => Utf8.octets_lt_of_octetsLE hle hne

/-- The sorted case names do not depend on the order of the listing: both orders give a
strictly ascending list of the same names, and there is only one. -/
theorem mergeSort_caseName_perm (hs : SoundListing entries) (hp : entries'.Perm entries) :
    ((entries'.filterMap (caseName suffix)).mergeSort fun a b => Utf8.octetsLE a b) =
      (entries.filterMap (caseName suffix)).mergeSort fun a b => Utf8.octetsLE a b := by
  have hperm : ((entries'.filterMap (caseName suffix)).mergeSort fun a b => Utf8.octetsLE a b).Perm
      ((entries.filterMap (caseName suffix)).mergeSort fun a b => Utf8.octetsLE a b) :=
    ((List.mergeSort_perm _ _).trans (hp.filterMap _)).trans (List.mergeSort_perm _ _).symm
  refine hperm.eq_of_pairwise (fun a b _ _ hab hba => absurd hba (List.lt_asymm hab))
    (ascending_mergeSort_caseName (hs.perm hp)) (ascending_mergeSort_caseName hs)

/-- What a scan of a listing finds: the case names, strictly ascending in octet order; a text is
among them exactly when it is not empty, is its own octets read back, and its octets followed
by the suffix's are those of an entry that is not a directory; and the listing in any other
order gives the same names. -/
structure Finds (suffix : String) (entries : List (String × Node)) (names : List String) :
    Prop where
  ascending : names.Pairwise fun a b => Utf8.octets a < Utf8.octets b
  mem_iff : ∀ n, n ∈ names ↔ n ≠ "" ∧ Utf8.decode (Utf8.octets n) = n ∧
    ∃ e node, (e, node) ∈ entries ∧ node ≠ .dir ∧
      Utf8.octets e = Utf8.octets n ++ Utf8.octets suffix
  order_free : ∀ entries' : List (String × Node), entries'.Perm entries →
    ((entries'.filterMap (caseName suffix)).mergeSort fun a b => Utf8.octetsLE a b) = names

theorem finds_mergeSort_caseName (hs : SoundListing entries) :
    Finds suffix entries
      ((entries.filterMap (caseName suffix)).mergeSort fun a b => Utf8.octetsLE a b) where
  ascending := ascending_mergeSort_caseName hs
  mem_iff _ := List.mem_mergeSort.trans (mem_filterMap_caseName hs)
  order_free _ hp := mergeSort_caseName_perm hs hp

/-- Scanning a directory whose listing is sound finds exactly its cases, in strictly ascending
octet order; a path that names nothing, or names a file, fails with a discovery failure that
names the cleaned path. -/
theorem caseNames_finds_exactly (t : FileTree) (cwd : List String) (suffix dir : String)
    (hlisting : ∀ entries, t.readDir cwd (Path.clean dir) = .ok entries → SoundListing entries) :
    (t.stat cwd (Path.clean dir) = .ok .dir →
      ∃ entries names, t.readDir cwd (Path.clean dir) = .ok entries ∧
        caseNames t cwd suffix dir = .ok names ∧ Finds suffix entries names) ∧
    (∀ e, t.stat cwd (Path.clean dir) = .error e →
      caseNames t cwd suffix dir =
        .error (Failure.discovery ("test path does not exist: " ++ Path.clean dir))) ∧
    (∀ content x, t.stat cwd (Path.clean dir) = .ok (.file content x) →
      caseNames t cwd suffix dir =
        .error (Failure.discovery ("test path is not a directory: " ++ Path.clean dir))) := by
  refine ⟨fun hdir => ?_, fun e herr => ?_, fun content x hfile => ?_⟩
  · obtain ⟨entries, hread⟩ := FileTree.readDir_ok_of_stat_dir hdir
    refine ⟨entries, _, hread, ?_, finds_mergeSort_caseName (hlisting entries hread)⟩
    unfold caseNames
    dsimp only
    rw [hdir, hread]
  · unfold caseNames
    dsimp only
    rw [herr]
  · unfold caseNames
    dsimp only
    rw [hfile]

/-- A group directory of two sources, a subdirectory and two other files, listed with
`a-b.lama` before `a.lama`, is scanned with its listing sound. -/
theorem scan_of_lama_group :
    let t : FileTree := { nodes := [(["g"], .dir), (["g", "a-b.lama"], .file "" false),
      (["g", "a.lama"], .file "" false), (["g", "sub.lama"], .dir),
      (["g", "notes.lama.bak"], .file "" false), (["g", ".lama"], .file "" false)] }
    (∀ entries, t.readDir [] (Path.clean "g") = .ok entries → SoundListing entries) ∧
      (t.stat [] (Path.clean "g") = .ok .dir →
        ∃ entries names, t.readDir [] (Path.clean "g") = .ok entries ∧
          caseNames t [] ".lama" "g" = .ok names ∧ Finds ".lama" entries names) ∧
      (∀ e, t.stat [] (Path.clean "g") = .error e →
        caseNames t [] ".lama" "g" =
          .error (Failure.discovery ("test path does not exist: " ++ Path.clean "g"))) ∧
      (∀ content x, t.stat [] (Path.clean "g") = .ok (.file content x) →
        caseNames t [] ".lama" "g" =
          .error (Failure.discovery ("test path is not a directory: " ++ Path.clean "g"))) := by
  intro t
  -- the listing is the directory's children sorted, so as sound as the unsorted ones
  have hlisting : ∀ entries, t.readDir [] (Path.clean "g") = .ok entries →
      SoundListing entries := by
    intro entries hread
    have hchildren : t.readDir [] (Path.clean "g") = .ok (t.children ["g"]) := by rfl
    rw [hchildren] at hread
    cases hread
    exact SoundListing.perm (by decide +kernel) (FileTree.children_perm t ["g"])
  exact ⟨hlisting, caseNames_finds_exactly t [] ".lama" "g" hlisting⟩

end Discovery

end Regress
