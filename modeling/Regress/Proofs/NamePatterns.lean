import Regress.NameFilter
import Regress.Proofs.OctetOrder

/-!
# Which names a pattern admits

A name is admitted by the empty pattern, by a pattern the shell pattern accepts, and failing
that by a search: a pattern without wildcards must occur in the name, and a pattern with stars
but no `?` must have its pieces occur in the name in order (`InOrder`). The search takes the
leftmost occurrence of each piece, and this misses nothing: the rest after the leftmost
occurrence holds the rest after any other (`afterFirst_of_occurs`), so `occursInOrder` decides
`InOrder` (`occursInOrder_iff`).

The shell pattern never admits a name the search rejects. Outside brackets, the chunks of a
pattern are its pieces between the stars (`segmentsFrom_chunks`); a chunk of plain characters
matches exactly its own octets, and a star only skips octets, so an accepted name holds the
pieces in order too (`accepts_inOrder`). A pattern of stars alone accepts exactly the names
without a slash, and with no pieces the search admits nothing more.

`admits_by_pattern` gathers what each kind of pattern admits. Names are compared as octets, the
way the program compares them.
-/

namespace Regress

/-! ## Pieces between separators -/

/-- Splitting at a separator and joining the parts again drops the separators. -/
theorem List.flatten_splitOn (a : Char) :
    ∀ cs : List Char, (cs.splitOn a).flatten = cs.filter (· != a)
  | [] => by simp [List.splitOn_nil]
  | x :: xs => by
    rw [List.splitOn_cons_eq_if_modifyHead]
    have ih := List.flatten_splitOn a xs
    split
    · simp_all
    · obtain ⟨l, L, hL⟩ := List.exists_cons_of_ne_nil (List.splitOn_ne_nil a xs)
      rw [hL] at ih ⊢
      simp_all

/-- All the parts between separators are empty exactly when there is nothing but separators. -/
theorem List.filter_splitOn_eq_nil_iff (a : Char) (cs : List Char) :
    (cs.splitOn a).filter (!·.isEmpty) = [] ↔ ∀ c ∈ cs, c = a := by
  have hflat := List.flatten_splitOn a cs
  rw [List.filter_eq_nil_iff]
  constructor
  · intro hparts c hc
    have hnil : (cs.splitOn a).flatten = [] :=
      List.flatten_eq_nil_iff.2 fun part hpart => by simpa using hparts part hpart
    rw [hnil] at hflat
    simpa using List.filter_eq_nil_iff.1 hflat.symm c hc
  · intro hall part hpart
    have hnil : (cs.splitOn a).flatten = [] := by
      rw [hflat]
      exact List.filter_eq_nil_iff.2 fun c hc => by simp [hall c hc]
    simp [List.flatten_eq_nil_iff.1 hnil part hpart]

end Regress

namespace Regress.Utf8

/-! ## The octets of a name -/

theorem ofChar_eq (c : Char) :
    ofChar c = match rawOctet? c with
      | some b => [b]
      | none => String.utf8EncodeChar c := by
  by_cases hc : isRaw c = true
  · have hr : rawOctet? c = some (UInt8.ofNat (c.toNat - 0x10FF00)) := by
      simp_all [rawOctet?, isRaw]
    simp [ofChar, octets, hasRaw, hc, hr]
  · have hr : rawOctet? c = none := by
      simp_all [rawOctet?, isRaw]
    simp [ofChar, octets, hasRaw, hc, hr]

theorem octets_eq_flatMap (s : String) : octets s = s.toList.flatMap ofChar := by
  unfold octets
  split
  · simp only [List.flatMap_def]
    exact congrArg List.flatten (List.map_congr_left fun c _ => (ofChar_eq c).symm)
  · rename_i h
    simp only [List.flatMap_def]
    refine congrArg List.flatten (List.map_congr_left fun c hc => ?_)
    -- a text without stand-ins has none among its characters
    have hraw : isRaw c = false := by
      simp only [hasRaw, List.any_eq_true, not_exists, not_and, Bool.not_eq_true] at h
      exact h c hc
    have hr : rawOctet? c = none := by simp_all [rawOctet?, isRaw]
    simp [ofChar_eq, hr]

theorem octets_ofList (cs : List Char) : octets (String.ofList cs) = cs.flatMap ofChar := by
  rw [octets_eq_flatMap, String.toList_ofList]

/-- Only a slash has the octet of a slash among its octets: stand-ins are octets from `0x80`,
and a character of several octets has none below. -/
theorem slash_mem_ofChar (c : Char) : 47 ∈ ofChar c ↔ c = '/' := by
  rw [ofChar_eq]
  by_cases hc : 0x10FF80 ≤ c.toNat
  · have hlt := toNat_lt_of_char c
    have hne : c ≠ '/' := by
      rintro rfl
      simp at hc
    simp only [rawOctet?, hc, ↓reduceIte, List.mem_singleton, hne, iff_false]
    intro h
    have := congrArg UInt8.toNat h
    simp [UInt8.toNat_ofNat] at this
    omega
  · simp only [rawOctet?, hc, ↓reduceIte]
    have hmap := utf8EncodeChar_toNat c
    constructor
    · intro h
      have h' : 47 ∈ (String.utf8EncodeChar c).map UInt8.toNat := List.mem_map_of_mem h
      rw [hmap] at h'
      unfold leadDigit trailDigits at h'
      apply Char.toNat_inj.mp
      rw [show '/'.toNat = 47 from rfl]
      split at h' <;> (try split at h') <;> (try split at h') <;> simp at h' <;> omega
    · rintro rfl
      decide

theorem slash_mem_octets (s : String) : 47 ∈ octets s ↔ '/' ∈ s.toList := by
  simp [octets_eq_flatMap, slash_mem_ofChar]

end Regress.Utf8

namespace Regress.NameFilter

/-! ## Pieces in order, and the leftmost search -/

/-- The pieces `ps` stand in `s` in order: `s` is `x₀ ++ p₁ ++ x₁ ++ ⋯ ++ pₖ ++ xₖ` for some
octets `xᵢ`, which may hold anything. -/
inductive InOrder : List (List UInt8) → List UInt8 → Prop
  | nil (s : List UInt8) : InOrder [] s
  | cons {p : List UInt8} {ps : List (List UInt8)} (x : List UInt8) {s : List UInt8} :
      InOrder ps s → InOrder (p :: ps) (x ++ p ++ s)

namespace InOrder

theorem prepend {ps : List (List UInt8)} {s : List UInt8} (h : InOrder ps s) (z : List UInt8) :
    InOrder ps (z ++ s) := by
  cases h with
  | nil => exact .nil _
  | cons x h' => simpa [List.append_assoc] using InOrder.cons (z ++ x) h'

theorem singleton_iff {p s : List UInt8} : InOrder [p] s ↔ ∃ x y, s = x ++ p ++ y := by
  constructor
  · rintro (_ | ⟨x, (_ | _)⟩)
    exact ⟨x, _, rfl⟩
  · rintro ⟨x, y, rfl⟩
    exact .cons x (.nil y)

end InOrder

/-- What `afterFirst` finds is an occurrence: the octets before it, the piece, and the rest. -/
theorem afterFirst_eq_some {part : List UInt8} :
    ∀ {s rest : List UInt8}, afterFirst part s = some rest → ∃ x, s = x ++ part ++ rest
  | [], rest, h => by
    simp only [afterFirst] at h
    split at h
    · cases h
      exact ⟨[], by simp_all⟩
    · cases h
  | c :: t, rest, h => by
    simp only [afterFirst] at h
    split at h
    · rename_i hp
      cases h
      exact ⟨[], by simpa using (List.prefix_iff_eq_append.1 (List.isPrefixOf_iff_prefix.1 hp)).symm⟩
    · obtain ⟨x, rfl⟩ := afterFirst_eq_some h
      exact ⟨c :: x, rfl⟩

/-- The leftmost occurrence misses nothing: wherever the piece stands in `s`, the search finds an
occurrence that ends no later, so the rest after it holds the rest after the other one. -/
theorem afterFirst_of_occurs {part y : List UInt8} :
    ∀ x : List UInt8, ∃ z, afterFirst part (x ++ part ++ y) = some (z ++ y)
  | [] => by
    cases h : part ++ y with
    | nil =>
      obtain ⟨rfl, rfl⟩ := List.append_eq_nil_iff.1 h
      exact ⟨[], rfl⟩
    | cons c t =>
      refine ⟨[], ?_⟩
      rw [List.nil_append, h, afterFirst,
        if_pos (h ▸ List.isPrefixOf_iff_prefix.2 (List.prefix_append _ _)), ← h, List.drop_left]
      rfl
  | a :: x => by
    simp only [List.cons_append, afterFirst]
    split
    · -- an occurrence that starts earlier ends no later than the given one
      refine ⟨(a :: x ++ part).drop part.length, ?_⟩
      rw [← List.drop_append_of_le_length (by simp; omega)]
      simp
    · exact afterFirst_of_occurs x

/-- Searching each piece after the leftmost occurrence of the one before finds the pieces
exactly when they stand in order. -/
theorem occursInOrder_iff : ∀ {ps : List (List UInt8)} {s : List UInt8},
    occursInOrder ps s = true ↔ InOrder ps s
  | [], s => ⟨fun _ => .nil s, fun _ => rfl⟩
  | p :: ps, s => by
    simp only [occursInOrder]
    constructor
    · intro h
      split at h
      · rename_i rest hrest
        obtain ⟨x, rfl⟩ := afterFirst_eq_some hrest
        exact .cons x (occursInOrder_iff.1 h)
      · cases h
    · rintro (_ | ⟨x, hin⟩)
      obtain ⟨z, hz⟩ := @afterFirst_of_occurs p _ x
      rw [hz]
      exact occursInOrder_iff.2 (hin.prepend z)

theorem afterFirst_isSome_iff {part s : List UInt8} :
    (afterFirst part s).isSome = true ↔ ∃ x y, s = x ++ part ++ y := by
  constructor
  · intro h
    obtain ⟨rest, hrest⟩ := Option.isSome_iff_exists.1 h
    obtain ⟨x, rfl⟩ := afterFirst_eq_some hrest
    exact ⟨x, rest, rfl⟩
  · rintro ⟨x, y, rfl⟩
    obtain ⟨z, hz⟩ := @afterFirst_of_occurs part y x
    rw [hz]
    rfl

end Regress.NameFilter

namespace Regress.Glob

open Regress.Utf8 NameFilter

/-! ## The shell pattern on plain characters and stars -/

theorem parseChunk_plain : ∀ {cs : List Char}, '?' ∉ cs → '[' ∉ cs → '\\' ∉ cs →
    parseChunk cs = some (cs.map .literal)
  | [], _, _, _ => rfl
  | c :: rest, hq, hb, hs => by
    simp only [List.mem_cons, not_or] at hq hb hs
    have ih := parseChunk_plain hq.2 hb.2 hs.2
    simp only [parseChunk, ChunkState.read, ChunkState.step] at ih ⊢
    simp [Ne.symm hq.1, Ne.symm hb.1, Ne.symm hs.1, ih]

/-- Literal characters match exactly their octets at the front of a name. -/
theorem matchElements_literal_eq_some : ∀ {cs : List Char} {s t : List UInt8},
    matchElements (cs.map .literal) s = some t ↔ s = cs.flatMap ofChar ++ t
  | [], s, t => by simp [matchElements]
  | c :: cs, s, t => by
    simp only [List.map_cons, matchElements, List.flatMap_cons, List.append_assoc]
    split
    · rename_i hp
      rw [matchElements_literal_eq_some]
      obtain ⟨u, rfl⟩ : ∃ u, s = ofChar c ++ u :=
        ⟨_, (List.prefix_iff_eq_append.1 (List.isPrefixOf_iff_prefix.1 hp)).symm⟩
      simp
    · rename_i hp
      simp only [reduceCtorEq, false_iff]
      rintro rfl
      exact hp (List.isPrefixOf_iff_prefix.2 (List.prefix_append _ _))

/-- Where the search after a star finds literal characters, the name is some octets, then the
characters' octets, then what is left. -/
theorem seek_literal_eq_some {cs : List Char} {last : Bool} : ∀ {s t : List UInt8},
    seek (cs.map .literal) last s = some t → ∃ x, s = x ++ cs.flatMap ofChar ++ t
  | [], t, h => by simp [seek] at h
  | b :: s, t, h => by
    simp only [seek] at h
    split at h
    · cases h
    · split at h
      · rename_i t' ht'
        split at h
        · obtain ⟨x, rfl⟩ := seek_literal_eq_some h
          exact ⟨b :: x, rfl⟩
        · cases h
          exact ⟨[b], by simpa using matchElements_literal_eq_some.1 ht'⟩
      · obtain ⟨x, rfl⟩ := seek_literal_eq_some h
        exact ⟨b :: x, rfl⟩

/-- The octets of the non-empty chunks of a list of segments, in order. -/
def chunkOctets (segs : List Segment) : List (List UInt8) :=
  ((segs.map (·.chunk)).filter (!·.isEmpty)).map (·.flatMap ofChar)

theorem inOrder_chunkOctets_cons {seg : Segment} {more : List Segment} {x t : List UInt8}
    (h : InOrder (chunkOctets more) t) :
    InOrder (chunkOctets (seg :: more)) (x ++ seg.chunk.flatMap ofChar ++ t) := by
  by_cases he : seg.chunk = []
  · simpa [chunkOctets, he] using h.prepend x
  · have hne : seg.chunk.isEmpty = false := by simpa using he
    simpa [chunkOctets, hne] using InOrder.cons x h

/-- Segments of literal chunks accept only names that hold the chunks in order: each chunk
matches its own octets, and a star only skips octets. A star with an empty chunk accepts
whatever is left without a slash, so it must be the last segment. -/
theorem matchSegments_inOrder : ∀ {segs : List Segment} {name : List UInt8},
    (∀ seg ∈ segs, '?' ∉ seg.chunk ∧ '[' ∉ seg.chunk ∧ '\\' ∉ seg.chunk) →
    (∀ seg ∈ segs.dropLast, seg.chunk ≠ []) →
    matchSegments segs name = some true → InOrder (chunkOctets segs) name
  | [], name, _, _, _ => .nil name
  | seg :: more, name, hplain, hlast, h => by
    have hplain' : ∀ s ∈ more, '?' ∉ s.chunk ∧ '[' ∉ s.chunk ∧ '\\' ∉ s.chunk :=
      fun s hs => hplain s (List.mem_cons_of_mem _ hs)
    have hlast' : ∀ s ∈ more.dropLast, s.chunk ≠ [] := fun s hs => by
      cases more with
      | nil => simp at hs
      | cons m ms =>
        refine hlast s ?_
        rw [List.dropLast_cons_of_ne_nil (List.cons_ne_nil m ms)]
        exact List.mem_cons_of_mem _ hs
    -- every way to accept finds the chunk and then accepts the rest with the later segments
    have hrest : ∀ x t, name = x ++ seg.chunk.flatMap ofChar ++ t →
        matchSegments more t = some true → InOrder (chunkOctets (seg :: more)) name :=
      fun x t hname ht => by
        rw [hname]
        exact inOrder_chunkOctets_cons (matchSegments_inOrder hplain' hlast' ht)
    obtain ⟨hq, hb, hs⟩ := hplain seg List.mem_cons_self
    simp only [matchSegments] at h
    split at h
    · rename_i hstar
      have he : seg.chunk = [] := by simpa using (Bool.and_eq_true_iff.1 hstar).2
      have hmore : more = [] := by
        cases more with
        | nil => rfl
        | cons m ms =>
          refine absurd he (hlast seg ?_)
          rw [List.dropLast_cons_of_ne_nil (List.cons_ne_nil m ms)]
          exact List.mem_cons_self
      subst hmore
      simpa [chunkOctets, he] using InOrder.nil name
    · rw [parseChunk_plain hq hb hs] at h
      simp only at h
      have hgive : ¬ (if more.all Segment.wellFormed then some false else none) = some true := by
        split <;> simp
      split at h
      focus
        rename_i t ht
        split at h
        · exact hrest [] t (by simpa using matchElements_literal_eq_some.1 ht) h
      -- what is left in both branches is the retry: after a star the chunk may be found further
      -- on; without one, giving up accepts nothing
      all_goals
        split at h
        · split at h
          · rename_i t ht
            obtain ⟨x, hx⟩ := seek_literal_eq_some ht
            exact hrest x t hx h
          · exact absurd h hgive
        · exact absurd h hgive

theorem segmentsFrom_star (rest : List Char) (star inClass : Bool) (acc : List Char) :
    segmentsFrom ('*' :: rest) star inClass acc =
      if acc.isEmpty then segmentsFrom rest true false []
      else if inClass then segmentsFrom rest star true ('*' :: acc)
      else ⟨star, acc.reverse⟩ :: segmentsFrom rest true false [] := by
  rw [segmentsFrom]

theorem segmentsFrom_plain {c : Char} (rest : List Char) (star : Bool) (acc : List Char)
    (hc : c ≠ '*') (hb : c ≠ '[') (hs : c ≠ '\\') :
    segmentsFrom (c :: rest) star false acc = segmentsFrom rest star false (c :: acc) := by
  by_cases hr : c = ']'
  · subst hr
    rw [segmentsFrom]
  · rw [segmentsFrom] <;> simp_all

theorem segmentsFrom_ne_nil (cs : List Char) (star inClass : Bool) (acc : List Char) :
    segmentsFrom cs star inClass acc ≠ [] := by
  fun_induction segmentsFrom cs star inClass acc <;> simp_all

/-- Outside brackets, the segments of a pattern split it at its stars: their non-empty chunks
are its non-empty star-separated pieces. `acc` is the chunk read so far, last character first. -/
theorem segmentsFrom_chunks : ∀ {cs : List Char} {star : Bool} {acc : List Char},
    '[' ∉ cs → '\\' ∉ cs → '*' ∉ acc →
    ((segmentsFrom cs star false acc).map (·.chunk)).filter (!·.isEmpty) =
      ((acc.reverse ++ cs).splitOn '*').filter (!·.isEmpty)
  | [], star, acc, _, _, hacc => by
    rw [List.append_nil, List.splitOn_eq_singleton (by simpa using hacc)]
    simp [segmentsFrom]
  | c :: rest, star, acc, hb, hs, hacc => by
    simp only [List.mem_cons, not_or] at hb hs
    by_cases hc : c = '*'
    · subst hc
      rw [segmentsFrom_star, List.splitOn_append_cons_self,
        List.splitOn_eq_singleton (by simpa using hacc)]
      by_cases he : acc = []
      · subst he
        simpa using @segmentsFrom_chunks rest true [] hb.2 hs.2 (by simp)
      · have hne : acc.isEmpty = false := by simpa using he
        simpa [hne, he] using @segmentsFrom_chunks rest true [] hb.2 hs.2 (by simp)
    · rw [segmentsFrom_plain rest star acc hc (Ne.symm hb.1) (Ne.symm hs.1)]
      simpa using @segmentsFrom_chunks rest star (c :: acc) hb.2 hs.2
        (by simp [Ne.symm hc, hacc])

/-- Outside brackets, only the last segment can have an empty chunk, and the characters of the
chunks are those of the pattern. -/
theorem segmentsFrom_shape : ∀ {cs : List Char} {star : Bool} {acc : List Char},
    '[' ∉ cs → '\\' ∉ cs →
    (∀ seg ∈ (segmentsFrom cs star false acc).dropLast, seg.chunk ≠ []) ∧
      ∀ seg ∈ segmentsFrom cs star false acc, ∀ c ∈ seg.chunk, c ∈ acc ∨ c ∈ cs
  | [], star, acc, _, _ => by simp [segmentsFrom]
  | c :: rest, star, acc, hb, hs => by
    simp only [List.mem_cons, not_or] at hb hs
    by_cases hc : c = '*'
    · subst hc
      obtain ⟨hlast, hchars⟩ := @segmentsFrom_shape rest true [] hb.2 hs.2
      rw [segmentsFrom_star]
      by_cases he : acc = []
      · subst he
        simp only [List.isEmpty_nil, ↓reduceIte]
        exact ⟨hlast, fun seg hseg d hd =>
          .inr (List.mem_cons_of_mem _ (by simpa using hchars seg hseg d hd))⟩
      · have hne : acc.isEmpty = false := by simpa using he
        simp only [hne, Bool.false_eq_true, ↓reduceIte]
        rw [List.dropLast_cons_of_ne_nil (segmentsFrom_ne_nil _ _ _ _)]
        refine ⟨?_, ?_⟩
        · simpa [he] using hlast
        · simp only [List.mem_cons, forall_eq_or_imp, List.mem_reverse]
          exact ⟨fun d hd => .inl hd,
            fun seg hseg d hd => .inr (.inr (by simpa using hchars seg hseg d hd))⟩
    · rw [segmentsFrom_plain rest star acc hc (Ne.symm hb.1) (Ne.symm hs.1)]
      obtain ⟨hlast, hchars⟩ := @segmentsFrom_shape rest star (c :: acc) hb.2 hs.2
      refine ⟨hlast, fun seg hseg d hd => ?_⟩
      rcases hchars seg hseg d hd with h | h
      · rcases List.mem_cons.1 h with rfl | h
        · exact .inr List.mem_cons_self
        · exact .inl h
      · exact .inr (List.mem_cons_of_mem _ h)

/-- A pattern whose only special characters are stars accepts only names that hold its pieces
in order. -/
theorem accepts_inOrder {p n : String} (hq : '?' ∉ p.toList) (hb : '[' ∉ p.toList)
    (hs : '\\' ∉ p.toList) (h : accepts p n = some true) :
    InOrder (NameFilter.pieces p) (octets n) := by
  have hpieces : NameFilter.pieces p =
      ((p.toList.splitOn '*').filter (!·.isEmpty)).map (·.flatMap ofChar) := by
    simp only [NameFilter.pieces, octets_ofList]
  rw [hpieces]
  unfold accepts segments at h
  split at h
  · rename_i he
    rw [List.isEmpty_iff.1 he, List.splitOn_nil]
    exact .nil _
  · obtain ⟨hlast, hchars⟩ := @segmentsFrom_shape p.toList false [] hb hs
    have hplain : ∀ seg ∈ segmentsFrom p.toList false false [],
        '?' ∉ seg.chunk ∧ '[' ∉ seg.chunk ∧ '\\' ∉ seg.chunk :=
      fun seg hseg => ⟨fun hc => hq (by simpa using hchars seg hseg _ hc),
        fun hc => hb (by simpa using hchars seg hseg _ hc),
        fun hc => hs (by simpa using hchars seg hseg _ hc)⟩
    have hin := matchSegments_inOrder hplain hlast h
    rwa [chunkOctets, segmentsFrom_chunks hb hs (by simp)] at hin

theorem segmentsFrom_stars : ∀ {cs : List Char} (star : Bool), (∀ c ∈ cs, c = '*') → cs ≠ [] →
    segmentsFrom cs star false [] = [⟨true, []⟩]
  | [], _, _, hne => absurd rfl hne
  | c :: rest, star, hall, _ => by
    obtain rfl : c = '*' := hall c List.mem_cons_self
    rw [segmentsFrom_star]
    simp only [List.isEmpty_nil, ↓reduceIte]
    cases rest with
    | nil => simp [segmentsFrom]
    | cons d ds =>
      exact segmentsFrom_stars true (fun x hx => hall x (List.mem_cons_of_mem _ hx))
        (List.cons_ne_nil d ds)

/-- A pattern of stars alone accepts exactly the names without a slash. -/
theorem accepts_stars {p : String} (hp : p ≠ "") (hall : ∀ c ∈ p.toList, c = '*') (n : String) :
    accepts p n = some (decide ('/' ∉ n.toList)) := by
  have hne : p.toList ≠ [] := by simpa using hp
  have hemp : p.toList.isEmpty = false := by simpa using hne
  simp only [accepts, segments, hemp, Bool.false_eq_true, ↓reduceIte,
    segmentsFrom_stars false hall hne, matchSegments, List.isEmpty_nil, Bool.and_self]
  simp [← slash_mem_octets]

end Regress.Glob

namespace Regress.NameFilter

open Utf8 Glob

/-! ## What each kind of pattern admits -/

theorem admits_empty (n : String) : admits "" n = true := rfl

theorem pieces_of_starless {p : String} (hp : p ≠ "") (hstar : '*' ∉ p.toList) :
    pieces p = [octets p] := by
  have hne : p.toList.isEmpty = false := by simpa using hp
  simp [pieces, List.splitOn_eq_singleton hstar, hne]

theorem pieces_eq_nil_iff (p : String) : pieces p = [] ↔ ∀ c ∈ p.toList, c = '*' := by
  simp only [pieces, List.map_eq_nil_iff, List.filter_splitOn_eq_nil_iff]

/-- A pattern without wildcards, brackets and backslashes admits the names that hold its octets:
the shell pattern accepts only names that do. -/
theorem admits_iff_occurs {p n : String} (hstar : '*' ∉ p.toList) (hq : '?' ∉ p.toList)
    (hb : '[' ∉ p.toList) (hs : '\\' ∉ p.toList) :
    admits p n = true ↔ ∃ x y, octets n = x ++ octets p ++ y := by
  by_cases hp : p = ""
  · subst hp
    exact ⟨fun _ => ⟨octets n, [], by simp [octets, hasRaw]⟩, fun _ => rfl⟩
  · have hglob : accepts p n = some true → ∃ x y, octets n = x ++ octets p ++ y := fun h =>
      InOrder.singleton_iff.1 (pieces_of_starless hp hstar ▸ accepts_inOrder hq hb hs h)
    have hne : p.isEmpty = false := by simpa using hp
    by_cases hg : accepts p n = some true
    · simp only [admits, hne, hg, Bool.false_eq_true, ↓reduceIte, true_iff]
      exact hglob hg
    · simp [admits, hne, hg, String.contains_char_eq, hstar, hq, afterFirst_isSome_iff]

/-- A pattern with stars and nothing else special, and something besides the stars, admits the
names that hold its pieces in order. -/
theorem admits_iff_inOrder {p n : String} (hstar : '*' ∈ p.toList) (hq : '?' ∉ p.toList)
    (hb : '[' ∉ p.toList) (hs : '\\' ∉ p.toList) (hother : ∃ c ∈ p.toList, c ≠ '*') :
    admits p n = true ↔ InOrder (pieces p) (octets n) := by
  have hne : p.isEmpty = false := by
    simpa using List.ne_nil_of_mem hstar
  have hpieces : (pieces p).isEmpty = false := by
    obtain ⟨c, hc, hc'⟩ := hother
    simpa [pieces_eq_nil_iff] using ⟨c, hc, hc'⟩
  by_cases hg : accepts p n = some true
  · simp [admits, hne, hg, accepts_inOrder hq hb hs hg]
  · simp [admits, hne, hg, String.contains_char_eq, hstar, hq, hpieces, occursInOrder_iff]

/-- A pattern of stars alone admits the names without a slash: the shell pattern accepts them,
and with no pieces the search admits nothing more. -/
theorem admits_iff_no_slash {p n : String} (hp : p ≠ "") (hall : ∀ c ∈ p.toList, c = '*') :
    admits p n = true ↔ '/' ∉ n.toList := by
  have hne : p.isEmpty = false := by simpa using hp
  have hstar : '*' ∈ p.toList := by
    obtain ⟨c, hc⟩ := List.exists_mem_of_ne_nil p.toList (by simpa using hp)
    exact hall c hc ▸ hc
  have hq : '?' ∉ p.toList := fun h => by simpa using hall _ h
  by_cases hslash : '/' ∈ n.toList
  · simp [admits, hne, accepts_stars hp hall, hslash, String.contains_char_eq, hstar, hq,
      (pieces_eq_nil_iff p).2 hall]
  · simp [admits, hne, accepts_stars hp hall, hslash]

/-- A pattern with a question mark admits exactly what the shell pattern accepts. -/
theorem admits_iff_accepts {p n : String} (hq : '?' ∈ p.toList) :
    admits p n = true ↔ accepts p n = some true := by
  have hne : p.isEmpty = false := by simpa using List.ne_nil_of_mem hq
  by_cases hg : accepts p n = some true
  · simp [admits, hne, hg]
  · simp [admits, hne, hg, String.contains_char_eq, hq]

/-- Selecting by a pattern keeps the names it admits, in order, duplicates included; the empty
pattern admits every name. -/
theorem select_eq_filter (p : String) (names : List String) :
    select p names = names.filter (admits p) := by
  unfold select
  split
  · rename_i hp
    obtain rfl : p = "" := by simpa using hp
    exact (List.filter_eq_self.2 fun n _ => admits_empty n).symm
  · rfl

/-- What a pattern admits, by its shape. The empty pattern admits every name. A pattern without
`*`, `?`, `[` and `\` admits the names whose octets hold its own. A pattern whose only special
character is `*`, with something besides its stars, admits the names whose octets are
`x₀ ++ l₁ ++ x₁ ++ ⋯ ++ lₖ ++ xₖ`, where the `lᵢ` are the octets of its non-empty
star-separated pieces in order and the `xᵢ` any octets, slashes included: the shell pattern
accepts no name this rejects, and the leftmost search misses no such name. A pattern of stars
alone admits the names without a slash, and a pattern with `?` what the shell pattern accepts.
Selecting by any pattern, the empty one included, keeps the admitted names in order with
duplicates. -/
theorem admits_by_pattern (p n : String) :
    (p = "" → admits p n = true) ∧
    ('*' ∉ p.toList → '?' ∉ p.toList → '[' ∉ p.toList → '\\' ∉ p.toList →
      (admits p n = true ↔ ∃ x y, octets n = x ++ octets p ++ y)) ∧
    ('*' ∈ p.toList → '?' ∉ p.toList → '[' ∉ p.toList → '\\' ∉ p.toList →
      (∃ c ∈ p.toList, c ≠ '*') →
      (admits p n = true ↔ InOrder (((p.toList.splitOn '*').filter (!·.isEmpty)).map
        fun l => octets (String.ofList l)) (octets n))) ∧
    (p ≠ "" → (∀ c ∈ p.toList, c = '*') → (admits p n = true ↔ '/' ∉ n.toList)) ∧
    ('?' ∈ p.toList → (admits p n = true ↔ accepts p n = some true)) ∧
    ∀ names : List String, select p names = names.filter (admits p) :=
  ⟨fun h => h ▸ admits_empty n, admits_iff_occurs, admits_iff_inOrder, admits_iff_no_slash,
    admits_iff_accepts, select_eq_filter p⟩

end Regress.NameFilter
