import Mathlib.Data.String.Basic
import Regress.Config.Load

/-!
# Comma-separated lists

`LTR_GROUPS` holds a list of groups written with commas. `parseList` reads it: the text is cut
at every comma, each field is trimmed of white space at both ends, and the fields that are left
empty are dropped. `parseList_fields_round_trip` says what that gives:

* the items are the trimmed fields of the one way of writing the text as fields joined by
  commas, in order, without the empty ones (`splitOn_singleton` reads the cut as `List.splitOn`,
  and `List.splitOn_intercalate` makes the fields unique);
* each item is an `Item`: not empty, free of commas, and its own trimmed form
  (`unpadded_trimChars`, `trimChars_of_unpadded`);
* a list of items joined by commas reads back as itself, so reading the items of a list joined
  again gives the same items.

Trimming is `trimWhite`: `trimWhite_spec` says it drops the longest white prefix and suffix, so
that what is left neither starts nor ends with white space.
-/

namespace String

theorem splitOnAux_singleton (c : Char) (l m r : List Char) (acc : List String) :
    splitOnAux (ofList (l ++ m ++ r)) (String.singleton c) ⟨utf8Len l⟩ ⟨utf8Len l + utf8Len m⟩ 0
        acc =
      acc.reverse ++ (List.splitOnPPrepend (· == c) r m.reverse).map ofList := by
  have hsep : String.singleton c = ofList ([] ++ c :: []) := rfl
  unfold splitOnAux
  cases r with
  | nil =>
    have hend : Pos.Raw.atEnd (ofList (l ++ m ++ [])) ⟨utf8Len l + utf8Len m⟩ = true := by
      rw [atEnd_iff, rawEndPos_ofList, Pos.Raw.mk_le_mk]
      simp
    simp only [hend, if_true, List.reverse_cons, List.splitOnPPrepend_nil, List.reverse_reverse,
      List.map_cons, List.map_nil]
    rw [extract_of_valid]
  | cons d r =>
    have hend : Pos.Raw.atEnd (ofList (l ++ m ++ d :: r)) ⟨utf8Len l + utf8Len m⟩ = false := by
      rw [Bool.eq_false_iff, ne_eq, atEnd_iff, rawEndPos_ofList, Pos.Raw.mk_le_mk]
      have := Char.utf8Size_pos d
      simp
      omega
    have hget : Pos.Raw.get (ofList (l ++ m ++ d :: r)) ⟨utf8Len l + utf8Len m⟩ = d := by
      simpa using get_of_valid (l ++ m) (d :: r)
    have hsepget : Pos.Raw.get (String.singleton c) 0 = c := by
      rw [hsep]
      exact get_of_valid [] [c]
    have hnext : Pos.Raw.next (ofList (l ++ m ++ d :: r)) ⟨utf8Len l + utf8Len m⟩ =
        ⟨utf8Len l + utf8Len m + d.utf8Size⟩ := by
      simpa using next_of_valid (l ++ m) d r
    have hsepnext : Pos.Raw.next (String.singleton c) 0 = ⟨c.utf8Size⟩ := by
      rw [hsep]
      simpa using next_of_valid [] c []
    -- the separator is one character, so one match ends it
    have hsepend : Pos.Raw.atEnd (String.singleton c) ⟨c.utf8Size⟩ = true := by
      rw [hsep, atEnd_iff, rawEndPos_ofList, Pos.Raw.mk_le_mk]
      simp
    have h0 : Pos.Raw.unoffsetBy ⟨utf8Len l + utf8Len m⟩ 0 = ⟨utf8Len l + utf8Len m⟩ := rfl
    simp only [hend, hget, hsepget, Bool.false_eq_true, if_false]
    rw [h0, hnext, hsepnext, hsepend, if_pos rfl, List.splitOnPPrepend_cons_eq_if]
    by_cases hdc : d = c
    · -- the field ends here: it is pushed, and a new one starts after the separator
      subst hdc
      have hback : Pos.Raw.unoffsetBy ⟨utf8Len l + utf8Len m + d.utf8Size⟩ ⟨d.utf8Size⟩ =
          ⟨utf8Len l + utf8Len m⟩ := by
        simp [Pos.Raw.unoffsetBy]
      rw [hback, extract_of_valid]
      have := splitOnAux_singleton d (l ++ m ++ [d]) [] r (ofList m :: acc)
      simp only [List.append_nil, List.append_assoc, List.cons_append, List.nil_append,
        utf8Len_append, utf8Len_cons, utf8Len_nil, Nat.add_zero, List.reverse_nil,
        List.splitOnPPrepend_nil_right, List.reverse_cons] at this ⊢
      simp only [beq_self_eq_true, if_true, List.map_cons, List.reverse_reverse]
      rw [Nat.zero_add, ← Nat.add_assoc] at this
      exact this
    · -- the field goes on with `d`
      have hne : (d == c) = false := beq_false_of_ne hdc
      rw [hne, if_neg Bool.false_ne_true, if_neg Bool.false_ne_true]
      have := splitOnAux_singleton c l (m ++ [d]) r acc
      simp only [List.append_assoc, utf8Len_append, utf8Len_cons, utf8Len_nil, Nat.zero_add,
        List.reverse_append, List.reverse_cons, List.reverse_nil, List.nil_append,
        List.cons_append] at this ⊢
      rw [← Nat.add_assoc] at this
      exact this

/-- Cutting a text at a one-character separator is cutting its characters. -/
theorem splitOn_singleton (s : String) (c : Char) :
    s.splitOn (String.singleton c) = (s.toList.splitOn c).map ofList := by
  have hsep : (String.singleton c == "") = false := by
    rw [beq_eq_false_iff_ne, ne_eq, ← toList_inj]
    simp
  have := splitOnAux_singleton c [] [] s.toList []
  simp only [List.nil_append, List.append_nil, utf8Len_nil, Nat.add_zero, ofList_toList,
    List.reverse_nil, List.splitOnPPrepend_nil_right] at this
  rw [splitOn, hsep, if_neg Bool.false_ne_true, List.splitOn_eq_splitOnP]
  exact this

end String

namespace Regress

theorem not_mem_of_mem_splitOn {sep : Char} : ∀ {cs field : List Char},
    field ∈ cs.splitOn sep → sep ∉ field
  | [], field, h => by
    rw [List.splitOn_nil, List.mem_singleton] at h
    subst h
    simp
  | d :: cs, field, h => by
    rw [List.splitOn_cons_eq_if_modifyHead] at h
    split at h
    · rename_i hd
      rcases List.mem_cons.mp h with rfl | h
      · simp
      · exact not_mem_of_mem_splitOn h
    · rename_i hd
      obtain ⟨first, rest, hsplit⟩ := List.exists_cons_of_ne_nil (List.splitOn_ne_nil sep cs)
      rw [hsplit, List.modifyHead_cons] at h
      rcases List.mem_cons.mp h with rfl | h
      · have hfirst : sep ∉ first := not_mem_of_mem_splitOn (hsplit ▸ List.mem_cons_self)
        have hdsep : d ≠ sep := by simpa using hd
        simp [hfirst, Ne.symm hdsep]
      · exact not_mem_of_mem_splitOn (hsplit ▸ List.mem_cons_of_mem _ h)

/-- Characters with no white space at either end. -/
def Unpadded (cs : List Char) : Prop :=
  (∀ x ∈ cs.head?, DotEnv.isWhite x = false) ∧ (∀ x ∈ cs.getLast?, DotEnv.isWhite x = false)

/-- The characters without the white space at either end. -/
def trimChars (cs : List Char) : List Char :=
  ((cs.dropWhile DotEnv.isWhite).reverse.dropWhile DotEnv.isWhite).reverse

/-- A text without the white space at either end, as `parseList` trims a field. -/
def trimWhite (s : String) : String :=
  String.ofList (trimChars s.toList)

theorem parseList_eq (raw : String) :
    parseList raw = ((raw.splitOn ",").map trimWhite).filter (· ≠ "") := by
  simp only [parseList]
  -- the fields are trimmed alike; only the test for an empty item is written otherwise
  congr 1
  funext x
  rw [Bool.not_eq_eq_eq_not, Bool.eq_iff_iff, String.isEmpty_iff, Bool.not_eq_true',
    decide_eq_false_iff_not, not_not]

theorem dropWhile_of_head {p : Char → Bool} {cs : List Char}
    (h : ∀ x ∈ cs.head?, p x = false) : cs.dropWhile p = cs := by
  cases cs with
  | nil => rfl
  | cons x xs => simp [h x rfl]

theorem head?_dropWhile_false (p : Char → Bool) (cs : List Char) :
    ∀ x ∈ (cs.dropWhile p).head?, p x = false := by
  intro x hx
  have := List.head?_dropWhile_not p cs
  rw [Option.mem_def] at hx
  rw [hx] at this
  exact this

theorem trimChars_of_unpadded {cs : List Char} (h : Unpadded cs) : trimChars cs = cs := by
  have hlast : ∀ x ∈ cs.reverse.head?, DotEnv.isWhite x = false := by
    rw [List.head?_reverse]
    exact h.2
  rw [trimChars, dropWhile_of_head h.1, dropWhile_of_head hlast, List.reverse_reverse]

/-- Trimmed characters neither start nor end with white space. -/
theorem unpadded_trimChars (cs : List Char) : Unpadded (trimChars cs) := by
  -- `front` is `cs` after its white prefix, `kept` the reversed `front` after its white prefix
  set front := cs.dropWhile DotEnv.isWhite
  set kept := front.reverse.dropWhile DotEnv.isWhite
  have hkept : front.reverse = front.reverse.takeWhile DotEnv.isWhite ++ kept :=
    List.takeWhile_append_dropWhile.symm
  refine ⟨fun x hx => ?_, fun x hx => ?_⟩
  · -- the first character kept is the last of `kept`, which is the first of `front`
    rw [trimChars, List.head?_reverse] at hx
    have hfront : x ∈ front.head? := by
      rw [← List.getLast?_reverse, hkept, List.getLast?_append, Option.mem_def, hx]
      rfl
    exact head?_dropWhile_false _ cs x hfront
  · rw [trimChars, List.getLast?_reverse] at hx
    exact head?_dropWhile_false _ front.reverse x hx

theorem trimChars_trimChars (cs : List Char) : trimChars (trimChars cs) = trimChars cs :=
  trimChars_of_unpadded (unpadded_trimChars cs)

theorem mem_of_mem_trimChars {cs : List Char} {x : Char} (h : x ∈ trimChars cs) : x ∈ cs := by
  rw [trimChars, List.mem_reverse] at h
  have h₁ := (List.dropWhile_sublist _).subset h
  rw [List.mem_reverse] at h₁
  exact (List.dropWhile_sublist _).subset h₁

/-- Trimming drops the longest white prefix and suffix: the text is white space, the trimmed
text and white space, and the trimmed text neither starts nor ends with white space. -/
theorem trimWhite_spec (s : String) :
    ∃ l r, s.toList = l ++ (trimWhite s).toList ++ r ∧ (∀ x ∈ l, DotEnv.isWhite x = true) ∧
      (∀ x ∈ r, DotEnv.isWhite x = true) ∧ Unpadded (trimWhite s).toList := by
  set front := s.toList.dropWhile DotEnv.isWhite
  refine ⟨s.toList.takeWhile DotEnv.isWhite,
    (front.reverse.takeWhile DotEnv.isWhite).reverse, ?_, fun x hx => ?_, fun x hx => ?_, ?_⟩
  · -- the prefix, then `front`, whose reverse is a white prefix followed by the kept text
    have hfront : front = (front.reverse.dropWhile DotEnv.isWhite).reverse ++
        (front.reverse.takeWhile DotEnv.isWhite).reverse := by
      rw [← List.reverse_append, List.takeWhile_append_dropWhile, List.reverse_reverse]
    rw [trimWhite, String.toList_ofList, trimChars, List.append_assoc, ← hfront,
      List.takeWhile_append_dropWhile]
  · exact List.all_eq_true.mp List.all_takeWhile x hx
  · exact List.all_eq_true.mp List.all_takeWhile x (List.mem_reverse.mp hx)
  · rw [trimWhite, String.toList_ofList]
    exact unpadded_trimChars _

/-- An item of a comma-separated list: not empty, free of commas and its own trimmed form. -/
structure Item (x : String) : Prop where
  nonempty : x ≠ ""
  noComma : ',' ∉ x.toList
  trimmed : trimWhite x = x

theorem trimWhite_trimWhite (s : String) : trimWhite (trimWhite s) = trimWhite s := by
  rw [trimWhite, trimWhite, String.toList_ofList, trimChars_trimChars]

theorem not_mem_trimWhite {s : String} {c : Char} (h : c ∉ s.toList) :
    c ∉ (trimWhite s).toList := by
  rw [trimWhite, String.toList_ofList]
  exact fun hc => h (mem_of_mem_trimChars hc)

/-- Cutting at a comma, as `parseList` does, is cutting the characters at every comma. -/
theorem splitOn_comma (s : String) : s.splitOn "," = (s.toList.splitOn ',').map String.ofList := by
  have hsep : String.singleton ',' = "," := rfl
  rw [← hsep]
  exact String.splitOn_singleton s ','

/-- The comma-free fields of a text joined by commas are the fields `parseList` cuts it into. -/
theorem splitOn_comma_intercalate {fields : List String} (hne : fields ≠ [])
    (h : ∀ f ∈ fields, ',' ∉ f.toList) : (",".intercalate fields).splitOn "," = fields := by
  rw [splitOn_comma, String.toList_intercalate]
  have hlists : ∀ l ∈ fields.map String.toList, ',' ∉ l := by
    intro l hl
    obtain ⟨f, hf, rfl⟩ := List.mem_map.mp hl
    exact h f hf
  have hcomma : ",".toList = [','] := rfl
  rw [hcomma, List.splitOn_intercalate ',' hlists (by simpa using hne), List.map_map]
  conv_rhs => rw [← List.map_id fields]
  congr 1
  funext f
  simp

/-- Every item `parseList` reads is an `Item`. -/
theorem item_of_mem_parseList {raw x : String} (h : x ∈ parseList raw) : Item x := by
  rw [parseList_eq, List.mem_filter, List.mem_map] at h
  obtain ⟨⟨f, hf, rfl⟩, hne⟩ := h
  rw [splitOn_comma, List.mem_map] at hf
  obtain ⟨field, hfield, rfl⟩ := hf
  have hfree : ',' ∉ (String.ofList field).toList := by
    rw [String.toList_ofList]
    exact not_mem_of_mem_splitOn hfield
  exact ⟨by simpa using hne, not_mem_trimWhite hfree, trimWhite_trimWhite _⟩

/-- Items joined by commas read back as themselves. -/
theorem parseList_intercalate {xs : List String} (h : ∀ x ∈ xs, Item x) :
    parseList (",".intercalate xs) = xs := by
  cases xs with
  | nil =>
    have hjoin : ",".intercalate ([] : List String) = "" := rfl
    rw [parseList_eq, hjoin, splitOn_comma]
    rfl
  | cons y ys =>
    rw [parseList_eq,
      splitOn_comma_intercalate (List.cons_ne_nil y ys) fun x hx => (h x hx).noComma]
    -- each item is its own trimmed form, and none is empty
    have hmap : (y :: ys).map trimWhite = y :: ys := by
      conv_rhs => rw [← List.map_id (y :: ys)]
      exact List.map_congr_left fun x hx => (h x hx).trimmed
    rw [hmap, List.filter_eq_self]
    intro x hx
    simpa using (h x hx).nonempty

/-- Reading a comma-separated list: its items are the trimmed fields of the text, in order,
without the empty ones, for the one way of writing the text as comma-free fields joined by
commas; each item is not empty, free of commas and its own trimmed form; items joined by commas
read back as themselves; so reading the items of a list joined again gives the same items. -/
theorem parseList_fields_round_trip (raw : String) :
    (∀ fields : List String, fields ≠ [] → (∀ f ∈ fields, ',' ∉ f.toList) →
        ",".intercalate fields = raw →
        parseList raw = (fields.map trimWhite).filter (· ≠ "")) ∧
      (∀ x ∈ parseList raw, Item x) ∧
      (∀ xs : List String, (∀ x ∈ xs, Item x) → parseList (",".intercalate xs) = xs) ∧
      parseList (",".intercalate (parseList raw)) = parseList raw := by
  refine ⟨fun fields hne hfree hjoin => ?_, fun x hx => item_of_mem_parseList hx,
    fun xs hxs => parseList_intercalate hxs, parseList_intercalate fun x hx =>
      item_of_mem_parseList hx⟩
  rw [parseList_eq, ← hjoin, splitOn_comma_intercalate hne hfree]

end Regress
