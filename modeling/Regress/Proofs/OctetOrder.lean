import Regress.Text.Utf8

/-!
# Texts in octet order

`Utf8.octetsLE` compares two texts by their octets. On texts without stand-ins it asks the
order of `String`, which compares code points, and elsewhere it compares the octets
themselves. The two agree, because UTF-8 keeps the order of code points: the first octet grows
with the code point and fixes how many octets follow, and those are the base-64 digits of the
rest. So `octetsLE` is the lexicographic order of `Utf8.octets` on every pair of texts
(`octetsLE_eq_go`), hence total and transitive, and sorting by it leaves a list in ascending
octet order (`pairwise_mergeSort_octetsLE`).
-/

namespace Regress.Utf8

/-! ## The octets of a text -/

/-- A text without stand-ins has its characters' UTF-8 octets. -/
theorem octets_of_plain {s : String} (h : hasRaw s = false) :
    octets s = s.toList.flatMap String.utf8EncodeChar := by
  simp only [octets, h, Bool.false_eq_true, ↓reduceIte]

/-! ## The lexicographic order of octet sequences -/

namespace octetsLE

theorem go_cons_cons {x y : UInt8} {xs ys : List UInt8} :
    go (x :: xs) (y :: ys) = true ↔ x < y ∨ x = y ∧ go xs ys = true := by
  rw [go]
  by_cases hxy : x < y
  · simp [hxy]
  · by_cases hyx : y < x
    · have hne : x ≠ y := fun h => hxy (h ▸ hyx)
      simp [hxy, hyx, hne]
    · have heq : x = y := by
        rw [UInt8.lt_iff_toNat_lt] at hxy hyx
        exact UInt8.toNat_inj.mp (by omega)
      simp [heq]

theorem go_append_left (p : List UInt8) (xs ys : List UInt8) :
    go (p ++ xs) (p ++ ys) = go xs ys := by
  induction p with
  | nil => rfl
  | cons b p ih => simp [go, ih]

theorem go_total : ∀ xs ys : List UInt8, (go xs ys || go ys xs) = true
  | [], _ => by simp [go]
  | _ :: _, [] => by simp [go]
  | x :: xs, y :: ys => by
    simp only [Bool.or_eq_true, go_cons_cons]
    rcases Nat.lt_trichotomy x.toNat y.toNat with hlt | heq | hgt
    · exact .inl (.inl (UInt8.lt_iff_toNat_lt.mpr hlt))
    · obtain rfl := UInt8.toNat_inj.mp heq
      simpa using go_total xs ys
    · exact .inr (.inl (UInt8.lt_iff_toNat_lt.mpr hgt))

theorem go_trans : ∀ {xs ys zs : List UInt8}, go xs ys = true → go ys zs = true → go xs zs = true
  | [], _, _, _, _ => by simp [go]
  | _ :: _, [], _, h, _ => by simp [go] at h
  | _ :: _, _ :: _, [], _, h => by simp [go] at h
  | x :: xs, y :: ys, z :: zs, h₁, h₂ => by
    rw [go_cons_cons] at h₁ h₂ ⊢
    rcases h₁ with hxy | ⟨rfl, h₁⟩
    · rcases h₂ with hyz | ⟨rfl, -⟩
      · exact .inl (UInt8.lt_trans hxy hyz)
      · exact .inl hxy
    · rcases h₂ with hyz | ⟨rfl, h₂⟩
      · exact .inl hyz
      · exact .inr ⟨rfl, go_trans h₁ h₂⟩

end octetsLE

/-! ## UTF-8 keeps the order of code points -/

/-- The lexicographic order of sequences of numbers, as `octetsLE.go` orders octets. -/
def lexLE : List Nat → List Nat → Bool
  | [], _ => true
  | _ :: _, [] => false
  | x :: xs, y :: ys => if x < y then true else if y < x then false else lexLE xs ys

theorem go_eq_lexLE : ∀ xs ys : List UInt8,
    octetsLE.go xs ys = lexLE (xs.map UInt8.toNat) (ys.map UInt8.toNat)
  | [], _ => rfl
  | _ :: _, [] => rfl
  | x :: xs, y :: ys => by
    simp only [octetsLE.go, lexLE, List.map_cons, UInt8.lt_iff_toNat_lt, go_eq_lexLE xs ys]

/-- The first octet of a code point's UTF-8 form. -/
def leadDigit (v : Nat) : Nat :=
  if v ≤ 0x7F then v
  else if v ≤ 0x7FF then 0xC0 + v / 64
  else if v ≤ 0xFFFF then 0xE0 + v / 4096
  else 0xF0 + v / 262144

/-- The octets after the first: the low bits of the code point, six at a time. -/
def trailDigits (v : Nat) : List Nat :=
  if v ≤ 0x7F then []
  else if v ≤ 0x7FF then [0x80 + v % 64]
  else if v ≤ 0xFFFF then [0x80 + v / 64 % 64, 0x80 + v % 64]
  else [0x80 + v / 4096 % 64, 0x80 + v / 64 % 64, 0x80 + v % 64]

theorem toNat_lt_of_char (c : Char) : c.toNat < 0x110000 := by
  have := c.valid
  simp [UInt32.isValidChar, Nat.isValidChar] at this
  omega

theorem utf8EncodeChar_toNat (c : Char) :
    (String.utf8EncodeChar c).map UInt8.toNat = leadDigit c.toNat :: trailDigits c.toNat := by
  have hc := toNat_lt_of_char c
  unfold String.utf8EncodeChar leadDigit trailDigits
  unfold Char.toNat at hc ⊢
  generalize c.val.toNat = v at *
  dsimp only
  -- one case for each width, the same for the encoding and for the digits
  by_cases h₁ : v ≤ 0x7F <;> by_cases h₂ : v ≤ 0x7FF <;> by_cases h₃ : v ≤ 0xFFFF <;>
    simp only [h₁, h₂, h₃, ↓reduceIte, List.map_cons, List.map_nil, UInt8.toNat_ofNat',
      Nat.reducePow, List.cons.injEq, and_true] <;>
    omega

theorem leadDigit_mono {v w : Nat} (h : v ≤ w) : leadDigit v ≤ leadDigit w := by
  unfold leadDigit
  split <;> split <;> (try split) <;> (try split) <;> (try split) <;> (try split) <;> omega

theorem width_eq_of_leadDigit_eq {v w : Nat} (h : leadDigit v = leadDigit w) :
    (v ≤ 0x7F ↔ w ≤ 0x7F) ∧ (v ≤ 0x7FF ↔ w ≤ 0x7FF) ∧ (v ≤ 0xFFFF ↔ w ≤ 0xFFFF) := by
  unfold leadDigit at h
  split at h <;> split at h <;> (try split at h) <;> (try split at h) <;> (try split at h) <;>
    (try split at h) <;> omega

/-- Behind equal first octets, the octets that follow compare as the code points do. -/
theorem lexLE_trailDigits {v w : Nat} (h : v ≠ w) (hlead : leadDigit v = leadDigit w)
    (r r' : List Nat) : lexLE (trailDigits v ++ r) (trailDigits w ++ r') = decide (v < w) := by
  obtain ⟨h₁, h₂, h₃⟩ := width_eq_of_leadDigit_eq hlead
  unfold leadDigit at hlead
  unfold trailDigits
  simp only [← h₁, ← h₂, ← h₃] at hlead ⊢
  by_cases hv₁ : v ≤ 0x7F
  · -- one octet: equal first octets are equal code points
    simp only [hv₁, ↓reduceIte] at hlead
    omega
  -- two to four octets: the first of them that differs decides
  by_cases hv₂ : v ≤ 0x7FF <;> by_cases hv₃ : v ≤ 0xFFFF <;>
    simp only [hv₁, hv₂, hv₃, ↓reduceIte, List.cons_append, lexLE] at hlead ⊢ <;>
    (repeat' split) <;> (try simp) <;> omega

/-- Of two different characters, the octets of the smaller come first, whatever follows
either: they differ within both encodings. -/
theorem go_utf8EncodeChar {c d : Char} (h : c ≠ d) (r r' : List UInt8) :
    octetsLE.go (String.utf8EncodeChar c ++ r) (String.utf8EncodeChar d ++ r') =
      decide (c < d) := by
  have hne : c.toNat ≠ d.toNat := fun e => h (Char.toNat_inj.mp e)
  have hlt : c < d ↔ c.toNat < d.toNat := Iff.rfl
  rw [go_eq_lexLE, List.map_append, List.map_append, utf8EncodeChar_toNat, utf8EncodeChar_toNat]
  simp only [List.cons_append, lexLE, hlt]
  by_cases hl : leadDigit c.toNat < leadDigit d.toNat
  · have : c.toNat < d.toNat :=
      Nat.lt_of_not_le fun hge => absurd (leadDigit_mono hge) (Nat.not_le_of_lt hl)
    simp [hl, this]
  by_cases hg : leadDigit d.toNat < leadDigit c.toNat
  · have : ¬ c.toNat < d.toNat := fun hcd =>
      absurd (leadDigit_mono (Nat.le_of_lt hcd)) (Nat.not_le_of_lt hg)
    simp [hl, hg, this]
  · simp only [hl, hg, ↓reduceIte]
    exact lexLE_trailDigits hne (by omega) _ _

/-- The octets of two lists of characters compare as the lists do, in the order of lists that
`String`'s order is built on. -/
theorem go_flatMap_utf8EncodeChar : ∀ xs ys : List Char,
    octetsLE.go (xs.flatMap String.utf8EncodeChar) (ys.flatMap String.utf8EncodeChar) =
      decide (@LE.le (List Char) List.instLE xs ys)
  | [], ys => by simp [octetsLE.go, List.nil_le]
  | x :: xs, [] => by
    obtain ⟨b, bs, hb⟩ := List.exists_cons_of_ne_nil (@String.utf8EncodeChar_ne_nil x)
    simp [hb, octetsLE.go]
  | x :: xs, y :: ys => by
    rw [List.flatMap_cons, List.flatMap_cons]
    by_cases hxy : x = y
    · subst hxy
      rw [octetsLE.go_append_left, go_flatMap_utf8EncodeChar xs ys]
      simp [List.cons_le_cons_iff]
    · rw [go_utf8EncodeChar hxy]
      simp [List.cons_le_cons_iff, hxy]

/-- `octetsLE` is the lexicographic order of the texts' octets. -/
theorem octetsLE_eq_go (a b : String) : octetsLE a b = octetsLE.go (octets a) (octets b) := by
  unfold octetsLE
  split
  · rfl
  · rename_i h
    simp only [Bool.or_eq_true, not_or, Bool.not_eq_true] at h
    rw [octets_of_plain h.1, octets_of_plain h.2, go_flatMap_utf8EncodeChar]
    rfl

theorem octetsLE_total (a b : String) : (octetsLE a b || octetsLE b a) = true := by
  rw [octetsLE_eq_go, octetsLE_eq_go]
  exact octetsLE.go_total _ _

theorem octetsLE_trans {a b c : String} (h₁ : octetsLE a b = true) (h₂ : octetsLE b c = true) :
    octetsLE a c = true := by
  rw [octetsLE_eq_go] at h₁ h₂ ⊢
  exact octetsLE.go_trans h₁ h₂

/-- Sorting by `octetsLE` leaves every text before those after it in octet order. -/
theorem pairwise_mergeSort_octetsLE (l : List String) :
    (l.mergeSort fun a b => octetsLE a b).Pairwise fun a b => octetsLE a b = true :=
  @List.pairwise_mergeSort String (fun a b => octetsLE a b) (fun _ _ _ => octetsLE_trans)
    octetsLE_total l

end Regress.Utf8
