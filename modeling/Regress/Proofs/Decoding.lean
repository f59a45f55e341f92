import Regress.Proofs.NamePatterns

/-!
# Reading octets back as text

`decode` reads octets as UTF-8, keeping each octet that starts no well-formed character as its
stand-in, and `octets` writes a text back. Writing what was read gives back the octets
(`octets_decode`), as long as they hold no well-formed form of a stand-in's own code point,
`U+10FF80` to `U+10FFFF`, which would read as the stand-in of a single octet (`noStandIns`).

The argument goes one character at a time (`readChar_octets`): an ASCII octet and an octet that
starts no character are written back as they are, and a well-formed character of two to four
octets is written back as the same octets, because reading takes the code point's digits from
them and writing puts the same digits back (`leadDigit`, `trailDigits`). The first octet fixes
the width and the range of the second; those ranges leave out overlong forms and surrogates,
so the code point read is a character whose UTF-8 form has that width.
-/

namespace Regress.Utf8

/-! ## Stand-ins' own code points -/

/-- Whether the octets start with the UTF-8 form of a code point that stands in for an octet:
`F4 8F`, then `BE` or `BF`, then a continuation octet. -/
def startsStandIn : List UInt8 → Bool
  | b₀ :: b₁ :: b₂ :: b₃ :: _ =>
    b₀ == 0xF4 && b₁ == 0x8F && (b₂ == 0xBE || b₂ == 0xBF) && (0x80 ≤ b₃ && b₃ ≤ 0xBF)
  | _ => false

/-- Whether the octets hold the UTF-8 form of no stand-in's code point. -/
def noStandIns : List UInt8 → Bool
  | [] => true
  | b :: rest => !startsStandIn (b :: rest) && noStandIns rest

theorem noStandIns_cons {b : UInt8} {rest : List UInt8} :
    noStandIns (b :: rest) = true ↔ startsStandIn (b :: rest) = false ∧ noStandIns rest = true := by
  simp [noStandIns]

theorem noStandIns_drop : ∀ (k : Nat) {bs : List UInt8}, noStandIns bs = true →
    noStandIns (bs.drop k) = true
  | 0, _, h => h
  | _ + 1, [], _ => rfl
  | k + 1, _ :: _, h => noStandIns_drop k (noStandIns_cons.1 h).2

theorem startsStandIn_append {p : List UInt8} (q : List UInt8) (h : startsStandIn p = true) :
    startsStandIn (p ++ q) = true := by
  match p, h with
  | _ :: _ :: _ :: _ :: _, h => exact h

theorem noStandIns_of_append : ∀ {p : List UInt8} (q : List UInt8),
    noStandIns (p ++ q) = true → noStandIns p = true
  | [], _, _ => rfl
  | b :: p, q, h => by
    rw [List.cons_append, noStandIns_cons] at h
    refine noStandIns_cons.2 ⟨?_, noStandIns_of_append q h.2⟩
    cases hs : startsStandIn (b :: p) with
    | false => rfl
    | true => simpa [List.cons_append, h.1] using startsStandIn_append q hs

/-! ## The digits of a code point -/

theorem continuation_succ {k : Nat} {lo hi : UInt8} {v n : Nat} {rest : List UInt8} :
    continuation (k + 1) lo hi v rest = some n ↔
      ∃ c r, rest = c :: r ∧ lo ≤ c ∧ c ≤ hi ∧
        continuation k 0x80 0xBF (v * 64 + (c.toNat - 0x80)) r = some n := by
  cases rest with
  | nil => simp [continuation]
  | cons c r =>
    simp only [continuation]
    constructor
    · intro h
      split at h
      · rename_i hc
        exact ⟨c, r, rfl, hc.1, hc.2, h⟩
      · cases h
    · rintro ⟨c', r', heq, hlo, hhi, h⟩
      cases heq
      rw [if_pos ⟨hlo, hhi⟩]
      exact h

theorem continuation_zero {lo hi : UInt8} {v n : Nat} {rest : List UInt8} :
    continuation 0 lo hi v rest = some n ↔ n = v := by
  simp [continuation, eq_comm]

/-- A two-octet form holds the code point's digits, and the code point has that width. -/
theorem digits_two {b c : Nat} (hb : 0xC2 ≤ b ∧ b ≤ 0xDF) (hc : 0x80 ≤ c ∧ c ≤ 0xBF) :
    leadDigit ((b - 0xC0) * 64 + (c - 0x80)) = b ∧
      trailDigits ((b - 0xC0) * 64 + (c - 0x80)) = [c] := by
  unfold leadDigit trailDigits
  constructor <;> split <;> (try split) <;> (try split) <;>
    (try simp only [List.cons.injEq, and_true, reduceCtorEq]) <;> omega

/-- A three-octet form holds the code point's digits, and the code point has that width: the
ranges of the second octet leave out overlong forms (after `E0`) and surrogates (after
`ED`). -/
theorem digits_three {b c₁ c₂ : Nat} (hb : 0xE0 ≤ b ∧ b ≤ 0xEF)
    (hc₁ : 0x80 ≤ c₁ ∧ c₁ ≤ 0xBF) (hover : b = 0xE0 → 0xA0 ≤ c₁) (hsur : b = 0xED → c₁ ≤ 0x9F)
    (hc₂ : 0x80 ≤ c₂ ∧ c₂ ≤ 0xBF) :
    leadDigit (((b - 0xE0) * 64 + (c₁ - 0x80)) * 64 + (c₂ - 0x80)) = b ∧
      trailDigits (((b - 0xE0) * 64 + (c₁ - 0x80)) * 64 + (c₂ - 0x80)) = [c₁, c₂] ∧
      (((b - 0xE0) * 64 + (c₁ - 0x80)) * 64 + (c₂ - 0x80) < 0xD800 ∨
        0xDFFF < ((b - 0xE0) * 64 + (c₁ - 0x80)) * 64 + (c₂ - 0x80)) := by
  unfold leadDigit trailDigits
  refine ⟨?_, ?_, by omega⟩ <;> split <;> (try split) <;> (try split) <;>
    (try simp only [List.cons.injEq, and_true, reduceCtorEq]) <;> omega

/-- A four-octet form holds the code point's digits, and the code point has that width: the
ranges of the second octet leave out overlong forms (after `F0`) and code points past
`U+10FFFF` (after `F4`). -/
theorem digits_four {b c₁ c₂ c₃ : Nat} (hb : 0xF0 ≤ b ∧ b ≤ 0xF4)
    (hc₁ : 0x80 ≤ c₁ ∧ c₁ ≤ 0xBF) (hover : b = 0xF0 → 0x90 ≤ c₁) (hmax : b = 0xF4 → c₁ ≤ 0x8F)
    (hc₂ : 0x80 ≤ c₂ ∧ c₂ ≤ 0xBF) (hc₃ : 0x80 ≤ c₃ ∧ c₃ ≤ 0xBF) :
    leadDigit ((((b - 0xF0) * 64 + (c₁ - 0x80)) * 64 + (c₂ - 0x80)) * 64 + (c₃ - 0x80)) = b ∧
      trailDigits ((((b - 0xF0) * 64 + (c₁ - 0x80)) * 64 + (c₂ - 0x80)) * 64 + (c₃ - 0x80)) =
        [c₁, c₂, c₃] ∧
      0xFFFF < (((b - 0xF0) * 64 + (c₁ - 0x80)) * 64 + (c₂ - 0x80)) * 64 + (c₃ - 0x80) ∧
      (((b - 0xF0) * 64 + (c₁ - 0x80)) * 64 + (c₂ - 0x80)) * 64 + (c₃ - 0x80) < 0x110000 := by
  unfold leadDigit trailDigits
  refine ⟨?_, ?_, by omega, by omega⟩ <;> split <;> (try split) <;> (try split) <;>
    (try simp only [List.cons.injEq, and_true, reduceCtorEq]) <;> omega

/-- What a leading octet announces: one continuation octet after `C2`–`DF`, two after
`E0`–`EF` and three after `F0`–`F4`, the first of them in a range within `80`–`BF` that leaves
out overlong forms, surrogates and code points past `U+10FFFF`, and the lead's payload bits. -/
theorem lead_spec {b lo hi : UInt8} {k v : Nat} (h : lead b = some (k, lo, hi, v)) :
    0x80 ≤ lo.toNat ∧ hi.toNat ≤ 0xBF ∧
    ((k = 1 ∧ 0xC2 ≤ b.toNat ∧ b.toNat ≤ 0xDF ∧ v = b.toNat - 0xC0) ∨
      (k = 2 ∧ 0xE0 ≤ b.toNat ∧ b.toNat ≤ 0xEF ∧ v = b.toNat - 0xE0 ∧
        (b.toNat = 0xE0 → 0xA0 ≤ lo.toNat) ∧ (b.toNat = 0xED → hi.toNat ≤ 0x9F)) ∨
      (k = 3 ∧ 0xF0 ≤ b.toNat ∧ b.toNat ≤ 0xF4 ∧ v = b.toNat - 0xF0 ∧
        (b.toNat = 0xF0 → 0x90 ≤ lo.toNat) ∧ (b.toNat = 0xF4 → hi.toNat ≤ 0x8F))) := by
  unfold lead at h
  simp only [UInt8.le_iff_toNat_le, ← UInt8.toNat_inj] at h
  -- one case for each kind of lead
  repeat' split at h
  all_goals simp only [Option.some.injEq, Prod.mk.injEq, reduceCtorEq] at h
  all_goals
    obtain ⟨rfl, rfl, rfl, rfl⟩ := h
    simp only [UInt8.toNat_ofNat, Nat.reducePow, Nat.reduceMod, true_and, and_true] at *
    omega

/-! ## One character at a time -/

theorem toNat_ofNat {n : Nat} (h : n < 0xD800 ∨ 0xDFFF < n ∧ n < 0x110000) :
    (Char.ofNat n).toNat = n := by
  -- the character whose code point is `n`, which `Char.ofNat` finds again
  have hc : (⟨UInt32.ofNatLT n (by show n < 4294967296; omega), h⟩ : Char).toNat = n := rfl
  rw [← hc, Char.ofNat_toNat]

/-- A character below the stand-ins is written as its UTF-8 form. -/
theorem ofChar_of_lt {c : Char} (h : c.toNat < 0x10FF80) : ofChar c = String.utf8EncodeChar c := by
  rw [ofChar_eq]
  simp [rawOctet?, Nat.not_le.2 h]

/-- A character below the stand-ins, whose UTF-8 digits are `b` and then `cs`, is written as
those octets. -/
theorem ofChar_of_digits {c : Char} {b : UInt8} {cs : List UInt8} (h : c.toNat < 0x10FF80)
    (hlead : leadDigit c.toNat = b.toNat) (htrail : trailDigits c.toNat = cs.map UInt8.toNat) :
    ofChar c = b :: cs := by
  rw [ofChar_of_lt h]
  apply (List.map_inj_right fun x y hxy => UInt8.toNat_inj.1 hxy).1
  rw [utf8EncodeChar_toNat, hlead, htrail, List.map_cons]

/-- A code point that is a character below the stand-ins, whose UTF-8 digits are `b` and then
`cs`, is written as those octets. -/
theorem ofChar_ofNat_of_digits {n : Nat} {b : UInt8} (cs : List UInt8)
    (hvalid : n < 0xD800 ∨ 0xDFFF < n ∧ n < 0x110000) (hlt : n < 0x10FF80)
    (hlead : leadDigit n = b.toNat) (htrail : trailDigits n = cs.map UInt8.toNat) :
    ofChar (Char.ofNat n) = b :: cs := by
  have hn := toNat_ofNat hvalid
  exact ofChar_of_digits (by rw [hn]; exact hlt) (by rw [hn]; exact hlead) (by rw [hn]; exact htrail)

theorem ofChar_ascii {b : UInt8} (h : b < 0x80) : ofChar (Char.ofNat b.toNat) = [b] := by
  have hb : b.toNat < 0x80 := UInt8.lt_iff_toNat_lt.1 h
  have hc : (Char.ofNat b.toNat).toNat = b.toNat := toNat_ofNat (.inl (by omega))
  refine ofChar_of_digits (by omega) ?_ ?_ <;> rw [hc]
  · simp [leadDigit, show b.toNat ≤ 0x7F by omega]
  · simp [trailDigits, show b.toNat ≤ 0x7F by omega]

theorem ofChar_rawChar {b : UInt8} (h : 0x80 ≤ b) : ofChar (rawChar b) = [b] := by
  have hb : 0x80 ≤ b.toNat := UInt8.le_iff_toNat_le.1 h
  have hlt := b.toNat_lt
  have hc : (rawChar b).toNat = 0x10FF00 + b.toNat := toNat_ofNat (.inr ⟨by omega, by omega⟩)
  have hr : rawOctet? (rawChar b) = some b := by
    simp only [rawOctet?, hc, show 0x10FF80 ≤ 0x10FF00 + b.toNat by omega, if_true,
      Nat.add_sub_cancel_left, UInt8.ofNat_toNat]
  rw [ofChar_eq, hr]

/-- A well-formed character of two to four octets, read and written again, gives back its
octets, unless it is a stand-in's code point. -/
theorem ofChar_of_lead {b lo hi : UInt8} {k v n : Nat} {rest : List UInt8}
    (hlead : lead b = some (k, lo, hi, v)) (hcont : continuation k lo hi v rest = some n)
    (hfree : startsStandIn (b :: rest) = false) :
    ofChar (Char.ofNat n) ++ rest.drop k = b :: rest := by
  obtain ⟨hlo, hhi, h₁ | h₂ | h₃⟩ := lead_spec hlead
  · -- two octets
    obtain ⟨rfl, hb₁, hb₂, hv⟩ := h₁
    obtain ⟨c, r, rfl, hlo₁, hhi₁, hn⟩ := continuation_succ.1 hcont
    rw [continuation_zero, hv] at hn
    rw [hn]
    rw [UInt8.le_iff_toNat_le] at hlo₁ hhi₁
    obtain ⟨hd₁, hd₂⟩ := digits_two ⟨hb₁, hb₂⟩ (show 0x80 ≤ c.toNat ∧ c.toNat ≤ 0xBF by omega)
    rw [ofChar_ofNat_of_digits [c] (by omega) (by omega) hd₁ (by rw [hd₂]; rfl)]
    rfl
  · -- three octets
    obtain ⟨rfl, hb₁, hb₂, hv, hover, hsur⟩ := h₂
    obtain ⟨c₁, r, rfl, hlo₁, hhi₁, hn⟩ := continuation_succ.1 hcont
    obtain ⟨c₂, r, rfl, hlo₂, hhi₂, hn⟩ := continuation_succ.1 hn
    rw [continuation_zero, hv] at hn
    rw [hn]
    rw [UInt8.le_iff_toNat_le] at hlo₁ hhi₁ hlo₂ hhi₂
    simp only [UInt8.toNat_ofNat, Nat.reducePow, Nat.reduceMod] at hlo₂ hhi₂
    obtain ⟨hd₁, hd₂, hvalid⟩ := digits_three ⟨hb₁, hb₂⟩
      (show 0x80 ≤ c₁.toNat ∧ c₁.toNat ≤ 0xBF by omega) (fun h => by omega) (fun h => by omega)
      (show 0x80 ≤ c₂.toNat ∧ c₂.toNat ≤ 0xBF by omega)
    rw [ofChar_ofNat_of_digits [c₁, c₂] (by omega) (by omega) hd₁ (by rw [hd₂]; rfl)]
    rfl
  · -- four octets, where the stand-ins' code points lie
    obtain ⟨rfl, hb₁, hb₂, hv, hover, hmax⟩ := h₃
    obtain ⟨c₁, r, rfl, hlo₁, hhi₁, hn⟩ := continuation_succ.1 hcont
    obtain ⟨c₂, r, rfl, hlo₂, hhi₂, hn⟩ := continuation_succ.1 hn
    obtain ⟨c₃, r, rfl, hlo₃, hhi₃, hn⟩ := continuation_succ.1 hn
    rw [continuation_zero, hv] at hn
    rw [hn]
    rw [UInt8.le_iff_toNat_le] at hlo₁ hhi₁ hlo₂ hhi₂ hlo₃ hhi₃
    simp only [UInt8.toNat_ofNat, Nat.reducePow, Nat.reduceMod] at hlo₂ hhi₂ hlo₃ hhi₃
    simp only [startsStandIn, Bool.and_eq_false_iff, Bool.or_eq_false_iff, beq_eq_false_iff_ne,
      ne_eq, ← UInt8.toNat_inj, decide_eq_false_iff_not, UInt8.le_iff_toNat_le,
      UInt8.toNat_ofNat, Nat.reducePow, Nat.reduceMod] at hfree
    obtain ⟨hd₁, hd₂, hwide, hmaxn⟩ := digits_four ⟨hb₁, hb₂⟩
      (show 0x80 ≤ c₁.toNat ∧ c₁.toNat ≤ 0xBF by omega) (fun h => by omega) (fun h => by omega)
      (show 0x80 ≤ c₂.toNat ∧ c₂.toNat ≤ 0xBF by omega)
      (show 0x80 ≤ c₃.toNat ∧ c₃.toNat ≤ 0xBF by omega)
    rw [ofChar_ofNat_of_digits [c₁, c₂, c₃] (.inr ⟨by omega, hmaxn⟩) (by omega) hd₁
      (by rw [hd₂]; rfl)]
    rfl

theorem readChar_rest (bad : UInt8 → Char) (b : UInt8) (rest : List UInt8) :
    ∃ k, (readChar bad (b :: rest)).2 = rest.drop k := by
  simp only [readChar]
  split
  · exact ⟨0, rfl⟩
  · split
    · exact ⟨0, rfl⟩
    · split
      · exact ⟨_, rfl⟩
      · exact ⟨0, rfl⟩

/-- One character read and written again gives back its octets. -/
theorem readChar_octets {b : UInt8} {rest : List UInt8} (hfree : startsStandIn (b :: rest) = false) :
    ofChar (readChar rawChar (b :: rest)).1 ++ (readChar rawChar (b :: rest)).2 = b :: rest := by
  simp only [readChar]
  split
  · rename_i hb
    rw [ofChar_ascii hb]
    rfl
  · rename_i hb
    -- an octet from `80` that starts no well-formed character is kept as its stand-in
    have h80 : 0x80 ≤ b := UInt8.not_lt.1 hb
    split
    · rw [ofChar_rawChar h80]
      rfl
    · rename_i hlead
      split
      · rename_i hcont
        exact ofChar_of_lead hlead hcont hfree
      · rw [ofChar_rawChar h80]
        rfl

/-! ## Whole texts -/

theorem octets_push (s : String) (c : Char) : octets (s.push c) = octets s ++ ofChar c := by
  rw [octets_eq_flatMap, octets_eq_flatMap, String.toList_push, List.flatMap_append,
    List.flatMap_singleton]

/-- Reading octets with enough fuel appends exactly them to what was read before. -/
theorem octets_decode_go : ∀ (fuel : Nat) (bs : List UInt8) (acc : String),
    bs.length ≤ fuel → noStandIns bs = true → octets (decode.go fuel bs acc) = octets acc ++ bs
  | 0, bs, acc, hlen, _ => by
    rw [List.eq_nil_of_length_eq_zero (Nat.le_zero.1 hlen), decode.go.eq_1, List.append_nil]
  | fuel + 1, [], acc, _, _ => by
    rw [decode.go.eq_2 _ _ (by omega), List.append_nil]
  | fuel + 1, b :: rest, acc, hlen, hfree => by
    rw [decode.go.eq_3 _ _ _ (by simp)]
    obtain ⟨k, hk⟩ := readChar_rest rawChar b rest
    have hstep := readChar_octets (noStandIns_cons.1 hfree).1
    rcases hread : readChar rawChar (b :: rest) with ⟨c, rest'⟩
    simp only [hread] at hk hstep
    -- what is left after the character is shorter and still free of stand-ins' forms
    have hlen' : rest'.length ≤ fuel := by
      rw [hk, List.length_drop]
      simp only [List.length_cons] at hlen
      omega
    have hfree' : noStandIns rest' = true := by
      rw [hk]
      exact noStandIns_drop k (noStandIns_cons.1 hfree).2
    rw [octets_decode_go fuel rest' (acc.push c) hlen' hfree', octets_push, List.append_assoc,
      hstep]

theorem flatMap_ofChar_ascii : ∀ {bs : List UInt8}, (bs.all fun b => b < 0x80) = true →
    (bs.map fun b => Char.ofNat b.toNat).flatMap ofChar = bs
  | [], _ => rfl
  | b :: rest, h => by
    rw [List.all_cons, Bool.and_eq_true] at h
    rw [List.map_cons, List.flatMap_cons, ofChar_ascii (by simpa using h.1),
      flatMap_ofChar_ascii h.2]
    rfl

/-- Writing what `decode` read gives back the octets, unless they hold the UTF-8 form of a
stand-in's own code point. -/
theorem octets_decode {bs : List UInt8} (h : noStandIns bs = true) : octets (decode bs) = bs := by
  unfold decode
  split
  · rename_i hall
    rw [octets_ofList, flatMap_ofChar_ascii hall]
  · rw [octets_decode_go bs.length bs "" (Nat.le_refl _) h]
    rfl

end Regress.Utf8
