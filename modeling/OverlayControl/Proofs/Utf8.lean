import OverlayControl.Path

/-!
# Reading UTF-8 back

Bytes that are UTF-8 and the text that they are determine each other:

* `next_utf8EncodeChar`, `eq_utf8EncodeChar_of_next` — the same for one character and its bytes;
* `decode?_encode` — the bytes of a text are read as that text;
* `encode_of_decode?` — bytes that are read as a text are the bytes of that text;
* `utf8EncodeChar_append_lt` — bytes are in the order of the characters that they belong to;
* `slash_notMem_utf8EncodeChar` — no character but a slash has its byte.

Nothing is said about bytes that are not UTF-8.
-/

namespace OverlayControl

namespace Utf8

/-- A character's number stays clear of the surrogates and of what is beyond the last plane. -/
theorem isScalar (c : Char) : c.toNat < 0xD800 ∨ (0xDFFF < c.toNat ∧ c.toNat < 0x110000) := by
  have h : c.val.toNat.isValidChar := c.valid
  exact h

theorem toNat_ofNat_of_isScalar {n : Nat} (h : n < 0xD800 ∨ (0xDFFF < n ∧ n < 0x110000)) :
    (Char.ofNat n).toNat = n := by
  have hv : n.isValidChar := h
  rw [Char.ofNat, dif_pos hv]
  rfl

theorem toNat_ofNat_byte {n : Nat} (h : n < 256) : (UInt8.ofNat n).toNat = n := by
  simp [Nat.mod_eq_of_lt h]

/-- A leading byte announces what comes after it; the five ranges with a narrower second byte are
cut off the long forms, the surrogates and what is beyond the last plane. -/
theorem announced_eq (b : UInt8) :
    announced b =
      if b.toNat < 0xC2 then none
      else if b.toNat < 0xE0 then some (0, 0x80, 0xBF, b.toNat - 0xC0)
      else if b.toNat = 0xE0 then some (1, 0xA0, 0xBF, 0)
      else if b.toNat = 0xED then some (1, 0x80, 0x9F, 13)
      else if b.toNat < 0xF0 then some (1, 0x80, 0xBF, b.toNat - 0xE0)
      else if b.toNat = 0xF0 then some (2, 0x90, 0xBF, 0)
      else if b.toNat < 0xF4 then some (2, 0x80, 0xBF, b.toNat - 0xF0)
      else if b.toNat = 0xF4 then some (2, 0x80, 0x8F, 4)
      else none := by
  simp only [announced, UInt8.lt_iff_toNat_lt, ← UInt8.toNat_inj]
  rfl

/-- The byte that carries six more bits of a character. -/
def tail (n : Nat) : UInt8 := UInt8.ofNat (n % 64 + 0x80)

theorem toNat_tail (n : Nat) : (tail n).toNat = n % 64 + 0x80 := toNat_ofNat_byte (by omega)

theorem tail_le (n : Nat) : 0x80 ≤ tail n ∧ tail n ≤ 0xBF := by
  simp only [UInt8.le_iff_toNat_le, toNat_tail]
  exact ⟨Nat.le_add_left _ _, by show n % 64 + 0x80 ≤ 0xBF; omega⟩

theorem continued_tail (n acc m : Nat) (bs : List UInt8) :
    continued (n + 1) acc (tail m :: bs) = continued n (acc * 64 + m % 64) bs := by
  rw [continued, if_pos (tail_le m), toNat_tail, Nat.add_sub_cancel]

/-- The bytes of a character, by how many they are. -/
theorem utf8EncodeChar_eq (c : Char) :
    String.utf8EncodeChar c =
      if c.toNat ≤ 0x7F then [UInt8.ofNat c.toNat]
      else if c.toNat ≤ 0x7FF then [UInt8.ofNat (c.toNat / 64 % 32 + 0xC0), tail c.toNat]
      else if c.toNat ≤ 0xFFFF then
        [UInt8.ofNat (c.toNat / 4096 % 16 + 0xE0), tail (c.toNat / 64), tail c.toNat]
      else
        [UInt8.ofNat (c.toNat / 262144 % 8 + 0xF0), tail (c.toNat / 4096), tail (c.toNat / 64),
          tail c.toNat] := rfl

/-- The bytes of characters are in the order of the characters' numbers, whatever follows them. -/
theorem utf8EncodeChar_append_lt {c d : Char} (h : c.toNat < d.toNat) (xs ys : List UInt8) :
    String.utf8EncodeChar c ++ xs < String.utf8EncodeChar d ++ ys := by
  have hd := isScalar d
  rw [utf8EncodeChar_eq, utf8EncodeChar_eq]
  generalize c.toNat = m at h
  generalize d.toNat = n at h hd
  -- Numbers are compared six bits at a time, the highest bits first.
  have h₁ : m / 64 < n / 64 ∨ m / 64 = n / 64 ∧ m % 64 < n % 64 := by omega
  have h₂ : m / 64 < n / 64 → m / 4096 < n / 4096 ∨
      m / 4096 = n / 4096 ∧ m / 64 % 64 < n / 64 % 64 := by omega
  have h₃ : m / 4096 < n / 4096 → m / 262144 < n / 262144 ∨
      m / 262144 = n / 262144 ∧ m / 4096 % 64 < n / 4096 % 64 := by omega
  -- The leading byte of four is below 256.
  have hm : (m / 262144 % 8 + 240) % 2 ^ 8 = m / 262144 + 240 := by omega
  have hn : (n / 262144 % 8 + 240) % 2 ^ 8 = n / 262144 + 240 := by omega
  repeat' split
  all_goals
    simp only [List.cons_append, List.nil_append, List.cons_lt_cons_iff, UInt8.lt_iff_toNat_lt,
      ← UInt8.toNat_inj, toNat_tail, UInt8.toNat_ofNat', hm, hn]
    omega

/-- Reading goes on from a leading byte when the second byte is in the range that it announces. -/
theorem next_of_announced {b low high : UInt8} {n acc : Nat}
    (h : announced b = some (n, low, high, acc)) (hb : ¬b.toNat < 0x80) (m : Nat) (cs : List UInt8)
    (hm : low.toNat ≤ m % 64 + 0x80 ∧ m % 64 + 0x80 ≤ high.toNat) :
    next b (tail m :: cs) = continued n (acc * 64 + m % 64) cs := by
  have hrange : low ≤ tail m ∧ tail m ≤ high := by
    simpa only [UInt8.le_iff_toNat_le, toNat_tail] using hm
  have hlead : ¬b < 0x80 := by rwa [UInt8.lt_iff_toNat_lt]
  simp only [next, if_neg hlead, h, if_pos hrange, toNat_tail, Nat.add_sub_cancel]

/-- The leading byte of three announces a second byte in a range that every character keeps to,
since no character is a surrogate or could be written in two bytes. -/
theorem announced_three {v : Nat} (hlow : 0x7FF < v) (hhigh : v ≤ 0xFFFF)
    (hv : v < 0xD800 ∨ 0xDFFF < v) :
    ∃ low high, announced (UInt8.ofNat (v / 4096 % 16 + 0xE0)) = some (1, low, high, v / 4096) ∧
      low.toNat ≤ v / 64 % 64 + 0x80 ∧ v / 64 % 64 + 0x80 ≤ high.toNat := by
  have hb : (UInt8.ofNat (v / 4096 % 16 + 0xE0)).toNat = v / 4096 + 0xE0 := by
    rw [toNat_ofNat_byte (by omega)]; omega
  rw [announced_eq, hb, if_neg (by omega), if_neg (by omega)]
  -- The two leading bytes with a narrower range, and the others.
  by_cases h0 : v / 4096 = 0
  · refine ⟨0xA0, 0xBF, by rw [if_pos (by omega), h0], ?_⟩
    show 0xA0 ≤ _ ∧ _ ≤ 0xBF
    omega
  by_cases h13 : v / 4096 = 13
  · refine ⟨0x80, 0x9F, by rw [if_neg (by omega), if_pos (by omega), h13], ?_⟩
    show 0x80 ≤ _ ∧ _ ≤ 0x9F
    omega
  · refine ⟨0x80, 0xBF, ?_, ?_⟩
    · rw [if_neg (by omega), if_neg (by omega), if_pos (by omega), Nat.add_sub_cancel]
    · show 0x80 ≤ _ ∧ _ ≤ 0xBF
      omega

/-- The leading byte of four announces a second byte in a range that every character keeps to, since
no character is beyond the last plane or could be written in three bytes. -/
theorem announced_four {v : Nat} (hlow : 0xFFFF < v) (hhigh : v < 0x110000) :
    ∃ low high, announced (UInt8.ofNat (v / 262144 % 8 + 0xF0)) =
        some (2, low, high, v / 262144) ∧
      low.toNat ≤ v / 4096 % 64 + 0x80 ∧ v / 4096 % 64 + 0x80 ≤ high.toNat := by
  have hb : (UInt8.ofNat (v / 262144 % 8 + 0xF0)).toNat = v / 262144 + 0xF0 := by
    rw [toNat_ofNat_byte (by omega)]; omega
  rw [announced_eq, hb, if_neg (by omega), if_neg (by omega), if_neg (by omega), if_neg (by omega),
    if_neg (by omega)]
  -- The first and the last leading byte have a narrower range.
  by_cases h0 : v / 262144 = 0
  · refine ⟨0x90, 0xBF, by rw [if_pos (by omega), h0], ?_⟩
    show 0x90 ≤ _ ∧ _ ≤ 0xBF
    omega
  by_cases h4 : v / 262144 = 4
  · refine ⟨0x80, 0x8F, by rw [if_neg (by omega), if_neg (by omega), if_pos (by omega), h4], ?_⟩
    show 0x80 ≤ _ ∧ _ ≤ 0x8F
    omega
  · refine ⟨0x80, 0xBF, ?_, ?_⟩
    · rw [if_neg (by omega), if_pos (by omega), Nat.add_sub_cancel]
    · show 0x80 ≤ _ ∧ _ ≤ 0xBF
      omega

/-- The bytes of a character are read as that character, whatever follows them. -/
theorem next_utf8EncodeChar (c : Char) (bs : List UInt8) :
    ∃ b rest, String.utf8EncodeChar c ++ bs = b :: rest ∧ next b rest = (some c, bs) := by
  have hscalar := isScalar c
  have hc : Char.ofNat c.toNat = c := Char.ofNat_toNat c
  -- Only the number of the character matters; it has one to four bytes.
  rw [utf8EncodeChar_eq]
  generalize c.toNat = v at *
  split
  · have hb : (UInt8.ofNat v).toNat = v := toNat_ofNat_byte (by omega)
    have hlow : UInt8.ofNat v < 0x80 := by
      rw [UInt8.lt_iff_toNat_lt, hb]
      show v < 0x80
      omega
    refine ⟨_, _, rfl, ?_⟩
    simp only [next, if_pos hlow, hb, hc]
    rfl
  split
  · have hb : (UInt8.ofNat (v / 64 % 32 + 0xC0)).toNat = v / 64 + 0xC0 := by
      rw [toNat_ofNat_byte (by omega)]; omega
    have ha : announced (UInt8.ofNat (v / 64 % 32 + 0xC0)) = some (0, 0x80, 0xBF, v / 64) := by
      rw [announced_eq, hb, if_neg (by omega), if_pos (by omega), Nat.add_sub_cancel]
    refine ⟨_, _, rfl, ?_⟩
    show next _ (tail v :: bs) = _
    rw [next_of_announced ha (by omega) v bs (by show 0x80 ≤ _ ∧ _ ≤ 0xBF; omega), continued,
      show v / 64 * 64 + v % 64 = v by omega, hc]
  split
  · obtain ⟨low, high, ha, hrange⟩ := announced_three (v := v) (by omega) (by omega) (by omega)
    have hb : (UInt8.ofNat (v / 4096 % 16 + 0xE0)).toNat = v / 4096 + 0xE0 := by
      rw [toNat_ofNat_byte (by omega)]; omega
    refine ⟨_, _, rfl, ?_⟩
    show next _ (tail (v / 64) :: tail v :: bs) = _
    rw [next_of_announced ha (by omega) _ _ hrange, continued_tail, continued,
      show (v / 4096 * 64 + v / 64 % 64) * 64 + v % 64 = v by omega, hc]
  · obtain ⟨low, high, ha, hrange⟩ := announced_four (v := v) (by omega) (by omega)
    have hb : (UInt8.ofNat (v / 262144 % 8 + 0xF0)).toNat = v / 262144 + 0xF0 := by
      rw [toNat_ofNat_byte (by omega)]; omega
    refine ⟨_, _, rfl, ?_⟩
    show next _ (tail (v / 4096) :: tail (v / 64) :: tail v :: bs) = _
    rw [next_of_announced ha (by omega) _ _ hrange, continued_tail, continued_tail, continued,
      show ((v / 262144 * 64 + v / 4096 % 64) * 64 + v / 64 % 64) * 64 + v % 64 = v by omega, hc]

/-! ## From bytes to text and back -/

theorem eq_tail {b : UInt8} (h : 0x80 ≤ b ∧ b ≤ 0xBF) : b = tail (b.toNat - 0x80) := by
  simp only [UInt8.le_iff_toNat_le] at h
  have hb : 0x80 ≤ b.toNat ∧ b.toNat ≤ 0xBF := h
  rw [← UInt8.toNat_inj, toNat_tail]
  omega

theorem tail_mod (n : Nat) : tail (n % 64) = tail n := by
  rw [tail, tail, Nat.mod_mod]

/-- A character that is read to its end has had one more byte of it at hand for each byte owed. -/
theorem continued_succ_inv {n acc : Nat} {bs rest : List UInt8} {c : Char}
    (h : continued (n + 1) acc bs = (some c, rest)) :
    ∃ m < 64, ∃ cs, bs = tail m :: cs ∧ continued n (acc * 64 + m) cs = (some c, rest) := by
  -- Without a byte at hand, or with one that carries no bits, there is no character.
  cases bs with
  | nil => cases h
  | cons b bs =>
    rw [continued] at h
    split at h
    · next hb =>
      have htail := eq_tail hb
      have hle : b.toNat ≤ 0xBF := UInt8.le_iff_toNat_le.1 hb.2
      exact ⟨b.toNat - 0x80, by omega, bs, by rw [← htail], h⟩
    · cases h

/-- A leading byte of two, with the bits that it carries. -/
theorem utf8EncodeChar_two {a m : Nat} (ha : 2 ≤ a) (ha' : a < 32) (hm : m < 64) :
    String.utf8EncodeChar (Char.ofNat (a * 64 + m)) = [UInt8.ofNat (a + 0xC0), tail m] := by
  rw [utf8EncodeChar_eq, toNat_ofNat_of_isScalar (by omega), if_neg (by omega), if_pos (by omega),
    show (a * 64 + m) / 64 % 32 = a by omega, ← tail_mod, show (a * 64 + m) % 64 = m by omega]

theorem utf8EncodeChar_three {a m k : Nat} (hlow : 0x7FF < a * 4096 + m * 64 + k)
    (hhigh : a * 4096 + m * 64 + k ≤ 0xFFFF)
    (hv : a * 4096 + m * 64 + k < 0xD800 ∨ 0xDFFF < a * 4096 + m * 64 + k) (hm : m < 64)
    (hk : k < 64) :
    String.utf8EncodeChar (Char.ofNat (a * 4096 + m * 64 + k)) =
      [UInt8.ofNat (a + 0xE0), tail m, tail k] := by
  rw [utf8EncodeChar_eq, toNat_ofNat_of_isScalar (by omega), if_neg (by omega), if_neg (by omega),
    if_pos (by omega), show (a * 4096 + m * 64 + k) / 4096 % 16 = a by omega,
    ← tail_mod (_ / 64), ← tail_mod (_ + k), show (a * 4096 + m * 64 + k) / 64 % 64 = m by omega,
    show (a * 4096 + m * 64 + k) % 64 = k by omega]

theorem utf8EncodeChar_four {a m k l : Nat} (hlow : 0xFFFF < a * 262144 + m * 4096 + k * 64 + l)
    (hhigh : a * 262144 + m * 4096 + k * 64 + l < 0x110000) (hm : m < 64) (hk : k < 64)
    (hl : l < 64) :
    String.utf8EncodeChar (Char.ofNat (a * 262144 + m * 4096 + k * 64 + l)) =
      [UInt8.ofNat (a + 0xF0), tail m, tail k, tail l] := by
  rw [utf8EncodeChar_eq, toNat_ofNat_of_isScalar (by omega), if_neg (by omega), if_neg (by omega),
    if_neg (by omega), show (a * 262144 + m * 4096 + k * 64 + l) / 262144 % 8 = a by omega,
    ← tail_mod (_ / 4096), ← tail_mod (_ / 64), ← tail_mod (_ + l),
    show (a * 262144 + m * 4096 + k * 64 + l) / 4096 % 64 = m by omega,
    show (a * 262144 + m * 4096 + k * 64 + l) / 64 % 64 = k by omega,
    show (a * 262144 + m * 4096 + k * 64 + l) % 64 = l by omega]

/-- What a leading byte announces, with the numbers that its second byte may complete. -/
theorem announced_cases {b low high : UInt8} {n acc : Nat}
    (h : announced b = some (n, low, high, acc)) :
    (n = 0 ∧ b = UInt8.ofNat (acc + 0xC0) ∧ 2 ≤ acc ∧ acc < 32) ∨
      (n = 1 ∧ b = UInt8.ofNat (acc + 0xE0) ∧
        ∀ m, low.toNat ≤ m + 0x80 → m + 0x80 ≤ high.toNat →
          32 ≤ acc * 64 + m ∧ acc * 64 + m < 1024 ∧
            (acc * 64 + m < 864 ∨ 896 ≤ acc * 64 + m)) ∨
      (n = 2 ∧ b = UInt8.ofNat (acc + 0xF0) ∧
        ∀ m, low.toNat ≤ m + 0x80 → m + 0x80 ≤ high.toNat →
          16 ≤ acc * 64 + m ∧ acc * 64 + m < 272) := by
  have hlead (k : Nat) (hk : b.toNat = k) : b = UInt8.ofNat k := by rw [← hk, UInt8.ofNat_toNat]
  have hlt : b.toNat < 256 := UInt8.toNat_lt b
  rw [announced_eq] at h
  -- The leading bytes in order. What is announced leaves the second byte just the range in which no
  -- character is one of fewer bytes, a surrogate, or beyond the last plane.
  split at h
  · cases h
  split at h
  · cases h
    exact .inl ⟨rfl, hlead _ (by omega), by omega, by omega⟩
  split at h
  · cases h
    refine .inr (.inl ⟨rfl, hlead _ (by omega), fun m hm hm' => ?_⟩)
    have : 0xA0 ≤ m + 0x80 ∧ m + 0x80 ≤ 0xBF := ⟨hm, hm'⟩
    omega
  split at h
  · cases h
    refine .inr (.inl ⟨rfl, hlead _ (by omega), fun m hm hm' => ?_⟩)
    have : 0x80 ≤ m + 0x80 ∧ m + 0x80 ≤ 0x9F := ⟨hm, hm'⟩
    omega
  split at h
  · cases h
    refine .inr (.inl ⟨rfl, hlead _ (by omega), fun m hm hm' => ?_⟩)
    have : 0x80 ≤ m + 0x80 ∧ m + 0x80 ≤ 0xBF := ⟨hm, hm'⟩
    omega
  split at h
  · cases h
    refine .inr (.inr ⟨rfl, hlead _ (by omega), fun m hm hm' => ?_⟩)
    have : 0x90 ≤ m + 0x80 ∧ m + 0x80 ≤ 0xBF := ⟨hm, hm'⟩
    omega
  split at h
  · cases h
    refine .inr (.inr ⟨rfl, hlead _ (by omega), fun m hm hm' => ?_⟩)
    have : 0x80 ≤ m + 0x80 ∧ m + 0x80 ≤ 0xBF := ⟨hm, hm'⟩
    omega
  split at h
  · cases h
    refine .inr (.inr ⟨rfl, hlead _ (by omega), fun m hm hm' => ?_⟩)
    have : 0x80 ≤ m + 0x80 ∧ m + 0x80 ≤ 0x8F := ⟨hm, hm'⟩
    omega
  · cases h

/-- The ranges for second bytes lie within the range of bytes that carry six bits. -/
theorem announced_range {b low high : UInt8} {n acc : Nat}
    (h : announced b = some (n, low, high, acc)) : 0x80 ≤ low ∧ high ≤ 0xBF := by
  unfold announced at h
  repeat' split at h
  all_goals cases h
  all_goals decide

/-- Bytes that are read as a character start with the bytes of that character. -/
theorem eq_utf8EncodeChar_of_next {b : UInt8} {bs rest : List UInt8} {c : Char}
    (h : next b bs = (some c, rest)) : b :: bs = String.utf8EncodeChar c ++ rest := by
  unfold next at h
  split at h
  · next hb =>
    have hlt : b.toNat < 0x80 := UInt8.lt_iff_toNat_lt.1 hb
    cases h
    rw [utf8EncodeChar_eq, toNat_ofNat_of_isScalar (by omega), if_pos (by omega),
      UInt8.ofNat_toNat, List.singleton_append]
  split at h
  · next n low high acc x cs ha =>
    split at h
    · next hx =>
      obtain ⟨hlow, hhigh⟩ := announced_range ha
      have hxtail := eq_tail ⟨UInt8.le_trans hlow hx.1, UInt8.le_trans hx.2 hhigh⟩
      have hx80 : 0x80 ≤ x.toNat := UInt8.le_iff_toNat_le.1 (UInt8.le_trans hlow hx.1)
      have hxBF : x.toNat ≤ 0xBF := UInt8.le_iff_toNat_le.1 (UInt8.le_trans hx.2 hhigh)
      have hx64 : x.toNat - 0x80 < 64 := by omega
      have hxlow : low.toNat ≤ x.toNat - 0x80 + 0x80 := by
        rw [Nat.sub_add_cancel hx80]
        exact UInt8.le_iff_toNat_le.1 hx.1
      have hxhigh : x.toNat - 0x80 + 0x80 ≤ high.toNat := by
        rw [Nat.sub_add_cancel hx80]
        exact UInt8.le_iff_toNat_le.1 hx.2
      rw [hxtail]
      -- From here on the second byte is the six bits that it carries.
      generalize x.toNat - 0x80 = m at *
      obtain ⟨rfl, rfl, h2, h32⟩ | ⟨rfl, rfl, hrange⟩ | ⟨rfl, rfl, hrange⟩ := announced_cases ha
      · cases h
        rw [utf8EncodeChar_two h2 h32 (by omega)]
        rfl
      · obtain ⟨k, hk, cs, rfl, h1⟩ := continued_succ_inv h
        have hm := hrange m hxlow hxhigh
        cases h1
        rw [show (acc * 64 + m) * 64 + k = acc * 4096 + m * 64 + k by omega,
          utf8EncodeChar_three (by omega) (by omega) (by omega) (by omega) hk]
        rfl
      · obtain ⟨k, hk, cs, rfl, h1⟩ := continued_succ_inv h
        obtain ⟨l, hl, ds, rfl, h2⟩ := continued_succ_inv h1
        have hm := hrange m hxlow hxhigh
        cases h2
        rw [show ((acc * 64 + m) * 64 + k) * 64 + l = acc * 262144 + m * 4096 + k * 64 + l by omega,
          utf8EncodeChar_four (by omega) (by omega) (by omega) hk hl]
        rfl
    · cases h
  · cases h

/-! ## Texts -/

theorem mapM_id_eq_some_iff {os : List (Option Char)} {cs : List Char} :
    os.mapM id = some cs ↔ os = cs.map some := by
  induction os generalizing cs with
  | nil => cases cs <;> simp
  | cons o os ih =>
    rw [List.mapM_cons]
    -- A piece that is no character leaves nothing to be read.
    cases o with
    | none => cases cs <;> simp
    | some d =>
      cases hos : os.mapM id with
      | none =>
        have hnone (ds : List Char) : os ≠ ds.map some := fun h => by simp [ih.2 h] at hos
        cases cs <;> simp [hnone]
      | some ds =>
        obtain rfl := ih.1 hos
        cases cs with
        | nil => simp
        | cons c cs => simp [List.map_inj_right]

/-- The bytes of characters are read as these characters, whatever follows them. -/
theorem pieces_encodeChars_append (cs : List Char) (bs : List UInt8) :
    pieces (encodeChars cs ++ bs) = cs.map some ++ pieces bs := by
  induction cs with
  | nil => rfl
  | cons c cs ih =>
    obtain ⟨b, rest, heq, hnext⟩ := next_utf8EncodeChar c (encodeChars cs ++ bs)
    rw [encodeChars, List.flatMap_cons, ← encodeChars, List.append_assoc, heq, pieces, hnext, ih,
      List.map_cons, List.cons_append]

theorem pieces_encodeChars (cs : List Char) : pieces (encodeChars cs) = cs.map some := by
  have hpieces := pieces_encodeChars_append cs []
  rwa [List.append_nil, pieces, List.append_nil] at hpieces

/-- The bytes of a text show as that text. -/
theorem decodeLossy_encode (s : String) : decodeLossy (encode s) = s := by
  have hshown : (s.toList.map some).map (fun c => c.getD '\uFFFD') = s.toList := by
    rw [List.map_map]
    exact List.map_id _
  rw [decodeLossy, encode, pieces_encodeChars, hshown, String.ofList_toList]

theorem encodeChars_of_pieces {bs : List UInt8} {cs : List Char} (h : pieces bs = cs.map some) :
    encodeChars cs = bs := by
  induction cs generalizing bs with
  | nil =>
    cases bs with
    | nil => rfl
    | cons b bs => simp [pieces] at h
  | cons c cs ih =>
    cases bs with
    | nil => simp [pieces] at h
    | cons b bs =>
      rw [pieces, List.map_cons, List.cons.injEq] at h
      rw [encodeChars, List.flatMap_cons, ← encodeChars, ih h.2]
      exact (eq_utf8EncodeChar_of_next (Prod.ext h.1 rfl)).symm

/-- The bytes of a text are read as that text. -/
@[simp]
theorem decode?_encode (s : String) : decode? (encode s) = some s := by
  rw [decode?, decodeChars?, encode, pieces_encodeChars, mapM_id_eq_some_iff.2 rfl, Option.map_some,
    String.ofList_toList]

/-- Bytes that are read as a text are the bytes of that text. -/
theorem encode_of_decode? {bs : List UInt8} {s : String} (h : decode? bs = some s) :
    encode s = bs := by
  obtain ⟨cs, hcs, rfl⟩ := Option.map_eq_some_iff.1 h
  rw [encode, String.toList_ofList]
  exact encodeChars_of_pieces (mapM_id_eq_some_iff.1 hcs)

/-- The bytes of a text determine it. -/
theorem decode?_eq_some_iff {bs : List UInt8} {s : String} :
    decode? bs = some s ↔ bs = encode s := by
  constructor
  · intro h
    exact (encode_of_decode? h).symm
  · rintro rfl
    exact decode?_encode s

theorem encodeChars_inj {cs ds : List Char} (h : encodeChars cs = encodeChars ds) : cs = ds := by
  have hpieces := congrArg pieces h
  rw [pieces_encodeChars, pieces_encodeChars] at hpieces
  exact List.map_inj_right (fun _ _ => Option.some.inj) |>.1 hpieces

/-- Among characters only a slash has the byte of a slash. -/
theorem slash_notMem_utf8EncodeChar {c : Char} (h : c ≠ '/') :
    Path.slash ∉ String.utf8EncodeChar c := by
  -- The bytes of all characters beyond ASCII are above that of a slash.
  have hbyte {n : Nat} (hlow : 0x80 ≤ n) (hhigh : n < 256) : Path.slash ≠ UInt8.ofNat n := by
    intro heq
    have hnat := congrArg UInt8.toNat heq
    rw [toNat_ofNat_byte hhigh] at hnat
    have hslash : Path.slash.toNat = 0x2F := rfl
    omega
  have htail (n : Nat) : Path.slash ≠ tail n := hbyte (by omega) (by omega)
  rw [utf8EncodeChar_eq]
  split
  · next hascii =>
    rw [List.mem_singleton]
    intro heq
    have hnat := congrArg UInt8.toNat heq
    rw [toNat_ofNat_byte (by omega)] at hnat
    exact h (Char.toNat_inj.1 hnat.symm)
  · split
    · simp only [List.mem_cons, htail, List.not_mem_nil, or_false]
      exact hbyte (by omega) (by omega)
    · split
      · simp only [List.mem_cons, htail, List.not_mem_nil, or_false]
        exact hbyte (by omega) (by omega)
      · simp only [List.mem_cons, htail, List.not_mem_nil, or_false]
        exact hbyte (by omega) (by omega)

end Utf8

namespace Path

/-- A path that is UTF-8 is the path written as its text. -/
theorem ofString_of_text? {p : Path} {s : String} (h : p.text? = some s) : ofString s = p := by
  obtain ⟨bytes⟩ := p
  exact congrArg Path.mk (Utf8.encode_of_decode? h)

theorem display_ofString (s : String) : (ofString s).display = s := Utf8.decodeLossy_encode s

@[simp]
theorem text?_ofString (s : String) : (ofString s).text? = some s := Utf8.decode?_encode s

end Path

end OverlayControl
