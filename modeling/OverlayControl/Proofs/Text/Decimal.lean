import OverlayControl.Json.Reader
import OverlayControl.Text.Numeral

/-!
# Decimal digits

What the readers of numbers make of digits. The number that digits write is core's
`Nat.ofDigitChars`, and the digits of a number are core's `Nat.toDigits`.

* `Text.readDigits_of_digits` — digits are read as the number that they write, as long as it is in
  range;
* `Text.Writes`, `Text.readWord_eq_ok_iff` — the texts that are read as a given 32-bit word;
* `Text.readWord_toString` — a 32-bit word is read back from its decimal form;
* `Json.natOf_toDigits`, `Json.fill_of_digits` — the same for the numbers of JSON.
-/

namespace OverlayControl

/-- Reading on never makes the number smaller. -/
theorem le_ofDigitChars (cs : List Char) (acc : Nat) : acc ≤ Nat.ofDigitChars 10 cs acc := by
  induction cs generalizing acc with
  | nil => exact Nat.le_of_eq Nat.ofDigitChars_nil.symm
  | cons c cs ih =>
    rw [Nat.ofDigitChars_cons]
    refine Nat.le_trans ?_ (ih _)
    omega

namespace Text

/-- Digits are read as the number that they write. No step crosses the limit when the last one does
not. -/
theorem readDigits_of_digits {limit : Nat} {beyond : NumeralFault} {cs : List Char} {acc : Nat}
    (hdigits : ∀ c ∈ cs, c.isDigit = true) (h : Nat.ofDigitChars 10 cs acc ≤ limit) :
    readDigits digitValue? 10 limit beyond acc cs = .ok (Nat.ofDigitChars 10 cs acc) := by
  induction cs generalizing acc with
  | nil => rw [readDigits, Nat.ofDigitChars_nil]
  | cons c cs ih =>
    rw [Nat.ofDigitChars_cons, Nat.mul_comm] at h
    -- The number so far is at most the one in the end.
    have hstep : acc * 10 + (c.toNat - '0'.toNat) ≤ limit :=
      Nat.le_trans (le_ofDigitChars cs _) h
    rw [readDigits, digitValue?, if_pos (hdigits c List.mem_cons_self)]
    show ite _ _ _ = _
    rw [if_pos hstep, Nat.ofDigitChars_cons, Nat.mul_comm 10 acc]
    exact ih (fun d hd => hdigits d (List.mem_cons_of_mem c hd)) h

/-- What is read is digits, and the number that they write is in range. -/
theorem readDigits_eq_ok_iff {limit : Nat} {beyond : NumeralFault} {cs : List Char} {acc n : Nat}
    (hacc : acc ≤ limit) :
    readDigits digitValue? 10 limit beyond acc cs = .ok n ↔
      (∀ c ∈ cs, c.isDigit = true) ∧ Nat.ofDigitChars 10 cs acc = n ∧ n ≤ limit := by
  constructor
  · intro h
    induction cs generalizing acc with
    | nil =>
      rw [readDigits] at h
      cases h
      exact ⟨by simp, Nat.ofDigitChars_nil, hacc⟩
    | cons c cs ih =>
      rw [readDigits] at h
      by_cases hc : c.isDigit = true
      · simp only [digitValue?, if_pos hc] at h
        split at h
        · next hstep =>
          obtain ⟨hdigits, hvalue, hrange⟩ := ih hstep h
          refine ⟨List.forall_mem_cons.2 ⟨hc, hdigits⟩, ?_, hrange⟩
          rwa [Nat.ofDigitChars_cons, Nat.mul_comm]
        · cases h
      · simp only [digitValue?, if_neg hc] at h
        cases h
  · rintro ⟨hdigits, rfl, hrange⟩
    exact readDigits_of_digits hdigits hrange

/-- A number as it may be written: at least one digit, perhaps with a plus before the first. -/
def Writes (s : String) (n : Nat) : Prop :=
  ∃ digits : List Char, (s.toList = digits ∨ s.toList = '+' :: digits) ∧ digits ≠ [] ∧
    (∀ c ∈ digits, c.isDigit = true) ∧ Nat.ofDigitChars 10 digits 0 = n

theorem readMagnitude_eq_ok_iff {limit : Nat} {cs : List Char} {n : Nat} :
    readMagnitude limit .tooLarge cs = .ok n ↔
      cs ≠ [] ∧ (∀ c ∈ cs, c.isDigit = true) ∧ Nat.ofDigitChars 10 cs 0 = n ∧ n ≤ limit := by
  cases cs with
  | nil => simp [readMagnitude]
  | cons c cs =>
    rw [readMagnitude, List.isEmpty_cons, if_neg Bool.false_ne_true,
      readDigits_eq_ok_iff (Nat.zero_le limit)]
    simp

/-- A text is read exactly when it writes a number in range. -/
theorem readNatChars_eq_ok_iff {limit : Nat} {s : String} {n : Nat} :
    readNatChars limit s.toList = .ok n ↔ Writes s n ∧ n ≤ limit := by
  unfold readNatChars
  split
  · next hnil => simp [Writes, hnil]
  · next cs hplus =>
    rw [readMagnitude_eq_ok_iff]
    constructor
    · rintro ⟨hne, hdigits, hvalue, hrange⟩
      exact ⟨⟨cs, .inr hplus, hne, hdigits, hvalue⟩, hrange⟩
    · rintro ⟨⟨digits, hs | hs, hne, hdigits, hvalue⟩, hrange⟩
      · -- A plus is no digit.
        rw [← hs, hplus] at hdigits
        exact absurd (hdigits '+' List.mem_cons_self) (by decide)
      · rw [hplus, List.cons.injEq] at hs
        rw [hs.2]
        exact ⟨hne, hdigits, hvalue, hrange⟩
  · next hplus =>
    rw [readMagnitude_eq_ok_iff]
    constructor
    · rintro ⟨hne, hdigits, hvalue, hrange⟩
      exact ⟨⟨s.toList, .inl rfl, hne, hdigits, hvalue⟩, hrange⟩
    · rintro ⟨⟨digits, hs | hs, hne, hdigits, hvalue⟩, hrange⟩
      · rw [hs]
        exact ⟨hne, hdigits, hvalue, hrange⟩
      · exact absurd hs (hplus digits)

/-- The texts that are read as a given word. -/
theorem readWord_eq_ok_iff {s : String} {n : UInt32} : readWord s = .ok n ↔ Writes s n.toNat := by
  have hsize : n.toNat < UInt32.size := n.toNat_lt
  constructor
  · intro h
    cases hread : readNatChars (UInt32.size - 1) s.toList with
    | error e =>
      rw [readWord, hread] at h
      cases h
    | ok m =>
      rw [readWord, hread] at h
      cases h
      obtain ⟨hwrites, hrange⟩ := readNatChars_eq_ok_iff.1 hread
      have hm : (UInt32.ofNat m).toNat = m :=
        UInt32.toNat_ofNat_of_lt' (Nat.lt_of_le_pred (by decide) hrange)
      rwa [hm]
  · intro h
    rw [readWord, readNatChars_eq_ok_iff.2 ⟨h, Nat.le_sub_one_of_lt hsize⟩]
    exact congrArg Except.ok UInt32.ofNat_toNat

theorem isDigit_of_mem_toDigits {n : Nat} {c : Char} (h : c ∈ Nat.toDigits 10 n) :
    c.isDigit = true :=
  Nat.isDigit_of_mem_toDigits (by decide) (by decide) h

/-- A number in range is read back from its digits. -/
theorem readNatChars_toDigits {limit n : Nat} (h : n ≤ limit) :
    readNatChars limit (Nat.toDigits 10 n) = .ok n := by
  have hread : readMagnitude limit .tooLarge (Nat.toDigits 10 n) = .ok n := by
    rw [readMagnitude, List.isEmpty_eq_false_iff.2 Nat.toDigits_ne_nil]
    show readDigits digitValue? 10 limit .tooLarge 0 (Nat.toDigits 10 n) = _
    rw [readDigits_of_digits (fun c hc => isDigit_of_mem_toDigits hc)
      (by rw [Nat.ofDigitChars_ten_toDigits]; exact h), Nat.ofDigitChars_ten_toDigits]
  cases hdigits : Nat.toDigits 10 n with
  | nil => exact absurd hdigits Nat.toDigits_ne_nil
  | cons c cs =>
    -- The digits are not taken for a sign.
    have hplus : c ≠ '+' := by
      rintro rfl
      have hmem : '+' ∈ Nat.toDigits 10 n := by
        rw [hdigits]
        exact List.mem_cons_self
      exact absurd (isDigit_of_mem_toDigits hmem) (by decide)
    rw [hdigits] at hread
    rw [readNatChars.eq_3 _ _ (List.cons_ne_nil c cs) fun _ h => hplus (List.cons.inj h).1]
    exact hread

/-- A word is read back from its decimal form. -/
theorem readWord_toString (n : UInt32) : readWord (toString n.toNat) = .ok n := by
  have hrange : n.toNat ≤ UInt32.size - 1 := Nat.le_sub_one_of_lt n.toNat_lt
  rw [readWord, Nat.toString_eq_repr, Nat.toList_repr, readNatChars_toDigits hrange]
  exact congrArg Except.ok UInt32.ofNat_toNat

end Text

namespace Json

theorem natOf_eq (cs : List Char) : natOf cs = Nat.ofDigitChars 10 cs 0 := by
  rw [natOf, Nat.ofDigitChars_eq_foldl]
  congr
  funext n c
  rw [Nat.mul_comm]

theorem natOf_toDigits (n : Nat) : natOf (Nat.toDigits 10 n) = n := by
  rw [natOf_eq, Nat.ofDigitChars_ten_toDigits]

/-- A word holds all digits of a number that fits it. -/
theorem fill_of_digits {cs : List Char} {acc : Nat}
    (h : Nat.ofDigitChars 10 cs acc < UInt64.size) :
    fill acc cs = (Nat.ofDigitChars 10 cs acc, []) := by
  induction cs generalizing acc with
  | nil => rw [fill, Nat.ofDigitChars_nil]
  | cons c cs ih =>
    rw [Nat.ofDigitChars_cons, Nat.mul_comm] at h
    have hstep : acc * 10 + (c.toNat - '0'.toNat) < UInt64.size :=
      Nat.lt_of_le_of_lt (le_ofDigitChars cs _) h
    rw [fill]
    show ite _ _ _ = _
    rw [if_pos hstep, Nat.ofDigitChars_cons, Nat.mul_comm 10 acc]
    exact ih h

end Json

end OverlayControl
