/-!
# UTF-8

Bytes are read as text in two ways. `decode?` refuses bytes that are not UTF-8; `decodeLossy` puts
one replacement character for each maximal run of bytes that starts a character and does not finish
it (Unicode's "substitution of maximal subparts"), and for each byte that starts none.

`Utf8.next` reads one character; both readings iterate it. Writing is core's
`String.utf8EncodeChar`, one character at a time.
-/

namespace OverlayControl.Utf8

/-- The bytes of a text. -/
def encodeChars (cs : List Char) : List UInt8 := cs.flatMap String.utf8EncodeChar

/-- The bytes of a text. -/
def encode (s : String) : List UInt8 := encodeChars s.toList

/-- What a byte of a well-formed sequence announces: how many bytes follow the second one, the range
of the second byte, and the leading bits of the character. `none` when the byte starts no sequence
of two bytes or more. -/
def announced (b : UInt8) : Option (Nat × UInt8 × UInt8 × Nat) :=
  if b < 0xC2 then none
  else if b < 0xE0 then some (0, 0x80, 0xBF, b.toNat - 0xC0)
  else if b = 0xE0 then some (1, 0xA0, 0xBF, 0)
  else if b = 0xED then some (1, 0x80, 0x9F, 13)
  else if b < 0xF0 then some (1, 0x80, 0xBF, b.toNat - 0xE0)
  else if b = 0xF0 then some (2, 0x90, 0xBF, 0)
  else if b < 0xF4 then some (2, 0x80, 0xBF, b.toNat - 0xF0)
  else if b = 0xF4 then some (2, 0x80, 0x8F, 4)
  else none

/-- Reads `n` further bytes of a character whose bits so far are `acc`. Bytes that do not belong to
the character are left over. -/
def continued : Nat → Nat → List UInt8 → Option Char × List UInt8
  | 0, acc, bs => (some (Char.ofNat acc), bs)
  | _ + 1, _, [] => (none, [])
  | n + 1, acc, b :: bs =>
    if 0x80 ≤ b ∧ b ≤ 0xBF then continued n (acc * 64 + (b.toNat - 0x80)) bs
    else (none, b :: bs)

/-- Reads one character from bytes that start with `b`; `none` stands for a maximal ill-formed run.
The second part is what follows. -/
def next (b : UInt8) (bs : List UInt8) : Option Char × List UInt8 :=
  if b < 0x80 then (some (Char.ofNat b.toNat), bs)
  else
    match announced b, bs with
    | some (n, low, high, acc), c :: cs =>
      if low ≤ c ∧ c ≤ high then continued n (acc * 64 + (c.toNat - 0x80)) cs else (none, c :: cs)
    | _, _ => (none, bs)

theorem length_continued_le (n acc : Nat) (bs : List UInt8) :
    (continued n acc bs).2.length ≤ bs.length := by
  induction n generalizing acc bs with
  | zero => simp [continued]
  | succ n ih =>
    cases bs with
    | nil => simp [continued]
    | cons b bs =>
      rw [continued]
      split
      · exact Nat.le_succ_of_le (ih _ bs)
      · exact Nat.le_refl _

/-- Reading a character never lengthens what follows it. -/
theorem length_next_le (b : UInt8) (bs : List UInt8) : (next b bs).2.length ≤ bs.length := by
  unfold next
  split
  · exact Nat.le_refl _
  · split
    · split
      · exact Nat.le_succ_of_le (length_continued_le _ _ _)
      · exact Nat.le_refl _
    · exact Nat.le_refl _

/-- The characters of the bytes, `none` for each maximal ill-formed run. -/
def pieces : List UInt8 → List (Option Char)
  | [] => []
  | b :: bs => (next b bs).1 :: pieces (next b bs).2
termination_by bs => bs.length
decreasing_by exact Nat.lt_succ_of_le (length_next_le b bs)

/-- The text that the bytes are, when they are UTF-8. -/
def decodeChars? (bs : List UInt8) : Option (List Char) := (pieces bs).mapM id

/-- The text that the bytes are, when they are UTF-8. -/
def decode? (bs : List UInt8) : Option String := (decodeChars? bs).map String.ofList

/-- The text that the bytes are, with a replacement character for each ill-formed run. -/
def decodeLossy (bs : List UInt8) : String :=
  String.ofList ((pieces bs).map fun c => c.getD '\uFFFD')

end OverlayControl.Utf8
