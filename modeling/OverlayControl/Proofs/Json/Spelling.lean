import OverlayControl.Json.Reader
import OverlayControl.Proofs.Text.Blank
import OverlayControl.Proofs.Text.Decimal

/-!
# The ways to write JSON

Data may be written as JSON in many ways: with white space between the parts, and with any
character of a text written as itself, by a letter, or by number. All of them are read as the same
data, as long as numbers are whole and a double tells them apart.

* `Json.SpellsChar`, `Json.SpellsText` — the ways to write a text;
* `Json.Row` — the ways to write items between brackets;
* `Json.Spells` — the ways to write data that is nested up to a given depth;
* `Json.leading_of_spells` — a document is read as the data that it spells;
* `Json.flush_of_spells` — it has no blanks around it.
-/

namespace OverlayControl

namespace Text

/-- Where the whole numbers end of which a double holds each one. -/
def exactLimit : Nat := Nat.pow 2 53

/-- Such a number is far from the end of the double range. -/
theorem productOverflows_zero {m : Nat} (h : m < exactLimit) : productOverflows m 0 = false := by
  -- Below the limit a number is its own double, since no bit is beyond the last place.
  have hexact (n : Nat) (hn : n < exactLimit) : toDouble n = n := by
    have hunit : n.log2 - 52 = 0 := by
      by_cases hzero : n = 0
      · rw [hzero]
        rfl
      · have hlog : n.log2 < 53 := (Nat.log2_lt hzero).2 hn
        omega
    unfold toDouble
    rw [hunit]
    show (if 1 < 2 * (n % 1) ∨ (1 = 2 * (n % 1) ∧ n / 1 % 2 = 1) then (n / 1 + 1) * 1
      else n / 1 * 1) = n
    rw [Nat.mod_one, if_neg (by omega), Nat.div_one, Nat.mul_one]
  have hbound : exactLimit ≤ doubleBound := by decide +kernel
  unfold productOverflows
  split
  · rfl
  · rw [if_neg (by decide), hexact m h]
    show decide (doubleBound ≤ m * toDouble 1) = false
    rw [hexact 1 (by decide), decide_eq_false_iff_not]
    omega

theorem hexValue?_hexDigit :
    ∀ capital : Bool, ∀ n < 16, hexValue? (hexDigit capital n) = some n := by
  decide

end Text

namespace Json

/-! ## White space -/

/-- White space between the parts of a document. -/
def Space (g : List Char) : Prop := ∀ c ∈ g, c ∈ [' ', '\n', '\t', '\r']

theorem skip_append_of_space {g : List Char} (h : Space g) (cs : List Char) :
    skip (g ++ cs) = skip cs := by
  rw [skip, List.dropWhile_append_of_pos fun c hc => by simpa using h c hc, skip]

theorem skip_cons {c : Char} (h : c ∉ [' ', '\n', '\t', '\r']) (cs : List Char) :
    skip (c :: cs) = c :: cs := by
  rw [skip, List.dropWhile_cons_of_neg (by simpa using h)]

/-- A text that may follow a value: nothing, white space, a comma or a closing bracket. -/
def Delimited (rest : List Char) : Prop :=
  ∀ c ∈ rest.head?, c ∈ [' ', '\n', '\t', '\r', ',', ']', '\x7d']

theorem delimited_append {g rest : List Char} (hg : Space g) (hrest : Delimited rest) :
    Delimited (g ++ rest) := by
  cases g with
  | nil => exact hrest
  | cons c g =>
    rintro _ ⟨rfl⟩
    have hc := hg c List.mem_cons_self
    exact List.mem_append_left [',', ']', '\x7d'] hc

/-! ## Texts -/

/-- Four hexadecimal digits, small or capital ones, and the number that they write. -/
inductive Hex4 : Nat → List Char → Prop
  /-- The digits, the highest first. -/
  | digits {a b c d : Nat} (ha : a < 16) (hb : b < 16) (hc : c < 16) (hd : d < 16)
      (a' b' c' d' : Bool) :
      Hex4 (((a * 16 + b) * 16 + c) * 16 + d)
        [Text.hexDigit a' a, Text.hexDigit b' b, Text.hexDigit c' c, Text.hexDigit d' d]

theorem hex4_hexPadded {n : Nat} (h : n < 0x10000) (capital : Bool) :
    Hex4 n (Text.hexPadded capital 4 n) := by
  have hdigits := Hex4.digits (a := n / 16 / 16 / 16 % 16) (b := n / 16 / 16 % 16)
    (c := n / 16 % 16) (d := n % 16) (Nat.mod_lt _ (by decide)) (Nat.mod_lt _ (by decide))
    (Nat.mod_lt _ (by decide)) (Nat.mod_lt _ (by decide)) capital capital capital capital
  rwa [show ((n / 16 / 16 / 16 % 16 * 16 + n / 16 / 16 % 16) * 16 + n / 16 % 16) * 16 + n % 16 = n
    by omega] at hdigits

theorem unit?_of_hex4 {u : Nat} {w : List Char} (h : Hex4 u w) :
    ∃ a b c d, w = [a, b, c, d] ∧ unit? a b c d = some u := by
  obtain ⟨ha, hb, hc, hd, a', b', c', d'⟩ := h
  refine ⟨_, _, _, _, rfl, ?_⟩
  rw [unit?, Text.hexValue?_hexDigit _ _ ha, Text.hexValue?_hexDigit _ _ hb,
    Text.hexValue?_hexDigit _ _ hc, Text.hexValue?_hexDigit _ _ hd]
  rfl

/-- The letters after a backslash, and the characters that they stand for. -/
def letters : List (Char × Char) :=
  [('"', '"'), ('\\', '\\'), ('/', '/'), ('b', '\x08'), ('f', '\x0c'), ('n', '\n'), ('r', '\r'),
    ('t', '\t')]

/-- The ways to write a character of a text. -/
inductive SpellsChar : Char → List Char → Prop
  /-- As itself, unless it is a control character, a quote or a backslash. -/
  | plain {c : Char} (control : 0x20 ≤ c.toNat) (quote : c ≠ '"') (backslash : c ≠ '\\') :
      SpellsChar c [c]
  /-- By a letter. -/
  | letter {c l : Char} (h : (l, c) ∈ letters) : SpellsChar c ['\\', l]
  /-- By its number. -/
  | unit {c : Char} {w : List Char} (h : Hex4 c.toNat w) : SpellsChar c ('\\' :: 'u' :: w)
  /-- By the two halves of its number, when four digits are too few. -/
  | pair {c : Char} {high low : Nat} {v w : List Char} (hhigh : high < 0x400) (hlow : low < 0x400)
      (hc : c.toNat = 0x10000 + high * 0x400 + low) (hv : Hex4 (0xD800 + high) v)
      (hw : Hex4 (0xDC00 + low) w) :
      SpellsChar c ('\\' :: 'u' :: (v ++ '\\' :: 'u' :: w))

/-- The ways to write the characters of a text. -/
inductive SpellsText : List Char → List Char → Prop
  /-- There are none. -/
  | nil : SpellsText [] []
  /-- One more character. -/
  | cons {c : Char} {cs w ws : List Char} (hc : SpellsChar c w) (hcs : SpellsText cs ws) :
      SpellsText (c :: cs) (w ++ ws)

/-- A character is read as it is spelled. -/
theorem textBody_of_spellsChar {c : Char} {w : List Char} (h : SpellsChar c w)
    (rest : List Char) : textBody (w ++ rest) = push c (textBody rest) := by
  cases h with
  | plain control quote backslash =>
    rw [List.singleton_append, textBody.eq_5 c rest quote (fun _ _ _ _ _ h _ => backslash h)
      (fun _ _ h _ => backslash h), if_neg (by simp [Nat.not_lt.2 control, backslash])]
  | letter h =>
    simp only [letters, List.mem_cons, Prod.mk.injEq, List.not_mem_nil, or_false] at h
    rcases h with ⟨rfl, rfl⟩ | ⟨rfl, rfl⟩ | ⟨rfl, rfl⟩ | ⟨rfl, rfl⟩ | ⟨rfl, rfl⟩ | ⟨rfl, rfl⟩ |
      ⟨rfl, rfl⟩ | ⟨rfl, rfl⟩ <;> rfl
  | unit h =>
    obtain ⟨a, b, c', d, rfl, hunit⟩ := unit?_of_hex4 h
    -- No character has the number of half of a pair.
    have hvalid : c.toNat < 0xD800 ∨ 0xE000 ≤ c.toNat := by
      rcases c.valid with h | ⟨h, _⟩
      · exact .inl h
      · exact .inr h
    simp only [List.cons_append, List.nil_append]
    rw [textBody, hunit]
    show ite _ _ _ = _
    rw [if_neg (by omega), if_neg (by omega), Char.ofNat_toNat]
  | @pair high low _ _ hhigh hlow hc hv hw =>
    obtain ⟨a, b, c', d, rfl, hunit⟩ := unit?_of_hex4 hv
    obtain ⟨e, f, g, k, rfl, hunit'⟩ := unit?_of_hex4 hw
    simp only [List.cons_append, List.nil_append]
    rw [textBody, hunit]
    show ite _ _ _ = _
    rw [if_pos (by omega)]
    simp only [hunit']
    rw [if_pos (by omega), Nat.add_sub_cancel_left, Nat.add_sub_cancel_left, ← hc,
      Char.ofNat_toNat]

/-- A text is read as it is spelled, up to its closing quote. -/
theorem textBody_of_spellsText {cs w : List Char} (h : SpellsText cs w) (rest : List Char) :
    textBody (w ++ '"' :: rest) = some (cs, rest) := by
  induction h with
  | nil => rfl
  | cons hc _ ih =>
    rw [List.append_assoc, textBody_of_spellsChar hc, ih]
    rfl

/-! ## Numbers -/

theorem decimals?_of_delimited {rest : List Char} (h : Delimited rest) :
    decimals? rest = some (none, rest) := by
  cases rest with
  | nil => rfl
  | cons c rest =>
    have hc := h c rfl
    simp only [List.mem_cons, List.not_mem_nil, or_false] at hc
    rcases hc with rfl | rfl | rfl | rfl | rfl | rfl | rfl <;> rfl

theorem exponent?_of_delimited {rest : List Char} (h : Delimited rest) :
    exponent? rest = some (none, rest) := by
  cases rest with
  | nil => rfl
  | cons c rest =>
    have hc := h c rfl
    simp only [List.mem_cons, List.not_mem_nil, or_false] at hc
    rcases hc with rfl | rfl | rfl | rfl | rfl | rfl | rfl <;> rfl

theorem spanDigits_append {digits rest : List Char} (hdigits : ∀ c ∈ digits, c.isDigit = true)
    (h : Delimited rest) : spanDigits (digits ++ rest) = (digits, rest) := by
  have hrest : rest.takeWhile Char.isDigit = [] ∧ rest.dropWhile Char.isDigit = rest := by
    cases rest with
    | nil => exact ⟨rfl, rfl⟩
    | cons c rest =>
      have hc := h c rfl
      simp only [List.mem_cons, List.not_mem_nil, or_false] at hc
      rcases hc with rfl | rfl | rfl | rfl | rfl | rfl | rfl <;> exact ⟨rfl, rfl⟩
  rw [spanDigits, List.takeWhile_append_of_pos hdigits, List.dropWhile_append_of_pos hdigits,
    hrest.1, hrest.2, List.append_nil]

/-- Only the number zero starts with the digit zero. -/
theorem head?_toDigits_ne_zero {n : Nat} (h : 0 < n) : (Nat.toDigits 10 n).head? ≠ some '0' := by
  -- All digits but the last are those of a tenth of the number.
  induction n using Nat.strongRecOn with
  | ind n ih =>
    rw [Nat.toDigits_eq_if (by decide)]
    split
    · next hlt =>
      intro hhead
      have hzero : n = 0 := Nat.digitChar_eq_zero.1 (Option.some.inj hhead)
      omega
    · intro hhead
      rw [List.head?_append, Option.or_eq_some_iff] at hhead
      rcases hhead with hhead | ⟨hnil, _⟩
      · exact ih (n / 10) (by omega) (by omega) hhead
      · exact Nat.toDigits_ne_nil (List.head?_eq_none_iff.1 hnil)

theorem isHuge_toDigits {n : Nat} (h : n < Text.exactLimit) :
    isHuge (Nat.toDigits 10 n) [] 0 = false := by
  have hfill : fill 0 (Nat.toDigits 10 n) = (n, []) := by
    rw [fill_of_digits] <;> rw [Nat.ofDigitChars_ten_toDigits]
    exact Nat.lt_trans h (by decide)
  rw [isHuge, hfill]
  exact Text.productOverflows_zero h

/-- A whole number is read back from its digits. -/
theorem unsigned_toDigits {n : Nat} (h : n < Text.exactLimit) {rest : List Char}
    (hr : Delimited rest) :
    unsigned false (Nat.toDigits 10 n ++ rest) = some (.int n, rest) := by
  have hwhole : whole false n = .int n := if_pos (Nat.lt_trans h (by decide))
  unfold unsigned
  -- A zero at the start stands alone, so the number zero is read in a way of its own.
  by_cases hzero : n = 0
  · subst hzero
    show ((decimals? rest).bind _ : Option _) = _
    rw [decimals?_of_delimited hr]
    show ((exponent? rest).bind _ : Option _) = _
    rw [exponent?_of_delimited hr]
    rfl
  · have hspan := spanDigits_append (fun c hc => Text.isDigit_of_mem_toDigits (n := n) hc) hr
    have hhead := head?_toDigits_ne_zero (Nat.pos_of_ne_zero hzero)
    have hhuge := isHuge_toDigits h
    have hvalue := natOf_toDigits n
    cases hdigits : Nat.toDigits 10 n with
    | nil => exact absurd hdigits Nat.toDigits_ne_nil
    | cons c cs =>
      rw [hdigits] at hspan hhead hhuge hvalue
      have hc : c ≠ '0' := fun hc => hhead (congrArg some hc)
      split
      · next heq => exact absurd (List.cons.inj heq).1 hc
      · rw [hspan]
        show ((decimals? rest).bind _ : Option _) = _
        rw [decimals?_of_delimited hr]
        show ((exponent? rest).bind _ : Option _) = _
        rw [exponent?_of_delimited hr]
        show ite (isHuge (c :: cs) [] 0 = true) _ _ = _
        rw [hhuge, hvalue]
        exact congrArg (fun d => some (d, rest)) hwhole

/-! ## Rows -/

/-- The ways to write items, with commas between them, up to a closing bracket. -/
inductive Row {α : Type} (close : Char) (item : α → List Char → Prop) :
    List α → List Char → Prop
  /-- There are no items. -/
  | empty {g : List Char} (hg : Space g) : Row close item [] (g ++ [close])
  /-- The last item. -/
  | last {x : α} {w g g' : List Char} (hg : Space g) (hx : item x w) (hg' : Space g') :
      Row close item [x] (g ++ (w ++ (g' ++ [close])))
  /-- One more item before others. -/
  | more {x y : α} {xs : List α} {w g g' rest : List Char} (hg : Space g) (hx : item x w)
      (hg' : Space g') (hrest : Row close item (y :: xs) rest) :
      Row close item (x :: y :: xs) (g ++ (w ++ (g' ++ ',' :: rest)))

namespace Row

variable {α : Type} {close : Char} {item item' : α → List Char → Prop} {xs : List α}
  {cs : List Char}

theorem mono (h : Row close item xs cs) (himp : ∀ x ∈ xs, ∀ w, item x w → item' x w) :
    Row close item' xs cs := by
  induction h with
  | empty hg => exact .empty hg
  | last hg hx hg' => exact .last hg (himp _ List.mem_cons_self _ hx) hg'
  | more hg hx hg' _ ih =>
    exact .more hg (himp _ List.mem_cons_self _ hx) hg'
      (ih fun y hy => himp y (List.mem_cons_of_mem _ hy))

/-- A row ends with its closing bracket. -/
theorem getLast? (h : Row close item xs cs) : cs.getLast? = some close := by
  induction h with
  | empty => exact List.getLast?_concat
  | last => simp
  | more _ _ _ _ ih => simp [List.getLast?_cons, ih]

/-- Each item brings a comma or the closing bracket with it. -/
theorem length_le (h : Row close item xs cs) : xs.length ≤ cs.length := by
  induction h with
  | empty => exact Nat.zero_le _
  | last =>
    simp only [List.length_cons, List.length_append]
    omega
  | more _ _ _ _ ih =>
    simp only [List.length_cons, List.length_append] at ih ⊢
    omega

end Row

/-- A text that starts with none of the characters between values. -/
def Opens (cs : List Char) : Prop :=
  ∃ c rest, cs = c :: rest ∧ c ∉ [' ', '\n', '\t', '\r', ']', '\x7d']

/-- An item is read from a text, whatever follows. -/
def Reads {α : Type} (item : List Char → Option (α × List Char)) (x : α) (w : List Char) : Prop :=
  Opens w ∧ ∀ rest, Delimited rest → item (w ++ rest) = some (x, rest)

theorem Opens.append {cs : List Char} (h : Opens cs) (rest : List Char) : Opens (cs ++ rest) := by
  obtain ⟨c, cs, rfl, hc⟩ := h
  exact ⟨c, cs ++ rest, rfl, hc⟩

theorem skip_of_opens {cs : List Char} (h : Opens cs) (rest : List Char) :
    skip (cs ++ rest) = cs ++ rest := by
  obtain ⟨c, cs, rfl, hc⟩ := h
  refine skip_cons (fun hmem => hc ?_) _
  exact List.mem_append_left [']', '\x7d'] hmem

section Rows

variable {α : Type} {item : List Char → Option (α × List Char)} {close : Char} {xs : List α}
  {cs : List Char}

/-- One item is read, and then what comes after it. -/
theorem separated_succ {x : α} {w g g' : List Char} {c : Char} (hg : Space g)
    (hx : Reads item x w) (hg' : Space g') (hc : c ∈ [',', ']', '\x7d']) (fuel : Nat)
    (rest : List Char) :
    separated item close (fuel + 1) (g ++ (w ++ (g' ++ c :: rest))) =
      if c = ',' then (separated item close fuel rest).map fun (xs, rest) => (x :: xs, rest)
      else if c = close then some ([x], rest) else none := by
  have hplain : c ∉ [' ', '\n', '\t', '\r'] ∧ Delimited (c :: rest) := by
    simp only [List.mem_cons, List.not_mem_nil, or_false] at hc
    rcases hc with rfl | rfl | rfl <;> exact ⟨by decide, by rintro _ ⟨rfl⟩; decide⟩
  rw [separated, skip_append_of_space hg, skip_of_opens hx.1,
    hx.2 _ (delimited_append hg' hplain.2)]
  dsimp only
  rw [skip_append_of_space hg', skip_cons hplain.1]
  dsimp only
  cases separated item close fuel rest <;> rfl

/-- The items of a row are read one by one. -/
theorem separated_of_row (hclose : close = ']' ∨ close = '\x7d') (h : Row close (Reads item) xs cs)
    (hne : xs ≠ []) (fuel : Nat) (hfuel : xs.length ≤ fuel) (rest : List Char) :
    separated item close fuel (cs ++ rest) = some (xs, rest) := by
  have hcomma : close ≠ ',' ∧ close ∈ [',', ']', '\x7d'] := by
    rcases hclose with rfl | rfl <;> decide
  -- Each item costs one fuel.
  obtain ⟨fuel, rfl⟩ : ∃ n, fuel = n + 1 := by
    have hlength := List.length_pos_iff.2 hne
    exact ⟨fuel - 1, by omega⟩
  induction h generalizing fuel with
  | empty => exact absurd rfl hne
  | @last x w g g' hg hx hg' =>
    have htext : g ++ (w ++ (g' ++ [close])) ++ rest = g ++ (w ++ (g' ++ close :: rest)) := by simp
    rw [htext, separated_succ hg hx hg' hcomma.2, if_neg hcomma.1, if_pos rfl]
  | @more x y xs w g g' row hg hx hg' _ ih =>
    have htext : g ++ (w ++ (g' ++ ',' :: row)) ++ rest =
        g ++ (w ++ (g' ++ ',' :: (row ++ rest))) := by simp
    obtain ⟨fuel, rfl⟩ : ∃ n, fuel = n + 1 := ⟨fuel - 1, by simp at hfuel; omega⟩
    rw [htext, separated_succ hg hx hg' (by decide), if_pos rfl,
      ih (List.cons_ne_nil y xs) fuel (by simpa using hfuel)]
    rfl

/-- The white space before the first item of a row may be left out. -/
theorem exists_opens_of_row (h : Row close (Reads item) xs cs) (hne : xs ≠ []) :
    ∃ g row, cs = g ++ row ∧ Space g ∧ Opens row ∧ Row close (Reads item) xs row := by
  have hnone : Space [] := by simp [Space]
  cases h with
  | empty => exact absurd rfl hne
  | last hg hx hg' => exact ⟨_, _, rfl, hg, hx.1.append _, .last hnone hx hg'⟩
  | more hg hx hg' hrest => exact ⟨_, _, rfl, hg, hx.1.append _, .more hnone hx hg' hrest⟩

/-- A row is read up to its closing bracket. -/
theorem enclosed_of_row (hclose : close = ']' ∨ close = '\x7d') (h : Row close (Reads item) xs cs)
    (rest : List Char) : enclosed item close (cs ++ rest) = some (xs, rest) := by
  cases xs with
  | nil =>
    have hplain : close ∉ [' ', '\n', '\t', '\r'] := by
      rcases hclose with rfl | rfl <;> decide
    cases h with
    | empty hg =>
      rw [enclosed, List.append_assoc, skip_append_of_space hg, List.singleton_append,
        skip_cons hplain]
      exact if_pos rfl
  | cons x xs =>
    -- The first item tells that there is one: it does not start like the closing bracket.
    obtain ⟨g, row, rfl, hg, hopens, hrow⟩ := exists_opens_of_row h (List.cons_ne_nil x xs)
    have hlength := hrow.length_le
    have hread := separated_of_row hclose hrow (List.cons_ne_nil x xs) (g ++ row ++ rest).length
      (by simp only [List.length_append]; omega) rest
    rw [enclosed, List.append_assoc, skip_append_of_space hg, skip_of_opens hopens,
      ← List.append_assoc]
    obtain ⟨c, row, rfl, hc⟩ := hopens
    have hother : c ≠ close := by
      rintro rfl
      rcases hclose with rfl | rfl <;> exact hc (by decide)
    exact (if_neg hother).trans hread

end Rows

/-! ## Documents -/

/-- The ways to write an entry of a table, by the ways to write data. -/
inductive Entry (spells : Data → List Char → Prop) : String × Data → List Char → Prop
  /-- The key in quotes, a colon and the data. -/
  | intro {key : String} {d : Data} {k g g' w : List Char} (hkey : SpellsText key.toList k)
      (hg : Space g) (hg' : Space g') (hd : spells d w) :
      Entry spells (key, d) ('"' :: (k ++ '"' :: (g ++ ':' :: (g' ++ w))))

/-- The ways to write data in which lists and tables are nested at most `depth` deep. Numbers are
whole ones that a double holds exactly. -/
def Spells : Nat → Data → List Char → Prop
  | depth + 1, .list ds, cs => ∃ row, cs = '[' :: row ∧ Row ']' (Spells depth) ds row
  | depth + 1, .table es, cs => ∃ row, cs = '\x7b' :: row ∧ Row '\x7d' (Entry (Spells depth)) es row
  | _, .null, cs => cs = "null".toList
  | _, .bool b, cs => cs = (if b then "true" else "false").toList
  | _, .int n, cs => ∃ m < Text.exactLimit, n = Int.ofNat m ∧ cs = Nat.toDigits 10 m
  | _, .text s, cs => ∃ w, cs = '"' :: (w ++ ['"']) ∧ SpellsText s.toList w
  | _, _, _ => False

theorem value_eq_scalar {c : Char} (hlist : c ≠ '[') (htable : c ≠ '\x7b') (depth : Nat)
    (cs : List Char) : value depth (c :: cs) = scalar (c :: cs) := by
  cases depth with
  | zero => rfl
  | succ depth =>
    rw [value.eq_4 (c :: cs) depth (fun _ h => hlist (List.cons.inj h).1)
      fun _ h => htable (List.cons.inj h).1]

theorem scalar_of_isDigit {c : Char} (h : c.isDigit = true) (cs : List Char) :
    scalar (c :: cs) = unsigned false (c :: cs) := by
  have hne (d : Char) (hd : d.isDigit = false) : c ≠ d := by
    rintro rfl
    rw [hd] at h
    exact Bool.false_ne_true h
  rw [scalar.eq_5 (c :: cs) (fun _ h => hne '"' rfl (List.cons.inj h).1)
    (fun _ h => hne 'n' rfl (List.cons.inj h).1) (fun _ h => hne 't' rfl (List.cons.inj h).1)
    fun _ h => hne 'f' rfl (List.cons.inj h).1,
    number.eq_2 (c :: cs) fun _ h => hne '-' rfl (List.cons.inj h).1]

/-- The digits of a number start with a digit, and with no bracket. -/
theorem exists_toDigits_eq_cons (n : Nat) :
    ∃ c cs, Nat.toDigits 10 n = c :: cs ∧ c.isDigit = true ∧
      c ∉ [' ', '\n', '\t', '\r', ']', '\x7d', '[', '\x7b'] := by
  obtain ⟨c, cs, hdigits⟩ := List.exists_cons_of_ne_nil (Nat.toDigits_ne_nil (n := n) (b := 10))
  have hdigit : c.isDigit = true := by
    refine Text.isDigit_of_mem_toDigits (n := n) ?_
    rw [hdigits]
    exact List.mem_cons_self
  refine ⟨c, cs, hdigits, hdigit, fun hmem => ?_⟩
  simp only [List.mem_cons, List.not_mem_nil, or_false] at hmem
  rcases hmem with rfl | rfl | rfl | rfl | rfl | rfl | rfl | rfl <;> exact absurd hdigit (by decide)

/-- Data that holds no other data is read as it is spelled. -/
theorem reads_of_spells_zero {d : Data} {cs : List Char} (h : Spells 0 d cs) (depth : Nat) :
    Reads (value depth) d cs := by
  cases d with
  | null =>
    obtain rfl : cs = "null".toList := h
    exact ⟨⟨'n', _, rfl, by decide⟩, fun _ _ => value_eq_scalar (by decide) (by decide) depth _⟩
  | bool b =>
    obtain rfl : cs = (if b then "true" else "false").toList := h
    cases b <;>
      exact ⟨⟨_, _, rfl, by decide⟩, fun _ _ => value_eq_scalar (by decide) (by decide) depth _⟩
  | text s =>
    obtain ⟨w, rfl, hw⟩ := h
    refine ⟨⟨'"', _, rfl, by decide⟩, fun rest _ => ?_⟩
    rw [List.cons_append, value_eq_scalar (by decide) (by decide), List.append_assoc, scalar,
      List.singleton_append, textBody_of_spellsText hw]
    show some (Data.text (String.ofList s.toList), rest) = _
    rw [String.ofList_toList]
  | int n =>
    obtain ⟨m, hm, rfl, rfl⟩ := h
    have hread := fun rest (hr : Delimited rest) => unsigned_toDigits hm hr
    obtain ⟨c, cs, hdigits, hc, hplain⟩ := exists_toDigits_eq_cons m
    simp only [List.mem_cons, List.not_mem_nil, or_false, not_or] at hplain
    rw [hdigits] at hread ⊢
    refine ⟨⟨c, cs, rfl, by simp [hplain]⟩, fun rest hr => ?_⟩
    rw [List.cons_append, value_eq_scalar hplain.2.2.2.2.2.2.1 hplain.2.2.2.2.2.2.2,
      scalar_of_isDigit hc]
    exact hread rest hr
  | list ds => exact absurd h not_false
  | table es => exact absurd h not_false
  | fraction => exact absurd h not_false
  | moment => exact absurd h not_false

/-- An entry of a table is read when its data is. -/
theorem reads_of_entry {read : List Char → Option (Data × List Char)} {e : String × Data}
    {cs : List Char} (h : Entry (Reads read) e cs) : Reads (member read) e cs := by
  obtain @⟨key, d, k, g, g', w, hkey, hg, hg', hd⟩ := h
  refine ⟨⟨'"', _, rfl, by decide⟩, fun rest hr => ?_⟩
  have htext : '"' :: (k ++ '"' :: (g ++ ':' :: (g' ++ w))) ++ rest =
      '"' :: (k ++ '"' :: (g ++ ':' :: (g' ++ (w ++ rest)))) := by simp
  have hcolon : skip (g ++ ':' :: (g' ++ (w ++ rest))) = ':' :: (g' ++ (w ++ rest)) := by
    rw [skip_append_of_space hg, skip_cons (by decide)]
  have hvalue : skip (g' ++ (w ++ rest)) = w ++ rest := by
    rw [skip_append_of_space hg', skip_of_opens hd.1]
  rw [htext, member, textBody_of_spellsText hkey]
  simp only [hcolon, hvalue, hd.2 rest hr, String.ofList_toList]

/-- Data is read as it is spelled. -/
theorem reads_of_spells {depth : Nat} {d : Data} {cs : List Char} (h : Spells depth d cs) :
    Reads (value depth) d cs := by
  -- The nesting limit goes down with the recursion of the reader, so the induction is on it.
  induction depth generalizing d cs with
  | zero => exact reads_of_spells_zero h 0
  | succ depth ih =>
    cases d with
    | list ds =>
      obtain ⟨row, rfl, hrow⟩ := h
      have hread := enclosed_of_row (.inl rfl) (hrow.mono fun _ _ _ => ih)
      refine ⟨⟨'[', _, rfl, by decide⟩, fun rest _ => ?_⟩
      rw [List.cons_append, value, hread]
      rfl
    | table es =>
      obtain ⟨row, rfl, hrow⟩ := h
      -- The data of an entry is one level deeper than the table.
      have hentry (e : String × Data) (w : List Char) (he : Entry (Spells depth) e w) :
          Reads (member (value depth)) e w := by
        obtain ⟨hkey, hg, hg', hd⟩ := he
        exact reads_of_entry (.intro hkey hg hg' (ih hd))
      have hread := enclosed_of_row (.inr rfl) (hrow.mono fun e _ w => hentry e w)
      refine ⟨⟨'\x7b', _, rfl, by decide⟩, fun rest _ => ?_⟩
      rw [List.cons_append, value, hread]
      rfl
    | null => exact reads_of_spells_zero (d := .null) h _
    | bool b => exact reads_of_spells_zero (d := .bool b) h _
    | text s => exact reads_of_spells_zero (d := .text s) h _
    | int n => exact reads_of_spells_zero (d := .int n) h _
    | fraction => exact absurd h not_false
    | moment => exact absurd h not_false

/-- A document is read as the data that it spells. -/
theorem leading_of_spells {d : Data} {cs : List Char} (h : Spells depthLimit d cs) :
    leading cs = some (d, []) := by
  obtain ⟨hopens, hread⟩ := reads_of_spells h
  have hskip := skip_of_opens hopens []
  have hvalue := hread [] (fun _ hc => nomatch hc)
  rw [List.append_nil] at hskip hvalue
  rw [leading, hskip, hvalue]
  rfl

/-- A document starts and ends with characters that are not blanks. -/
theorem flush_of_spells {depth : Nat} {d : Data} {cs : List Char} (h : Spells depth d cs) :
    Text.Flush cs := by
  have hbracket {first close : Char} {row : List Char} (hfirst : Text.isBlank first = false)
      (hclose : Text.isBlank close = false) (hlast : row.getLast? = some close) :
      Text.Flush (first :: row) := by
    refine ⟨List.cons_ne_nil _ _, ?_, ?_⟩
    · rintro _ ⟨rfl⟩
      exact hfirst
    · rw [List.getLast?_cons, hlast]
      rintro _ ⟨rfl⟩
      exact hclose
  have hzero (h : Spells 0 d cs) : Text.Flush cs := by
    cases d with
    | null =>
      obtain rfl : cs = "null".toList := h
      exact (Text.isWord_of_all (by decide) (by decide)).flush
    | bool b =>
      obtain rfl : cs = (if b then "true" else "false").toList := h
      cases b <;> exact (Text.isWord_of_all (by decide) (by decide)).flush
    | text s =>
      obtain ⟨w, rfl, _⟩ := h
      have hquote : Text.isBlank '"' = false := by decide
      exact hbracket hquote hquote List.getLast?_concat
    | int n =>
      obtain ⟨m, _, _, rfl⟩ := h
      exact Text.IsWord.flush ⟨Nat.toDigits_ne_nil, fun c hc =>
        Text.isBlank_of_isDigit (Text.isDigit_of_mem_toDigits hc)⟩
    | _ => exact absurd h not_false
  cases depth with
  | zero => exact hzero h
  | succ depth =>
    cases d with
    | list ds =>
      obtain ⟨row, rfl, hrow⟩ := h
      exact hbracket (by decide) (by decide) hrow.getLast?
    | table es =>
      obtain ⟨row, rfl, hrow⟩ := h
      exact hbracket (by decide) (by decide) hrow.getLast?
    | _ => exact hzero h

end Json

end OverlayControl
