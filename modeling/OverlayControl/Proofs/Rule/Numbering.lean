import OverlayControl.Proofs.Rule.Grammar

/-!
# The line at fault

A listing by lines that cannot be read is refused at the first line at fault: one that says
something and tells no rule. Lines are counted in what is left of the text without the blanks around
it, so that the number misses the lines that end before its first other character.

* `Listing.Faulty`, `Listing.readLinesFrom_eq_error_iff` — the line at which reading stops;
* `Listing.toldFrom`, `Listing.readTold` — what lines say, by number;
* `Listing.leadingLines`, `Listing.toldFrom_linesOf_trimChars` — how many lines the blanks before a
  text make;
* `Listing.refused_for_first_fault` — the number that an error tells, and the one that the line has.
-/

namespace OverlayControl.Listing

/-! ## Lines at fault -/

/-- A line at fault: it is neither blank nor a comment, and its words tell no rule. -/
def Faulty (l : List Char) : Prop := ¬Silent l ∧ ¬∃ r, Tells (wordsIn l) r

theorem not_faulty_of_silent {l : List Char} (h : Silent l) : ¬Faulty l :=
  fun hfaulty => hfaulty.1 h

/-- A line that cannot be read is at fault. -/
theorem faulty_of_error {l : List Char} {what : String} (hl : ¬Silent l)
    (h : readWords (wordsIn l) = .error what) : Faulty l := by
  refine ⟨hl, ?_⟩
  rintro ⟨r, hr⟩
  rw [readWords_eq_ok_iff.2 hr] at h
  cases h

/-- Lines are refused at the first one at fault, for what is wrong with it. -/
theorem readLinesFrom_eq_error_iff {number : Nat} {ls : List (List Char)} {e : ListingError} :
    readLinesFrom number ls = .error e ↔
      ∃ before l after, ls = before ++ l :: after ∧ (∀ m ∈ before, ¬Faulty m) ∧ ¬Silent l ∧
        readWords (wordsIn l) = .error e.what ∧ e.line = number + before.length := by
  -- By induction on the lines; the first one is the line at fault, or comes before it.
  induction ls generalizing number with
  | nil => simp [readLinesFrom]
  | cons l ls ih =>
    have hafter (hl : ¬Faulty l) :
        readLinesFrom (number + 1) ls = .error e ↔
          ∃ before m after, l :: ls = before ++ m :: after ∧ (∀ k ∈ before, ¬Faulty k) ∧
            ¬Silent m ∧ readWords (wordsIn m) = .error e.what ∧
              e.line = number + before.length := by
      rw [ih]
      constructor
      · rintro ⟨before, m, after, rfl, hbefore, hm, hwhat, hline⟩
        refine ⟨l :: before, m, after, rfl, List.forall_mem_cons.2 ⟨hl, hbefore⟩, hm, hwhat, ?_⟩
        rw [hline, List.length_cons]
        omega
      · rintro ⟨_ | ⟨k, before⟩, m, after, hls, hbefore, hm, hwhat, hline⟩
        · cases hls
          exact absurd (faulty_of_error hm hwhat) hl
        · cases hls
          refine ⟨before, m, after, rfl, (List.forall_mem_cons.1 hbefore).2, hm, hwhat, ?_⟩
          rw [hline, List.length_cons]
          omega
    rw [readLinesFrom, ← wordsIn]
    by_cases hl : Silent l
    · rw [if_pos (isSilent_eq_true_iff.2 hl), hafter (not_faulty_of_silent hl)]
    · rw [if_neg (mt isSilent_eq_true_iff.1 hl)]
      cases hread : readWords (wordsIn l) with
      | error what =>
        constructor
        · rintro ⟨⟩
          exact ⟨[], l, ls, rfl, by simp, hl, hread, rfl⟩
        · rintro ⟨_ | ⟨k, before⟩, m, after, hls, hbefore, _, hwhat, hline⟩
          · cases hls
            obtain ⟨line, what'⟩ := e
            rw [hread] at hwhat
            cases hwhat
            cases hline
            rfl
          · cases hls
            exact absurd (faulty_of_error hl hread) (List.forall_mem_cons.1 hbefore).1
      | ok r =>
        rw [← hafter fun hfaulty => hfaulty.2 ⟨r, readWords_eq_ok_iff.1 hread⟩]
        cases readLinesFrom (number + 1) ls with
        | error e' => exact Iff.rfl
        | ok rs => simp [Except.map]

/-! ## What lines say, by number -/

/-- What lines say: the number of each line that says anything, and its words. The first line has
the number `number`. -/
def toldFrom : Nat → List (List Char) → List (Nat × List String)
  | _, [] => []
  | number, l :: ls =>
    if Silent l then toldFrom (number + 1) ls
    else (number, wordsIn l) :: toldFrom (number + 1) ls

/-- Reads what lines say. -/
def readTold : List (Nat × List String) → Except ListingError (List Rule)
  | [] => .ok []
  | (number, words) :: rest =>
    match readWords words with
    | .error what => .error ⟨number, what⟩
    | .ok r => (readTold rest).map (r :: ·)

/-- Nothing of the lines counts but what they say, and in which line. -/
theorem readLinesFrom_eq_readTold (number : Nat) (ls : List (List Char)) :
    readLinesFrom number ls = readTold (toldFrom number ls) := by
  induction ls generalizing number with
  | nil => rfl
  | cons l ls ih =>
    rw [readLinesFrom, toldFrom, ih, ← wordsIn]
    by_cases hl : Silent l
    · rw [if_pos (isSilent_eq_true_iff.2 hl), if_pos hl]
    · rw [if_neg (mt isSilent_eq_true_iff.1 hl), if_neg hl]
      cases hread : readWords (wordsIn l) <;> simp only [readTold, hread]

theorem told_eq_map_toldFrom (number : Nat) (ls : List (List Char)) :
    told ls = (toldFrom number ls).map Prod.snd := by
  induction ls generalizing number with
  | nil => rfl
  | cons l ls ih =>
    rw [toldFrom, told]
    by_cases hl : Silent l
    · rw [if_pos hl, List.filter_cons_of_neg (by simpa using hl), ← ih (number + 1), told]
    · rw [if_neg hl, List.filter_cons_of_pos (by simpa using hl), List.map_cons, List.map_cons,
        ← ih (number + 1), told]

variable {b : Char}

theorem toldFrom_cons (number : Nat) (l : List Char) (ls : List (List Char)) :
    toldFrom number (l :: ls) = toldFrom number [l] ++ toldFrom (number + 1) ls := by
  by_cases hl : Silent l <;> simp [toldFrom, hl]

/-- Lines say the same when both or neither are silent, and their words are the same. -/
theorem toldFrom_singleton_congr {l m : List Char} (hsilent : Silent l ↔ Silent m)
    (hwords : Text.wordsOf l = Text.wordsOf m) (number : Nat) :
    toldFrom number [l] = toldFrom number [m] := by
  simp only [toldFrom, hsilent, wordsIn, hwords]

/-- A blank before a line says nothing. -/
theorem toldFrom_cons_of_isBlank (hb : Text.isBlank b = true) (number : Nat) (l : List Char) :
    toldFrom number [b :: l] = toldFrom number [l] :=
  toldFrom_singleton_congr (by simp [Silent, hb]) (Text.wordsOf_cons_of_isBlank hb l) number

/-- A blank after a line says nothing. -/
theorem toldFrom_concat_of_isBlank (hb : Text.isBlank b = true) (number : Nat) (l : List Char) :
    toldFrom number [l ++ [b]] = toldFrom number [l] :=
  toldFrom_singleton_congr (by simp [Silent, hb]) (Text.wordsOf_concat_of_isBlank hb l) number

/-- A text without newlines says what it says as a line. -/
theorem toldFrom_linesOf_of_newlineFree {l : List Char} (h : '\n' ∉ l) (number : Nat) :
    toldFrom number (Text.linesOf l) = toldFrom number [l] := by
  cases l with
  | nil => rfl
  | cons c l => rw [Text.linesOf_of_newlineFree (List.cons_ne_nil c l) h]

/-- A newline ends a line. A carriage return before it belongs to the ending or to the line; it says
nothing either way. -/
theorem toldFrom_linesOf_append_newline {l : List Char} (h : '\n' ∉ l) (number : Nat)
    (rest : List Char) :
    toldFrom number (Text.linesOf (l ++ '\n' :: rest)) =
      toldFrom number [l] ++ toldFrom (number + 1) (Text.linesOf rest) := by
  by_cases hreturn : l.getLast? = some '\r'
  · obtain ⟨m, rfl⟩ := List.getLast?_eq_some_iff.1 hreturn
    have hm : '\n' ∉ m := fun hmem => h (List.mem_append_left _ hmem)
    rw [List.append_assoc, List.singleton_append, Text.linesOf_append_return hm, toldFrom_cons,
      toldFrom_concat_of_isBlank (by decide)]
  · rw [Text.linesOf_append_newline h hreturn, toldFrom_cons]

/-- A text is one line, or one line and the rest. -/
theorem newlineFree_or_exists (cs : List Char) :
    '\n' ∉ cs ∨ ∃ l rest, cs = l ++ '\n' :: rest ∧ '\n' ∉ l := by
  by_cases h : '\n' ∈ cs
  · exact .inr (List.eq_append_cons_of_mem h)
  · exact .inl h

/-- A newline before a text says nothing, but makes a line. -/
theorem toldFrom_linesOf_newline (number : Nat) (cs : List Char) :
    toldFrom number (Text.linesOf ('\n' :: cs)) = toldFrom (number + 1) (Text.linesOf cs) := rfl

/-- Any other blank before a text says nothing. -/
theorem toldFrom_linesOf_cons_of_isBlank (hb : Text.isBlank b = true) (hnewline : b ≠ '\n')
    (number : Nat) (cs : List Char) :
    toldFrom number (Text.linesOf (b :: cs)) = toldFrom number (Text.linesOf cs) := by
  have hcons {l : List Char} (hl : '\n' ∉ l) : '\n' ∉ b :: l := by
    simp [Ne.symm hnewline, hl]
  rcases newlineFree_or_exists cs with hcs | ⟨l, rest, rfl, hl⟩
  · rw [toldFrom_linesOf_of_newlineFree (hcons hcs), toldFrom_cons_of_isBlank hb,
      toldFrom_linesOf_of_newlineFree hcs]
  · rw [← List.cons_append, toldFrom_linesOf_append_newline (hcons hl),
      toldFrom_cons_of_isBlank hb, toldFrom_linesOf_append_newline hl]

/-- A blank after a text says nothing, a newline included. -/
theorem toldFrom_linesOf_concat_of_isBlank (hb : Text.isBlank b = true) (number : Nat)
    (cs : List Char) :
    toldFrom number (Text.linesOf (cs ++ [b])) = toldFrom number (Text.linesOf cs) := by
  -- Line by line; the blank is behind the last one.
  induction hlength : cs.length using Nat.strongRecOn generalizing number cs with
  | ind n ih =>
    rcases newlineFree_or_exists cs with hcs | ⟨l, rest, rfl, hl⟩
    · by_cases hnewline : b = '\n'
      · subst hnewline
        rw [toldFrom_linesOf_append_newline hcs, toldFrom_linesOf_of_newlineFree hcs]
        exact List.append_nil _
      · have hconcat : '\n' ∉ cs ++ [b] := by simp [hcs, Ne.symm hnewline]
        rw [toldFrom_linesOf_of_newlineFree hconcat, toldFrom_concat_of_isBlank hb,
          toldFrom_linesOf_of_newlineFree hcs]
    · have hshorter : rest.length < n := by
        rw [← hlength]
        simp
        omega
      rw [List.append_assoc, List.cons_append, toldFrom_linesOf_append_newline hl,
        ih rest.length hshorter _ rest rfl, toldFrom_linesOf_append_newline hl]

/-- How many lines of a text end before its first character that is no blank. -/
def leadingLines (cs : List Char) : Nat := (cs.takeWhile Text.isBlank).count '\n'

theorem leadingLines_cons_of_isBlank (hb : Text.isBlank b = true) (cs : List Char) :
    leadingLines (b :: cs) = leadingLines cs + if b = '\n' then 1 else 0 := by
  simp only [leadingLines, List.takeWhile_cons_of_pos hb, List.count_cons, beq_iff_eq]

theorem leadingLines_cons_of_not_isBlank (hb : ¬Text.isBlank b = true) (cs : List Char) :
    leadingLines (b :: cs) = 0 := by
  rw [leadingLines, List.takeWhile_cons_of_neg hb, List.count_nil]

/-- The blanks around a text say nothing, but those before it make lines. -/
theorem toldFrom_linesOf_trimChars (number : Nat) (cs : List Char) :
    toldFrom (number + leadingLines cs) (Text.linesOf (Text.trimChars cs)) =
      toldFrom number (Text.linesOf cs) := by
  have hstart (number : Nat) (cs : List Char) :
      toldFrom (number + leadingLines cs) (Text.linesOf (cs.dropWhile Text.isBlank)) =
        toldFrom number (Text.linesOf cs) := by
    induction cs generalizing number with
    | nil => rfl
    | cons c cs ih =>
      by_cases hc : Text.isBlank c = true
      · rw [List.dropWhile_cons_of_pos hc, leadingLines_cons_of_isBlank hc]
        by_cases hnewline : c = '\n'
        · rw [if_pos hnewline, Nat.add_comm (leadingLines cs), ← Nat.add_assoc, ih, hnewline,
            toldFrom_linesOf_newline]
        · rw [if_neg hnewline, Nat.add_zero, ih, toldFrom_linesOf_cons_of_isBlank hc hnewline]
      · rw [List.dropWhile_cons_of_neg hc, leadingLines_cons_of_not_isBlank hc, Nat.add_zero]
  have hend (number : Nat) (cs : List Char) :
      toldFrom number (Text.linesOf (cs.dropWhile Text.isBlank).reverse) =
        toldFrom number (Text.linesOf cs.reverse) := by
    induction cs with
    | nil => rfl
    | cons c cs ih =>
      by_cases hc : Text.isBlank c = true
      · rw [List.dropWhile_cons_of_pos hc, ih, List.reverse_cons,
          toldFrom_linesOf_concat_of_isBlank hc]
      · rw [List.dropWhile_cons_of_neg hc]
  rw [Text.trimChars, Text.trimEndChars, hend, List.reverse_reverse, hstart]

/-- Reading the lines that are left of a text without the blanks around it is reading all of its
lines, with the lines before counted. -/
theorem readLinesFrom_linesOf_trimChars (number : Nat) (cs : List Char) :
    readLinesFrom (number + leadingLines cs) (Text.linesOf (Text.trimChars cs)) =
      readLinesFrom number (Text.linesOf cs) := by
  rw [readLinesFrom_eq_readTold, toldFrom_linesOf_trimChars, ← readLinesFrom_eq_readTold]

/-- Counting on from a later number moves the number in an error. -/
theorem readLinesFrom_add_of_error {number : Nat} {ls : List (List Char)} {e : ListingError}
    (h : readLinesFrom number ls = .error e) (k : Nat) :
    readLinesFrom (number + k) ls = .error ⟨e.line + k, e.what⟩ := by
  obtain ⟨before, l, after, hls, hbefore, hl, hwhat, hline⟩ := readLinesFrom_eq_error_iff.1 h
  refine readLinesFrom_eq_error_iff.2 ⟨before, l, after, hls, hbefore, hl, hwhat, ?_⟩
  dsimp only
  omega

/-! ## Listings that cannot be read -/

/-- A listing by lines that is refused has been refused for its first line at fault; the error tells
the number of the line among those after the blanks before the text. -/
theorem exists_line_of_read {text : String} {e : ListingError}
    (hhead : ∀ c ∈ (Text.trimChars text.toList).head?, c ≠ '[' ∧ c ≠ '\x7b')
    (h : read text = .error e) :
    ∃ before l after, Text.linesOf text.toList = before ++ l :: after ∧
      (∀ m ∈ before, ¬Faulty m) ∧ Faulty l ∧ readWords (wordsIn l) = .error e.what ∧
        e.line + leadingLines text.toList = before.length + 1 := by
  rw [read_of_lines rfl hhead] at h
  have hshifted := readLinesFrom_add_of_error h (leadingLines text.toList)
  rw [readLinesFrom_linesOf_trimChars] at hshifted
  obtain ⟨before, l, after, hls, hbefore, hl, hwhat, hline⟩ :=
    readLinesFrom_eq_error_iff.1 hshifted
  exact ⟨before, l, after, hls, hbefore, faulty_of_error hl hwhat, hwhat,
    hline.trans (Nat.add_comm 1 _)⟩

/-- A listing by lines is refused exactly when one of its lines is at fault. -/
theorem exists_error_iff {text : String}
    (hhead : ∀ c ∈ (Text.trimChars text.toList).head?, c ≠ '[' ∧ c ≠ '\x7b') :
    (∃ e, read text = .error e) ↔ ∃ l ∈ Text.linesOf text.toList, Faulty l := by
  constructor
  · rintro ⟨e, h⟩
    obtain ⟨before, l, after, hls, _, hl, _⟩ := exists_line_of_read hhead h
    exact ⟨l, by simp [hls], hl⟩
  · rintro ⟨l, hmem, hsays, hnone⟩
    cases hread : read text with
    | error e => exact ⟨e, rfl⟩
    | ok rules =>
      -- All lines of a listing that is read are read.
      rw [read_of_lines rfl hhead] at hread
      have hlines : readLinesFrom (1 + leadingLines text.toList)
          (Text.linesOf (Text.trimChars text.toList)) = .ok rules := by
        rw [readLinesFrom_eq_ok_iff] at hread ⊢
        exact hread
      rw [readLinesFrom_linesOf_trimChars] at hlines
      exact absurd (exists_readLinesFrom_iff.1 ⟨rules, hlines⟩ l hmem hsays) hnone

/-- A listing by lines is refused exactly when one of its lines is at fault, and then for the first
one. The error tells which line this is after the blanks before the text: that is its number in the
text exactly when no line ends among these blanks, and else it misses as many lines as end there. -/
theorem refused_for_first_fault (text : String)
    (hhead : ∀ c ∈ (Text.trimChars text.toList).head?, c ≠ '[' ∧ c ≠ '\x7b') :
    ((∃ e, read text = .error e) ↔ ∃ l ∈ Text.linesOf text.toList, Faulty l) ∧
    ∀ e, read text = .error e →
      ∃ before l after, Text.linesOf text.toList = before ++ l :: after ∧
        (∀ m ∈ before, ¬Faulty m) ∧ Faulty l ∧ readWords (wordsIn l) = .error e.what ∧
          e.line + leadingLines text.toList = before.length + 1 ∧
            (e.line = before.length + 1 ↔ leadingLines text.toList = 0) := by
  refine ⟨exists_error_iff hhead, fun e h => ?_⟩
  obtain ⟨before, l, after, hls, hbefore, hl, hwhat, hline⟩ := exists_line_of_read hhead h
  exact ⟨before, l, after, hls, hbefore, hl, hwhat, hline, by omega⟩

/-- Two lines end before the comment that the text starts with, so the fifth line is refused as the
third one. -/
theorem refused_for_first_fault_of_blank_lines :
    let text := "\r\n \n\t# rules\nhide /a\r\nshred /b\n"
    let e : ListingError := ⟨3, "unknown rule kind 'shred'"⟩
    (∀ c ∈ (Text.trimChars text.toList).head?, c ≠ '[' ∧ c ≠ '\x7b') ∧ read text = .error e ∧
      ∃ before l after, Text.linesOf text.toList = before ++ l :: after ∧
        (∀ m ∈ before, ¬Faulty m) ∧ Faulty l ∧ before.length + 1 = 5 := by
  intro text e
  have hhead : ∀ c ∈ (Text.trimChars text.toList).head?, c ≠ '[' ∧ c ≠ '\x7b' := by
    have hhash : (Text.trimChars text.toList).head? = some '#' := by decide +kernel
    simp [hhash]
  have hread : read text = .error e := by
    have hlines : Text.linesOf (Text.trimChars text.toList) =
        ["# rules".toList, "hide /a".toList, "shred /b".toList] := by decide +kernel
    rw [read_of_lines rfl hhead, hlines]
    rfl
  have hleading : leadingLines text.toList = 2 := by decide +kernel
  obtain ⟨before, l, after, hls, hbefore, hl, _, hline, _⟩ :=
    (refused_for_first_fault text hhead).2 e hread
  refine ⟨hhead, hread, before, l, after, hls, hbefore, hl, ?_⟩
  rw [← hline, hleading]

end OverlayControl.Listing
