import OverlayControl.Text.Blank

/-!
# Words and lines put together

Words with single blanks between them are read as these words, and lines with newlines between them
as these lines.

* `Text.IsWord`, `Text.isWord_of_mem_wordsOf`, `Text.wordsOf_intercalate` — words;
* `Text.wordsOf_append_of_isBlank`, `Text.wordsOf_append_of_startsWord` — words among any blanks;
* `Text.Flush`, `Text.trimChars_append_of_flush`, `Text.head?_trimChars` — texts without the blanks
  around them;
* `Text.linesOf_intercalate`, `Text.linesOf_append_return` — lines.
-/

namespace OverlayControl.Text

theorem isBlank_of_isDigit {c : Char} (h : c.isDigit = true) : isBlank c = false := by
  have hrange : 48 ≤ c.toNat ∧ c.toNat ≤ 57 := by
    simp only [Char.isDigit, Bool.and_eq_true, decide_eq_true_eq] at h
    exact ⟨UInt32.le_iff_toNat_le.1 h.1, UInt32.le_iff_toNat_le.1 h.2⟩
  rw [Bool.eq_false_iff]
  intro hblank
  simp only [isBlank, Bool.or_eq_true, Bool.and_eq_true, decide_eq_true_eq, beq_iff_eq] at hblank
  omega

/-- A text that is one word: it is not empty and has no blanks. -/
def IsWord (w : List Char) : Prop := w ≠ [] ∧ ∀ c ∈ w, isBlank c = false

theorem isWord_of_all {w : List Char} (hne : w ≠ []) (h : w.all (fun c => !isBlank c) = true) :
    IsWord w := by
  refine ⟨hne, fun c hc => ?_⟩
  have hc := List.all_eq_true.1 h c hc
  rwa [Bool.not_eq_true'] at hc

/-- Words with blanks between them are read one by one. -/
theorem wordsOf_intercalate {ws : List (List Char)} (h : ∀ w ∈ ws, IsWord w) :
    wordsOf ([' '].intercalate ws) = ws := by
  induction ws with
  | nil => rfl
  | cons w ws ih =>
    obtain ⟨hne, hblank⟩ := h w List.mem_cons_self
    cases ws with
    | nil => rw [List.intercalate_singleton, wordsOf_of_blankFree hne hblank]
    | cons v vs =>
      rw [List.intercalate_cons_cons, List.append_assoc, List.singleton_append,
        wordsOf_append_cons hne hblank (by decide), ih fun u hu => h u (List.mem_cons_of_mem w hu)]

theorem head?_intercalate {sep l : List Char} (hne : l ≠ []) (ls : List (List Char)) :
    (sep.intercalate (l :: ls)).head? = l.head? := by
  cases l with
  | nil => exact absurd rfl hne
  | cons c l =>
    cases ls with
    | nil => rw [List.intercalate_singleton]
    | cons m ms =>
      rw [List.intercalate_cons_cons, List.append_assoc, List.cons_append, List.head?_cons,
        List.head?_cons]

/-- A text that starts and ends with characters that are not blanks. -/
structure Flush (cs : List Char) : Prop where
  /-- There is such a character. -/
  ne_nil : cs ≠ []
  /-- It does not start with a blank. -/
  first : ∀ c ∈ cs.head?, isBlank c = false
  /-- It does not end with a blank. -/
  last : ∀ c ∈ cs.getLast?, isBlank c = false

theorem IsWord.flush {w : List Char} (h : IsWord w) : Flush w where
  ne_nil := h.1
  first c hc := h.2 c (List.mem_of_head? hc)
  last c hc := h.2 c (List.mem_of_getLast? hc)

/-- Putting such texts together makes such a text. -/
theorem flush_intercalate {sep : List Char} {ls : List (List Char)} (hne : ls ≠ [])
    (h : ∀ l ∈ ls, Flush l) : Flush (sep.intercalate ls) := by
  induction ls with
  | nil => exact absurd rfl hne
  | cons l ls ih =>
    have hl := h l List.mem_cons_self
    cases ls with
    | nil => rwa [List.intercalate_singleton]
    | cons m ms =>
      have hms := ih (List.cons_ne_nil m ms) fun k hk => h k (List.mem_cons_of_mem l hk)
      rw [List.intercalate_cons_cons, List.append_assoc]
      -- It starts like the first text and ends like the last one.
      refine ⟨List.append_ne_nil_of_left_ne_nil hl.ne_nil _, ?_, ?_⟩
      · rw [← List.append_assoc, ← List.intercalate_cons_cons, head?_intercalate hl.ne_nil]
        exact hl.first
      · intro c hc
        rw [← List.append_assoc, List.getLast?_append, Option.mem_def, Option.or_eq_some_iff] at hc
        rcases hc with hc | ⟨hnone, _⟩
        · exact hms.last c hc
        · exact absurd (List.getLast?_eq_none_iff.1 hnone) hms.ne_nil

theorem dropWhile_eq_self {cs : List Char} (h : ∀ c ∈ cs.head?, isBlank c = false) :
    cs.dropWhile isBlank = cs := by
  cases cs with
  | nil => rfl
  | cons c cs => exact List.dropWhile_cons_of_neg (by simp [h c rfl])

/-- Blanks around such a text are trimmed away. -/
theorem trimChars_append_of_flush {before cs after : List Char} (h : Flush cs)
    (hbefore : ∀ c ∈ before, isBlank c = true) (hafter : ∀ c ∈ after, isBlank c = true) :
    trimChars (before ++ cs ++ after) = cs := by
  have hfirst : ∀ c ∈ (cs ++ after).head?, isBlank c = false := by
    intro c hc
    rw [List.head?_append, Option.mem_def, Option.or_eq_some_iff] at hc
    rcases hc with hc | ⟨hnil, _⟩
    · exact h.first c hc
    · exact absurd (List.head?_eq_none_iff.1 hnil) h.ne_nil
  have hlast : ∀ c ∈ cs.reverse.head?, isBlank c = false := by
    rw [List.head?_reverse]
    exact h.last
  have hafter : ∀ c ∈ after.reverse, isBlank c = true :=
    fun c hc => hafter c (List.mem_reverse.1 hc)
  rw [trimChars, List.append_assoc, List.dropWhile_append_of_pos hbefore,
    dropWhile_eq_self hfirst, trimEndChars, List.reverse_append,
    List.dropWhile_append_of_pos hafter, dropWhile_eq_self hlast, List.reverse_reverse]

theorem trimChars_of_flush {cs : List Char} (h : Flush cs) : trimChars cs = cs := by
  have htrim : trimChars ([] ++ cs ++ []) = cs := trimChars_append_of_flush h (by simp) (by simp)
  rwa [List.nil_append, List.append_nil] at htrim

/-- The words of a text are words. -/
theorem isWord_of_mem_wordsOf {cs w : List Char} (h : w ∈ wordsOf cs) : IsWord w := by
  induction cs generalizing w with
  | nil => cases h
  | cons c cs ih =>
    rw [wordsOf] at h
    split at h
    · exact ih h
    · next hc =>
      have hsingle : IsWord [c] := by
        refine ⟨List.cons_ne_nil c [], fun b hb => ?_⟩
        rw [List.mem_singleton.1 hb, ← Bool.not_eq_true]
        exact hc
      -- The character goes into the first word that follows, or is a word of its own.
      cases hwords : wordsOf cs with
      | nil =>
        rw [hwords, attach, List.mem_singleton] at h
        exact h ▸ hsingle
      | cons v vs =>
        rw [hwords] at h ih
        rw [attach] at h
        split at h
        · rcases List.mem_cons.1 h with rfl | h
          · refine ⟨List.cons_ne_nil c v, fun b hb => ?_⟩
            rcases List.mem_cons.1 hb with rfl | hb
            · exact hsingle.2 b List.mem_cons_self
            · exact (ih List.mem_cons_self).2 b hb
          · exact ih (List.mem_cons_of_mem v h)
        · rcases List.mem_cons.1 h with rfl | h
          · exact hsingle
          · exact ih h

/-- No blanks are trimmed from a word. -/
theorem trim_of_mem_words {s w : String} (h : w ∈ words s) : trim w = w := by
  obtain ⟨cs, hcs, rfl⟩ := List.mem_map.1 h
  rw [trim, String.toList_ofList, trimChars_of_flush (isWord_of_mem_wordsOf hcs).flush]

/-- A text that is trimmed starts with its first character that is no blank. -/
theorem head?_trimChars (cs : List Char) :
    (trimChars cs).head? = cs.find? fun c => !isBlank c := by
  induction cs with
  | nil => rfl
  | cons c cs ih =>
    by_cases hc : isBlank c = true
    · rw [trimChars, List.dropWhile_cons_of_pos hc, ← trimChars, ih,
        List.find?_cons_of_neg (by simp [hc])]
    · -- The trimming at the end does not reach the character.
      have hend : trimEndChars (c :: cs) = c :: trimEndChars cs := by
        rw [trimEndChars, List.reverse_cons, List.dropWhile_append]
        split
        · next hnil => simp [hc, trimEndChars, List.isEmpty_iff.1 hnil]
        · simp [trimEndChars]
      rw [trimChars, List.dropWhile_cons_of_neg hc, hend, List.head?_cons,
        List.find?_cons_of_pos (by simp [hc])]

/-- Blanks before a text do not change its words. -/
theorem wordsOf_append_of_isBlank {g : List Char} (h : ∀ c ∈ g, isBlank c = true)
    (cs : List Char) : wordsOf (g ++ cs) = wordsOf cs := by
  induction g with
  | nil => rfl
  | cons c g ih =>
    rw [List.cons_append, wordsOf_cons_of_isBlank (h c List.mem_cons_self),
      ih fun d hd => h d (List.mem_cons_of_mem c hd)]

/-- A blank at the end of a text does not change its words. -/
theorem wordsOf_concat_of_isBlank {b : Char} (hb : isBlank b = true) (cs : List Char) :
    wordsOf (cs ++ [b]) = wordsOf cs := by
  induction cs with
  | nil => exact wordsOf_cons_of_isBlank hb []
  | cons c cs ih =>
    have hstarts : startsWord (cs ++ [b]) = startsWord cs := by
      cases cs <;> simp [startsWord, hb]
    rw [List.cons_append, wordsOf, wordsOf, ih, hstarts]

/-- A word that no other character follows at once is the first word of the text. -/
theorem wordsOf_append_of_startsWord {w rest : List Char} (hw : IsWord w)
    (hrest : startsWord rest = false) : wordsOf (w ++ rest) = w :: wordsOf rest := by
  cases rest with
  | nil => rw [List.append_nil, wordsOf_of_blankFree hw.1 hw.2, wordsOf_nil]
  | cons b rest =>
    have hb : isBlank b = true := by simpa [startsWord] using hrest
    rw [wordsOf_append_cons hw.1 hw.2 hb, wordsOf_cons_of_isBlank hb]

/-- A carriage return and a newline end a line together. -/
theorem linesOf_append_return {l : List Char} (h : '\n' ∉ l) (rest : List Char) :
    linesOf (l ++ '\r' :: '\n' :: rest) = l :: linesOf rest := by
  induction l with
  | nil => rfl
  | cons c l ih =>
    have hc : c ≠ '\n' := fun e => h (e ▸ List.mem_cons_self)
    have hl : '\n' ∉ l := fun hm => h (List.mem_cons_of_mem c hm)
    have hnext : ∀ cs, l ++ '\r' :: '\n' :: rest ≠ '\n' :: cs := by
      intro cs e
      cases l with
      | nil => exact absurd (List.cons.inj e).1 (by decide)
      | cons d l => exact hl ((List.cons.inj e).1 ▸ List.mem_cons_self)
    rw [List.cons_append, linesOf.eq_4 c _ (fun e => hc e) fun cs _ e => hnext cs e, ih hl]

/-- A text without newlines is its only line. -/
theorem linesOf_of_newlineFree {l : List Char} (hne : l ≠ []) (h : '\n' ∉ l) : linesOf l = [l] := by
  induction l with
  | nil => exact absurd rfl hne
  | cons c l ih =>
    have hc : c ≠ '\n' := fun e => h (e ▸ List.mem_cons_self)
    have hl : '\n' ∉ l := fun hm => h (List.mem_cons_of_mem c hm)
    rw [linesOf.eq_4 c l (fun e => hc e) fun cs _ e => hl (e ▸ List.mem_cons_self)]
    cases l with
    | nil => rfl
    | cons d l => rw [ih (List.cons_ne_nil d l) hl]

/-- Lines with newlines between them are read one by one. -/
theorem linesOf_intercalate {ls : List (List Char)} (h : ∀ l ∈ ls, Flush l ∧ '\n' ∉ l) :
    linesOf (['\n'].intercalate ls) = ls := by
  induction ls with
  | nil => rfl
  | cons l ls ih =>
    obtain ⟨hflush, hnewline⟩ := h l List.mem_cons_self
    cases ls with
    | nil => rw [List.intercalate_singleton, linesOf_of_newlineFree hflush.ne_nil hnewline]
    | cons m ms =>
      -- A carriage return would go with the newline, but no line ends in a blank.
      have hreturn : l.getLast? ≠ some '\r' := fun hlast =>
        absurd (hflush.last '\r' hlast) (by decide)
      rw [List.intercalate_cons_cons, List.append_assoc, List.singleton_append,
        linesOf_append_newline hnewline hreturn, ih fun k hk => h k (List.mem_cons_of_mem l hk)]

theorem newline_not_mem_intercalate {ws : List (List Char)} (h : ∀ w ∈ ws, IsWord w) :
    '\n' ∉ [' '].intercalate ws := by
  induction ws with
  | nil => exact List.not_mem_nil
  | cons w ws ih =>
    have hw : '\n' ∉ w := fun hm =>
      absurd ((h w List.mem_cons_self).2 '\n' hm) (by decide)
    cases ws with
    | nil => rwa [List.intercalate_singleton]
    | cons v vs =>
      have hrest := ih fun u hu => h u (List.mem_cons_of_mem w hu)
      rw [List.intercalate_cons_cons]
      simp only [List.mem_append, List.mem_singleton, not_or]
      exact ⟨⟨hw, by decide⟩, hrest⟩

end OverlayControl.Text
