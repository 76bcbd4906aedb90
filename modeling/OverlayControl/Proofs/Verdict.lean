import OverlayControl.Verdict
import OverlayControl.Proofs.Text.Blank

/-!
# Which replies count as successes

* `Text.isWordChar_toLower` — capital and small letters are word characters alike;
* `Verdict.Pattern.words`, `Verdict.Pattern.starts_eq_true_iff` — the words of a pattern, and the
  texts that start with it;
* `Verdict.exists_mem_words_iff` — the phrases of failure are four words;
* `Verdict.Complains` — a text whose first word is one of failure;
* `Verdict.denied_eq_true_iff` — the texts that are denied are exactly these;
* `Verdict.Succeeds`, `Verdict.succeeded_eq_true_iff` — the replies that count as successes when
  their text is not what was asked for;
* `Verdict.Returns`, `Verdict.succeeded_text_eq_true_iff` — those that do when it is.
-/

namespace OverlayControl

namespace Text

/-- The numbers of the blanks. -/
def blankNumbers : List Nat :=
  [0x9, 0xA, 0xB, 0xC, 0xD, 0x20, 0x85, 0xA0, 0x1680, 0x2000, 0x2001, 0x2002, 0x2003, 0x2004,
    0x2005, 0x2006, 0x2007, 0x2008, 0x2009, 0x200A, 0x2028, 0x2029, 0x202F, 0x205F, 0x3000]

theorem toNat_mem_blankNumbers {c : Char} (h : isBlank c = true) : c.toNat ∈ blankNumbers := by
  simp only [isBlank, Bool.or_eq_true, Bool.and_eq_true, decide_eq_true_eq, beq_iff_eq] at h
  simp only [blankNumbers, List.mem_cons, List.not_mem_nil, or_false]
  omega

/-- No blank belongs to a word. -/
theorem isWordChar_of_isBlank {c : Char} (h : isBlank c = true) : isWordChar c = false := by
  -- There are few blanks, so each is looked up in the table of the characters of words.
  have hranges : ∀ n ∈ blankNumbers, inRanges n wordRanges = false := by decide +kernel
  exact hranges _ (toNat_mem_blankNumbers h)

/-- A blank has no other case. -/
theorem toLower_of_isBlank {c : Char} (h : isBlank c = true) : c.toLower = c := by
  have hcapitals : ∀ n ∈ blankNumbers, ¬(65 ≤ n ∧ n ≤ 90) := by decide
  unfold Char.toLower
  rw [dif_neg]
  exact hcapitals _ (toNat_mem_blankNumbers h)

theorem isAlpha_iff {c : Char} :
    c.isAlpha = true ↔ (65 ≤ c.toNat ∧ c.toNat ≤ 90) ∨ (97 ≤ c.toNat ∧ c.toNat ≤ 122) := by
  unfold Char.isAlpha Char.isUpper Char.isLower
  simp only [Bool.or_eq_true, decide_eq_true_eq, ge_iff_le, UInt32.le_iff_toNat_le,
    Bool.and_eq_true]
  rfl

theorem isWordChar_of_isAlpha {c : Char} (h : c.isAlpha = true) : isWordChar c = true := by
  have hletters : ∀ i < 26, inRanges (65 + i) wordRanges = true ∧
      inRanges (97 + i) wordRanges = true := by decide +kernel
  rcases isAlpha_iff.1 h with ⟨hlow, hhigh⟩ | ⟨hlow, hhigh⟩
  · have hletter := (hletters (c.toNat - 65) (by omega)).1
    rwa [Nat.add_sub_cancel' hlow] at hletter
  · have hletter := (hletters (c.toNat - 97) (by omega)).2
    rwa [Nat.add_sub_cancel' hlow] at hletter

/-- Only the capital letters of ASCII have another small letter. -/
theorem toLower_eq_or (c : Char) :
    c.toLower = c ∨ 65 ≤ c.toNat ∧ c.toNat ≤ 90 ∧ c.toLower.toNat = c.toNat + 32 := by
  by_cases hcapital : c.val ≥ 'A'.val ∧ c.val ≤ 'Z'.val
  · have hlow : 65 ≤ c.toNat := UInt32.le_iff_toNat_le.1 hcapital.1
    have hhigh : c.toNat ≤ 90 := UInt32.le_iff_toNat_le.1 hcapital.2
    refine .inr ⟨hlow, hhigh, ?_⟩
    have hval : c.toLower.val = c.val + 32 := by
      unfold Char.toLower
      rw [dif_pos hcapital]
      rfl
    have hnat : c.toLower.toNat = (c.toNat + 32) % 4294967296 := by
      rw [← Char.toNat_val, hval, UInt32.toNat_add]
      rfl
    rw [hnat]
    omega
  · left
    unfold Char.toLower
    rw [dif_neg hcapital]

/-- The case of a letter makes no difference where all letters of ASCII are alike. -/
theorem apply_toLower {p : Char → Bool} {b : Bool} (h : ∀ c : Char, c.isAlpha = true → p c = b)
    (c : Char) : p c.toLower = p c := by
  rcases toLower_eq_or c with hsame | ⟨hlow, hhigh, hlower⟩
  · rw [hsame]
  · rw [h c (isAlpha_iff.2 (.inl ⟨hlow, hhigh⟩)), h c.toLower (isAlpha_iff.2 (.inr (by omega)))]

theorem isWordChar_toLower (c : Char) : isWordChar c.toLower = isWordChar c :=
  apply_toLower (fun _ => isWordChar_of_isAlpha) c

theorem exists_append_trimEndChars (cs : List Char) :
    ∃ after, cs = trimEndChars cs ++ after ∧ ∀ c ∈ after, isBlank c = true := by
  refine ⟨(cs.reverse.takeWhile isBlank).reverse, ?_, fun c hc => ?_⟩
  · rw [trimEndChars, ← List.reverse_append, List.takeWhile_append_dropWhile, List.reverse_reverse]
  · exact List.all_eq_true.1 List.all_takeWhile c (List.mem_reverse.1 hc)

/-- A text is what is left of it when it is trimmed, with blanks around that. -/
theorem exists_append_trimChars (cs : List Char) :
    ∃ before after, cs = before ++ trimChars cs ++ after ∧ (∀ c ∈ before, isBlank c = true) ∧
      ∀ c ∈ after, isBlank c = true := by
  obtain ⟨after, hend, hafter⟩ := exists_append_trimEndChars (cs.dropWhile isBlank)
  refine ⟨cs.takeWhile isBlank, after, ?_, List.all_eq_true.1 List.all_takeWhile, hafter⟩
  rw [trimChars, List.append_assoc, ← hend, List.takeWhile_append_dropWhile]

/-- Trimming at the end does not reach what ends in a character that is no blank. -/
theorem trimEndChars_append_of_flush {cs : List Char} (h : Flush cs) (rest : List Char) :
    trimEndChars (cs ++ rest) = cs ++ trimEndChars rest := by
  have hlast : cs.reverse.dropWhile isBlank = cs.reverse :=
    dropWhile_eq_self (by rw [List.head?_reverse]; exact h.last)
  rw [trimEndChars, trimEndChars, List.reverse_append, List.dropWhile_append, hlast]
  split
  · next hnil =>
    rw [List.isEmpty_iff.1 hnil, List.reverse_reverse, List.reverse_nil, List.append_nil]
  · rw [List.reverse_append, List.reverse_reverse]

/-- Of a text that starts with blanks and goes on with something else, the blanks before that and
the blanks at the end are trimmed away. -/
theorem trimChars_append_of_isBlank {before cs : List Char} (h : Flush cs)
    (hbefore : ∀ c ∈ before, isBlank c = true) (rest : List Char) :
    trimChars (before ++ cs ++ rest) = cs ++ trimEndChars rest := by
  have hfirst : ∀ c ∈ (cs ++ rest).head?, isBlank c = false := by
    intro c hc
    rw [List.head?_append, Option.mem_def, Option.or_eq_some_iff] at hc
    rcases hc with hc | ⟨hnil, -⟩
    · exact h.first c hc
    · exact absurd (List.head?_eq_none_iff.1 hnil) h.ne_nil
  rw [trimChars, List.append_assoc, List.dropWhile_append_of_pos hbefore, dropWhile_eq_self hfirst,
    trimEndChars_append_of_flush h]

end Text

namespace Verdict

/-- A text whose first word is one of failure, in small or capital letters: blanks may come before
it, and after it comes the end of the text or a character that does not belong to words. -/
def Complains (text : String) : Prop :=
  ∃ blanks word rest, text.toList = blanks ++ word ++ rest ∧ (∀ c ∈ blanks, Text.isBlank c = true) ∧
    String.ofList (word.map Char.toLower) ∈ ["error", "fail", "failed", "failure"] ∧
      ∀ c ∈ rest.head?, Text.isWordChar c = false

/-- The replies that count as successes, if their text is not what was asked for: those in frames by
their status alone, those in plain text only without a complaint. -/
def Succeeds (r : Reply) : Prop :=
  (r.structured = true ∧ 0 ≤ r.status) ∨
    (r.structured = false ∧ r.status = 0 ∧ ¬Complains r.text)

/-- The replies that count as successes, if their text is what was asked for: the text may say
anything. -/
def Returns (r : Reply) : Prop :=
  (r.structured = true ∧ 0 ≤ r.status) ∨ (r.structured = false ∧ r.status = 0)

/-- The words that the phrases of failure are. -/
def failureWords : List String := ["error", "fail", "failed", "failure"]

section Patterns

variable {p : Pattern} {k k' : Cursor}

namespace Cursor

/-- Passing over two words is passing over them one after the other. -/
theorem pass_append (v w : List Char) (k : Cursor) :
    k.pass (v ++ w) = (k.pass v).bind (pass w) := by
  induction v generalizing k with
  | nil => rfl
  | cons l v ih =>
    obtain ⟨before, rest⟩ := k
    cases rest with
    | nil => rfl
    | cons c rest =>
      rw [List.cons_append, pass, pass]
      split
      · exact ih _
      · rfl

/-- A word is passed over that stands there, in any case; the character before the new place is then
the last one of the word. -/
theorem pass_eq_some_iff {w : List Char} :
    k.pass w = some k' ↔
      ∃ start, k.rest = start ++ k'.rest ∧ start.map Char.toLower = w ∧
        k'.before = start.getLast?.or k.before := by
  -- By induction on the word: each of its characters takes one of the text.
  induction w generalizing k with
  | nil =>
    obtain ⟨before, rest⟩ := k
    obtain ⟨before', rest'⟩ := k'
    rw [pass, Option.some.injEq, mk.injEq]
    constructor
    · rintro ⟨rfl, rfl⟩
      exact ⟨[], rfl, rfl, rfl⟩
    · rintro ⟨start, htext, hstart, hbefore⟩
      obtain rfl := List.map_eq_nil_iff.1 hstart
      exact ⟨hbefore.symm, htext⟩
  | cons l w ih =>
    obtain ⟨before, rest⟩ := k
    cases rest with
    | nil =>
      refine ⟨nofun, ?_⟩
      rintro ⟨start, htext, hstart, -⟩
      obtain ⟨rfl, -⟩ := List.append_eq_nil_iff.1 htext.symm
      cases hstart
    | cons c rest =>
      rw [pass]
      constructor
      · intro h
        split at h
        · next hc =>
          obtain ⟨start, htext, hstart, hbefore⟩ := ih.1 h
          refine ⟨c :: start, congrArg (List.cons c) htext, by rw [List.map_cons, hc, hstart], ?_⟩
          rw [hbefore, List.getLast?_cons]
          cases start.getLast? <;> rfl
        · cases h
      · rintro ⟨start, htext, hstart, hbefore⟩
        cases start with
        | nil => cases hstart
        | cons b start =>
          obtain ⟨rfl, htail⟩ := List.cons.inj htext
          obtain ⟨hc, hrest⟩ := List.cons.inj hstart
          rw [if_pos hc]
          refine ih.2 ⟨start, htail, hrest, ?_⟩
          rw [hbefore, List.getLast?_cons]
          cases start.getLast? <;> rfl

end Cursor

namespace Pattern

/-- The words that match a pattern. -/
def words : Pattern → List (List Char)
  | word w => [w.toList]
  | seq p q => p.words.flatMap fun v => q.words.map (v ++ ·)
  | either p q => p.words ++ q.words
  | optional p => p.words ++ [[]]

/-- A pattern ends where one of its words has been passed over. -/
theorem mem_ends_iff : k' ∈ p.ends k ↔ ∃ w ∈ p.words, k.pass w = some k' := by
  induction p generalizing k k' with
  | word w => simp [ends, words]
  | seq p q ihp ihq =>
    simp only [ends, words, List.mem_flatMap, List.mem_map, ihp, ihq]
    constructor
    · rintro ⟨mid, ⟨v, hv, hfirst⟩, w, hw, hsecond⟩
      refine ⟨v ++ w, ⟨v, hv, w, hw, rfl⟩, ?_⟩
      rw [Cursor.pass_append, hfirst]
      exact hsecond
    · rintro ⟨_, ⟨v, hv, w, hw, rfl⟩, hpass⟩
      rw [Cursor.pass_append] at hpass
      obtain ⟨mid, hfirst, hsecond⟩ := Option.bind_eq_some_iff.1 hpass
      exact ⟨mid, ⟨v, hv, hfirst⟩, w, hw, hsecond⟩
  | either p q ihp ihq =>
    simp only [ends, words, List.mem_append, ihp, ihq, or_and_right, exists_or]
  | optional p ih =>
    simp only [ends, words, List.mem_append, ih, or_and_right, exists_or, List.mem_singleton,
      exists_eq_left, Cursor.pass, Option.some.injEq, eq_comm]

/-- For a pattern whose words are made of word characters, the edge after it is the end of the text
or a character that does not belong to words. -/
theorem starts_eq_true_iff {text : List Char}
    (hwords : ∀ w ∈ p.words, w ≠ [] ∧ w.all Text.isWordChar = true) :
    p.starts text = true ↔
      ∃ start rest, text = start ++ rest ∧ start.map Char.toLower ∈ p.words ∧
        ∀ c ∈ rest.head?, Text.isWordChar c = false := by
  have hedge {start rest : List Char} (hstart : start.map Char.toLower ∈ p.words) :
      Cursor.atEdge ⟨start.getLast?.or none, rest⟩ = true ↔
        ∀ c ∈ rest.head?, Text.isWordChar c = false := by
    obtain ⟨hne, hletters⟩ := hwords _ hstart
    obtain ⟨c, hc⟩ : ∃ c, start.getLast? = some c :=
      Option.ne_none_iff_exists'.1 fun h => hne (by rw [List.getLast?_eq_none_iff.1 h]; rfl)
    have hword : Text.isWordChar c = true := by
      rw [← Text.isWordChar_toLower]
      exact List.all_eq_true.1 hletters _ (List.mem_map_of_mem (List.mem_of_getLast? hc))
    rw [hc, Option.some_or]
    cases rest <;> simp [Cursor.atEdge, hword]
  rw [starts, List.any_eq_true]
  constructor
  · rintro ⟨k, hk, hat⟩
    obtain ⟨w, hw, hpass⟩ := mem_ends_iff.1 hk
    obtain ⟨start, htext, rfl, hbefore⟩ := Cursor.pass_eq_some_iff.1 hpass
    obtain ⟨before, rest⟩ := k
    obtain rfl : before = start.getLast?.or none := hbefore
    exact ⟨start, rest, htext, hw, (hedge hw).1 hat⟩
  · rintro ⟨start, rest, htext, hstart, hrest⟩
    refine ⟨⟨start.getLast?.or none, rest⟩, mem_ends_iff.2 ⟨_, hstart, ?_⟩, (hedge hstart).2 hrest⟩
    exact Cursor.pass_eq_some_iff.2 ⟨start, htext, rfl, rfl⟩

end Pattern

/-- The phrases of failure are matched by the words of failure and no others. -/
theorem exists_mem_words_iff {w : List Char} :
    (∃ p ∈ failures, w ∈ p.words) ↔ String.ofList w ∈ failureWords := by
  have hwords : (failures.flatMap Pattern.words).Perm (failureWords.map String.toList) := by decide
  rw [← List.mem_flatMap, hwords.mem_iff, List.mem_map]
  constructor
  · rintro ⟨s, hs, rfl⟩
    rwa [String.ofList_toList]
  · intro h
    exact ⟨_, h, String.toList_ofList⟩

/-- A text is denied that starts, blanks aside, with a word of failure which ends there. -/
theorem denied_eq_true_iff_exists {text : String} :
    denied text = true ↔
      ∃ start rest, Text.trimChars text.toList = start ++ rest ∧
        String.ofList (start.map Char.toLower) ∈ failureWords ∧
          ∀ c ∈ rest.head?, Text.isWordChar c = false := by
  have hletters : ∀ p ∈ failures, ∀ w ∈ p.words, w ≠ [] ∧ w.all Text.isWordChar = true := by
    decide +kernel
  rw [denied, List.any_eq_true]
  constructor
  · rintro ⟨p, hp, hstarts⟩
    obtain ⟨start, rest, htext, hstart, hrest⟩ :=
      (Pattern.starts_eq_true_iff (hletters p hp)).1 hstarts
    exact ⟨start, rest, htext, exists_mem_words_iff.1 ⟨p, hp, hstart⟩, hrest⟩
  · rintro ⟨start, rest, htext, hstart, hrest⟩
    obtain ⟨p, hp, hwords⟩ := exists_mem_words_iff.2 hstart
    exact ⟨p, hp,
      (Pattern.starts_eq_true_iff (hletters p hp)).2 ⟨start, rest, htext, hwords, hrest⟩⟩

end Patterns

/-- Every word of failure consists of letters, so that no blank is trimmed from it. -/
theorem flush_of_mem_failureWords {word : List Char}
    (h : String.ofList (word.map Char.toLower) ∈ failureWords) : Text.Flush word := by
  have hwords : ∀ w ∈ failureWords, w.toList ≠ [] ∧ w.toList.any Text.isBlank = false := by
    decide
  obtain ⟨hne, hblank⟩ := hwords _ h
  rw [String.toList_ofList] at hne hblank
  have hletters : ∀ c ∈ word, Text.isBlank c = false := by
    intro c hc
    rw [← Bool.not_eq_true]
    intro hc'
    -- A blank would stay a blank in small letters, and the words of failure have none.
    have hlower := List.any_eq_false.1 hblank _ (List.mem_map_of_mem hc)
    rw [Text.toLower_of_isBlank hc'] at hlower
    exact hlower hc'
  refine ⟨fun hnil => hne (by rw [hnil, List.map_nil]), fun c hc => ?_, fun c hc => ?_⟩
  · exact hletters c (List.mem_of_head? hc)
  · exact hletters c (List.mem_of_getLast? hc)

/-- Exactly the texts that start with a word of failure are denied. -/
theorem denied_eq_true_iff {text : String} : denied text = true ↔ Complains text := by
  rw [denied_eq_true_iff_exists]
  constructor
  · rintro ⟨word, rest, htrim, hword, hrest⟩
    obtain ⟨before, after, htext, hbefore, hafter⟩ := Text.exists_append_trimChars text.toList
    refine ⟨before, word, rest ++ after, ?_, hbefore, hword, ?_⟩
    · rw [htext, htrim, List.append_assoc, List.append_assoc, List.append_assoc]
    · -- What follows the word may be the blanks that were trimmed away.
      intro c hc
      rw [List.head?_append, Option.mem_def, Option.or_eq_some_iff] at hc
      rcases hc with hc | ⟨-, hc⟩
      · exact hrest c hc
      · exact Text.isWordChar_of_isBlank (hafter c (List.mem_of_head? hc))
  · rintro ⟨blanks, word, rest, htext, hblanks, hword, hrest⟩
    refine ⟨word, Text.trimEndChars rest, ?_, hword, ?_⟩
    · rw [htext, Text.trimChars_append_of_isBlank (flush_of_mem_failureWords hword) hblanks]
    · -- Trimming leaves the start of what follows the word.
      obtain ⟨after, hrest', -⟩ := Text.exists_append_trimEndChars rest
      intro c hc
      refine hrest c ?_
      rw [hrest', List.head?_append, Option.mem_def, Option.or_eq_some_iff]
      exact .inl hc

/-- The verdict on a reply whose text is not what was asked for. -/
theorem succeeded_eq_true_iff {r : Reply} : succeeded r false = true ↔ Succeeds r := by
  unfold succeeded Succeeds
  rw [← denied_eq_true_iff]
  cases r.structured <;> simp

/-- The verdict on a reply whose text is what was asked for. -/
theorem succeeded_text_eq_true_iff {r : Reply} : succeeded r true = true ↔ Returns r := by
  unfold succeeded Returns
  cases r.structured <;> simp

end Verdict

end OverlayControl
