import Mathlib.Data.List.TakeWhile
import OverlayControl.Proofs.Verdict

/-!
# The first word decides

Whether a text complains is told by its first word: the longest run of word characters that it
starts with, blanks before it left aside. A regular word of failure that goes on with another word
character, be it a letter of another script, a digit, an underscore or a mark, is another word.

* `Text.Trims`, `Text.trims_iff` — a text without the blanks around it;
* `Text.IsLeadingWord`, `Text.isLeadingWord_iff` — the longest start of a text that is a word;
* `Text.leadingWord_map_toLower` — the case of letters does not change where it ends;
* `Verdict.denied_eq_true_iff_leadingWord` — the verdict goes by the leading word;
* `Verdict.denied_by_leading_word` — this, and what the verdict does not depend on.
-/

namespace OverlayControl

namespace Text

variable {cs core word rest : List Char}

/-- The text is the core with blanks around it, and the core neither starts nor ends with one. -/
def Trims (cs core : List Char) : Prop :=
  (∃ before after, cs = before ++ core ++ after ∧ (∀ c ∈ before, isBlank c = true) ∧
    ∀ c ∈ after, isBlank c = true) ∧
  (∀ c ∈ core.head?, isBlank c = false) ∧ ∀ c ∈ core.getLast?, isBlank c = false

/-- The word is the longest start of the text that consists of word characters. -/
structure IsLeadingWord (cs word : List Char) : Prop where
  /-- The text starts with it. -/
  start : word <+: cs
  /-- It consists of word characters. -/
  letters : ∀ c ∈ word, isWordChar c = true
  /-- No longer start of the text does. -/
  longest : ∀ w, w <+: cs → (∀ c ∈ w, isWordChar c = true) → w.length ≤ word.length

section Trimming

theorem getLast?_trimEndChars {c : Char} (h : c ∈ (trimEndChars cs).getLast?) :
    isBlank c = false := by
  rw [trimEndChars, List.getLast?_reverse, Option.mem_def] at h
  have hstop := List.head?_dropWhile_not isBlank cs.reverse
  rwa [h] at hstop

theorem head?_trimChars_eq_false {c : Char} (h : c ∈ (trimChars cs).head?) : isBlank c = false := by
  rw [head?_trimChars, Option.mem_def] at h
  simpa using List.find?_some h

/-- A text without the blanks around it is what it is trimmed to. -/
theorem trims_iff : Trims cs core ↔ core = trimChars cs := by
  constructor
  · rintro ⟨⟨before, after, rfl, hbefore, hafter⟩, hfirst, hlast⟩
    by_cases hnil : core = []
    · -- All of the text is blank.
      subst hnil
      have hall : ∀ c ∈ before ++ after, isBlank c = true := by
        intro c hc
        exact (List.mem_append.1 hc).elim (hbefore c) (hafter c)
      rw [List.append_nil, trimChars, List.dropWhile_eq_nil_iff.2 hall]
      rfl
    · exact (trimChars_append_of_flush ⟨hnil, hfirst, hlast⟩ hbefore hafter).symm
  · rintro rfl
    exact ⟨exists_append_trimChars cs, fun c => head?_trimChars_eq_false,
      fun c => getLast?_trimEndChars⟩

/-- Blanks around a text are trimmed away. -/
theorem trimChars_append_of_isBlank_around {before after : List Char}
    (hbefore : ∀ c ∈ before, isBlank c = true) (hafter : ∀ c ∈ after, isBlank c = true) :
    trimChars (before ++ cs ++ after) = trimChars cs := by
  obtain ⟨⟨front, back, hcs, hfront, hback⟩, hfirst, hlast⟩ := trims_iff.2 (Eq.refl (trimChars cs))
  symm
  rw [← trims_iff]
  refine ⟨⟨before ++ front, back ++ after, ?_, fun c hc => ?_, fun c hc => ?_⟩, hfirst, hlast⟩
  · calc before ++ cs ++ after
        = before ++ (front ++ trimChars cs ++ back) ++ after := by rw [← hcs]
      _ = before ++ front ++ trimChars cs ++ (back ++ after) := by simp only [List.append_assoc]
  · exact (List.mem_append.1 hc).elim (hbefore c) (hfront c)
  · exact (List.mem_append.1 hc).elim (hback c) (hafter c)

end Trimming

section Leading

theorem isBlank_of_isWordChar {c : Char} (h : isWordChar c = true) : isBlank c = false := by
  rw [← Bool.not_eq_true]
  intro hblank
  rw [isWordChar_of_isBlank hblank] at h
  cases h

theorem isLeadingWord_iff : IsLeadingWord cs word ↔ word = leadingWord cs := by
  have hletters : ∀ c ∈ leadingWord cs, isWordChar c = true :=
    List.all_eq_true.1 List.all_takeWhile
  have hstart : leadingWord cs <+: cs := List.takeWhile_prefix isWordChar
  have hlongest {w : List Char} (hw : w <+: cs) (hwletters : ∀ c ∈ w, isWordChar c = true) :
      w <+: leadingWord cs := by
    obtain ⟨rest, rfl⟩ := hw
    rw [leadingWord, List.takeWhile_append_of_pos hwletters]
    exact List.prefix_append w _
  constructor
  · rintro ⟨hword, hwordletters, hmax⟩
    exact (hlongest hword hwordletters).eq_of_length_le (hmax _ hstart hletters)
  · rintro rfl
    exact ⟨hstart, hletters, fun w hw hwletters => (hlongest hw hwletters).length_le⟩

/-- Word characters up to one that is none are the leading word. -/
theorem leadingWord_append (hword : ∀ c ∈ word, isWordChar c = true)
    (hrest : ∀ c ∈ rest.head?, isWordChar c = false) : leadingWord (word ++ rest) = word := by
  rw [leadingWord, List.takeWhile_append_of_pos hword]
  have hnone : rest.takeWhile isWordChar = [] := by
    cases rest with
    | nil => rfl
    | cons c rest => exact List.takeWhile_cons_of_neg (by simp [hrest c rfl])
  rw [hnone, List.append_nil]

/-- Blanks at the end of a text are not part of its leading word. -/
theorem leadingWord_append_of_isBlank {after : List Char} (hafter : ∀ c ∈ after, isBlank c = true) :
    leadingWord (cs ++ after) = leadingWord cs := by
  induction cs with
  | nil =>
    show leadingWord ([] ++ after) = []
    refine leadingWord_append (fun c hc => nomatch hc) fun c hc => ?_
    exact isWordChar_of_isBlank (hafter c (List.mem_of_head? hc))
  | cons c cs ih =>
    rw [leadingWord, leadingWord] at ih
    rw [leadingWord, leadingWord, List.cons_append, List.takeWhile_cons, List.takeWhile_cons, ih]

/-- Of the trimming, the leading word depends on the blanks before the text alone. -/
theorem leadingWord_trimChars (cs : List Char) :
    leadingWord (trimChars cs) = leadingWord (cs.dropWhile isBlank) := by
  obtain ⟨after, hend, hafter⟩ := exists_append_trimEndChars (cs.dropWhile isBlank)
  calc leadingWord (trimChars cs)
      = leadingWord (trimChars cs ++ after) := (leadingWord_append_of_isBlank hafter).symm
    _ = leadingWord (cs.dropWhile isBlank) := by rw [trimChars, ← hend]

/-- A word after blanks is the leading word of the text, whatever comes after its end. -/
theorem leadingWord_trimChars_append {before : List Char} {c : Char}
    (hbefore : ∀ b ∈ before, isBlank b = true) (hword : ∀ b ∈ word, isWordChar b = true)
    (hc : isWordChar c = false) (hstart : word ≠ [] ∨ isBlank c = false) :
    leadingWord (trimChars (before ++ word ++ c :: rest)) = word := by
  have hfirst : ∀ b ∈ (word ++ c :: rest).head?, isBlank b = false := by
    intro b hb
    cases word with
    | nil =>
      obtain rfl : c = b := Option.some.inj hb
      exact hstart.resolve_left fun hne => hne rfl
    | cons d word =>
      obtain rfl : d = b := Option.some.inj hb
      exact isBlank_of_isWordChar (hword d List.mem_cons_self)
  rw [leadingWord_trimChars, List.append_assoc, List.dropWhile_append_of_pos hbefore,
    dropWhile_eq_self hfirst]
  refine leadingWord_append hword fun b hb => ?_
  obtain rfl : c = b := Option.some.inj hb
  exact hc

end Leading

section Cases

theorem isBlank_of_isAlpha {c : Char} (h : c.isAlpha = true) : isBlank c = false :=
  isBlank_of_isWordChar (isWordChar_of_isAlpha h)

theorem isBlank_toLower (c : Char) : isBlank c.toLower = isBlank c :=
  apply_toLower (fun _ => isBlank_of_isAlpha) c

theorem trimChars_map_toLower (cs : List Char) :
    trimChars (cs.map Char.toLower) = (trimChars cs).map Char.toLower := by
  have hblank : isBlank ∘ Char.toLower = isBlank := funext isBlank_toLower
  simp only [trimChars, trimEndChars, List.dropWhile_map, ← List.map_reverse, hblank]

theorem leadingWord_map_toLower (cs : List Char) :
    leadingWord (cs.map Char.toLower) = (leadingWord cs).map Char.toLower := by
  have hword : isWordChar ∘ Char.toLower = isWordChar := funext isWordChar_toLower
  rw [leadingWord, List.takeWhile_map, hword, leadingWord]

end Cases

end Text

namespace Verdict

/-- The verdict goes by the leading word of a text, blanks around the text aside. -/
theorem denied_eq_true_iff_leadingWord {text : String} :
    denied text = true ↔
      String.ofList ((Text.leadingWord (Text.trimChars text.toList)).map Char.toLower) ∈
        failureWords := by
  rw [denied_eq_true_iff_exists]
  constructor
  · rintro ⟨start, rest, htrim, hstart, hrest⟩
    -- The start of the text is made of letters, as the word of failure is.
    have hfailures : ∀ w ∈ failureWords, w.toList.all Text.isWordChar = true := by decide +kernel
    have hword := hfailures _ hstart
    rw [String.toList_ofList] at hword
    have hletters : ∀ c ∈ start, Text.isWordChar c = true := by
      intro c hc
      rw [← Text.isWordChar_toLower]
      exact List.all_eq_true.1 hword _ (List.mem_map_of_mem hc)
    rwa [htrim, Text.leadingWord_append hletters hrest]
  · intro h
    refine ⟨Text.leadingWord (Text.trimChars text.toList),
      (Text.trimChars text.toList).dropWhile Text.isWordChar, ?_, h, fun c hc => ?_⟩
    · rw [Text.leadingWord, List.takeWhile_append_dropWhile]
    · have hstop := List.head?_dropWhile_not Text.isWordChar (Text.trimChars text.toList)
      rw [Option.mem_def] at hc
      rwa [hc] at hstop

/-- Texts with one leading word, small and capital letters alike, have one verdict. -/
theorem denied_congr {text text' : String}
    (h : (Text.leadingWord (Text.trimChars text.toList)).map Char.toLower =
      (Text.leadingWord (Text.trimChars text'.toList)).map Char.toLower) :
    denied text = denied text' := by
  rw [Bool.eq_iff_iff, denied_eq_true_iff_leadingWord, denied_eq_true_iff_leadingWord, h]

/-- A text complains exactly when the longest start of it that is made of word characters, blanks
around the text aside, is one of the words `error`, `fail`, `failed` and `failure`, in small or
capital letters. So blanks around it do not change the verdict, nor does the case of its letters,
nor what comes after the first character that belongs to no word. -/
theorem denied_by_leading_word (text : String) :
    (denied text = true ↔ ∃ core word, Text.Trims text.toList core ∧ Text.IsLeadingWord core word ∧
      String.ofList (word.map Char.toLower) ∈ ["error", "fail", "failed", "failure"]) ∧
    (∀ before after : List Char, (∀ c ∈ before, Text.isBlank c = true) →
      (∀ c ∈ after, Text.isBlank c = true) →
      denied (String.ofList (before ++ text.toList ++ after)) = denied text) ∧
    (∀ text', Text.lower text' = Text.lower text → denied text' = denied text) ∧
    ∀ (before word : List Char) (c : Char) (rest rest' : List Char),
      (∀ b ∈ before, Text.isBlank b = true) → (∀ b ∈ word, Text.isWordChar b = true) →
      Text.isWordChar c = false → (word ≠ [] ∨ Text.isBlank c = false) →
      text = String.ofList (before ++ word ++ c :: rest) →
      denied (String.ofList (before ++ word ++ c :: rest')) = denied text := by
  refine ⟨?_, fun before after hbefore hafter => ?_, fun text' h => ?_, ?_⟩
  · simp only [denied_eq_true_iff_leadingWord, Text.trims_iff, Text.isLeadingWord_iff]
    constructor
    · intro h
      exact ⟨_, _, rfl, rfl, h⟩
    · rintro ⟨_, _, rfl, rfl, h⟩
      exact h
  · apply denied_congr
    rw [String.toList_ofList, Text.trimChars_append_of_isBlank_around hbefore hafter]
  · have hlower : text'.toList.map Char.toLower = text.toList.map Char.toLower :=
      String.ofList_injective h
    apply denied_congr
    rw [← Text.leadingWord_map_toLower, ← Text.leadingWord_map_toLower,
      ← Text.trimChars_map_toLower, ← Text.trimChars_map_toLower, hlower]
  · rintro before word c rest rest' hbefore hword hc hstart rfl
    apply denied_congr
    rw [String.toList_ofList, String.toList_ofList,
      Text.leadingWord_trimChars_append hbefore hword hc hstart,
      Text.leadingWord_trimChars_append hbefore hword hc hstart]

/-- A complaint after a wide blank: more blanks around it, other capital letters and another text
after the colon leave the verdict as it is. -/
theorem denied_by_leading_word_of_wide_blank :
    denied "\u3000Failed: no engine" = true ∧ denied " \n\u3000Failed: no engine\t" = true ∧
      denied "\u3000faiLED: NO engine" = true ∧ denied "\u3000Failed:" = true := by
  obtain ⟨hiff, haround, hcase, hrest⟩ := denied_by_leading_word "\u3000Failed: no engine"
  have hdenied : denied "\u3000Failed: no engine" = true :=
    hiff.2 ⟨"Failed: no engine".toList, "Failed".toList, Text.trims_iff.2 (by decide +kernel),
      Text.isLeadingWord_iff.2 (by decide +kernel), by decide⟩
  refine ⟨hdenied, ?_, ?_, ?_⟩
  · exact (haround [' ', '\n'] ['\t'] (List.all_eq_true.1 (by decide))
      (List.all_eq_true.1 (by decide))).trans hdenied
  · exact (hcase _ (by decide)).trans hdenied
  · exact (hrest ['\u3000'] "Failed".toList ':' " no engine".toList []
      (List.all_eq_true.1 (by decide)) (List.all_eq_true.1 (by decide +kernel))
      (by decide +kernel) (.inl (by decide)) (by decide)).trans hdenied

/-- A word of failure that a combining mark goes on with is another word. -/
example : denied "fail\u0301: x" = false ∧ denied "failed_" = false ∧
    denied "Fail-safe" = true := by decide +kernel

end Verdict

end OverlayControl
