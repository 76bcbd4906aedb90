/-!
# Blanks, words and lines

Text is cut at the characters of Unicode's `White_Space` property. This module holds that class and
the cuts built on it:

* `isBlank` — the 25 characters of the property;
* `trim`, `trimEnd` — a text without its outer blanks;
* `words` — the maximal blank-free runs of a text, in order;
* `lines` — a text cut at newlines, each line without the carriage return that ends it.

All of them work on `List Char`; the functions on `String` in the namespace `Text` are these, read
through `String.toList`.
-/

namespace OverlayControl.Text

/-- The characters with Unicode's `White_Space` property. -/
def isBlank (c : Char) : Bool :=
  let n := c.toNat
  (9 ≤ n && n ≤ 13) || n == 0x20 || n == 0x85 || n == 0xA0 || n == 0x1680 ||
    (0x2000 ≤ n && n ≤ 0x200A) || n == 0x2028 || n == 0x2029 || n == 0x202F || n == 0x205F ||
    n == 0x3000

/-- The text without the blanks that end it. -/
def trimEndChars (cs : List Char) : List Char :=
  (cs.reverse.dropWhile isBlank).reverse

/-- The text without the blanks around it. -/
def trimChars (cs : List Char) : List Char :=
  trimEndChars (cs.dropWhile isBlank)

/-- Puts a character before the words of the text that follows it: into the first word when the
text goes on without a blank, else as a word of its own. -/
def attach (c : Char) (goesOn : Bool) : List (List Char) → List (List Char)
  | [] => [[c]]
  | w :: ws => if goesOn then (c :: w) :: ws else [c] :: w :: ws

/-- Whether a text starts with a character that is not a blank. -/
def startsWord : List Char → Bool
  | [] => false
  | c :: _ => !isBlank c

/-- The maximal blank-free runs of a text, in order. -/
def wordsOf : List Char → List (List Char)
  | [] => []
  | c :: cs => if isBlank c then wordsOf cs else attach c (startsWord cs) (wordsOf cs)

/-- The lines of a text: a newline ends a line, a carriage return before it belongs to the ending,
and an empty last line is not a line. -/
def linesOf : List Char → List (List Char)
  | [] => []
  | '\n' :: cs => [] :: linesOf cs
  | '\r' :: '\n' :: cs => [] :: linesOf cs
  | c :: cs =>
    match linesOf cs with
    | [] => [[c]]
    | l :: ls => (c :: l) :: ls

/-- The text without the blanks around it. -/
def trim (s : String) : String := String.ofList (trimChars s.toList)

/-- The text without the blanks that end it. -/
def trimEnd (s : String) : String := String.ofList (trimEndChars s.toList)

/-- The maximal blank-free runs of a text, in order. -/
def words (s : String) : List String := (wordsOf s.toList).map String.ofList

/-- The lines of a text. -/
def lines (s : String) : List String := (linesOf s.toList).map String.ofList

/-- Whether a text holds nothing but blanks. -/
def isBlankText (s : String) : Bool := s.toList.all isBlank

/-- The text with its ASCII capitals made small; all else stays. -/
def lower (s : String) : String := String.ofList (s.toList.map Char.toLower)

@[simp]
theorem wordsOf_nil : wordsOf [] = [] := rfl

/-- A blank before a text does not change its words. -/
theorem wordsOf_cons_of_isBlank {c : Char} (h : isBlank c = true) (cs : List Char) :
    wordsOf (c :: cs) = wordsOf cs := by
  simp [wordsOf, h]

/-- A run of blanks has no words. -/
theorem wordsOf_eq_nil_of_all {cs : List Char} (h : cs.all isBlank = true) : wordsOf cs = [] := by
  induction cs with
  | nil => rfl
  | cons c cs ih =>
    simp only [List.all_cons, Bool.and_eq_true] at h
    rw [wordsOf_cons_of_isBlank h.1, ih h.2]

/-- A blank-free text is its only word. -/
theorem wordsOf_of_blankFree {w : List Char} (hw : w ≠ []) (h : ∀ c ∈ w, isBlank c = false) :
    wordsOf w = [w] := by
  induction w with
  | nil => exact absurd rfl hw
  | cons c w ih =>
    have hc : isBlank c = false := h c List.mem_cons_self
    cases w with
    | nil => simp [wordsOf, attach, hc]
    | cons d w =>
      have hd : isBlank d = false := h d (by simp)
      rw [wordsOf, ih (by simp) fun x hx => h x (List.mem_cons_of_mem c hx)]
      simp [hc, hd, attach, startsWord]

/-- A blank-free run that a blank ends is the first word of the text. -/
theorem wordsOf_append_cons {w : List Char} (hw : w ≠ []) (h : ∀ c ∈ w, isBlank c = false)
    {b : Char} (hb : isBlank b = true) (rest : List Char) :
    wordsOf (w ++ b :: rest) = w :: wordsOf rest := by
  induction w with
  | nil => exact absurd rfl hw
  | cons c w ih =>
    have hc : isBlank c = false := h c List.mem_cons_self
    cases w with
    | nil =>
      show wordsOf (c :: b :: rest) = [c] :: wordsOf rest
      rw [wordsOf, wordsOf_cons_of_isBlank hb]
      cases wordsOf rest <;> simp [hc, hb, attach, startsWord]
    | cons d w =>
      have hd : isBlank d = false := h d (by simp)
      show wordsOf (c :: (d :: w ++ b :: rest)) = _
      rw [wordsOf, ih (by simp) fun x hx => h x (List.mem_cons_of_mem c hx)]
      simp [hc, hd, attach, startsWord]

/-- A newline-free text that a newline ends, and that ends in no carriage return, is the first line
of the text. -/
theorem linesOf_append_newline {l : List Char} (h : '\n' ∉ l) (hr : l.getLast? ≠ some '\r')
    (rest : List Char) : linesOf (l ++ '\n' :: rest) = l :: linesOf rest := by
  induction l with
  | nil => rfl
  | cons c l ih =>
    have hc : c ≠ '\n' := fun e => h (e ▸ List.mem_cons_self)
    cases l with
    | nil =>
      have hcr : c ≠ '\r' := fun e => hr (by simp [e])
      show linesOf (c :: '\n' :: rest) = [c] :: linesOf rest
      rw [linesOf.eq_4 c _ (fun e => hc e) (fun _ e _ => hcr e)]
      rfl
    | cons d l =>
      have hd : d ≠ '\n' := fun e => h (by simp [e])
      have ih' := ih (fun hm => h (List.mem_cons_of_mem c hm)) (by simpa using hr)
      show linesOf (c :: d :: (l ++ '\n' :: rest)) = _
      rw [linesOf.eq_4 c _ (fun e => hc e) (fun _ _ e => hd (List.cons.inj e).1)]
      rw [show d :: (l ++ '\n' :: rest) = (d :: l) ++ '\n' :: rest from rfl, ih']

end OverlayControl.Text
