import OverlayControl.Proofs.Text.Decimal
import OverlayControl.Proofs.Utf8
import OverlayControl.Shell.Line

/-!
# The words of a command line

How a POSIX shell cuts a line into words: blanks outside quotes separate them, apostrophes enclose
literal text, and a backslash outside quotes takes the next character literally. A line in which a
character with another meaning stands outside quotes is not read at all.

* `Reading.step`, `split` — a line, read character by character;
* `Spells` — a piece of a line that is read as one given word;
* `spells_escape`, `spells_self` — quoted words and plain ones;
* `split_intercalate` — words with blanks between them;
* `split_lineOf` — the lines of commands that name paths.
-/

namespace OverlayControl.Shell

/-- How the next character of a line is taken. -/
inductive Quoting
  /-- As it is outside quotes. -/
  | bare
  /-- As it is between apostrophes. -/
  | literal
  /-- As it is after a backslash. -/
  | escaped
  deriving DecidableEq

/-- What has been read of a line. -/
structure Reading where
  /-- The words that have come to their end. -/
  words : List (List Char) := []
  /-- The word that has begun, if any. -/
  word : Option (List Char) := none
  /-- How the next character is taken. -/
  quoting : Quoting := .bare
  deriving DecidableEq

/-- Whether a character separates words. -/
def isSeparator (c : Char) : Bool := c == ' ' || c == '\t'

/-- The characters that have, or may have, a meaning of their own to the shell when they are not
quoted: they end a command, redirect, group, expand, quote in another way, match file names, start a
comment, name a home directory or assign. -/
def specials : List Char :=
  ['|', '&', ';', '<', '>', '(', ')', '$', '\x60', '"', '\n', '*', '?', '[', '#', '~', '=', '%']

namespace Reading

/-- Begins a word, unless one has begun. -/
def begin (r : Reading) : Reading := { r with word := some (r.word.getD []) }

/-- Adds a character to the word. -/
def push (r : Reading) (c : Char) : Reading := { r with word := some (r.word.getD [] ++ [c]) }

/-- Ends the word, if one has begun. -/
def close (r : Reading) : Reading := { r with words := r.words ++ r.word.toList, word := none }

/-- Reads one more character. A newline after a backslash is no character of a word, but joins
lines; it is not read here. -/
def step (r : Reading) (c : Char) : Option Reading :=
  match r.quoting with
  | .literal => some (if c = '\'' then { r with quoting := .bare } else r.push c)
  | .escaped => if c = '\n' then none else some { r.push c with quoting := .bare }
  | .bare =>
    if isSeparator c then some r.close
    else if c = '\'' then some { r.begin with quoting := .literal }
    else if c = '\\' then some { r.begin with quoting := .escaped }
    else if c ∈ specials then none
    else some (r.push c)

end Reading

/-- The words of a line; none if quotes are left open or a special character stands outside
quotes. -/
def split (line : String) : Option (List String) :=
  match line.toList.foldlM Reading.step {} with
  | some r => if r.quoting = .bare then some (r.close.words.map String.ofList) else none
  | none => none

/-- A piece of a line that is read as the given word and leaves no quotes open. -/
def Spells (piece word : String) : Prop :=
  ∀ words, piece.toList.foldlM Reading.step { words } = some { words, word := some word.toList }

/-- The inside of quotes is read literally. -/
theorem foldlM_step_escapeChars (cs : List Char) (words : List (List Char)) (word : List Char) :
    (escapeChars cs).foldlM Reading.step { words, word := some word, quoting := .literal } =
      some { words, word := some (word ++ cs), quoting := .literal } := by
  -- By induction on the text, from any beginning of a word.
  induction cs generalizing word with
  | nil => simp [escapeChars]
  | cons c cs ih =>
    by_cases h : c = '\''
    · -- An apostrophe leaves the quotes, is taken literally, and enters quotes again.
      simp [escapeChars, h, Reading.step, Reading.begin, Reading.push, isSeparator, ih]
    · simp [escapeChars, h, Reading.step, Reading.push, ih]

/-- A quoted text is read as itself, whatever its characters. -/
theorem spells_escape (s : String) : Spells (escape s) s := by
  intro words
  simp [escape, Reading.step, Reading.begin, isSeparator, foldlM_step_escapeChars]

/-- Whether a character stands for itself outside quotes. -/
def isPlain (c : Char) : Bool := c ∉ ' ' :: '\t' :: '\'' :: '\\' :: specials

/-- A word that the shell takes as it is written. -/
def IsPlain (w : String) : Prop := w ≠ "" ∧ ∀ c ∈ w.toList, isPlain c = true

instance (w : String) : Decidable (IsPlain w) :=
  decidable_of_iff (w ≠ "" ∧ w.toList.all isPlain = true) (and_congr_right' List.all_eq_true)

theorem step_of_isPlain {c : Char} (h : isPlain c = true) {r : Reading}
    (hbare : r.quoting = .bare) : r.step c = some (r.push c) := by
  simp only [isPlain, List.mem_cons, not_or, decide_eq_true_eq] at h
  obtain ⟨hspace, htab, hquote, hbackslash, hspecial⟩ := h
  simp [Reading.step, hbare, isSeparator, hspace, htab, hquote, hbackslash, hspecial]

theorem foldlM_step_plain {cs : List Char} (h : ∀ c ∈ cs, isPlain c = true)
    (words : List (List Char)) (word : List Char) :
    cs.foldlM Reading.step { words, word := some word } =
      some { words, word := some (word ++ cs) } := by
  induction cs generalizing word with
  | nil => simp
  | cons c cs ih =>
    rw [List.foldlM_cons, step_of_isPlain (h c List.mem_cons_self) rfl]
    simpa [Reading.push] using ih (fun d hd => h d (List.mem_cons_of_mem c hd)) (word ++ [c])

/-- A plain word is read as itself. -/
theorem spells_self {w : String} (h : IsPlain w) : Spells w w := by
  obtain ⟨hne, hplain⟩ := h
  intro words
  cases hw : w.toList with
  | nil => exact absurd (String.toList_eq_nil_iff.1 hw) hne
  | cons c cs =>
    rw [hw] at hplain
    rw [List.foldlM_cons, step_of_isPlain (hplain c List.mem_cons_self) rfl]
    simpa [Reading.push] using
      foldlM_step_plain (fun d hd => hplain d (List.mem_cons_of_mem c hd)) words [c]

/-- Pieces with blanks between them are read one by one. -/
theorem foldlM_step_intercalate {ws : List (String × String)} (h : ∀ x ∈ ws, Spells x.1 x.2)
    (words : List (List Char)) :
    ∃ r, ([' '].intercalate (ws.map fun x => x.1.toList)).foldlM Reading.step { words } = some r ∧
      r.quoting = .bare ∧ r.close.words = words ++ ws.map fun x => x.2.toList := by
  induction ws generalizing words with
  | nil => exact ⟨{ words }, by simp, rfl, by simp [Reading.close]⟩
  | cons x ws ih =>
    have hx : Spells x.1 x.2 := h x List.mem_cons_self
    cases ws with
    | nil => exact ⟨_, by simpa using hx words, rfl, rfl⟩
    | cons y ys =>
      obtain ⟨r, hr, hbare, hwords⟩ :=
        ih (fun z hz => h z (List.mem_cons_of_mem x hz)) (words ++ [x.2.toList])
      refine ⟨r, ?_, hbare, by simpa using hwords⟩
      rw [List.map_cons, List.map_cons, List.intercalate_cons_cons, List.foldlM_append,
        List.foldlM_append, hx words]
      -- The blank after the first piece ends its word.
      simpa [Reading.step, isSeparator, Reading.close] using hr

/-- A line of pieces with blanks between them is cut into their words. -/
theorem split_intercalate (ws : List (String × String)) (h : ∀ x ∈ ws, Spells x.1 x.2) :
    split (String.intercalate " " (ws.map Prod.fst)) = some (ws.map Prod.snd) := by
  obtain ⟨r, hr, hbare, hwords⟩ := foldlM_step_intercalate h []
  rw [split, String.toList_intercalate]
  simp [Function.comp_def, hr, hbare, hwords]

/-- Quoting makes one word of any text. -/
theorem split_escape (s : String) : split (escape s) = some [s] := by
  simpa using split_intercalate [(escape s, s)] (by simpa using spells_escape s)

-- Without the quotes a text may be no word, or several.
example : split "it's" = none ∧ split "a b\\ c" = some ["a", "b c"] := by decide

theorem isPlain_of_isDigit {c : Char} (h : c.isDigit = true) : isPlain c = true := by
  have hother : (' ' :: '\t' :: '\'' :: '\\' :: specials).all (!·.isDigit) = true := by decide
  rw [isPlain, decide_eq_true_iff]
  intro hmem
  have hc := List.all_eq_true.1 hother c hmem
  rw [h] at hc
  cases hc

/-- The decimal digits of a number are a plain word. -/
theorem isPlain_toString (n : UInt32) : IsPlain (toString n) := by
  have hdigits : (toString n).toList = Nat.toDigits 10 n.toNat := by simp [toString]
  refine ⟨fun hempty => ?_, fun c hc => ?_⟩
  · rw [hempty] at hdigits
    exact Nat.toDigits_ne_nil hdigits.symm
  · rw [hdigits] at hc
    exact isPlain_of_isDigit (Text.isDigit_of_mem_toDigits hc)

theorem isPlain_name (kind : RuleKind) : IsPlain kind.name := by
  cases kind <;> decide

/-- The line of a rule. -/
theorem split_lineOf_addRule {cli : String} (hcli : IsPlain cli) (kind : RuleKind) (source : String)
    (target : Option String) (flags : RuleFlags) :
    ∃ line, lineOf cli (.addRule kind (.ofString source) (target.map .ofString) flags) = some line ∧
      split line = some ([cli, "rule", kind.name, source] ++ target.toList ++
        if flags.bits = 0 then [] else ["--flags", toString flags.bits]) := by
  refine ⟨_, rfl, ?_⟩
  have hverb : IsPlain "rule" := by decide
  have hflags : IsPlain "--flags" := by decide
  -- Each piece of the line, with the word that it spells.
  have hsplit := split_intercalate
    ([(cli, cli), ("rule", "rule"), (kind.name, kind.name), (escape source, source)] ++
      (target.map fun t => (escape t, t)).toList ++
      if flags.bits = 0 then [] else
        [("--flags", "--flags"), (toString flags.bits, toString flags.bits)])
    (by cases target <;> by_cases hbits : flags.bits = 0 <;>
          simp [hbits, spells_escape, spells_self, hcli, hverb, hflags, isPlain_name,
            isPlain_toString])
  cases target <;> by_cases hbits : flags.bits = 0 <;>
    simpa [hbits, Path.display_ofString] using hsplit

/-- The line of a mirror path. -/
theorem split_lineOf_setMirrorPath {cli : String} (hcli : IsPlain cli) (p : String) :
    ∃ line, lineOf cli (.setMirrorPath (.ofString p)) = some line ∧
      split line = some [cli, "mirror", p] := by
  have hverb : IsPlain "mirror" := by decide
  have hsplit := split_intercalate [(cli, cli), ("mirror", "mirror"), (escape p, p)]
    (by simp [spells_escape, spells_self, hcli, hverb])
  refine ⟨_, rfl, ?_⟩
  rw [Path.display_ofString]
  have hline : s!"{cli} mirror {escape p}" = String.intercalate " " [cli, "mirror", escape p] := by
    rw [← String.toList_inj, String.toList_intercalate]
    simp [List.intercalate_cons_cons, toString]
  rw [hline]
  exact hsplit

/-- The line of a command that names paths, written for any program that is one plain word, is cut
into the words that the program is to be given, whatever characters the paths are made of: no piece
of a path is taken for anything else. -/
theorem split_lineOf {cli : String} (hcli : IsPlain cli) :
    (∀ (kind : RuleKind) (source : String) (target : Option String) (flags : RuleFlags),
      ∃ line,
        lineOf cli (.addRule kind (.ofString source) (target.map .ofString) flags) = some line ∧
        split line = some ([cli, "rule", kind.name, source] ++ target.toList ++
          if flags.bits = 0 then [] else ["--flags", toString flags.bits])) ∧
    (∀ p : String, ∃ line, lineOf cli (.setMirrorPath (.ofString p)) = some line ∧
      split line = some [cli, "mirror", p]) ∧
    ∀ s : String, split (escape s) = some [s] :=
  ⟨split_lineOf_addRule hcli, split_lineOf_setMirrorPath hcli, split_escape⟩

/-- Paths that a shell would stumble over. -/
theorem split_lineOf_of_quotes :
    IsPlain "/data/adb/hymod" ∧ ∃ line,
      lineOf "/data/adb/hymod" (.addRule .add (.ofString "/a'; $(reboot) \\'")
        ((some "/b\n& \"c\"").map .ofString) ⟨2⟩) = some line ∧
      split line = some ["/data/adb/hymod", "rule", "add", "/a'; $(reboot) \\'", "/b\n& \"c\"",
        "--flags", "2"] := by
  have hcli : IsPlain "/data/adb/hymod" := by decide
  exact ⟨hcli, (split_lineOf hcli).1 .add "/a'; $(reboot) \\'" (some "/b\n& \"c\"") ⟨2⟩⟩

end OverlayControl.Shell
