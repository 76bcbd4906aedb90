import OverlayControl.Proofs.Rule.Numbering

/-!
# Listings written in any layout

A listing by lines may be laid out in many ways: with any blanks between the words of a line, with
attributes before, between and after the paths, with empty lines and comments among the others, and
with either ending of a line. The layout says nothing; only the words of the lines do.

* `Listing.Spaced`, `Listing.Line`, `Listing.Renders` — the texts in which rules may be written;
* `Listing.told_of_renders`, `Listing.exists_renders_iff` — what such texts tell, and for which
  rules there is one;
* `Listing.read_by_lines` — what listings by lines are read as.
-/

namespace OverlayControl.Listing

/-! ## Layouts -/

/-- A gap between words: blanks, but no newline. -/
def Gap (g : List Char) : Prop := ∀ c ∈ g, Text.isBlank c = true ∧ c ≠ '\n'

/-- Words with gaps between them, and perhaps around them. -/
inductive Spaced : List String → List Char → Prop
  /-- The end of the line. -/
  | done {g : List Char} (hg : Gap g) : Spaced [] g
  /-- One more word. -/
  | word {w : String} {ws : List String} {g rest : List Char} (hg : Gap g)
      (hw : Text.IsWord w.toList) (hrest : Spaced ws rest) (hends : Text.startsWord rest = false) :
      Spaced (w :: ws) (g ++ w.toList ++ rest)

/-- A line, and the rule that it tells, if any. -/
inductive Line : List Char → Option Rule → Prop
  /-- A comment, or an empty line. -/
  | silent {line : List Char} (hline : '\n' ∉ line) (hsilent : Silent line) : Line line none
  /-- The line of a rule. -/
  | rule {line : List Char} {words : List String} {r : Rule} (hr : Tells words r)
      (hwords : Spaced words line) : Line line (some r)

/-- A text in which rules are written, a line for each. The last line may do without an ending. -/
inductive Renders : List Char → List Rule → Prop
  /-- The last line. -/
  | last {line : List Char} {o : Option Rule} (hline : Line line o) : Renders line o.toList
  /-- One more line. -/
  | next {line ending rest : List Char} {o : Option Rule} {rules : List Rule} (hline : Line line o)
      (hending : ending = ['\n'] ∨ ending = ['\r', '\n']) (hrest : Renders rest rules) :
      Renders (line ++ ending ++ rest) (o.toList ++ rules)

/-! ## What lines say -/

theorem told_of_silent {l : List Char} (h : Silent l) : told [l] = [] := by simp [told, h]

theorem told_of_not_silent {l : List Char} (h : ¬Silent l) : told [l] = [wordsIn l] := by
  simp [told, h]

variable {b : Char}

/-- A blank after a line says nothing. -/
theorem told_concat_of_isBlank (hb : Text.isBlank b = true) (l : List Char) :
    told [l ++ [b]] = told [l] := by
  rw [told_eq_map_toldFrom 1, toldFrom_concat_of_isBlank hb, ← told_eq_map_toldFrom]

/-- A text without newlines says what it says as a line. -/
theorem told_linesOf_of_newlineFree {l : List Char} (h : '\n' ∉ l) :
    told (Text.linesOf l) = told [l] := by
  rw [told_eq_map_toldFrom 1, toldFrom_linesOf_of_newlineFree h, ← told_eq_map_toldFrom]

/-- A newline ends a line, with or without a carriage return before it. -/
theorem told_linesOf_append_newline {l : List Char} (h : '\n' ∉ l) (rest : List Char) :
    told (Text.linesOf (l ++ '\n' :: rest)) = told [l] ++ told (Text.linesOf rest) := by
  rw [told_eq_map_toldFrom 1, toldFrom_linesOf_append_newline h, List.map_append,
    ← told_eq_map_toldFrom, ← told_eq_map_toldFrom]

/-- The blanks around a text say nothing. -/
theorem told_linesOf_trimChars (cs : List Char) :
    told (Text.linesOf (Text.trimChars cs)) = told (Text.linesOf cs) := by
  rw [told_eq_map_toldFrom (1 + leadingLines cs), toldFrom_linesOf_trimChars,
    ← told_eq_map_toldFrom]

/-! ## What layouts say -/

/-- The words are read, and nothing else. -/
theorem wordsOf_of_spaced {words : List String} {line : List Char} (h : Spaced words line) :
    Text.wordsOf line = words.map String.toList := by
  induction h with
  | done hg => exact Text.wordsOf_eq_nil_of_all (List.all_eq_true.2 fun c hc => (hg c hc).1)
  | word hg hw _ hends ih =>
    rw [List.append_assoc, Text.wordsOf_append_of_isBlank fun c hc => (hg c hc).1,
      Text.wordsOf_append_of_startsWord hw hends, ih, List.map_cons]

theorem newline_notMem_of_spaced {words : List String} {line : List Char} (h : Spaced words line) :
    '\n' ∉ line := by
  induction h with
  | done hg => exact fun hmem => (hg _ hmem).2 rfl
  | word hg hw _ _ ih =>
    simp only [List.mem_append, not_or]
    exact ⟨⟨fun hmem => (hg _ hmem).2 rfl, fun hmem => nomatch hw.2 _ hmem⟩, ih⟩

theorem newline_notMem_of_line {line : List Char} {o : Option Rule} (h : Line line o) :
    '\n' ∉ line := by
  cases h with
  | silent hline _ => exact hline
  | rule _ hwords => exact newline_notMem_of_spaced hwords

/-- Blanks apart, a line starts with its first word. -/
theorem find?_of_spaced {w : String} {ws : List String} {line : List Char}
    (h : Spaced (w :: ws) line) : line.find? (fun c => !Text.isBlank c) = w.toList.head? := by
  cases h with
  | @word _ _ g rest hg hw _ _ =>
    have hgap : g.find? (fun c => !Text.isBlank c) = none := by
      rw [List.find?_eq_none]
      intro c hc
      simp [(hg c hc).1]
    obtain ⟨c, cs, hcs⟩ := List.exists_cons_of_ne_nil hw.1
    rw [hcs] at hw ⊢
    rw [List.append_assoc, List.find?_append, hgap, Option.none_or, List.cons_append,
      List.find?_cons_of_pos (by simp [hw.2 c List.mem_cons_self]), List.head?_cons]

/-- Blanks apart, the line of a rule starts with a letter. -/
theorem exists_find?_of_tells {words : List String} {line : List Char} {r : Rule}
    (hr : Tells words r) (h : Spaced words line) :
    ∃ c, line.find? (fun c => !Text.isBlank c) = some c ∧ c ≠ '#' ∧ c ≠ '[' ∧ c ≠ '\x7b' := by
  obtain ⟨hkind, _, _, _, _⟩ := hr
  obtain ⟨c, hc, hother⟩ := hkind.exists_head?
  exact ⟨c, (find?_of_spaced h).trans hc, hother⟩

/-- The line of a rule says its words, and another line of a layout says nothing. -/
theorem told_of_line {line : List Char} {o : Option Rule} (h : Line line o) :
    List.Forall₂ Tells (told [line]) o.toList := by
  cases h with
  | silent _ hsilent =>
    rw [told_of_silent hsilent]
    exact .nil
  | @rule words r hr hwords =>
    have hsays : ¬Silent line := by
      obtain ⟨c, hc, hhash, _⟩ := exists_find?_of_tells hr hwords
      exact fun hsilent => hhash (hsilent c hc)
    have hread : wordsIn line = words := by
      rw [wordsIn, wordsOf_of_spaced hwords, List.map_map]
      simp
    rw [told_of_not_silent hsays, hread]
    exact .cons hr .nil

/-- What a text says in which rules are written tells these rules. -/
theorem told_of_renders {cs : List Char} {rules : List Rule} (h : Renders cs rules) :
    List.Forall₂ Tells (told (Text.linesOf cs)) rules := by
  induction h with
  | last hline =>
    rw [told_linesOf_of_newlineFree (newline_notMem_of_line hline)]
    exact told_of_line hline
  | @next line ending rest o rules hline hending hrest ih =>
    have hfree := newline_notMem_of_line hline
    have htold : told (Text.linesOf (line ++ ending ++ rest)) =
        told [line] ++ told (Text.linesOf rest) := by
      rcases hending with rfl | rfl
      · rw [List.append_assoc, List.singleton_append, told_linesOf_append_newline hfree]
      · -- The carriage return goes with the line or with its ending.
        have hreturn : '\n' ∉ line ++ ['\r'] := by simp [hfree]
        have hcut : line ++ ['\r', '\n'] ++ rest = line ++ ['\r'] ++ '\n' :: rest := by simp
        rw [hcut, told_linesOf_append_newline hreturn, told_concat_of_isBlank (by decide)]
    rw [htold]
    exact List.rel_append (told_of_line hline) ih

/-- Blanks apart, a text in which rules are written starts with no bracket. -/
theorem find?_of_renders {cs : List Char} {rules : List Rule} (h : Renders cs rules) :
    ∀ c ∈ cs.find? (fun c => !Text.isBlank c), c ≠ '[' ∧ c ≠ '\x7b' := by
  have hfirst {line : List Char} {o : Option Rule} (hline : Line line o) :
      ∀ c ∈ line.find? (fun c => !Text.isBlank c), c ≠ '[' ∧ c ≠ '\x7b' := by
    intro c hc
    cases hline with
    | silent _ hsilent =>
      rw [hsilent c hc]
      decide
    | rule hr hwords =>
      obtain ⟨d, hd, _, hother⟩ := exists_find?_of_tells hr hwords
      obtain rfl := Option.some.inj (hd.symm.trans hc)
      exact hother
  induction h with
  | last hline => exact hfirst hline
  | @next line ending rest _ _ hline hending _ ih =>
    have hending : ending.find? (fun c => !Text.isBlank c) = none := by
      rcases hending with rfl | rfl <;> decide
    intro c hc
    rw [List.find?_append, List.find?_append, hending, Option.or_none, Option.mem_def,
      Option.or_eq_some_iff] at hc
    rcases hc with hc | ⟨_, hc⟩
    · exact hfirst hline c hc
    · exact ih c hc

/-- Rules that are written in any layout are read back. -/
theorem read_of_renders {text : String} {rules : List Rule} (h : Renders text.toList rules) :
    read text = .ok rules := by
  have hhead : ∀ c ∈ (Text.trimChars text.toList).head?, c ≠ '[' ∧ c ≠ '\x7b' := by
    rw [Text.head?_trimChars]
    exact find?_of_renders h
  rw [read_of_lines rfl hhead, readLinesFrom_eq_ok_iff, told_linesOf_trimChars]
  exact told_of_renders h

/-! ## Every listing is a layout -/

theorem Spaced.cons_of_isBlank {words : List String} {line : List Char} (h : Spaced words line)
    (hb : Text.isBlank b = true) (hnewline : b ≠ '\n') : Spaced words (b :: line) := by
  have hgap {g : List Char} (hg : Gap g) : Gap (b :: g) :=
    List.forall_mem_cons.2 ⟨⟨hb, hnewline⟩, hg⟩
  cases h with
  | done hg => exact .done (hgap hg)
  | word hg hw hrest hends => exact .word (hgap hg) hw hrest hends

/-- One more character before a line is a word of its own, or the start of the first word. -/
theorem Spaced.cons_of_not_isBlank {words : List (List Char)} {line : List Char}
    (h : Spaced (words.map String.ofList) line) (hb : Text.isBlank b = false) :
    Spaced ((Text.attach b (Text.startsWord line) words).map String.ofList) (b :: line) := by
  have hword {w rest : List Char} {ws : List String} (hw : ∀ c ∈ w, Text.isBlank c = false)
      (hrest : Spaced ws rest) (hends : Text.startsWord rest = false) :
      Spaced (String.ofList (b :: w) :: ws) (b :: (w ++ rest)) := by
    have hword : Text.IsWord (String.ofList (b :: w)).toList := by
      rw [String.toList_ofList]
      exact ⟨List.cons_ne_nil b w, List.forall_mem_cons.2 ⟨hb, hw⟩⟩
    have hline := Spaced.word (g := []) (by simp [Gap]) hword hrest hends
    rwa [String.toList_ofList] at hline
  cases hstarts : Text.startsWord line with
  | false =>
    have hline := hword (w := []) (by simp) h hstarts
    cases words <;> exact hline
  | true =>
    cases words with
    | nil =>
      -- Without words the line is a gap.
      cases h with
      | done hg =>
        cases line with
        | nil => cases hstarts
        | cons c line => simp [Text.startsWord, (hg c List.mem_cons_self).1] at hstarts
    | cons v words =>
      rw [List.map_cons] at h
      cases h with
      | @word _ _ g rest hg hv hrest hends =>
        -- There is no gap before the first word.
        obtain rfl : g = [] := by
          cases g with
          | nil => rfl
          | cons c g => simp [Text.startsWord, (hg c List.mem_cons_self).1] at hstarts
        rw [String.toList_ofList] at hv ⊢
        exact hword hv.2 hrest hends

/-- A line without newlines has its words between gaps. -/
theorem spaced_wordsIn {line : List Char} (h : '\n' ∉ line) : Spaced (wordsIn line) line := by
  induction line with
  | nil => exact .done (by simp [Gap])
  | cons c line ih =>
    have hc : c ≠ '\n' := fun e => h (e ▸ List.mem_cons_self)
    have ih := ih fun hmem => h (List.mem_cons_of_mem c hmem)
    by_cases hblank : Text.isBlank c = true
    · rw [wordsIn, Text.wordsOf_cons_of_isBlank hblank]
      exact ih.cons_of_isBlank hblank hc
    · rw [wordsIn, Text.wordsOf, if_neg hblank]
      exact ih.cons_of_not_isBlank (Bool.eq_false_iff.2 hblank)

/-- Rules that a text tells are written in it. -/
theorem renders_of_told {cs : List Char} {rules : List Rule}
    (h : List.Forall₂ Tells (told (Text.linesOf cs)) rules) : Renders cs rules := by
  -- Line by line. A carriage return at the end of a line counts as a gap.
  induction hlength : cs.length using Nat.strongRecOn generalizing cs rules with
  | ind n ih =>
    rcases newlineFree_or_exists cs with hcs | ⟨l, rest, rfl, hl⟩
    · rw [told_linesOf_of_newlineFree hcs] at h
      by_cases hsilent : Silent cs
      · rw [told_of_silent hsilent] at h
        cases h
        exact .last (.silent hcs hsilent)
      · rw [told_of_not_silent hsilent] at h
        cases h with
        | cons hr hrest =>
          cases hrest
          exact .last (.rule hr (spaced_wordsIn hcs))
    · have hshorter : rest.length < n := by
        rw [← hlength]
        simp
        omega
      have hnext {o : Option Rule} {rules : List Rule} (hline : Line l o)
          (hrest : List.Forall₂ Tells (told (Text.linesOf rest)) rules) :
          Renders (l ++ '\n' :: rest) (o.toList ++ rules) := by
        have hrenders := Renders.next hline (.inl rfl) (ih rest.length hshorter hrest rfl)
        rwa [List.append_assoc] at hrenders
      rw [told_linesOf_append_newline hl] at h
      by_cases hsilent : Silent l
      · rw [told_of_silent hsilent] at h
        exact hnext (.silent hl hsilent) h
      · rw [told_of_not_silent hsilent] at h
        cases h with
        | cons hr hrest => exact hnext (.rule hr (spaced_wordsIn hl)) hrest

/-- A listing that starts with neither bracket is read as the rules that are written in it. -/
theorem read_eq_ok_iff_renders {text : String} {rules : List Rule}
    (h : ∀ c ∈ (Text.trimChars text.toList).head?, c ≠ '[' ∧ c ≠ '\x7b') :
    read text = .ok rules ↔ Renders text.toList rules := by
  refine ⟨fun hread => ?_, read_of_renders⟩
  rw [read_of_lines rfl h, readLinesFrom_eq_ok_iff, told_linesOf_trimChars] at hread
  exact renders_of_told hread

/-! ## Rules that can be written -/

theorem isWord_of_spaced {words : List String} {line : List Char} (h : Spaced words line) :
    ∀ w ∈ words, Text.IsWord w.toList := by
  induction h with
  | done _ => simp
  | word _ hw _ _ ih => exact List.forall_mem_cons.2 ⟨hw, ih⟩

theorem exists_spells_of_mem {ws : List String} {items : List Item}
    (h : List.Forall₂ Item.Spells ws items) {i : Item} (hi : i ∈ items) :
    ∃ w ∈ ws, Item.Spells w i := by
  induction h with
  | nil => cases hi
  | @cons w j ws items hj _ ih =>
    rcases List.mem_cons.1 hi with rfl | hi
    · exact ⟨w, List.mem_cons_self, hj⟩
    · obtain ⟨v, hv, hspells⟩ := ih hi
      exact ⟨v, List.mem_cons_of_mem w hv, hspells⟩

/-- A rule that words tell fits into a line. -/
theorem fits_of_tells {words : List String} {r : Rule} (h : Tells words r)
    (hwords : ∀ w ∈ words, Text.IsWord w.toList) : Fits Path.IsWord r := by
  obtain @⟨_, _, items, _, _, hspells, hpaths, _, hflags⟩ := h
  have hpath : ∀ p ∈ r.source :: r.target.toList, p.IsWord := by
    rw [← hpaths]
    intro p hp
    simp only [List.mem_map, List.mem_filterMap] at hp
    obtain ⟨text, ⟨i, hi, htext⟩, rfl⟩ := hp
    obtain ⟨w, hw, hspell⟩ := exists_spells_of_mem hspells hi
    cases hspell with
    | id => cases htext
    | flags => cases htext
    | path hid hflags =>
      cases htext
      exact isWord_iff.2 ⟨_, rfl, hwords _ (List.mem_cons_of_mem _ hw), hid, hflags⟩
  refine ⟨hpath _ List.mem_cons_self, fun t ht => ?_, ?_⟩
  · exact hpath t (List.mem_cons_of_mem _ (Option.mem_toList.2 ht))
  · rw [hflags]
    cases hlast : (items.filterMap Item.flags?).getLast? with
    | none => rfl
    | some f =>
      obtain ⟨i, hi, hf⟩ := List.mem_filterMap.1 (List.mem_of_getLast? hlast)
      obtain ⟨_, _, hspell⟩ := exists_spells_of_mem hspells hi
      cases hspell with
      | id => cases hf
      | flags =>
        cases hf
        exact RuleFlags.known_bits_known _
      | path => cases hf

theorem fits_of_renders {cs : List Char} {rules : List Rule} (h : Renders cs rules) :
    ∀ r ∈ rules, Fits Path.IsWord r := by
  have hline {line : List Char} {o : Option Rule} (hline : Line line o) :
      ∀ r ∈ o.toList, Fits Path.IsWord r := by
    cases hline with
    | silent => simp
    | rule hr hwords => simpa using fits_of_tells hr (isWord_of_spaced hwords)
  induction h with
  | last h => exact hline h
  | next h _ _ ih => exact List.forall_mem_append.2 ⟨hline h, ih⟩

/-- Rules that are printed as lines are written in the text. -/
theorem renders_renderLines {rules : List Rule} (h : ∀ r ∈ rules, Fits Path.IsWord r) :
    Renders (renderLines rules).toList rules :=
  (read_eq_ok_iff_renders (not_bracket_of_renderLines rules)).1 (read_renderLines h)

/-- The rules that can be written as a listing by lines: their paths are words that are taken for no
attribute, and their flags are known ones. -/
theorem exists_renders_iff {rules : List Rule} :
    (∃ text : String, Renders text.toList rules) ↔ ∀ r ∈ rules, Fits Path.IsWord r :=
  ⟨fun ⟨_, h⟩ => fits_of_renders h, fun h => ⟨_, renders_renderLines h⟩⟩

/-! ## Listings by lines -/

/-- What a listing is read as that starts with neither bracket, blanks apart: it is read exactly when
each of its lines that is not silent tells a rule, and then as these rules, in order. So rules are
read back from every text in which they are written, and there is one exactly when their paths are
words that are taken for no attribute, and their flags are known. -/
theorem read_by_lines :
    (∀ text : String,
      (∀ c ∈ (Text.trimChars text.toList).head?, c ≠ '[' ∧ c ≠ '\x7b') →
        ((∃ rules, read text = .ok rules) ↔
          ∀ l ∈ Text.linesOf (Text.trimChars text.toList), ¬Silent l →
            ∃ r, Tells (wordsIn l) r) ∧
        ∀ rules, (read text = .ok rules ↔
            List.Forall₂ Tells (told (Text.linesOf (Text.trimChars text.toList))) rules) ∧
          (read text = .ok rules ↔ Renders text.toList rules)) ∧
    ∀ rules : List Rule,
      (∀ text : String, Renders text.toList rules → read text = .ok rules) ∧
      ((∃ text : String, Renders text.toList rules) ↔ ∀ r ∈ rules, Fits Path.IsWord r) := by
  refine ⟨fun text h => ?_, fun rules => ⟨fun text => read_of_renders, exists_renders_iff⟩⟩
  have hread := read_of_lines rfl h
  refine ⟨?_, fun rules => ⟨?_, read_eq_ok_iff_renders h⟩⟩
  · rw [hread]
    exact exists_readLinesFrom_iff
  · rw [hread]
    exact readLinesFrom_eq_ok_iff

/-- Two rules among a comment and an empty line, with both endings of lines and a wide blank, and a
listing that cannot be read because of its second line. -/
theorem read_by_lines_of_mixture :
    let text := " # rules\r\nHIDE\u2003/a id=+3 flags=5 id=7 \r\n\n\tredirect flags=9 /b /c\n"
    let rules : List Rule :=
      [{ id := some ⟨7⟩, kind := .hide, source := .ofString "/a", flags := ⟨1⟩ },
        { kind := .add, source := .ofString "/b", target := some (.ofString "/c"), flags := ⟨1⟩ }]
    let extra := "hide /a\nadd /b /c /d"
    (∀ c ∈ (Text.trimChars text.toList).head?, c ≠ '[' ∧ c ≠ '\x7b') ∧
      Renders text.toList rules ∧ read text = .ok rules ∧
      (∀ c ∈ (Text.trimChars extra.toList).head?, c ≠ '[' ∧ c ≠ '\x7b') ∧
      ¬∃ rules, read extra = .ok rules := by
  intro text rules extra
  have hhead : ∀ c ∈ (Text.trimChars text.toList).head?, c ≠ '[' ∧ c ≠ '\x7b' := by
    have hhash : (Text.trimChars text.toList).head? = some '#' := by decide +kernel
    simp [hhash]
  have htold : told (Text.linesOf (Text.trimChars text.toList)) =
      [["HIDE", "/a", "id=+3", "flags=5", "id=7"], ["redirect", "flags=9", "/b", "/c"]] := by
    decide +kernel
  have htells : List.Forall₂ Tells (told (Text.linesOf (Text.trimChars text.toList))) rules := by
    rw [htold]
    exact .cons (readWords_eq_ok_iff.1 rfl) (.cons (readWords_eq_ok_iff.1 rfl) .nil)
  have hextra : ∀ c ∈ (Text.trimChars extra.toList).head?, c ≠ '[' ∧ c ≠ '\x7b' := by
    have hletter : (Text.trimChars extra.toList).head? = some 'h' := by decide +kernel
    simp [hletter]
  obtain ⟨htold_iff, hrenders_iff⟩ := (read_by_lines.1 text hhead).2 rules
  have hrenders : Renders text.toList rules := hrenders_iff.1 (htold_iff.2 htells)
  refine ⟨hhead, hrenders, (read_by_lines.2 rules).1 text hrenders, hextra, fun hread => ?_⟩
  -- The second line has three paths.
  obtain ⟨r, hr⟩ := (read_by_lines.1 extra hextra).1.1 hread "add /b /c /d".toList
    (by decide +kernel) (by decide +kernel)
  have hwords : wordsIn "add /b /c /d".toList = ["add", "/b", "/c", "/d"] := by decide +kernel
  rw [hwords, ← readWords_eq_ok_iff] at hr
  cases hr

end OverlayControl.Listing
