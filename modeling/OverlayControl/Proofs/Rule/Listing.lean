import OverlayControl.Proofs.Text.Blank
import OverlayControl.Proofs.Text.Decimal
import OverlayControl.Proofs.Utf8
import OverlayControl.Rule.Listing

/-!
# Listings by lines read back

Rules that are printed as lines are read back in order, as long as their flags are known and their
paths are words that are taken for no attribute.

* `Listing.Fits` — rules whose paths fit a form of listing and whose flags are known;
* `Listing.read_of_lines` — how a listing by lines is read;
* `Listing.read_renderLines` — it gives back what was printed.
-/

namespace OverlayControl

/-- A path that is text and not empty. -/
def Path.IsText (p : Path) : Prop := ∃ s : String, s ≠ "" ∧ p = .ofString s

/-- A path that is a word of a line, and not taken for an attribute. -/
def Path.IsWord (p : Path) : Prop :=
  ∃ s : String, Text.IsWord s.toList ∧ Listing.Token.ofWord s = .path s ∧ p = .ofString s

theorem Path.IsWord.isText {p : Path} (h : p.IsWord) : p.IsText := by
  obtain ⟨s, hs, -, rfl⟩ := h
  refine ⟨s, ?_, rfl⟩
  rintro rfl
  exact hs.1 rfl

/-- An absolute path that is text without blanks is a word. It is not taken for an attribute, since
it starts with a slash. -/
theorem Path.isWord_of_isAbsolute {s : String} (habsolute : (Path.ofString s).isAbsolute = true)
    (hblank : ∀ c ∈ s.toList, Text.isBlank c = false) : (Path.ofString s).IsWord := by
  have hhead : (Utf8.encodeChars s.toList).head? = some slash := beq_iff_eq.1 habsolute
  -- The first byte is a slash, so the first character is, too.
  have hfirst {c : Char} {cs : List Char} (hcs : s.toList = c :: cs) :
      (String.utf8EncodeChar c ++ Utf8.encodeChars cs).head? = some slash := by
    rwa [hcs, Utf8.encodeChars, List.flatMap_cons] at hhead
  refine ⟨s, ⟨?_, hblank⟩, ?_, rfl⟩
  · intro hnil
    rw [hnil] at hhead
    cases hhead
  · rw [Listing.Token.ofWord]
    split
    · next hcs => exact absurd (hfirst hcs) (by simp; decide)
    · next hcs => exact absurd (hfirst hcs) (by simp; decide)
    · rfl

/-- An absolute path that is text is not empty. -/
theorem Path.isText_of_isAbsolute {s : String} (habsolute : (Path.ofString s).isAbsolute = true) :
    (Path.ofString s).IsText := by
  refine ⟨s, ?_, rfl⟩
  rintro rfl
  cases habsolute

/-- The paths of a rule of a valid shape are absolute. -/
theorem Rule.isAbsolute_of_validate {r : Rule} (h : r.validate = .ok ()) :
    r.source.isAbsolute = true ∧ ∀ t ∈ r.target, t.isAbsolute = true := by
  -- Both paths have been through the same check.
  unfold validate at h
  split at h
  · cases h
  · next hsource =>
    refine ⟨(checkPath_eq_ok_iff.1 hsource).2.1, fun t ht => ?_⟩
    rw [show r.target = some t from ht] at h
    dsimp only at h
    split at h
    · cases h
    · exact (checkPath_eq_ok_iff.1 h).2.1

namespace Listing

/-- A rule that a form of listing gives back, for a form that gives back the paths in `ok`. -/
structure Fits (ok : Path → Prop) (r : Rule) : Prop where
  /-- The source fits. -/
  source : ok r.source
  /-- The target fits, if there is one. -/
  target : ∀ t ∈ r.target, ok t
  /-- The flags are known ones. -/
  flags : RuleFlags.known r.flags.bits = r.flags

/-! ## Lines -/

/-- The words of the line of a rule. -/
def lineWords (r : Rule) : List (List Char) :=
  r.kind.name.toList :: r.source.display.toList ::
    (r.target.toList.map (fun t => t.display.toList) ++
      r.id.toList.map (fun i => 'i' :: 'd' :: '=' :: i.name.toList) ++
        ['f' :: 'l' :: 'a' :: 'g' :: 's' :: '=' :: (toString r.flags.bits.toNat).toList])

theorem toList_renderLine (r : Rule) :
    (renderLine r).toList = [' '].intercalate (lineWords r) := by
  obtain ⟨id, kind, source, target, flags⟩ := r
  have htext (s : String) : toString s = s := rfl
  have hbits : toString flags.bits = toString flags.bits.toNat := rfl
  cases target <;> cases id <;>
    simp [renderLine, lineWords, List.intercalate_cons_cons, htext, hbits]

/-- The words of a line are read as words. -/
theorem isWord_of_mem_lineWords {r : Rule} (h : Fits Path.IsWord r) :
    ∀ w ∈ lineWords r, Text.IsWord w := by
  have hname : Text.IsWord r.kind.name.toList := by
    cases r.kind <;> exact Text.isWord_of_all (by decide) (by decide)
  have hpath {p : Path} (hp : p.IsWord) : Text.IsWord p.display.toList := by
    obtain ⟨s, hs, _, rfl⟩ := hp
    rwa [Path.display_ofString]
  -- A number adds no blank to the name before it.
  have hattribute (key : List Char) (hkey : Text.IsWord key) (n : Nat) :
      Text.IsWord (key ++ (toString n).toList) := by
    refine ⟨List.append_ne_nil_of_left_ne_nil hkey.1 _, fun c hc => ?_⟩
    rcases List.mem_append.1 hc with hc | hc
    · exact hkey.2 c hc
    · rw [Nat.toString_eq_repr, Nat.toList_repr] at hc
      exact Text.isBlank_of_isDigit (Text.isDigit_of_mem_toDigits hc)
  intro w hw
  simp only [lineWords, List.mem_cons, List.mem_append, List.mem_map, Option.mem_toList,
    List.not_mem_nil, or_false] at hw
  rcases hw with rfl | rfl | (⟨t, ht, rfl⟩ | ⟨i, _, rfl⟩) | rfl
  · exact hname
  · exact hpath h.source
  · exact hpath (h.target t ht)
  · exact hattribute ['i', 'd', '='] (Text.isWord_of_all (by decide) (by decide)) _
  · exact hattribute ['f', 'l', 'a', 'g', 's', '=']
      (Text.isWord_of_all (by decide) (by decide)) _

theorem parse_name (k : RuleKind) : RuleKind.parse k.name = .ok k := by
  have hlower : Text.lower k.name = k.name := by
    cases k <;> decide
  have hredirect : k.name ≠ "redirect" := by
    cases k <;> decide
  have hname : RuleKind.ofName k.name = some k := by
    cases k <;> decide
  unfold RuleKind.parse
  rw [hlower, if_neg hredirect, hname]

theorem take_path {p : Path} (h : p.IsWord) (a : Attributes) :
    a.take p.display = .ok { a with paths := a.paths ++ [p.display] } := by
  obtain ⟨s, _, hs, rfl⟩ := h
  rw [Path.display_ofString, Attributes.take, hs]

theorem take_id (i : RuleId) (a : Attributes) :
    a.take (String.ofList ('i' :: 'd' :: '=' :: i.name.toList)) = .ok { a with id := some i } := by
  have hword : Token.ofWord (String.ofList ('i' :: 'd' :: '=' :: i.name.toList)) = .id i.name := by
    rw [Token.ofWord, String.toList_ofList]
    exact congrArg Token.id String.ofList_toList
  have hread : Text.readWord i.name = .ok i.number := Text.readWord_toString i.number
  simp only [Attributes.take, hword, hread]

theorem take_flags (f : RuleFlags) (a : Attributes) :
    a.take (String.ofList ('f' :: 'l' :: 'a' :: 'g' :: 's' :: '=' ::
      (toString f.bits.toNat).toList)) = .ok { a with flags := .known f.bits } := by
  have hword : Token.ofWord (String.ofList ('f' :: 'l' :: 'a' :: 'g' :: 's' :: '=' ::
      (toString f.bits.toNat).toList)) = .flags (toString f.bits.toNat) := by
    rw [Token.ofWord, String.toList_ofList]
    exact congrArg Token.flags String.ofList_toList
  simp only [Attributes.take, hword, Text.readWord_toString]

theorem foldlM_take_cons {a b c : Attributes} {w : String} {ws : List String}
    (hw : a.take w = .ok b) (hws : ws.foldlM Attributes.take b = .ok c) :
    (w :: ws).foldlM Attributes.take a = .ok c := by
  rw [List.foldlM_cons, hw]
  exact hws

theorem foldlM_take_append {a b c : Attributes} {vs ws : List String}
    (hvs : vs.foldlM Attributes.take a = .ok b) (hws : ws.foldlM Attributes.take b = .ok c) :
    (vs ++ ws).foldlM Attributes.take a = .ok c := by
  rw [List.foldlM_append, hvs]
  exact hws

/-- The words after a kind are taken apart again. -/
theorem foldlM_take_lineWords {r : Rule} (h : Fits Path.IsWord r) :
    ((lineWords r).tail.map String.ofList).foldlM Attributes.take {} =
      .ok { id := r.id, flags := r.flags,
            paths := r.source.display :: r.target.toList.map Path.display } := by
  have htarget (a : Attributes) :
      (r.target.toList.map Path.display).foldlM Attributes.take a =
        .ok { a with paths := a.paths ++ r.target.toList.map Path.display } := by
    cases ht : r.target with
    | none =>
      rw [Option.toList_none, List.map_nil, List.append_nil]
      rfl
    | some t => exact foldlM_take_cons (take_path (h.target t ht) a) rfl
  have hid (a : Attributes) (ha : a.id = none) :
      (r.id.toList.map fun i => String.ofList ('i' :: 'd' :: '=' :: i.name.toList)).foldlM
        Attributes.take a = .ok { a with id := r.id } := by
    cases r.id with
    | none =>
      rw [Option.toList_none, List.map_nil, ← ha]
      rfl
    | some i => exact foldlM_take_cons (take_id i a) rfl
  have hflags (a : Attributes) :
      [String.ofList ('f' :: 'l' :: 'a' :: 'g' :: 's' :: '=' ::
        (toString r.flags.bits.toNat).toList)].foldlM Attributes.take a =
          .ok { a with flags := r.flags } := by
    have htake := take_flags r.flags a
    rw [h.flags] at htake
    exact foldlM_take_cons htake rfl
  -- After the source come the words of the target and the number, if there are any, and the flags.
  have hwords : (lineWords r).tail.map String.ofList =
      r.source.display :: (r.target.toList.map Path.display ++
        (r.id.toList.map fun i => String.ofList ('i' :: 'd' :: '=' :: i.name.toList)) ++
          [String.ofList ('f' :: 'l' :: 'a' :: 'g' :: 's' :: '=' ::
            (toString r.flags.bits.toNat).toList)]) := by
    simp only [lineWords, List.tail_cons, List.map_cons, List.map_append, List.map_map,
      List.map_nil, String.ofList_toList, Function.comp_def]
  rw [hwords]
  exact foldlM_take_cons (take_path h.source _)
    (foldlM_take_append (foldlM_take_append (htarget _) (hid _ rfl)) (hflags _))

theorem ofString_display {p : Path} (h : p.IsWord) : Path.ofString p.display = p := by
  obtain ⟨s, _, _, rfl⟩ := h
  rw [Path.display_ofString]

/-- The words of a line are read as the rule. -/
theorem readWords_lineWords {r : Rule} (h : Fits Path.IsWord r) :
    readWords ((lineWords r).map String.ofList) = .ok r := by
  have hwords : (lineWords r).map String.ofList =
      r.kind.name :: (lineWords r).tail.map String.ofList := by
    rw [lineWords, List.map_cons, List.tail_cons, String.ofList_toList]
  rw [hwords, readWords, parse_name, foldlM_take_lineWords h]
  obtain ⟨id, kind, source, target, flags⟩ := r
  cases target with
  | none =>
    show Except.ok _ = _
    rw [ofString_display h.source]
  | some t =>
    show Except.ok _ = _
    rw [ofString_display h.source, ofString_display (h.target t rfl)]

/-- A rule as a line of characters. -/
def lineChars (r : Rule) : List Char := [' '].intercalate (lineWords r)

theorem flush_lineChars {r : Rule} (h : Fits Path.IsWord r) : Text.Flush (lineChars r) :=
  Text.flush_intercalate (List.cons_ne_nil _ _) fun w hw => (isWord_of_mem_lineWords h w hw).flush

/-- A line starts with the name of a kind. -/
theorem exists_head?_lineChars (r : Rule) :
    ∃ c ∈ ['a', 'h', 'i', 'm'], (lineChars r).head? = some c := by
  have hname : ∃ c cs, r.kind.name.toList = c :: cs ∧ c ∈ ['a', 'h', 'i', 'm'] := by
    cases r.kind <;> exact ⟨_, _, rfl, by decide⟩
  obtain ⟨c, cs, hcs, hc⟩ := hname
  refine ⟨c, hc, ?_⟩
  rw [lineChars, lineWords, Text.head?_intercalate (by simp [hcs]), hcs, List.head?_cons]

theorem mem_head?_lineChars (r : Rule) :
    ∀ c ∈ (lineChars r).head?, c ∈ ['a', 'h', 'i', 'm'] := by
  obtain ⟨c, hc, hhead⟩ := exists_head?_lineChars r
  rw [hhead]
  rintro d ⟨rfl⟩
  exact hc

theorem lineChars_ne_nil (r : Rule) : lineChars r ≠ [] := by
  obtain ⟨c, _, hhead⟩ := exists_head?_lineChars r
  intro hnil
  rw [hnil] at hhead
  cases hhead

theorem isSilent_lineChars {r : Rule} (h : Fits Path.IsWord r) :
    isSilent (lineChars r) = false := by
  have hflush := flush_lineChars h
  have hhead := mem_head?_lineChars r
  rw [isSilent, Text.trimChars_of_flush hflush]
  cases hline : lineChars r with
  | nil => exact absurd hline hflush.ne_nil
  | cons c cs =>
    rw [hline] at hhead
    refine beq_false_of_ne ?_
    rintro rfl
    exact absurd (hhead '#' rfl) (by decide)

/-- Lines of rules are read as these rules. -/
theorem readLinesFrom_map_lineChars {rs : List Rule} (h : ∀ r ∈ rs, Fits Path.IsWord r)
    (number : Nat) : readLinesFrom number (rs.map lineChars) = .ok rs := by
  -- The number of the line is for faults only, so it may be any.
  induction rs generalizing number with
  | nil => rfl
  | cons r rs ih =>
    have hr := h r List.mem_cons_self
    have hwords : Text.wordsOf (lineChars r) = lineWords r :=
      Text.wordsOf_intercalate (isWord_of_mem_lineWords hr)
    rw [List.map_cons, readLinesFrom, isSilent_lineChars hr, hwords, readWords_lineWords hr,
      ih fun s hs => h s (List.mem_cons_of_mem r hs)]
    rfl

/-- A listing that starts with neither bracket is read by lines. -/
theorem read_of_lines {text : String} {cs : List Char} (htrim : Text.trimChars text.toList = cs)
    (hhead : ∀ c ∈ cs.head?, c ≠ '[' ∧ c ≠ '\x7b') :
    read text = readLinesFrom 1 (Text.linesOf cs) := by
  simp only [read, htrim]
  split
  · exact absurd rfl (hhead '[' rfl).1
  · exact absurd rfl (hhead '\x7b' rfl).2
  · rfl

theorem toList_renderLines (rs : List Rule) :
    (renderLines rs).toList = ['\n'].intercalate (rs.map lineChars) := by
  rw [renderLines, String.toList_intercalate, List.map_map]
  exact congrArg _ (List.map_congr_left fun r _ => toList_renderLine r)

/-- Lines of rules start with a letter, and so with no bracket. -/
theorem not_bracket_of_renderLines (rs : List Rule) :
    ∀ c ∈ (Text.trimChars (renderLines rs).toList).head?, c ≠ '[' ∧ c ≠ '\x7b' := by
  intro c hc
  rw [Text.head?_trimChars, toList_renderLines] at hc
  cases rs with
  | nil => cases hc
  | cons r rs =>
    obtain ⟨letter, hletter, hhead⟩ := exists_head?_lineChars r
    obtain ⟨cs, hcs⟩ : ∃ cs, ['\n'].intercalate ((r :: rs).map lineChars) = letter :: cs := by
      rw [← List.head?_eq_some_iff, List.map_cons, Text.head?_intercalate (lineChars_ne_nil r)]
      exact hhead
    have hother : Text.isBlank letter = false ∧ letter ≠ '[' ∧ letter ≠ '\x7b' := by
      simp only [List.mem_cons, List.not_mem_nil, or_false] at hletter
      rcases hletter with rfl | rfl | rfl | rfl <;> decide
    rw [hcs, List.find?_cons_of_pos (by simp [hother.1])] at hc
    cases hc
    exact hother.2

/-- Rules that are printed as lines are read back. -/
theorem read_renderLines {rs : List Rule} (h : ∀ r ∈ rs, Fits Path.IsWord r) :
    read (renderLines rs) = .ok rs := by
  -- Each line is what it was before: nothing is trimmed from it, and it is not cut.
  have hflush : ∀ l ∈ rs.map lineChars, Text.Flush l ∧ '\n' ∉ l := by
    intro l hl
    obtain ⟨r, hr, rfl⟩ := List.mem_map.1 hl
    exact ⟨flush_lineChars (h r hr),
      Text.newline_not_mem_intercalate (isWord_of_mem_lineWords (h r hr))⟩
  cases rs with
  | nil => rfl
  | cons r rs =>
    have htext : Text.Flush (['\n'].intercalate ((r :: rs).map lineChars)) :=
      Text.flush_intercalate (List.cons_ne_nil _ _) fun l hl => (hflush l hl).1
    have htrim : Text.trimChars (renderLines (r :: rs)).toList =
        ['\n'].intercalate ((r :: rs).map lineChars) := by
      rw [toList_renderLines, Text.trimChars_of_flush htext]
    rw [read_of_lines htrim, Text.linesOf_intercalate hflush]
    · exact readLinesFrom_map_lineChars h 1
    · rw [← htrim]
      exact not_bracket_of_renderLines (r :: rs)

end Listing

end OverlayControl
