import OverlayControl.Proofs.Path
import OverlayControl.Proofs.Rule.Refinement
import OverlayControl.Proofs.Rule.Rendering

/-!
# Blanks in listed paths

A listing by lines quotes nothing and is read word by word, so a path with a blank in it falls
apart. What then comes out is a listing that cannot be read, or other rules than the engine has.

* `Path.hasBlank`, `Path.hasBlank_of_components` — the spelling of a path does not decide whether it
  has blanks;
* `Listing.blankFree_of_read` — no rule that is read from lines has a blank;
* `RuleStore.list_of_lines_iff` — the list of the rules is right, or says that it could not be had,
  exactly when no path has a blank or the lines cannot be read.
-/

namespace OverlayControl

namespace Path

/-- The parts of a text are texts, and have its characters between them. -/
theorem exists_texts_of_splitSlash (cs : List Char) :
    ∃ texts : List (List Char), splitSlash (Utf8.encodeChars cs) = texts.map Utf8.encodeChars ∧
      ∀ c, c ≠ '/' → (c ∈ cs ↔ ∃ t ∈ texts, c ∈ t) := by
  induction cs with
  | nil => exact ⟨[[]], rfl, fun c _ => by simp⟩
  | cons d cs ih =>
    obtain ⟨texts, hsplit, hmem⟩ := ih
    have hcons : Utf8.encodeChars (d :: cs) = String.utf8EncodeChar d ++ Utf8.encodeChars cs :=
      List.flatMap_cons
    by_cases hd : d = '/'
    · subst hd
      refine ⟨[] :: texts, ?_, fun c hc => ?_⟩
      · have hslash : String.utf8EncodeChar '/' = [slash] := by decide
        rw [hcons, hslash, List.singleton_append, splitSlash, if_pos rfl, hsplit]
        rfl
      · simp [hc, hmem c hc]
    · obtain ⟨part, parts, hparts⟩ := List.exists_cons_of_ne_nil
        (splitSlash_ne_nil (Utf8.encodeChars cs))
      rw [hparts] at hsplit
      obtain ⟨t, ts, rfl, rfl, rfl⟩ := List.map_eq_cons_iff.1 hsplit.symm
      refine ⟨(d :: t) :: ts, ?_, fun c hc => ?_⟩
      · rw [hcons, splitSlash_append_of_notMem (Utf8.slash_notMem_utf8EncodeChar hd) hparts]
        rfl
      · rw [List.mem_cons, hmem c hc]
        simp [or_assoc]

/-- Whether a path has a blank, read as text. -/
def hasBlank (p : Path) : Bool := p.display.toList.any Text.isBlank

theorem hasBlank_ofString (s : String) :
    (ofString s).hasBlank = true ↔ ∃ c ∈ s.toList, Text.isBlank c = true := by
  rw [hasBlank, display_ofString, List.any_eq_true]

/-- A blank of a path stands in one of its names. -/
theorem exists_name_of_blank {s : String} {c : Char} (hc : c ∈ s.toList)
    (hblank : Text.isBlank c = true) :
    ∃ t, c ∈ t ∧ Component.name (Utf8.encodeChars t) ∈ (ofString s).components := by
  obtain ⟨texts, hsplit, hmem⟩ := exists_texts_of_splitSlash s.toList
  have hslash : c ≠ '/' := by
    rintro rfl
    cases hblank
  obtain ⟨t, ht, hct⟩ := (hmem c hslash).1 hc
  refine ⟨t, hct, ?_⟩
  -- A part with a blank is none of those that stand for something else.
  have hother (ds : List Char) (hds : ds.any Text.isBlank = false) :
      Utf8.encodeChars t ≠ Utf8.encodeChars ds := by
    intro heq
    rw [Utf8.encodeChars_inj heq] at hct
    exact List.any_eq_false.1 hds c hct hblank
  have hcomponent : component? (Utf8.encodeChars t) = some (.name (Utf8.encodeChars t)) := by
    have hnil : Utf8.encodeChars t ≠ [] := hother [] (by decide)
    have hdot : Utf8.encodeChars t ≠ [dot] := hother ['.'] (by decide)
    have hdots : Utf8.encodeChars t ≠ [dot, dot] := hother ['.', '.'] (by decide)
    simp [component?, hnil, hdot, hdots]
  refine List.mem_append_right _ (List.mem_filterMap.2 ⟨_, ?_, hcomponent⟩)
  have hbytes : splitSlash (ofString s).bytes = texts.map Utf8.encodeChars := hsplit
  rw [hbytes]
  exact List.mem_map.2 ⟨t, ht, rfl⟩

/-- Every name of a text is text of it. -/
theorem subset_of_name_mem {s : String} {t : List Char}
    (h : Component.name (Utf8.encodeChars t) ∈ (ofString s).components) {c : Char} (hc : c ∈ t)
    (hslash : c ≠ '/') : c ∈ s.toList := by
  obtain ⟨texts, hsplit, hmem⟩ := exists_texts_of_splitSlash s.toList
  have hsplit : splitSlash (ofString s).bytes = texts.map Utf8.encodeChars := hsplit
  rw [components, hsplit] at h
  rcases List.mem_append.1 h with hlead | hparts
  · -- What comes before the parts is no name.
    split at hlead
    · simp at hlead
    · split at hlead <;> simp at hlead
  · obtain ⟨part, hpart, hname⟩ := List.mem_filterMap.1 hparts
    obtain ⟨u, hu, rfl⟩ := List.mem_map.1 hpart
    have heq := Utf8.encodeChars_inj (name_of_component? hname).1
    exact (hmem c hslash).2 ⟨u, hu, heq ▸ hc⟩

/-- Paths of the same components have blanks or have none. -/
theorem hasBlank_of_components {s t : String}
    (h : (ofString s).components = (ofString t).components)
    (hblank : (ofString s).hasBlank = true) : (ofString t).hasBlank = true := by
  obtain ⟨c, hc, hcblank⟩ := (hasBlank_ofString s).1 hblank
  obtain ⟨u, hcu, hname⟩ := exists_name_of_blank hc hcblank
  have hslash : c ≠ '/' := by
    rintro rfl
    cases hcblank
  exact (hasBlank_ofString t).2 ⟨c, subset_of_name_mem (h ▸ hname) hcu hslash, hcblank⟩

end Path

/-- The paths of a rule. -/
def Rule.paths (r : Rule) : List Path := r.source :: r.target.toList

/-- A rule that the engine can have, with paths that are text. -/
structure Rule.Regular (r : Rule) : Prop where
  /-- It has the shape of its kind. -/
  valid : r.validate = .ok ()
  /-- Its paths are UTF-8. -/
  texts : ∀ p ∈ r.paths, p.text?.isSome = true
  /-- Its flags are known ones. -/
  flags : RuleFlags.known r.flags.bits = r.flags

namespace Listing

/-- Without blanks in its paths such a rule fits into a line. -/
theorem fits_of_regular {r : Rule} (h : r.Regular) (hblank : ∀ p ∈ r.paths, p.hasBlank = false) :
    Fits Path.IsWord r := by
  obtain ⟨hsource, htarget⟩ := Rule.isAbsolute_of_validate h.valid
  have hword {p : Path} (hp : p ∈ r.paths) (habsolute : p.isAbsolute = true) : p.IsWord := by
    obtain ⟨s, hs⟩ := Option.isSome_iff_exists.1 (h.texts p hp)
    obtain rfl := Path.ofString_of_text? hs
    refine Path.isWord_of_isAbsolute habsolute fun c hc => ?_
    rw [Bool.eq_false_iff]
    intro hcblank
    have hfree := hblank _ hp
    rw [(Path.hasBlank_ofString s).2 ⟨c, hc, hcblank⟩] at hfree
    cases hfree
  exact ⟨hword List.mem_cons_self hsource, fun t ht => hword
    (List.mem_cons_of_mem _ (Option.mem_toList.2 ht)) (htarget t ht), h.flags⟩

/-- No rule that is read from lines has a blank in a path, and its paths are text. -/
theorem blankFree_of_read {rs rs' : List Rule} (h : read (renderLines rs) = .ok rs') :
    ∀ r ∈ rs', ∀ p ∈ r.paths, ∃ s, p = .ofString s ∧ p.hasBlank = false := by
  have hfits := fits_of_renders ((read_eq_ok_iff_renders (not_bracket_of_renderLines rs)).1 h)
  intro r hr p hp
  have hword : p.IsWord := by
    rcases List.mem_cons.1 hp with rfl | hp
    · exact (hfits r hr).source
    · exact (hfits r hr).target p (Option.mem_toList.1 hp)
  obtain ⟨s, hs, _, rfl⟩ := hword
  refine ⟨s, rfl, Bool.eq_false_iff.2 fun hblank => ?_⟩
  obtain ⟨c, hc, hcblank⟩ := (Path.hasBlank_ofString s).1 hblank
  rw [hs.2 c hc] at hcblank
  cases hcblank

end Listing

/-- Rules of one key have blanks in their paths or have none, if these are texts. -/
theorem Rule.blankFree_of_sameKey {r s : Rule} (h : s.sameKey r = true)
    (hr : ∀ p ∈ r.paths, p.text?.isSome = true)
    (hs : ∀ p ∈ s.paths, ∃ text, p = .ofString text ∧ p.hasBlank = false) :
    ∀ p ∈ r.paths, p.hasBlank = false := by
  obtain ⟨_, hsource, htarget⟩ := Rule.sameKey_eq_true_iff.1 h
  have hpath {p q : Path} (hp : p ∈ r.paths) (hq : q ∈ s.paths)
      (heq : q.components = p.components) : p.hasBlank = false := by
    obtain ⟨text, hp⟩ := Option.isSome_iff_exists.1 (hr p hp)
    obtain rfl := Path.ofString_of_text? hp
    obtain ⟨text', rfl, hfree⟩ := hs q hq
    rw [Bool.eq_false_iff]
    intro hblank
    rw [Path.hasBlank_of_components heq.symm hblank] at hfree
    cases hfree
  intro p hp
  rcases List.mem_cons.1 hp with rfl | htp
  · exact hpath hp List.mem_cons_self hsource
  · -- A target stands in the other rule's target.
    rw [Option.mem_toList.1 htp] at htarget
    obtain ⟨q, hq, heq⟩ := Option.map_eq_some_iff.1 htarget
    exact hpath hp (List.mem_cons_of_mem _ (Option.mem_toList.2 hq)) heq

namespace RuleStore

variable {δ : Type} {d : Device δ} {c : Connection} {w : World δ} {rs : List Rule}

/-- The list of the rules of an engine that answers by lines. -/
theorem run_list_of_lines (htier : c.tier = .kernel) (hlive : w.connection = some c)
    (hsuccess : (d.toService.outcome .listRules w.device).success = true)
    (htext : (d.toService.outcome .listRules w.device).text = Listing.renderLines rs) :
    ((list d ⟨c⟩).run w).1 =
      match Listing.read (Listing.renderLines rs) with
      | .ok rules => .ofList rules
      | .error e => .missing (RuleError.engineUnreachable e.message).message := by
  rw [list, StateT.run_bind, run_fetch_of_live htier hlive, tableOf, if_pos hsuccess, htext]
  cases Listing.read (Listing.renderLines rs) <;> rfl

/-- A rule with a blank in a path is not among those that are read from lines. -/
theorem find?_eq_none_of_hasBlank {rules : List Rule}
    (hread : Listing.read (Listing.renderLines rs) = .ok rules) {r : Rule} (hr : r.Regular)
    {p : Path} (hp : p ∈ r.paths) (hblank : p.hasBlank = true) :
    (RuleTable.ofList rules).find? r = none := by
  rw [RuleTable.find?, List.find?_eq_none]
  intro s hs hkey
  have hfree := Listing.blankFree_of_read hread s ((RuleTable.distinct_sublist ..).subset hs)
  rw [Rule.blankFree_of_sameKey hkey hr.texts hfree p hp] at hblank
  cases hblank

/-- Over a connection of the kernel tier, to an engine that answers by lines, the list of the rules
is that of the engine exactly when no path of a rule has a blank. A table that is not authoritative
is empty; one that is authoritative has none of the rules with a blank, although the engine has
them. So the list is right or not authoritative exactly when no path has a blank or the lines cannot
be read at all. -/
theorem list_of_lines_iff (htier : c.tier = .kernel) (hlive : w.connection = some c)
    (hrules : ∀ r ∈ rs, r.Regular)
    (hsuccess : (d.toService.outcome .listRules w.device).success = true)
    (htext : (d.toService.outcome .listRules w.device).text = Listing.renderLines rs) :
    let t := ((list d ⟨c⟩).run w).1
    (t = .ofList rs ↔ ∀ r ∈ rs, ∀ p ∈ r.paths, p.hasBlank = false) ∧
      (t.isAuthoritative = false → t.rules = []) ∧
      (t.isAuthoritative = true → ∀ r ∈ rs, ∀ p ∈ r.paths, p.hasBlank = true → t.find? r = none) ∧
      (t.isAuthoritative = false ∨ t = .ofList rs ↔
        (∀ r ∈ rs, ∀ p ∈ r.paths, p.hasBlank = false) ∨
          ∃ e, Listing.read (Listing.renderLines rs) = .error e) := by
  intro t
  have ht : t = _ := run_list_of_lines htier hlive hsuccess htext
  have hfits (hfree : ∀ r ∈ rs, ∀ p ∈ r.paths, p.hasBlank = false) :
      Listing.read (Listing.renderLines rs) = .ok rs :=
    Listing.read_renderLines fun r hr => Listing.fits_of_regular (hrules r hr) (hfree r hr)
  cases hread : Listing.read (Listing.renderLines rs) with
  | error e =>
    rw [hread] at ht hfits
    -- Such a table is no list of rules, and then some path must have a blank.
    have hmissing : t ≠ .ofList rs := by
      rw [ht]
      intro heq
      cases congrArg RuleTable.unavailable heq
    have hblank : ¬∀ r ∈ rs, ∀ p ∈ r.paths, p.hasBlank = false := fun hfree => nomatch hfits hfree
    have hauthority : t.isAuthoritative = false := by rw [ht]; rfl
    refine ⟨⟨fun heq => absurd heq hmissing, fun hfree => absurd hfree hblank⟩, fun _ => ?_, ?_,
      ⟨fun _ => .inr ⟨e, rfl⟩, fun _ => .inl hauthority⟩⟩
    · rw [ht]
      rfl
    · intro hyes
      rw [hauthority] at hyes
      cases hyes
  | ok rules =>
    rw [hread] at ht hfits
    have hauthority : t.isAuthoritative = true := by rw [ht]; rfl
    have hnone : ∀ r ∈ rs, ∀ p ∈ r.paths, p.hasBlank = true → t.find? r = none := by
      intro r hr p hp hblank
      rw [ht]
      exact find?_eq_none_of_hasBlank hread (hrules r hr) hp hblank
    have hlist : t = .ofList rs ↔ ∀ r ∈ rs, ∀ p ∈ r.paths, p.hasBlank = false := by
      constructor
      · intro heq r hr p hp
        rw [Bool.eq_false_iff]
        intro hblank
        have hfound := RuleTable.find?_ofList_isSome hr
        rw [← heq, hnone r hr p hp hblank] at hfound
        cases hfound
      · intro hfree
        rw [ht, Except.ok.inj (hfits hfree)]
    refine ⟨hlist, fun hno => ?_, fun _ => hnone, ⟨?_, ?_⟩⟩
    · rw [hauthority] at hno
      cases hno
    · rintro (hno | heq)
      · rw [hauthority] at hno
        cases hno
      · exact .inl (hlist.1 heq)
    · rintro (hfree | ⟨e, he⟩)
      · exact .inr (hlist.2 hfree)
      · cases he

/-- An engine that hides a path with a blank is listed as one that hides another path, and has a
target for it; the table says of itself that it is what the engine has. -/
theorem list_of_lines_of_blank :
    let c : Connection := ⟨.kernel, 1, 12, none⟩
    let d := Device.ofParts (Simulation.Engine.service .socket) FileTree.storage
    let hide : Rule := { id := some ⟨1⟩, kind := .hide, source := .ofString "/a b" }
    let w : World (Simulation.Engine × FileTree) :=
      { device := ({ tier := some .kernel, rules := [hide] }, {}), connection := some c }
    let t := ((list d ⟨c⟩).run w).1
    t ≠ .ofList [hide] ∧ t.isAuthoritative = true ∧ t.find? hide = none ∧
      t.rules = [{ hide with source := .ofString "/a", target := some (.ofString "b") }] := by
  intro c d hide w t
  have hread : Listing.read (Listing.renderLines [hide]) =
      .ok [{ hide with source := .ofString "/a", target := some (.ofString "b") }] := by
    have hsome : (Listing.read (Listing.renderLines [hide])).toOption =
        some [{ hide with source := .ofString "/a", target := some (.ofString "b") }] := by
      decide +kernel
    cases hread : Listing.read (Listing.renderLines [hide]) with
    | error e =>
      rw [hread] at hsome
      cases hsome
    | ok rules =>
      rw [hread] at hsome
      exact congrArg Except.ok (Option.some.inj hsome)
  have hregular : ∀ r ∈ [hide], r.Regular := by
    intro r hr
    rw [List.mem_singleton.1 hr]
    exact ⟨rfl, by decide +kernel, by decide⟩
  have hblank : hide.source.hasBlank = true := by decide +kernel
  have hsuccess : (d.toService.outcome .listRules w.device).success = true := by decide +kernel
  have htext : (d.toService.outcome .listRules w.device).text = Listing.renderLines [hide] := by
    decide +kernel
  obtain ⟨hlist, _, hnone, hright⟩ :=
    list_of_lines_iff (d := d) (c := c) (w := w) rfl rfl hregular hsuccess htext
  have hne : t ≠ .ofList [hide] := by
    intro heq
    have hfree := hlist.1 heq hide List.mem_cons_self hide.source List.mem_cons_self
    rw [hblank] at hfree
    cases hfree
  have hauthority : t.isAuthoritative = true := by
    rw [← Bool.not_eq_false]
    intro hno
    rcases hright.1 (.inl hno) with hfree | ⟨e, he⟩
    · exact hne (hlist.2 hfree)
    · rw [hread] at he
      cases he
  refine ⟨hne, hauthority, hnone hauthority hide List.mem_cons_self hide.source List.mem_cons_self
    hblank, ?_⟩
  have ht : t = _ := run_list_of_lines (d := d) (c := c) (w := w) rfl rfl hsuccess htext
  rw [ht, hread]
  rfl

end RuleStore

end OverlayControl
