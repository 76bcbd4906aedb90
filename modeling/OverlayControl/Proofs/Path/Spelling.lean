import Mathlib.Logic.Relation
import OverlayControl.Proofs.Path

/-!
# Spellings of a path

The same place may be spelled in several ways: a slash may be repeated, a part of one dot may stand
after a slash, and slashes may end a path. This module says so without cutting paths into parts, and
shows that nothing else is forgotten when the components of paths are compared.

* `Path.Shortens` — leaving out one slash or one dot that does not matter;
* `Path.Alike` — spellings that come from each other in this way;
* `Path.components_eq_of_shortens` — leaving something out keeps the components;
* `Path.spelled`, `Path.alike_spelled` — the shortest spelling of components, and that every path
  comes to it;
* `Path.alike_iff` — paths are alike exactly when their components are the same.
-/

namespace OverlayControl.Path

/-- A spelling and one that leaves something out of it. -/
inductive Shortens : Path → Path → Prop
  /-- A second slash. -/
  | slash (front back : List UInt8) :
      Shortens ⟨front ++ slash :: slash :: back⟩ ⟨front ++ slash :: back⟩
  /-- A dot between slashes. -/
  | dot (front back : List UInt8) :
      Shortens ⟨front ++ slash :: dot :: slash :: back⟩ ⟨front ++ slash :: back⟩
  /-- A dot after the last slash. -/
  | lastDot (front : List UInt8) : Shortens ⟨front ++ [slash, dot]⟩ ⟨front ++ [slash]⟩
  /-- A slash at the end, unless it is the root. -/
  | lastSlash (front : List UInt8) (h : front ≠ []) : Shortens ⟨front ++ [slash]⟩ ⟨front⟩

/-- Two spellings of one place: each comes from the other by leaving out, and putting back, slashes
and dots that do not matter. -/
def Alike : Path → Path → Prop := Relation.EqvGen Shortens

namespace Alike

theorem refl (p : Path) : p.Alike p := Relation.EqvGen.refl p

theorem symm {p q : Path} (h : p.Alike q) : q.Alike p := Relation.EqvGen.symm p q h

theorem trans {p q r : Path} (h : p.Alike q) (h' : q.Alike r) : p.Alike r :=
  Relation.EqvGen.trans p q r h h'

theorem of_shortens {p q : Path} (h : Shortens p q) : p.Alike q := Relation.EqvGen.rel p q h

end Alike

/-! ## Leaving out keeps the components -/

theorem splitSlash_append_slash (front back : List UInt8) :
    splitSlash (front ++ slash :: back) = splitSlash front ++ splitSlash back := by
  induction front with
  | nil => rfl
  | cons b front ih =>
    by_cases hb : b = slash
    · rw [List.cons_append, splitSlash, if_pos hb, ih, splitSlash, if_pos hb, List.cons_append]
    · obtain ⟨part, parts, hsplit, hcons⟩ := splitSlash_cons_of_ne hb front
      rw [List.cons_append, splitSlash, if_neg hb, ih, hcons, hsplit]
      rfl

/-- What comes before the first slash decides how the components start; what comes after it adds the
components of its parts. -/
theorem components_append_slash (front back : List UInt8) :
    components ⟨front ++ slash :: back⟩ =
      components ⟨front ++ [slash]⟩ ++ (splitSlash back).filterMap component? := by
  have habsolute : isAbsolute ⟨front ++ slash :: back⟩ = isAbsolute ⟨front ++ [slash]⟩ := by
    cases front <;> rfl
  have hhead : (splitSlash (front ++ slash :: back)).head? =
      (splitSlash (front ++ [slash])).head? := by
    obtain ⟨part, parts, hsplit⟩ := List.exists_cons_of_ne_nil (splitSlash_ne_nil front)
    rw [splitSlash_append_slash, splitSlash_append_slash, hsplit]
    rfl
  simp only [components, habsolute, hhead]
  rw [splitSlash_append_slash, splitSlash_append_slash, List.filterMap_append,
    List.filterMap_append, List.append_assoc, List.append_assoc]
  rfl

/-- Leaving out one slash or one dot that does not matter keeps the components. -/
theorem components_eq_of_shortens {p q : Path} (h : Shortens p q) :
    p.components = q.components := by
  cases h with
  | slash front back =>
    rw [components_append_slash, components_append_slash front back]
    rfl
  | dot front back =>
    rw [components_append_slash, components_append_slash front back]
    rfl
  | lastDot front =>
    rw [components_append_slash front [dot]]
    exact List.append_nil _
  | lastSlash front hfront =>
    obtain ⟨b, rest, rfl⟩ := List.exists_cons_of_ne_nil hfront
    obtain ⟨part, parts, hsplit⟩ := List.exists_cons_of_ne_nil (splitSlash_ne_nil (b :: rest))
    -- The slash adds an empty part at the end, and the path starts as before.
    simp only [components, splitSlash_append_slash, hsplit]
    simp [isAbsolute, splitSlash, component?, List.filterMap_cons]

/-! ## The shortest spelling -/

/-- The bytes of a component between slashes. -/
def Component.bytes : Component → List UInt8
  | .root => []
  | .current => [dot]
  | .parent => [dot, dot]
  | .name bytes => bytes

/-- The shortest spelling of components. -/
def spelled : List Component → Path
  | .root :: cs => ⟨slash :: joinSlash (cs.map Component.bytes)⟩
  | cs => ⟨joinSlash (cs.map Component.bytes)⟩

theorem component?_eq_none_iff {part : List UInt8} :
    component? part = none ↔ part = [] ∨ part = [dot] := by
  unfold component?
  split
  · next h => exact ⟨fun _ => h, fun _ => rfl⟩
  · next h =>
    split
    · simpa using h
    · simpa using h

/-- A part that stands for a component is spelled as it was, and never is the root. -/
theorem bytes_of_component? {part : List UInt8} {c : Component} (h : component? part = some c) :
    c.bytes = part ∧ c ≠ .root := by
  unfold component? at h
  split at h
  · cases h
  · split at h
    · next hdots =>
      cases h
      exact ⟨hdots.symm, nofun⟩
    · cases h
      exact ⟨rfl, nofun⟩

/-- Components are spelled with the parts that stand for something. -/
theorem map_bytes_filterMap (parts : List (List UInt8)) :
    (parts.filterMap component?).map Component.bytes =
      parts.filter fun part => (component? part).isSome := by
  induction parts with
  | nil => rfl
  | cons part parts ih =>
    cases hpart : component? part with
    | none => rw [List.filterMap_cons_none hpart, ih, List.filter_cons_of_neg (by simp [hpart])]
    | some c =>
      rw [List.filterMap_cons_some hpart, List.map_cons, ih, (bytes_of_component? hpart).1,
        List.filter_cons_of_pos (by simp [hpart])]

/-- After a slash the parts that stand for nothing may be left out. -/
theorem alike_filter (front : List UInt8) (parts : List (List UInt8)) :
    Alike ⟨front ++ slash :: joinSlash parts⟩
      ⟨front ++ slash :: joinSlash (parts.filter fun part => (component? part).isSome)⟩ := by
  induction parts generalizing front with
  | nil => exact .refl _
  | cons part parts ih =>
    cases hpart : component? part with
    | none =>
      rw [List.filter_cons_of_neg (by simp [hpart])]
      refine .trans ?_ (ih front)
      -- The part goes, with the slash after it unless it is the last one.
      rcases component?_eq_none_iff.1 hpart with rfl | rfl
      · cases parts with
        | nil => exact .refl _
        | cons next parts => exact .of_shortens (.slash front _)
      · cases parts with
        | nil => exact .of_shortens (.lastDot front)
        | cons next parts => exact .of_shortens (.dot front _)
    | some c =>
      rw [List.filter_cons_of_pos (by simp [hpart])]
      cases parts with
      | nil => exact .refl _
      | cons next parts =>
        have hnext := ih (front ++ slash :: part)
        rw [joinSlash_cons_cons]
        simp only [List.append_assoc, List.cons_append] at hnext
        refine .trans hnext ?_
        -- If nothing is left after the part, the slash after it goes as well.
        cases hkept : (next :: parts).filter fun part => (component? part).isSome with
        | nil =>
          have hlast := Shortens.lastSlash (front ++ slash :: part) (by simp)
          rw [List.append_assoc] at hlast
          exact .of_shortens hlast
        | cons first kept =>
          rw [joinSlash_cons_cons]
          exact .refl _

/-- A path that starts with a part that is not empty is relative, and that part is its first
component. -/
theorem components_of_relative {bytes first : List UInt8} {rest : List (List UInt8)}
    (hsplit : splitSlash bytes = first :: rest) (hfirst : first ≠ []) :
    ∃ c, c ≠ .root ∧ c.bytes = first ∧ components ⟨bytes⟩ = c :: rest.filterMap component? := by
  have hrelative : isAbsolute ⟨bytes⟩ = false := by
    cases bytes with
    | nil => rfl
    | cons b bytes =>
      refine beq_eq_false_iff_ne.2 fun hb => hfirst ?_
      obtain rfl : b = slash := Option.some.inj hb
      rw [splitSlash, if_pos rfl] at hsplit
      exact (List.cons.inj hsplit).1.symm
  simp only [components, hrelative, hsplit, List.head?_cons, Bool.false_eq_true, if_false]
  cases hpart : component? first with
  | none =>
    -- Of the parts that stand for nothing, a dot counts at the start.
    obtain rfl : first = [dot] := (component?_eq_none_iff.1 hpart).resolve_left hfirst
    refine ⟨.current, by decide, rfl, ?_⟩
    rw [List.filterMap_cons_none hpart]
    rfl
  | some c =>
    obtain ⟨hbytes, hroot⟩ := bytes_of_component? hpart
    refine ⟨c, hroot, hbytes, ?_⟩
    have hdot : (some first == some [dot]) = false := by
      refine beq_eq_false_iff_ne.2 fun h => ?_
      rw [component?_eq_none_iff.2 (.inr (Option.some.inj h))] at hpart
      cases hpart
    rw [List.filterMap_cons_some hpart, hdot]
    rfl

theorem spelled_cons_of_ne {c : Component} (hc : c ≠ .root) (cs : List Component) :
    spelled (c :: cs) = ⟨joinSlash (c.bytes :: cs.map Component.bytes)⟩ := by
  cases c with
  | root => exact absurd rfl hc
  | current => rfl
  | parent => rfl
  | name bytes => rfl

/-- Every path comes to the shortest spelling of its components. -/
theorem alike_spelled (p : Path) : p.Alike (spelled p.components) := by
  obtain ⟨bytes⟩ := p
  obtain ⟨first, rest, hsplit⟩ := List.exists_cons_of_ne_nil (splitSlash_ne_nil bytes)
  have hbytes : joinSlash (first :: rest) = bytes := hsplit ▸ joinSlash_splitSlash bytes
  by_cases hfirst : first = []
  · subst hfirst
    cases rest with
    | nil =>
      -- The empty path.
      rw [← hbytes]
      exact .refl _
    | cons next rest =>
      -- The path starts at the root.
      have hkept := alike_filter [] (next :: rest)
      rw [← map_bytes_filterMap] at hkept
      rw [← hbytes]
      have hroot : components ⟨joinSlash ([] :: next :: rest)⟩ =
          .root :: (next :: rest).filterMap component? := by
        simp only [components, hbytes, hsplit]
        rw [List.filterMap_cons_none rfl, ← hbytes]
        rfl
      rw [hroot]
      exact hkept
  · obtain ⟨c, hc, rfl, hcomponents⟩ := components_of_relative hsplit hfirst
    rw [hcomponents, spelled_cons_of_ne hc, map_bytes_filterMap, ← hbytes]
    cases rest with
    | nil => exact .refl _
    | cons next rest =>
      refine .trans (alike_filter c.bytes (next :: rest)) ?_
      cases (next :: rest).filter fun part => (component? part).isSome with
      | nil => exact .of_shortens (.lastSlash c.bytes hfirst)
      | cons part kept => exact .refl _

/-- Paths are alike exactly when their components are the same. -/
theorem alike_iff {p q : Path} : p.Alike q ↔ p.components = q.components := by
  constructor
  · intro h
    induction h with
    | rel p q h => exact components_eq_of_shortens h
    | refl p => rfl
    | symm p q _ ih => exact ih.symm
    | trans p q r _ _ ihpq ihqr => exact ihpq.trans ihqr
  · intro h
    refine .trans (alike_spelled p) ?_
    rw [h]
    exact (alike_spelled q).symm

/-- Of two paths that may be missing, both are, or they are alike, exactly when their components are
the same. -/
theorem rel_alike_iff {p q : Option Path} :
    Option.Rel Alike p q ↔ p.map components = q.map components := by
  cases p with
  | none => cases q <;> simp
  | some p => cases q <;> simp [alike_iff]

end OverlayControl.Path
