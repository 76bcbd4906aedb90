import OverlayControl.Path

/-!
# Parts of paths

Cutting a path at its slashes and joining the parts again are inverse to each other
(`Path.joinSlash_splitSlash`, `Path.splitSlash_joinSlash`). A path with a file name ends in that
name, up to parts that stand for nothing (`Path.splitSlash_of_fileName?`), and an extension with a
dot in it makes another path of it (`Path.withExtension_ne_self`): the document of the acknowledged
settings is never the one of the declared settings.
-/

namespace OverlayControl.Path

theorem splitSlash_ne_nil (bs : List UInt8) : splitSlash bs ≠ [] := by
  cases bs with
  | nil => simp [splitSlash]
  | cons b bs =>
    rw [splitSlash]
    split
    · simp
    · split <;> simp

theorem splitSlash_cons_of_ne {b : UInt8} (hb : b ≠ slash) (bs : List UInt8) :
    ∃ part parts, splitSlash bs = part :: parts ∧ splitSlash (b :: bs) = (b :: part) :: parts := by
  cases hsplit : splitSlash bs with
  | nil => exact absurd hsplit (splitSlash_ne_nil bs)
  | cons part parts => exact ⟨part, parts, rfl, by rw [splitSlash, if_neg hb, hsplit]⟩

theorem slash_notMem_of_mem_splitSlash {bs part : List UInt8} (h : part ∈ splitSlash bs) :
    slash ∉ part := by
  induction bs generalizing part with
  | nil =>
    obtain rfl : part = [] := by simpa [splitSlash] using h
    exact List.not_mem_nil
  | cons b bs ih =>
    by_cases hb : b = slash
    · rw [splitSlash, if_pos hb] at h
      rcases List.mem_cons.1 h with rfl | h
      · exact List.not_mem_nil
      · exact ih h
    · -- A byte that is no slash only lengthens the first part.
      obtain ⟨first, parts, hsplit, hcons⟩ := splitSlash_cons_of_ne hb bs
      rw [hcons] at h
      rw [hsplit] at ih
      rcases List.mem_cons.1 h with rfl | h
      · intro hmem
        rcases List.mem_cons.1 hmem with hs | hs
        · exact hb hs.symm
        · exact ih (List.mem_cons_self ..) hs
      · exact ih (List.mem_cons_of_mem _ h)

theorem joinSlash_cons_cons (part next : List UInt8) (parts : List (List UInt8)) :
    joinSlash (part :: next :: parts) = part ++ slash :: joinSlash (next :: parts) := rfl

/-- Joining the parts of a path gives its bytes. -/
theorem joinSlash_splitSlash (bs : List UInt8) : joinSlash (splitSlash bs) = bs := by
  induction bs with
  | nil => rfl
  | cons b bs ih =>
    by_cases hb : b = slash
    · rw [splitSlash, if_pos hb]
      -- A slash starts a new part, which is empty so far.
      cases hsplit : splitSlash bs with
      | nil => exact absurd hsplit (splitSlash_ne_nil bs)
      | cons part parts => rw [joinSlash_cons_cons, List.nil_append, ← hsplit, ih, hb]
    · obtain ⟨part, parts, hsplit, hcons⟩ := splitSlash_cons_of_ne hb bs
      rw [hsplit] at ih
      rw [hcons, ← ih]
      cases parts <;> rfl

theorem splitSlash_part {part : List UInt8} (h : slash ∉ part) : splitSlash part = [part] := by
  induction part with
  | nil => rfl
  | cons b part ih =>
    rw [List.mem_cons, not_or] at h
    rw [splitSlash, if_neg (Ne.symm h.1), ih h.2]

theorem splitSlash_part_slash {part : List UInt8} (h : slash ∉ part) (bs : List UInt8) :
    splitSlash (part ++ slash :: bs) = part :: splitSlash bs := by
  induction part with
  | nil => rw [List.nil_append, splitSlash, if_pos rfl]
  | cons b part ih =>
    rw [List.mem_cons, not_or] at h
    rw [List.cons_append, splitSlash, if_neg (Ne.symm h.1), ih h.2]

/-- Bytes without a slash before a text go into its first part. -/
theorem splitSlash_append_of_notMem {front bs part : List UInt8} {parts : List (List UInt8)}
    (hfront : slash ∉ front) (h : splitSlash bs = part :: parts) :
    splitSlash (front ++ bs) = (front ++ part) :: parts := by
  induction front with
  | nil => exact h
  | cons b front ih =>
    rw [List.mem_cons, not_or] at hfront
    rw [List.cons_append, splitSlash, if_neg (Ne.symm hfront.1), ih hfront.2]
    rfl

/-- Cutting joined parts gives the parts, unless one of them holds a slash. -/
theorem splitSlash_joinSlash {parts : List (List UInt8)} (hne : parts ≠ [])
    (hslash : ∀ part ∈ parts, slash ∉ part) : splitSlash (joinSlash parts) = parts := by
  induction parts with
  | nil => exact absurd rfl hne
  | cons part parts ih =>
    have hpart := hslash part (List.mem_cons_self ..)
    cases parts with
    | nil => exact splitSlash_part hpart
    | cons next parts =>
      rw [joinSlash_cons_cons, splitSlash_part_slash hpart,
        ih (List.cons_ne_nil _ _) fun q hq => hslash q (List.mem_cons_of_mem _ hq)]

theorem joinSlash_concat_append (front : List (List UInt8)) (part bs : List UInt8) :
    joinSlash (front ++ [part]) ++ bs = joinSlash (front ++ [part ++ bs]) := by
  induction front with
  | nil => rfl
  | cons first front ih =>
    -- The slash is written only before a next part, so the step needs two parts at hand.
    cases front with
    | nil => simp [joinSlash]
    | cons next front =>
      simp only [List.cons_append] at ih
      rw [List.cons_append, List.cons_append, List.cons_append, List.cons_append,
        joinSlash_cons_cons, joinSlash_cons_cons, List.append_assoc, List.cons_append, ih]

theorem name_of_component? {part name : List UInt8} (h : component? part = some (.name name)) :
    part = name ∧ part ≠ [dot, dot] := by
  unfold component? at h
  split at h
  · cases h
  · split at h
    · cases h
    · next hparent =>
      cases h
      exact ⟨rfl, hparent⟩

theorem dropWhile_of_findSome? {parts : List (List UInt8)} {c : Component}
    (h : parts.findSome? component? = some c) :
    ∃ part rest, parts.dropWhile (fun part => (component? part).isNone) = part :: rest ∧
      component? part = some c := by
  induction parts with
  | nil => cases h
  | cons part parts ih =>
    cases hpart : component? part with
    | none =>
      rw [List.findSome?_cons, hpart] at h
      rw [List.dropWhile_cons_of_pos (by simp [hpart])]
      exact ih h
    | some d =>
      rw [List.findSome?_cons, hpart] at h
      cases h
      exact ⟨part, parts, List.dropWhile_cons_of_neg (by simp [hpart]), hpart⟩

/-- A path with a file name ends in a part of that name; only parts that stand for nothing follow
it. -/
theorem splitSlash_of_fileName? {p : Path} {name : List UInt8} (h : p.fileName? = some name) :
    ∃ front rest, p.partsToName = front ++ [name] ∧ splitSlash p.bytes = front ++ name :: rest ∧
      name ≠ [dot, dot] := by
  have hlast : (splitSlash p.bytes).reverse.findSome? component? = some (.name name) := by
    unfold fileName? components at h
    rw [List.getLast?_append, List.getLast?_filterMap] at h
    cases hfind : (splitSlash p.bytes).reverse.findSome? component? with
    | none =>
      -- What stands before the parts is no name.
      rw [hfind] at h
      by_cases habs : p.isAbsolute
      · simp [habs] at h
      · by_cases hdot : ((splitSlash p.bytes).head? == some [dot]) = true
        · simp [habs, hdot] at h
        · simp [habs, hdot] at h
    | some c =>
      rw [hfind] at h
      cases c <;> simp at h
      rw [h]
  -- Of the parts from the last on, those that stand for nothing are dropped; the name is next.
  obtain ⟨part, rest, hdrop, hpart⟩ := dropWhile_of_findSome? hlast
  obtain ⟨rfl, hparent⟩ := name_of_component? hpart
  refine ⟨rest.reverse, ((splitSlash p.bytes).reverse.takeWhile
    fun part => (component? part).isNone).reverse, ?_, ?_, hparent⟩
  · rw [partsToName, hdrop, List.reverse_cons]
  · have hsplit := List.takeWhile_append_dropWhile (p := fun part => (component? part).isNone)
      (l := (splitSlash p.bytes).reverse)
    rw [hdrop] at hsplit
    have hreverse := congrArg List.reverse hsplit
    rw [List.reverse_reverse, List.reverse_append, List.reverse_cons, List.append_assoc] at hreverse
    exact hreverse.symm

/-- Only what precedes the last dot is left of a name. -/
theorem length_lt_length_stem (before : List UInt8) {after : List UInt8} (h : dot ∈ after) :
    before.length < (stem (before ++ dot :: after)).length := by
  -- The last dot of the name stands in `after`, so that `before` is kept whole.
  obtain ⟨b, rest, hrest⟩ : ∃ b rest, after.reverse.dropWhile (· != dot) = b :: rest := by
    obtain ⟨front, back, hafter⟩ := List.append_of_mem (List.mem_reverse.2 h)
    rw [hafter, List.dropWhile_append]
    split
    · exact ⟨dot, back, List.dropWhile_cons_of_neg (by simp)⟩
    · cases hfront : front.dropWhile (· != dot) with
      | nil => simp_all
      | cons b rest => exact ⟨b, rest ++ dot :: back, rfl⟩
  unfold stem
  rw [List.reverse_append, List.reverse_cons, List.append_assoc, List.dropWhile_append, hrest]
  simp only [List.isEmpty_cons, Bool.false_eq_true, if_false, List.cons_append, List.drop_succ_cons,
    List.drop_zero]
  cases hleft : rest ++ (dot :: before.reverse) with
  | nil => simp at hleft
  | cons b left =>
    have hlen := congrArg List.length hleft
    rw [List.length_append, List.length_cons, List.length_reverse] at hlen
    simp only [List.nil_append, hleft, List.length_reverse]
    omega

theorem mem_of_mem_stem {name : List UInt8} {b : UInt8} (h : b ∈ stem name) : b ∈ name := by
  unfold stem at h
  split at h
  · exact h
  · next before hbefore =>
    have hsub := (List.drop_suffix 1 (name.reverse.dropWhile (· != dot))).sublist.trans
      (List.dropWhile_sublist _)
    exact List.mem_reverse.1 (hsub.subset (List.mem_reverse.1 h))

/-- A path with another extension ends in the name with that extension, or in an upward step. -/
theorem splitSlash_withExtension {p : Path} {name : List UInt8} {extension : String}
    (hname : p.fileName? = some name) (hslash : slash ∉ Utf8.encode extension) :
    ∃ front last, splitSlash (p.withExtension extension).bytes = front ++ [last] ∧
      (last = [dot, dot] ∨ last = stem name ++ dot :: Utf8.encode extension) := by
  obtain ⟨front, rest, hparts, hsplit, _⟩ := splitSlash_of_fileName? hname
  have hfront : ∀ part ∈ front, slash ∉ part := fun part hpart =>
    slash_notMem_of_mem_splitSlash (by rw [hsplit]; exact List.mem_append_left _ hpart)
  have hnameSlash : slash ∉ name :=
    slash_notMem_of_mem_splitSlash (by rw [hsplit]; simp)
  -- Whichever part takes the place of the name, the new path is cut into as many parts.
  have hcut (last : List UInt8) (hlast : slash ∉ last) :
      splitSlash (joinSlash (front ++ [last])) = front ++ [last] := by
    refine splitSlash_joinSlash (by simp) fun part hpart => ?_
    rcases List.mem_append.1 hpart with hpart | hpart
    · exact hfront part hpart
    · rw [List.mem_singleton.1 hpart]
      exact hlast
  unfold withExtension
  simp only [hname, hparts, List.dropLast_concat]
  split
  · exact ⟨front, _, hcut [dot, dot] (by decide), .inl rfl⟩
  · have hstem : slash ∉ stem name ++ dot :: Utf8.encode extension := by
      intro hmem
      rcases List.mem_append.1 hmem with hmem | hmem
      · exact hnameSlash (mem_of_mem_stem hmem)
      · rcases List.mem_cons.1 hmem with hmem | hmem
        · exact absurd hmem (by decide)
        · exact hslash hmem
    refine ⟨front, _, ?_, .inr rfl⟩
    rw [joinSlash_concat_append, hcut _ hstem]

/-- The last part of a path is its last component, if it stands for one. -/
theorem getLast?_components {p : Path} {front : List (List UInt8)} {last : List UInt8}
    {c : Component} (hsplit : splitSlash p.bytes = front ++ [last])
    (hlast : component? last = some c) : p.components.getLast? = some c := by
  have hparts : (front ++ [last]).filterMap component? = front.filterMap component? ++ [c] := by
    rw [List.filterMap_append, List.filterMap_cons_some hlast, List.filterMap_nil]
  rw [components, hsplit, hparts, ← List.append_assoc, List.getLast?_append]
  rfl

/-- An extension with a dot in it makes another file name. -/
theorem fileName?_withExtension_ne {p : Path} {name : List UInt8} {extension : String}
    (hname : p.fileName? = some name) (hdot : dot ∈ Utf8.encode extension)
    (hslash : slash ∉ Utf8.encode extension) :
    (p.withExtension extension).fileName? ≠ some name := by
  obtain ⟨front, last, hsplit, hlast⟩ := splitSlash_withExtension hname hslash
  intro heq
  rcases hlast with rfl | rfl
  · -- The extension falls away after a name of two dots, and `..` is no name.
    have hparent : component? [dot, dot] = some .parent := by decide
    rw [fileName?, getLast?_components hsplit hparent] at heq
    cases heq
  · -- Otherwise the name would be its own stem with something after it.
    have hlength : 2 ≤ (stem name ++ dot :: Utf8.encode extension).length := by
      have hpos := List.length_pos_of_mem hdot
      rw [List.length_append, List.length_cons]
      omega
    have hcomponent : ∃ c, component? (stem name ++ dot :: Utf8.encode extension) = some c := by
      unfold component?
      rw [if_neg]
      · split <;> exact ⟨_, rfl⟩
      · rintro (hnil | hsingle)
        · rw [hnil] at hlength
          cases hlength
        · rw [hsingle] at hlength
          exact absurd hlength (by decide)
    obtain ⟨c, hc⟩ := hcomponent
    rw [fileName?, getLast?_components hsplit hc] at heq
    cases c with
    | name bytes =>
      cases heq
      have hnew := (name_of_component? hc).1
      have hlen := length_lt_length_stem (stem name) hdot
      rw [hnew] at hlen
      exact absurd hlen (Nat.lt_irrefl _)
    | _ => cases heq

/-- An extension with a dot in it makes another path. -/
theorem withExtension_ne_self {p : Path} {extension : String} (hname : p.fileName?.isSome = true)
    (hdot : dot ∈ Utf8.encode extension) (hslash : slash ∉ Utf8.encode extension) :
    p.withExtension extension ≠ p := by
  obtain ⟨name, hname⟩ := Option.isSome_iff_exists.1 hname
  intro heq
  refine fileName?_withExtension_ne hname hdot hslash ?_
  rw [heq]
  exact hname

end OverlayControl.Path
