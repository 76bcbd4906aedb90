import OverlayControl.Proofs.Socket.Decoding

/-!
# What a path field tells

A path field holds the text of a path. The text of a path that is not UTF-8 has replacement
characters in it, and is the text of other paths, too. So a field has the bytes of the path exactly
when the path is UTF-8, and tells the path from all others exactly when there is no replacement
character in its text.

* `Path.forall_eq_of_display_iff` — the paths that their texts tell from all others;
* `Socket.pathField_eq_ok_iff_display` — the paths with the same field;
* `Socket.pathField_tells_text` — what a field tells of a path.
-/

namespace OverlayControl

namespace Path

variable {p : Path}

/-- A path is UTF-8 exactly when it is the path written as its text. -/
theorem isSome_text?_iff : p.text?.isSome = true ↔ ofString p.display = p := by
  constructor
  · intro h
    obtain ⟨s, hs⟩ := Option.isSome_iff_exists.1 h
    rw [← ofString_of_text? hs, display_ofString]
  · intro h
    rw [← h, text?_ofString]
    rfl

theorem toList_display (p : Path) :
    p.display.toList = (Utf8.pieces p.bytes).map fun o => o.getD '\uFFFD' := by
  rw [display, Utf8.decodeLossy, String.toList_ofList]

/-- A path in whose text nothing is replaced is UTF-8. -/
theorem isSome_text?_of_notMem (h : '\uFFFD' ∉ p.display.toList) : p.text?.isSome = true := by
  have hread : ∀ o ∈ Utf8.pieces p.bytes, o = some (o.getD '\uFFFD') := by
    intro o ho
    cases o with
    | none =>
      rw [toList_display] at h
      exact absurd (List.mem_map.2 ⟨none, ho, rfl⟩) h
    | some c => rfl
  have hpieces : Utf8.pieces p.bytes = p.display.toList.map some := by
    calc Utf8.pieces p.bytes
        = (Utf8.pieces p.bytes).map id := (List.map_id _).symm
      _ = (Utf8.pieces p.bytes).map fun o => some (o.getD '\uFFFD') := List.map_congr_left hread
      _ = p.display.toList.map some := by rw [toList_display, List.map_map]; rfl
  rw [text?, Utf8.decode?, Utf8.decodeChars?, Utf8.mapM_id_eq_some_iff.2 hpieces]
  rfl

/-- Text with a replacement character in it is also the text of a path that is not UTF-8: one byte
that starts no character can stand for the replacement character. -/
theorem exists_not_text?_of_mem {s : String} (h : '\uFFFD' ∈ s.toList) :
    ∃ q : Path, q.text? = none ∧ q.display = s := by
  obtain ⟨before, after, hs⟩ := List.append_of_mem h
  have hpieces : Utf8.pieces (Utf8.encodeChars before ++ 0xFF :: Utf8.encodeChars after) =
      before.map some ++ none :: after.map some := by
    have hnext : Utf8.next 0xFF (Utf8.encodeChars after) = (none, Utf8.encodeChars after) := rfl
    rw [Utf8.pieces_encodeChars_append, Utf8.pieces, hnext, Utf8.pieces_encodeChars]
  refine ⟨⟨Utf8.encodeChars before ++ 0xFF :: Utf8.encodeChars after⟩, ?_, ?_⟩
  · have hfails : (before.map some ++ none :: after.map some).mapM id = none := by
      rw [Option.eq_none_iff_forall_ne_some]
      intro cs hcs
      rw [Utf8.mapM_id_eq_some_iff] at hcs
      have hnone : none ∈ cs.map some := hcs ▸ by simp
      simp at hnone
    rw [text?, Utf8.decode?, Utf8.decodeChars?, hpieces, hfails]
    rfl
  · rw [← String.toList_inj, toList_display, hpieces, hs]
    simp [Function.comp_def]

/-- The paths that their texts tell from all others: those in whose text there is no replacement
character. -/
theorem forall_eq_of_display_iff :
    (∀ q : Path, q.display = p.display → q = p) ↔ '\uFFFD' ∉ p.display.toList := by
  constructor
  · intro hone hmem
    obtain ⟨q, hq, hdisplay⟩ := exists_not_text?_of_mem hmem
    -- The path itself is UTF-8, being the path that is written as its text.
    have hself : ofString p.display = p := hone _ (display_ofString _)
    rw [hone q hdisplay, ← hself, text?_ofString] at hq
    cases hq
  · intro h q hdisplay
    rw [← isSome_text?_iff.1 (isSome_text?_of_notMem h), ← hdisplay]
    exact (isSome_text?_iff.1 (isSome_text?_of_notMem (hdisplay ▸ h))).symm

end Path

namespace Socket

variable {p : Path} {field : List UInt8}

/-- A path has the field of the path that is written as its text. -/
theorem pathField_ofString_display (p : Path) : pathField (.ofString p.display) = pathField p := by
  rw [pathField, Path.display_ofString, pathField]

theorem pathField_eq_ok_iff :
    pathField p = .ok field ↔ p.Fits ∧
      field = Utf8.encode p.display ++
        List.replicate (pathFieldLength - (Utf8.encode p.display).length) 0 := by
  by_cases hfits : p.Fits
  · rw [pathField_of_fits hfits, Except.ok.injEq, and_iff_right hfits, eq_comm]
  · obtain ⟨why, herror⟩ := pathField_of_not_fits hfits
    simp [herror, hfits]

/-- The text of a path is read back from its field. -/
theorem pathOf_field (h : pathField p = .ok field) : pathOf field = .ofString p.display := by
  rw [← pathField_ofString_display] at h
  exact pathOf_of_pathField (by simp) h

/-- Two paths have the same field exactly when they have the same text. -/
theorem pathField_eq_ok_iff_display (h : pathField p = .ok field) (q : Path) :
    pathField q = .ok field ↔ q.display = p.display := by
  constructor
  · intro hq
    have hpath := (pathOf_field hq).symm.trans (pathOf_field h)
    simpa [Path.display_ofString] using congrArg Path.display hpath
  · intro hdisplay
    rw [← pathField_ofString_display, hdisplay, pathField_ofString_display, h]

/-- Bytes of a text with NUL bytes after them are the bytes of a text. -/
theorem encode_append_replicate (s : String) (n : Nat) :
    Utf8.encode (String.ofList (s.toList ++ List.replicate n '\x00')) =
      Utf8.encode s ++ List.replicate n 0 := by
  have hnul : Utf8.encodeChars (List.replicate n '\x00') = List.replicate n 0 := by
    induction n with
    | zero => rfl
    | succ n ih =>
      rw [List.replicate_succ, Utf8.encodeChars, List.flatMap_cons, ← Utf8.encodeChars, ih]
      rfl
  rw [Utf8.encode, String.toList_ofList, Utf8.encodeChars, List.flatMap_append,
    ← Utf8.encodeChars, ← Utf8.encodeChars, hnul, Utf8.encode]

/-- A field has the bytes of the path exactly when the path is UTF-8. -/
theorem field_eq_bytes_iff (h : pathField p = .ok field) :
    field = p.bytes ++ List.replicate (pathFieldLength - p.bytes.length) 0 ↔
      p.text?.isSome = true := by
  obtain ⟨hfits, rfl⟩ := pathField_eq_ok_iff.1 h
  constructor
  · intro hfield
    rcases List.append_eq_append_iff.1 hfield with ⟨more, hbytes, hzero⟩ | ⟨more, htext, hzero⟩
    · -- The bytes of the path are those of the text and NUL bytes after them, which is UTF-8.
      have hmore : more = List.replicate more.length 0 :=
        List.eq_replicate_of_mem fun b hb =>
          List.eq_of_mem_replicate (hzero ▸ List.mem_append_left _ hb)
      rw [hmore, ← encode_append_replicate] at hbytes
      rw [Path.text?, hbytes, Utf8.decode?_encode]
      rfl
    · -- Or they are the first bytes of the text, and all of them, since the text has no NUL bytes.
      obtain rfl : more = [] := by
        refine List.eq_nil_iff_forall_not_mem.2 fun b hb => hfits.2 ?_
        have hb' : b = 0 := List.eq_of_mem_replicate (hzero ▸ List.mem_append_left _ hb)
        rw [htext, ← hb']
        exact List.mem_append_right _ hb
      rw [List.append_nil] at htext
      rw [Path.isSome_text?_iff]
      obtain ⟨bytes⟩ := p
      exact congrArg Path.mk htext
  · intro htext
    obtain ⟨s, hs⟩ := Option.isSome_iff_exists.1 htext
    rw [Path.encode_display hs]

theorem rulePayload_display (source : Path) (target : Option Path) (flags : RuleFlags) :
    rulePayload (.ofString source.display) (target.map fun p => .ofString p.display) flags =
      rulePayload source target flags := by
  have htarget : pathField ((target.map fun p => .ofString p.display).getD ⟨[]⟩) =
      pathField (target.getD ⟨[]⟩) := by
    cases target with
    | none => rfl
    | some p => exact pathField_ofString_display p
  rw [rulePayload, htarget, pathField_ofString_display]
  rfl

/-- A rule has the frame of the rule for the paths that are written as the texts of its paths. -/
theorem ofCommand_addRule_display (kind : RuleKind) (source : Path) (target : Option Path)
    (flags : RuleFlags) :
    Frame.ofCommand (.addRule kind (.ofString source.display)
        (target.map fun p => .ofString p.display) flags) =
      Frame.ofCommand (.addRule kind source target flags) := by
  rw [ofCommand_eq_unmeasured, ofCommand_eq_unmeasured]
  cases kind <;>
    simp [Frame.unmeasured, rulePayload_display, pathField_ofString_display, unsupported,
      Command.name]

/-- What a path field tells of a path is its text. A path that does not fit is refused; any other
one has the field of its text, with the path's own bytes in it exactly when the path is UTF-8. The
paths with the same field are those with the same text, and it is the field of no other path exactly
when nothing in the text may have been replaced. The same goes for the paths of a rule. -/
theorem pathField_tells_text (p : Path) :
    ((∃ why, pathField p = .error (.invalidRequest why)) ↔ ¬p.Fits) ∧
    (p.Fits → ∃ field, pathField p = .ok field ∧ pathField (.ofString p.display) = .ok field ∧
      (field = p.bytes ++ List.replicate (pathFieldLength - p.bytes.length) 0 ↔
        p.text?.isSome = true) ∧
      (∀ q, pathField q = .ok field ↔ q.display = p.display) ∧
      ((∀ q, pathField q = .ok field → q = p) ↔ '\uFFFD' ∉ p.display.toList)) ∧
    ∀ (kind : RuleKind) (target : Option Path) (flags : RuleFlags),
      Frame.ofCommand (.addRule kind (.ofString p.display)
          (target.map fun q => .ofString q.display) flags) =
        Frame.ofCommand (.addRule kind p target flags) := by
  refine ⟨⟨?_, pathField_of_not_fits⟩, fun hfits => ?_,
    fun kind => ofCommand_addRule_display kind p⟩
  · rintro ⟨why, herror⟩ hfits
    rw [pathField_of_fits hfits] at herror
    cases herror
  · obtain ⟨field, hfield⟩ : ∃ field, pathField p = .ok field := ⟨_, pathField_of_fits hfits⟩
    refine ⟨field, hfield, (pathField_ofString_display p).trans hfield, field_eq_bytes_iff hfield,
      pathField_eq_ok_iff_display hfield, ?_⟩
    rw [← Path.forall_eq_of_display_iff]
    exact forall_congr' fun q => by rw [pathField_eq_ok_iff_display hfield]

/-- A path that ends in a byte of no character is not refused, but has the field of another path:
that of the same path with a replacement character instead. -/
theorem pathField_of_stray_byte :
    (⟨[0x2F, 0xFF]⟩ : Path).Fits ∧
    ∃ field, pathField ⟨[0x2F, 0xFF]⟩ = .ok field ∧ pathField (.ofString "/\uFFFD") = .ok field ∧
      field ≠ [0x2F, 0xFF] ++ List.replicate (pathFieldLength - 2) 0 := by
  have hfits : (⟨[0x2F, 0xFF]⟩ : Path).Fits := by
    unfold Path.Fits
    decide +kernel
  have hdisplay : (⟨[0x2F, 0xFF]⟩ : Path).display = "/\uFFFD" := by decide +kernel
  obtain ⟨-, hfield, -⟩ := pathField_tells_text ⟨[0x2F, 0xFF]⟩
  obtain ⟨field, hself, hother, hbytes, -⟩ := hfield hfits
  rw [hdisplay] at hother
  refine ⟨hfits, field, hself, hother, fun heq => ?_⟩
  exact absurd (hbytes.1 heq) (by decide +kernel)

end Socket

end OverlayControl
