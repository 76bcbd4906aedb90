import OverlayControl.Proofs.Toml.Document
import OverlayControl.Proofs.Utf8
import OverlayControl.Settings

/-!
# Settings survive their document

The document of settings exists exactly when the mirror path is UTF-8 (`toToml_isSome_iff`), and it
holds the settings that it was written from, the text of the mirror path included
(`ofToml_of_toToml`).
-/

namespace OverlayControl

namespace Data

/-- The value of a key that occurs once. -/
theorem single?_of_mem {entries : List (String × Data)} {key : String} {d : Data}
    (hkeys : (entries.map Prod.fst).Nodup) (h : (key, d) ∈ entries) :
    single? entries [key] = some (some d) := by
  -- Looking a key up means sifting the entries, which leaves the one entry of that key.
  have hfilter : (entries.filter fun e => [key].contains e.1) = [(key, d)] := by
    induction entries with
    | nil => cases h
    | cons e entries ih =>
      rw [List.map_cons, List.nodup_cons] at hkeys
      rcases List.mem_cons.1 h with rfl | hmem
      · have hrest : (entries.filter fun e => [key].contains e.1) = [] := by
          rw [List.filter_eq_nil_iff]
          intro e he heq
          have hk : e.1 = key := by simpa using heq
          exact hkeys.1 (List.mem_map.2 ⟨e, he, hk⟩)
        rw [List.filter_cons_of_pos (by simp), hrest]
      · have hne : e.1 ≠ key := fun he =>
          hkeys.1 (List.mem_map.2 ⟨(key, d), hmem, he.symm⟩)
        rw [List.filter_cons_of_neg (by simpa using hne)]
        exact ih hkeys.2 hmem
  unfold single?
  split
  · next hnil => cases hfilter.symm.trans hnil
  · next hone =>
    cases hfilter.symm.trans hone
    rfl
  · next hmany => exact absurd hfilter (hmany key d)

/-- A key that does not occur has no value. -/
theorem single?_of_not_mem {entries : List (String × Data)} {key : String}
    (h : key ∉ entries.map Prod.fst) : single? entries [key] = some none := by
  have hfilter : (entries.filter fun e => [key].contains e.1) = [] := by
    rw [List.filter_eq_nil_iff]
    intro e he heq
    have hk : e.1 = key := by simpa using heq
    exact h (List.mem_map.2 ⟨e, he, hk⟩)
  unfold single?
  split
  · rfl
  · next hone => cases hfilter.symm.trans hone
  · next hnil _ => exact absurd hfilter hnil

end Data

namespace Settings

/-- The lines of the document. -/
def lines (s : Settings) : List Toml.Line :=
  Toggle.all.map (fun g => Toml.Line.ofBool g.key (g.get s)) ++
    match s.mirrorPath.bind Path.text? with
    | none => []
    | some text => [Toml.Line.ofText "mirror_path" text.toList]

/-- The document exists exactly when the mirror path, if there is one, is UTF-8. -/
theorem toToml_isSome_iff {s : Settings} :
    s.toToml.isSome = true ↔ ∀ p, s.mirrorPath = some p → p.text?.isSome = true := by
  unfold toToml
  cases hm : s.mirrorPath with
  | none => simp
  | some p => simp

theorem toToml_isSome_congr {s r : Settings} (h : s.mirrorPath = r.mirrorPath) :
    s.toToml.isSome = r.toToml.isSome := by
  rw [Bool.eq_iff_iff, toToml_isSome_iff, toToml_isSome_iff, h]

theorem toToml_eq_lines {s : Settings} {text : String} (h : s.toToml = some text) :
    text.toList = s.lines.flatMap Toml.Line.text := by
  unfold toToml at h
  unfold lines
  cases hm : s.mirrorPath with
  | none =>
    rw [hm] at h
    obtain rfl := Option.some.inj h
    rw [String.toList_ofList, Option.bind_none, List.append_nil, List.flatMap_map]
    rfl
  | some p =>
    rw [hm] at h
    obtain ⟨path, hpath, rfl⟩ := Option.map_eq_some_iff.1 h
    rw [String.toList_ofList, Option.bind_some, hpath, List.flatMap_append, List.flatMap_map,
      List.flatMap_singleton]
    rfl

theorem nodup_lines_key (s : Settings) : (s.lines.map Toml.Line.key).Nodup := by
  unfold lines
  rw [List.map_append, List.map_map]
  split
  · show (Toggle.all.map Toggle.key ++ []).Nodup
    decide
  · show (Toggle.all.map Toggle.key ++ ["mirror_path"]).Nodup
    decide

/-- The entry of a toggle in the document. -/
theorem single?_toggle (s : Settings) (g : Toggle) :
    Data.single? (s.lines.map Toml.Line.entry) [g.key] = some (some (.bool (g.get s))) := by
  apply Data.single?_of_mem (by rw [List.map_map]; exact nodup_lines_key s)
  have hall : g ∈ Toggle.all := by cases g <;> decide
  rw [lines, List.map_append, List.map_map]
  exact List.mem_append_left _ (List.mem_map.2 ⟨g, hall, rfl⟩)

/-- The entry of the mirror path, which is left out when there is no such path. -/
theorem single?_mirrorPath (s : Settings) :
    Data.single? (s.lines.map Toml.Line.entry) ["mirror_path"] =
      some ((s.mirrorPath.bind Path.text?).map Data.text) := by
  cases hm : s.mirrorPath.bind Path.text? with
  | none =>
    apply Data.single?_of_not_mem
    rw [lines, hm, List.map_map, List.append_nil, List.map_map]
    show "mirror_path" ∉ Toggle.all.map Toggle.key
    decide
  | some text =>
    apply Data.single?_of_mem (by rw [List.map_map]; exact nodup_lines_key s)
    rw [lines, hm, List.map_append]
    apply List.mem_append_right
    simp [Toml.Line.entry, Toml.Line.ofText]

theorem setToggles_map (s : Settings) (ts : List Toggle) (rest : List (Option Data))
    (a : Settings) :
    setToggles ts (ts.map (fun g => some (.bool (g.get s))) ++ rest) a =
      some (ts.foldl (fun a g => g.set (g.get s) a) a) := by
  induction ts generalizing a with
  | nil => cases rest <;> rfl
  | cons t ts ih =>
    rw [List.map_cons, List.cons_append, setToggles]
    exact ih (t.set (t.get s) a)

theorem foldl_set_all (s : Settings) :
    Toggle.all.foldl (fun a g => g.set (g.get s) a) {} = { s with mirrorPath := none } := by
  -- Each toggle sets a field of its own.
  obtain ⟨v, f, u, k, t, a, n, i, b, m⟩ := s
  rfl

/-- The settings that the entries of a document hold are those it was written from. -/
theorem ofData_lines {s : Settings} (h : ∀ p, s.mirrorPath = some p → p.text?.isSome = true) :
    ofData .toml (.table (s.lines.map Toml.Line.entry)) = some s := by
  have hfields : Data.record .toml (Toggle.all.map (fun g => [g.key]) ++ [["mirror_path"]])
      (.table (s.lines.map Toml.Line.entry)) =
        some (Toggle.all.map (fun g => some (.bool (g.get s))) ++
          [(s.mirrorPath.bind Path.text?).map Data.text]) := by
    simp [Data.record, Toggle.all, single?_toggle, single?_mirrorPath]
  -- The text of the mirror path gives the path back, bytes and all.
  have hmirror : ((s.mirrorPath.bind Path.text?).map Path.ofString) = s.mirrorPath := by
    cases hm : s.mirrorPath with
    | none => rfl
    | some p =>
      obtain ⟨text, htext⟩ := Option.isSome_iff_exists.1 (h p hm)
      rw [Option.bind_some, htext, Option.map_some, Path.ofString_of_text? htext]
  simp only [ofData, hfields, Option.bind_eq_bind, Option.bind_some, setToggles_map,
    foldl_set_all]
  have hread (x : Option String) :
      Data.field none (Data.asOptional Data.asText) (x.map Data.text) = some x := by
    cases x <;> rfl
  change (Data.field none (Data.asOptional Data.asText)
    ((s.mirrorPath.bind Path.text?).map Data.text)).bind _ = _
  rw [hread, Option.bind_some, hmirror]

/-- The document of settings holds these settings. -/
theorem ofToml_of_toToml {s : Settings} {text : String} (h : s.toToml = some text) :
    ofToml text = some s := by
  have hutf8 := toToml_isSome_iff.1 (Option.isSome_of_eq_some h)
  rw [ofToml, Toml.read, toToml_eq_lines h, Toml.readChars_lines (nodup_lines_key s),
    Option.bind_some, ofData_lines hutf8]

/-- Settings that were read have a document, since a mirror path that was read is UTF-8. -/
theorem toToml_isSome_of_ofToml {s : Settings} {text : String} (h : ofToml text = some s) :
    s.toToml.isSome = true := by
  obtain ⟨d, _, hd⟩ := Option.bind_eq_some_iff.1 h
  simp only [ofData, Option.bind_eq_bind, Option.bind_eq_some_iff, Option.some.injEq] at hd
  -- Of all that was read only the mirror path matters.
  obtain ⟨_, _, r, _, mirror, _, rfl⟩ := hd
  rw [toToml_isSome_iff]
  intro p hp
  obtain ⟨text, _, rfl⟩ := Option.map_eq_some_iff.1 hp
  rw [Path.text?_ofString, Option.isSome_some]

end Settings

end OverlayControl
