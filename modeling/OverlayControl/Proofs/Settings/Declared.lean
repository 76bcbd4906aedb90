import OverlayControl.Proofs.FileTree.Growth
import OverlayControl.Proofs.Settings.Save

/-!
# Declared settings survive a save

A save keeps its files in a tree whose system may refuse anything, and sends its commands to a
service that may answer anything. Whatever the engine does, the declared settings are what is loaded
afterwards, once their document is put in place. If it is not, the save has done nothing but make
directories.

* `Keeper.Stored` — the settings can be written, and their document is put in place;
* `Keeper.load_of_holds`, `Keeper.holds_record` — the document is read back, and the note of what
  was acknowledged leaves it alone;
* `Keeper.save_of_stored`, `Keeper.save_of_not_stored` — a save, by whether that is so;
* `Keeper.load_save` — what is loaded after a save.
-/

namespace OverlayControl

namespace Keeper

/-- The settings can be written, and their document is put in place. -/
def Stored {δ : Type} (d : Device δ) (k : Keeper) (declared : Settings) (s : δ) : Prop :=
  ∃ text, declared.toToml = some text ∧
    (d.replaceFile k.path (Utf8.encode text) s).1 = .ok ()

section

variable {σ : Type} (service : Service σ)
  (refuse : Path → List UInt8 → FileTree → Option (Nat × FileFault)) {k : Keeper}

/-- A document that holds what was written for settings is loaded as these settings. -/
theorem load_of_holds {r : Settings} {text : String} (htext : r.toToml = some text)
    {w : World (σ × FileTree)} (h : w.device.2.Holds k.path (Utf8.encode text)) :
    ((load (Device.ofParts service (FileTree.refusing refuse)) k).run w).1 = r := by
  rw [load, run_readDocument]
  exact Storage.settings_of_contents htext h.contents

variable (k) in
/-- The two documents are files of different names. -/
theorem fileName?_appliedPath_ne {name : List UInt8} (h : k.path.fileName? = some name) :
    k.appliedPath.fileName? ≠ k.path.fileName? := by
  rw [h]
  exact Path.fileName?_withExtension_ne h (by decide +kernel) (by decide +kernel)

/-- The note of what was acknowledged leaves the first document alone, whether it is written or
not. -/
theorem holds_record {before after : Settings} (hutf8 : after.toToml.isSome = true)
    {bytes : List UInt8} {w : World (σ × FileTree)} (h : w.device.2.Holds k.path bytes) :
    ((record (Device.ofParts service (FileTree.refusing refuse)) k before after).run
      w).2.device.2.Holds k.path bytes := by
  obtain ⟨text, htext⟩ := Option.isSome_iff_exists.1 hutf8
  cases hsame : after.same before with
  | true =>
    rw [run_record_of_same hsame]
    exact h
  | false =>
    rw [run_record_of_changed hsame htext]
    -- A file stands under the path, so that it has a name.
    obtain ⟨_, _, hlanding, _⟩ := id h
    obtain ⟨_, _, _, hname⟩ := FileTree.fileName?_of_landing hlanding
    exact h.replaceFile (fileName?_appliedPath_ne k hname) refuse

/-- Once the document is put in place the save comes to a verdict on its effects, and the declared
settings are loaded. -/
theorem save_of_stored {declared : Settings} {w : World (σ × FileTree)}
    (h : Stored (Device.ofParts service (FileTree.refusing refuse)) k declared w.device) :
    let d := Device.ofParts service (FileTree.refusing refuse)
    let r := (save d k declared).run w
    (∃ p, r.1 = verdict p) ∧ ((load d k).run r.2).1 = declared := by
  intro d r
  obtain ⟨text, htext, hok⟩ := h
  rw [Device.replaceFile_ofParts] at hok
  rcases FileTree.replaceFile_cases refuse k.path (Utf8.encode text) w.device.2 with
    ⟨e, t, hfault, _⟩ | ⟨t, hput, hholds⟩
  · rw [hfault] at hok
    cases hok
  · have hwrite : d.replaceFile k.path (Utf8.encode text) w.device = (.ok (), (w.device.1, t)) := by
      rw [Device.replaceFile_ofParts, hput]
    have hr := run_save htext hwrite
    refine ⟨⟨_, congrArg Prod.fst hr⟩, load_of_holds service refuse htext ?_⟩
    -- The document stands, and neither the commands nor the note of them move it.
    show ((save d k declared).run w).2.device.2.Holds k.path (Utf8.encode text)
    rw [hr]
    refine holds_record service refuse
      (toToml_isSome_pushing (Option.isSome_of_eq_some htext) _) ?_
    rw [pushing, files_pushAll]
    exact hholds

/-- When the document cannot be put in place, directories may have been made and that is all. -/
theorem save_of_not_stored {declared : Settings} {w : World (σ × FileTree)}
    (h : ¬ Stored (Device.ofParts service (FileTree.refusing refuse)) k declared w.device) :
    let r := (save (Device.ofParts service (FileTree.refusing refuse)) k declared).run w
    (∃ why, r.1 = .error (.persistFailed why)) ∧ w.device.2.SameFiles r.2.device.2 ∧
      r.2 = { w with device := (w.device.1, r.2.device.2) } := by
  cases htext : declared.toToml with
  | none =>
    rw [run_save_of_unwritable htext]
    exact ⟨⟨_, rfl⟩, (FileTree.Grown.refl _).sameFiles, rfl⟩
  | some text =>
    rcases FileTree.replaceFile_cases refuse k.path (Utf8.encode text) w.device.2 with
      ⟨e, t, hfault, hgrown⟩ | ⟨t, hput, _⟩
    · have hwrite : (Device.ofParts service (FileTree.refusing refuse)).replaceFile k.path
          (Utf8.encode text) w.device = (.error e, (w.device.1, t)) := by
        rw [Device.replaceFile_ofParts, hfault]
      rw [run_save_of_fault htext hwrite]
      exact ⟨⟨_, rfl⟩, hgrown.sameFiles, rfl⟩
    · refine absurd ⟨text, htext, ?_⟩ h
      rw [Device.replaceFile_ofParts, hput]

/-- A save fails to persist exactly when the settings cannot be written or their document cannot be
put in place. Then no file has changed, nothing was sent, and the connection is what it was. After
any other save the declared settings are loaded, whatever the engine answered and whatever became of
the note of what it acknowledged; and there is no other outcome than success and gating. -/
theorem load_save (k : Keeper) (declared : Settings) (w : World (σ × FileTree)) :
    let d := Device.ofParts service (FileTree.refusing refuse)
    let r := (save d k declared).run w
    ((∃ why, r.1 = .error (.persistFailed why)) ↔ ¬ Stored d k declared w.device) ∧
      match r.1 with
      | .ok _ | .error (.gated _ _) => ((load d k).run r.2).1 = declared
      | .error (.persistFailed _) =>
        w.device.2.SameFiles r.2.device.2 ∧
          r.2 = { w with device := (w.device.1, r.2.device.2) }
      | .error (.invalidValue _) => False := by
  intro d r
  by_cases hstored : Stored d k declared w.device
  · obtain ⟨⟨p, hverdict⟩, hload⟩ := save_of_stored service refuse hstored
    rw [verdict] at hverdict
    -- Both verdicts let the settings stand, and neither is a failure to persist.
    split at hverdict
    · rw [hverdict]
      exact ⟨⟨fun ⟨_, h⟩ => (nomatch h), fun h => absurd hstored h⟩, hload⟩
    · rw [hverdict]
      exact ⟨⟨fun ⟨_, h⟩ => (nomatch h), fun h => absurd hstored h⟩, hload⟩
  · obtain ⟨⟨why, hfailed⟩, hsame, hworld⟩ := save_of_not_stored service refuse hstored
    rw [hfailed]
    exact ⟨⟨fun _ => hstored, fun _ => ⟨why, rfl⟩⟩, hsame, hworld⟩

end

end Keeper

end OverlayControl
