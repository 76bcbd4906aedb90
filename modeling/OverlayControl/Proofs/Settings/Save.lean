import OverlayControl.Host
import OverlayControl.Proofs.FileTree.Storage
import OverlayControl.Proofs.Settings.Document
import OverlayControl.Proofs.Settings.Slot
import OverlayControl.Proofs.Storage

/-!
# What a save does

The steps of `Keeper.save`, each as an equation about runs from an arbitrary world.

* `Storage.settings` — the settings that a document stands for, defaults when it is absent or
  malformed;
* `Storage.StandsFor.settings_eq` — they are those for which it was written;
* `Keeper.run_push_of_allows`, `run_push_of_not_allows` — one effect;
* `Keeper.run_record_of_same`, `Keeper.run_record_of_changed` — the note of what was acknowledged;
* `Keeper.run_save`, `run_save_of_unwritable`, `run_save_of_fault` — a save, by what becomes of its
  first document.
-/

namespace OverlayControl

namespace Storage

variable {φ : Type} {files : Storage φ}

/-- The settings that a document stands for. -/
def settings (files : Storage φ) (p : Path) (s : φ) : Settings :=
  (((files.contents p s).bind Utf8.decode?).bind Settings.ofToml).getD {}

/-- A document that holds what was written for settings stands for them. -/
theorem settings_of_contents {p : Path} {s : φ} {r : Settings} {text : String}
    (htext : r.toToml = some text) (h : files.contents p s = some (Utf8.encode text)) :
    files.settings p s = r := by
  rw [settings, h, Option.bind_some, Utf8.decode?_encode, Option.bind_some,
    Settings.ofToml_of_toToml htext, Option.getD_some]

/-- The document is what was written for the settings, or is not there and they are the defaults. -/
def StandsFor (files : Storage φ) (p : Path) (s : φ) (r : Settings) : Prop :=
  (∃ text, r.toToml = some text ∧ files.contents p s = some (Utf8.encode text)) ∨
    (files.contents p s = none ∧ r = {})

/-- What a document was written for is what is read from it. -/
theorem StandsFor.settings_eq {p : Path} {s : φ} {r : Settings} (h : files.StandsFor p s r) :
    files.settings p s = r := by
  rcases h with ⟨text, htext, hcontents⟩ | ⟨habsent, rfl⟩
  · exact settings_of_contents htext hcontents
  · rw [settings, habsent]
    rfl

theorem settings_congr {p : Path} {s s' : φ} (h : files.contents p s = files.contents p s') :
    files.settings p s = files.settings p s' := by
  rw [settings, settings, h]

/-- What a document stands for can be written again. -/
theorem toToml_isSome_settings (files : Storage φ) (p : Path) (s : φ) :
    (files.settings p s).toToml.isSome = true := by
  unfold settings
  cases hread : ((files.contents p s).bind Utf8.decode?).bind Settings.ofToml with
  | none => rfl
  | some r =>
    obtain ⟨text, _, hr⟩ := Option.bind_eq_some_iff.1 hread
    exact Settings.toToml_isSome_of_ofToml hr

end Storage

namespace Settings

theorem toToml_isSome_settle {d a : Settings} (hd : d.toToml.isSome = true)
    (ha : a.toToml.isSome = true) (slot : Slot) : (slot.settle d a).toToml.isSome = true := by
  have hmirror := Slot.value_settle .mirrorPath slot d a
  -- Only the mirror path decides, and settling takes it from one side or the other.
  split at hmirror
  · rw [toToml_isSome_congr (Sum.inr.inj hmirror)]
    exact hd
  · rw [toToml_isSome_congr (Sum.inr.inj hmirror)]
    exact ha

theorem toToml_isSome_settled {d a : Settings} (hd : d.toToml.isSome = true)
    (ha : a.toToml.isSome = true) : (settled a d).toToml.isSome = true := by
  have hmirror := Slot.value_settled .mirrorPath a d
  split at hmirror
  · rw [toToml_isSome_congr (Sum.inr.inj hmirror)]
    exact hd
  · rw [toToml_isSome_congr (Sum.inr.inj hmirror)]
    exact ha

end Settings

namespace Keeper

variable {δ : Type} (d : Device δ) (k : Keeper)

theorem run_readDocument (p : Path) (w : World δ) :
    (readDocument d p).run w = (d.toStorage.settings p w.device, w) := by
  have htext := Storage.readText_toOption d.toStorage p w.device
  unfold Storage.settings
  rw [← htext]
  rw [readDocument, StateT.run_bind, run_readText]
  cases d.toStorage.readText p w.device <;> rfl

/-- The acknowledged settings are what the second document stands for. -/
theorem run_applied (w : World δ) :
    (applied d k).run w = (d.toStorage.settings k.appliedPath w.device, w) :=
  run_readDocument d k.appliedPath w

variable {d k}

/-- An effect that the connection allows is sent, and its outcome is noted. -/
theorem run_push_of_allows {e : Effect} (h : (k.engine.any fun c => c.allows e.gate) = true)
    (declared : Settings) (p : Progress) (w : World δ) :
    (push d k declared p e).run w =
      (if ((execute d e.command).run w).1.success then
        { p with
          acknowledged := e.slot.settle declared p.acknowledged
          report := { p.report with applied := p.report.applied ++ [e.slot.name] } }
      else
        { p with
          report := { p.report with
            deferred := p.report.deferred ++
              [⟨e.slot.name, ((execute d e.command).run w).1.text⟩] } },
      ((execute d e.command).run w).2) := by
  unfold push
  rw [if_pos h, StateT.run_bind]
  -- The report and the acknowledged settings depend on the outcome alone.
  cases hsuccess : ((execute d e.command).run w).1.success with
  | true =>
    show (ite _ _ _ : Action δ Progress).run _ = _
    rw [if_pos hsuccess]
    rfl
  | false =>
    show (ite _ _ _ : Action δ Progress).run _ = _
    rw [if_neg (by rw [hsuccess]; exact Bool.false_ne_true)]
    rfl

/-- An effect that the connection does not allow is put aside. -/
theorem run_push_of_not_allows {e : Effect}
    (h : (k.engine.any fun c => c.allows e.gate) = false)
    (declared : Settings) (p : Progress) (w : World δ) :
    (push d k declared p e).run w =
      ({ p with
        gated := p.gated ++ [e.slot.name]
        required := p.required.higher e.gate.minTier }, w) := by
  unfold push
  rw [if_neg (by rw [h]; exact Bool.false_ne_true)]
  rfl

theorem run_pushAll_cons (declared : Settings) (e : Effect) (es : List Effect) (p : Progress)
    (w : World δ) :
    (pushAll d k declared (e :: es) p).run w =
      (pushAll d k declared es ((push d k declared p e).run w).1).run
        ((push d k declared p e).run w).2 := rfl

theorem run_writeDocument {p : Path} {r : Settings} {text : String} (htext : r.toToml = some text)
    (w : World δ) :
    (writeDocument d p r).run w =
      ((d.replaceFile p (Utf8.encode text) w.device).1.mapError fun e =>
          .persistFailed s!"{p.display}: {e.message}",
        { w with device := (d.replaceFile p (Utf8.encode text) w.device).2 }) := by
  rw [writeDocument, htext]
  simp only [StateT.run_bind, run_replaceFile]
  cases (d.replaceFile p (Utf8.encode text) w.device).1 <;> rfl

/-- Nothing is written when the engine has acknowledged nothing new. -/
theorem run_record_of_same {before after : Settings} (h : after.same before = true) (w : World δ) :
    (record d k before after).run w = ((), w) := by
  rw [record, if_pos h]
  rfl

theorem run_record_of_changed {before after : Settings} {text : String}
    (h : after.same before = false) (htext : after.toToml = some text) (w : World δ) :
    (record d k before after).run w =
      ((), { w with device := (d.replaceFile k.appliedPath (Utf8.encode text) w.device).2 }) := by
  rw [record, if_neg (by rw [h]; exact Bool.false_ne_true), StateT.run_bind,
    run_writeDocument htext]
  rfl

theorem acknowledged_push (declared : Settings) (p : Progress) (e : Effect) (w : World δ) :
    ((push d k declared p e).run w).1.acknowledged = p.acknowledged ∨
      ((push d k declared p e).run w).1.acknowledged = e.slot.settle declared p.acknowledged := by
  cases hallows : k.engine.any fun c => c.allows e.gate with
  | false =>
    rw [run_push_of_not_allows hallows]
    exact .inl rfl
  | true =>
    rw [run_push_of_allows hallows]
    cases ((execute d e.command).run w).1.success with
    | true => exact .inr rfl
    | false => exact .inl rfl

/-- What is acknowledged in the end can be written, since its mirror path is one that was
acknowledged before or one that is declared. -/
theorem toToml_isSome_pushAll {declared : Settings} (hdeclared : declared.toToml.isSome = true)
    (es : List Effect) {p : Progress} (hp : p.acknowledged.toToml.isSome = true) (w : World δ) :
    ((pushAll d k declared es p).run w).1.acknowledged.toToml.isSome = true := by
  induction es generalizing p w with
  | nil => exact hp
  | cons e es ih =>
    rw [run_pushAll_cons]
    refine ih ?_ _
    -- One effect settles its slot or leaves what was acknowledged as it is.
    rcases acknowledged_push (d := d) (k := k) declared p e w with hkept | hsettled
    · rw [hkept]
      exact hp
    · rw [hsettled]
      exact Settings.toToml_isSome_settle hdeclared hp e.slot

variable (d k) in
/-- A save between its two documents: the first one is written, and the effects are pushed. -/
def pushing (declared : Settings) (w : World δ) : Progress × World δ :=
  let before := d.toStorage.settings k.appliedPath w.device
  (pushAll d k declared (pending before declared) { acknowledged := settled before declared }).run w

/-- A save whose settings can be written, and are: the second document is read after that, and gets
what the engine has acknowledged in the end. -/
theorem run_save {declared : Settings} {text : String} {w : World δ} {s : δ}
    (htext : declared.toToml = some text)
    (hwrite : d.replaceFile k.path (Utf8.encode text) w.device = (.ok (), s)) :
    (save d k declared).run w =
      let pushed := pushing d k declared { w with device := s }
      (verdict pushed.1,
        ((record d k (d.toStorage.settings k.appliedPath s) pushed.1.acknowledged).run
          pushed.2).2) := by
  rw [save, StateT.run_bind, run_writeDocument htext, hwrite]
  -- With the first document written the rest of the save is left.
  show (applied d k >>= _ : Action δ _).run { w with device := s } = _
  rw [StateT.run_bind, run_applied]
  rfl

/-- A save whose settings cannot be written does nothing. -/
theorem run_save_of_unwritable {declared : Settings} (h : declared.toToml = none) (w : World δ) :
    (save d k declared).run w =
      (.error (.persistFailed "path contains invalid UTF-8 characters"), w) := by
  rw [save, StateT.run_bind, writeDocument, h]
  rfl

/-- A save whose first document cannot be put in place ends there. -/
theorem run_save_of_fault {declared : Settings} {text : String} {w : World δ} {s : δ}
    {fault : FileFault} (htext : declared.toToml = some text)
    (hwrite : d.replaceFile k.path (Utf8.encode text) w.device = (.error fault, s)) :
    (save d k declared).run w =
      (.error (.persistFailed s!"{k.path.display}: {fault.message}"), { w with device := s }) := by
  rw [save, StateT.run_bind, run_writeDocument htext, hwrite]
  rfl

/-- What a save records can be written. -/
theorem toToml_isSome_pushing {declared : Settings} (hdeclared : declared.toToml.isSome = true)
    (w : World δ) : (pushing d k declared w).1.acknowledged.toToml.isSome = true := by
  refine toToml_isSome_pushAll hdeclared _ ?_ w
  exact Settings.toToml_isSome_settled hdeclared (Storage.toToml_isSome_settings ..)

section Parts

variable {σ φ : Type} {service : Service σ} {files : Storage φ} {sound : φ → Prop} {own : List Path}

/-- Sending a command leaves the files alone. -/
theorem files_push (declared : Settings) (p : Progress) (e : Effect) (w : World (σ × φ)) :
    ((push (Device.ofParts service files) k declared p e).run w).2.device.2 = w.device.2 := by
  cases hallows : k.engine.any fun c => c.allows e.gate with
  | false => rw [run_push_of_not_allows hallows]
  | true =>
    rw [run_push_of_allows hallows, run_execute]
    cases w.connection <;> rfl

theorem files_pushAll (declared : Settings) (es : List Effect) (p : Progress)
    (w : World (σ × φ)) :
    ((pushAll (Device.ofParts service files) k declared es p).run w).2.device.2 = w.device.2 := by
  induction es generalizing p w with
  | nil => rfl
  | cons e es ih => rw [run_pushAll_cons, ih, files_push]

/-- After the note of what was acknowledged, the second document stands for it, unless it stood for
that before or could not be written. -/
theorem settings_record (service : Service σ) (hlaw : files.Keeps sound own)
    (hown : k.appliedPath ∈ own) {before after : Settings} (hutf8 : after.toToml.isSome = true)
    {w : World (σ × φ)} (hsound : sound w.device.2)
    (hbefore : files.settings k.appliedPath w.device.2 = before) :
    let s := ((record (Device.ofParts service files) k before after).run w).2.device
    s.1 = w.device.1 ∧ sound s.2 ∧
      (after.same before = true ∧ files.settings k.appliedPath s.2 = before ∨
        ∃ bytes,
          ((files.replaceFile k.appliedPath bytes w.device.2).1 = .ok () →
            files.settings k.appliedPath s.2 = after) ∧
          ((files.replaceFile k.appliedPath bytes w.device.2).1 ≠ .ok () →
            files.settings k.appliedPath s.2 = before)) := by
  obtain ⟨text, htext⟩ := Option.isSome_iff_exists.1 hutf8
  -- Nothing is written unless there is something new to note.
  cases hsame : after.same before with
  | true =>
    rw [run_record_of_same hsame]
    exact ⟨rfl, hsound, .inl ⟨rfl, hbefore⟩⟩
  | false =>
    rw [run_record_of_changed hsame htext]
    refine ⟨rfl, hlaw.sound_replaceFile _ hsound hown, .inr ⟨Utf8.encode text, ?_, ?_⟩⟩
    · intro hok
      exact Storage.settings_of_contents htext (hlaw.contents_self hsound hown hok)
    · intro hfailed
      rw [← hbefore]
      exact Storage.settings_congr (hlaw.contents_failed hsound hown hown hfailed)

/-- The two documents are two files, since something can be put under the path of the first. -/
theorem appliedPath_ne_path (hlaw : files.Keeps sound own) {s : φ} {bytes : List UInt8}
    (hok : (files.replaceFile k.path bytes s).1 = .ok ()) : k.appliedPath ≠ k.path :=
  Path.withExtension_ne_self (hlaw.fileName_of_ok hok) (by decide +kernel) (by decide +kernel)

/-- A save that writes its first document: the effects are pushed against what the second document
stood for, and that document stands for what was acknowledged then, unless it did before or could
not be written. -/
theorem run_save_parts (service : Service σ) (hlaw : files.Keeps sound own) (hpath : k.path ∈ own)
    (hrecord : k.appliedPath ∈ own) {declared : Settings} {text : String}
    (htext : declared.toToml = some text) {w : World (σ × φ)} (hsound : sound w.device.2)
    (hok : (files.replaceFile k.path (Utf8.encode text) w.device.2).1 = .ok ()) :
    let before := files.settings k.appliedPath w.device.2
    let written := (files.replaceFile k.path (Utf8.encode text) w.device.2).2
    let pushed := pushing (Device.ofParts service files) k declared
      { w with device := (w.device.1, written) }
    let r := (save (Device.ofParts service files) k declared).run w
    sound written ∧ files.settings k.appliedPath written = before ∧
      r.1 = verdict pushed.1 ∧ r.2.device.1 = pushed.2.device.1 ∧ sound r.2.device.2 ∧
      (pushed.1.acknowledged.same before = true ∧
          files.settings k.appliedPath r.2.device.2 = before ∨
        ∃ bytes,
          ((files.replaceFile k.appliedPath bytes written).1 = .ok () →
            files.settings k.appliedPath r.2.device.2 = pushed.1.acknowledged) ∧
          ((files.replaceFile k.appliedPath bytes written).1 ≠ .ok () →
            files.settings k.appliedPath r.2.device.2 = before)) := by
  intro before written pushed r
  have hsound' : sound written := hlaw.sound_replaceFile (Utf8.encode text) hsound hpath
  -- Writing the first document leaves the second one alone.
  have hbefore : files.settings k.appliedPath written = before :=
    Storage.settings_congr (hlaw.contents_other (Utf8.encode text) hsound hpath hrecord
      (appliedPath_ne_path hlaw hok))
  -- Only the note of what was acknowledged may still change a file.
  have hfiles : pushed.2.device.2 = written := files_pushAll ..
  have hr : r = (verdict pushed.1, ((record (Device.ofParts service files) k
      (files.settings k.appliedPath written) pushed.1.acknowledged).run pushed.2).2) :=
    run_save htext (Prod.ext hok rfl)
  rw [hbefore] at hr
  have hutf8 : pushed.1.acknowledged.toToml.isSome = true :=
    toToml_isSome_pushing (Option.isSome_of_eq_some htext) _
  have hpushed : files.settings k.appliedPath pushed.2.device.2 = before := by
    rw [hfiles]
    exact hbefore
  obtain ⟨hservice, hsound'', hrecorded⟩ := settings_record service hlaw hrecord
    hutf8 (by rw [hfiles]; exact hsound') hpushed
  rw [hfiles] at hrecorded
  rw [hr]
  exact ⟨hsound', hbefore, rfl, hservice, hsound'', hrecorded⟩

end Parts

section Sample

/-- A document at the root of a file tree. -/
def sampleDocument : Path := .ofString "/config.toml"

/-- The places of the two documents there. -/
def samplePlace (p : Path) : Place := [p.bytes.drop 1]

/-- In the empty tree both documents are open. -/
theorem open_sample :
    ∀ p ∈ [sampleDocument, sampleDocument.withExtension "applied.toml"],
      FileTree.Open [sampleDocument, sampleDocument.withExtension "applied.toml"] samplePlace {}
        p := by
  intro p hp
  rcases List.mem_cons.1 hp with rfl | hp
  · exact .of_root (samplePlace (FileTree.temporary sampleDocument)) (by decide +kernel)
      (by decide +kernel) (by decide +kernel) (by decide +kernel)
  · rw [List.mem_singleton.1 hp]
    exact .of_root (samplePlace
      (FileTree.temporary (sampleDocument.withExtension "applied.toml"))) (by decide +kernel)
      (by decide +kernel) (by decide +kernel) (by decide +kernel)

/-- A file tree keeps the two documents, while they are open. -/
theorem keeps_sample :
    FileTree.storage.Keeps
      (fun t => ∀ p ∈ [sampleDocument, sampleDocument.withExtension "applied.toml"],
        FileTree.Open [sampleDocument, sampleDocument.withExtension "applied.toml"] samplePlace t p)
      [sampleDocument, sampleDocument.withExtension "applied.toml"] :=
  FileTree.storage_keeps (by decide +kernel)

end Sample

end Keeper

end OverlayControl
