import OverlayControl.Proofs.Session.Malformed
import OverlayControl.Proofs.Session.ReadOnly
import OverlayControl.Proofs.Settings.Declared

/-!
# Changing one setting

The command line changes a setting by its name: it loads all settings, gives one of them a value,
and saves them all. This module says which texts name a setting and a value, and that nothing else
changes on the way.

* `Toggle.NamedBy`, `Toggle.parse_eq_ok_iff` — the texts that name a toggle;
* `CommandLine.Switches`, `CommandLine.readSwitch_eq_ok_iff` — the texts for a truth value;
* `Slot.Sets` — settings that differ from others in one slot only;
* `CommandLine.Asks`, `CommandLine.changeSetting_eq_ok_iff` — what a key and a value ask for, and
  the settings that come of it;
* `Keeper.found`, `Keeper.found_eq` — the acknowledged settings that a save compares with;
* `CommandLine.run_setConfig`, `CommandLine.run_beforeEnd_setConfig` — the command, up to the end of
  its session;
* `CommandLine.Converses` — what a session sends: a handshake, commands, and the end;
* `CommandLine.setConfig_changes_one` — the command as a whole.
-/

namespace OverlayControl

/-! ## Names and values -/

namespace Toggle

/-- A text as names are compared: without the blanks around it, in small letters, with underscores
for dashes. -/
def normal (s : String) : String :=
  Text.lower (String.ofList ((Text.trim s).toList.map fun c => if c = '-' then '_' else c))

/-- Whether a text names a toggle: up to its spelling it is the key, or the key without the word
`enable_` before it. -/
def NamedBy (t : Toggle) (s : String) : Prop :=
  t.key = normal s ∨ t.key = "enable_" ++ normal s

/-- The short key is what follows `enable_`, for a key that starts with it. -/
theorem key_eq_enable_append_iff {t : Toggle} {v : String} :
    t.key = "enable_" ++ v ↔ t.shortKey = v ∧ t.shortKey ≠ t.key := by
  unfold shortKey
  split
  · next hprefix =>
    obtain ⟨rest, hrest⟩ := List.isPrefixOf_iff_prefix.1 hprefix
    have hkey : t.key = "enable_" ++ String.ofList rest := by
      rw [← String.toList_inj, String.toList_append, String.toList_ofList (l := rest), hrest]
    have hdrop : String.ofList (t.key.toList.drop "enable_".length) = String.ofList rest := by
      rw [← hrest]
      rfl
    rw [hdrop, hkey, String.append_right_inj]
    refine ⟨fun heq => ⟨heq, fun hshort => ?_⟩, And.left⟩
    have hlength := congrArg String.length hshort
    rw [String.length_append] at hlength
    have hword : "enable_".length = 7 := by decide
    omega
  · next hprefix =>
    refine ⟨fun heq => absurd ?_ hprefix, fun h => absurd rfl h.2⟩
    rw [heq, String.toList_append, List.isPrefixOf_iff_prefix]
    exact List.prefix_append ..

/-- No two toggles share a name. -/
theorem NamedBy.unique {t u : Toggle} {s : String} (ht : t.NamedBy s) (hu : u.NamedBy s) :
    t = u := by
  have hnames {t : Toggle} (h : t.NamedBy s) : normal s ∈ [t.key, t.shortKey] := by
    rcases h with h | h
    · rw [h]
      exact List.mem_cons_self
    · rw [← (key_eq_enable_append_iff.1 h).1]
      exact List.mem_cons_of_mem _ List.mem_cons_self
  -- The names of all toggles are different, those without `enable_` included.
  have hdisjoint : ∀ t ∈ all, ∀ u ∈ all, ∀ name ∈ [t.key, t.shortKey],
      name ∈ [u.key, u.shortKey] → t = u := by decide +kernel
  have hall (t : Toggle) : t ∈ all := by cases t <;> decide
  exact hdisjoint t (hall t) u (hall u) _ (hnames ht) (hnames hu)

/-- A text is read as the toggle that it names. -/
theorem parse_eq_ok_iff {s : String} {t : Toggle} : parse s = .ok t ↔ t.NamedBy s := by
  have hmatch (u : Toggle) :
      (u.key == normal s || (u.shortKey != u.key && u.shortKey == normal s)) = true ↔
        u.NamedBy s := by
    rw [NamedBy, key_eq_enable_append_iff]
    simp [and_comm]
  have hword : String.ofList (((Text.trim s).toList.map fun c => if c = '-' then '_' else c).map
      Char.toLower) = normal s := by
    rw [normal, Text.lower, String.toList_ofList]
  unfold parse
  rw [hword]
  dsimp only
  split
  · next u hfound =>
    -- The toggle that is found is one of that name, and there is no other.
    have hu := List.find?_some hfound
    rw [hmatch] at hu
    constructor
    · intro heq
      cases heq
      exact hu
    · intro ht
      rw [ht.unique hu]
  · next hnone =>
    refine ⟨nofun, fun ht => ?_⟩
    have hall : t ∈ all := by cases t <;> decide
    have hfree := List.find?_eq_none.1 hnone t hall
    rw [hmatch] at hfree
    exact absurd ht hfree

end Toggle

namespace CommandLine

/-- The words for a truth value, in small letters. -/
def switchWords : Bool → List String
  | true => ["true", "on", "1", "yes"]
  | false => ["false", "off", "0", "no"]

/-- Whether a text stands for a truth value: in any case, and with blanks around it. -/
def Switches (on : Bool) (s : String) : Prop := Text.lower (Text.trim s) ∈ switchWords on

/-- A text is read as the truth value that it stands for. -/
theorem readSwitch_eq_ok_iff {s : String} {on : Bool} : readSwitch s = .ok on ↔ Switches on s := by
  unfold readSwitch Switches
  generalize Text.lower (Text.trim s) = word
  have hdisjoint : ∀ word ∈ switchWords true, word ∉ switchWords false := by decide
  simp only [List.contains_iff_mem]
  split
  · next htrue =>
    cases on with
    | true => exact ⟨fun _ => htrue, fun _ => rfl⟩
    | false => exact ⟨nofun, fun hfalse => absurd hfalse (hdisjoint _ htrue)⟩
  · next htrue =>
    split
    · next hfalse =>
      cases on with
      | true => exact ⟨nofun, fun h => absurd h htrue⟩
      | false => exact ⟨fun _ => hfalse, fun _ => rfl⟩
    · next hfalse =>
      refine ⟨nofun, fun h => ?_⟩
      cases on with
      | true => exact absurd h htrue
      | false => exact absurd h hfalse

end CommandLine

/-! ## One slot -/

/-- The settings `s'` differ from `s` in one slot at most, which has a certain value there. -/
structure Slot.Sets (slot : Slot) (v : Bool ⊕ Option Path) (s s' : Settings) : Prop where
  /-- The slot has the value. -/
  value : slot.value s' = v
  /-- The other slots have the values that they had. -/
  others : ∀ other : Slot, other ≠ slot → other.value s' = other.value s

/-- There are no two such settings. -/
theorem Slot.Sets.unique {slot : Slot} {v : Bool ⊕ Option Path} {s r r' : Settings}
    (h : slot.Sets v s r) (h' : slot.Sets v s r') : r = r' := by
  apply Slot.value_ext
  intro other
  by_cases hslot : other = slot
  · rw [hslot, h.value, h'.value]
  · rw [h.others other hslot, h'.others other hslot]

theorem Slot.sets_toggle (t : Toggle) (on : Bool) (s : Settings) :
    (Slot.toggle t).Sets (.inl on) s (t.set on s) where
  value := congrArg Sum.inl (t.get_set on s)
  others other hne := by
    cases other with
    | toggle u =>
      exact congrArg Sum.inl (Toggle.get_set_of_ne (fun heq => hne (congrArg Slot.toggle heq)) on s)
    | mirrorPath => exact congrArg Sum.inr (t.mirrorPath_set on s)

theorem Slot.sets_mirrorPath (p : Option Path) (s : Settings) :
    Slot.mirrorPath.Sets (.inr p) s { s with mirrorPath := p } where
  value := rfl
  others other hne := by
    cases other with
    | toggle u => cases u <;> rfl
    | mirrorPath => exact absurd rfl hne

namespace CommandLine

/-- What a key and a value ask for: a setting, and the value that it is to have. -/
inductive Asks (key value : String) : Slot → Bool ⊕ Option Path → Prop
  /-- The mirror path is cleared by the empty value. -/
  | clear (hkey : key = "mirror_path") (hvalue : value = "") :
    Asks key value .mirrorPath (.inr none)
  /-- Any other value is the mirror path, as it is. -/
  | mirror (hkey : key = "mirror_path") (hvalue : value ≠ "") :
    Asks key value .mirrorPath (.inr (some (.ofString value)))
  /-- A toggle gets the truth value that the value stands for. -/
  | toggle {t : Toggle} {on : Bool} (hkey : t.NamedBy key) (hvalue : Switches on value) :
    Asks key value (.toggle t) (.inl on)

/-- The key of the mirror path names no toggle. -/
theorem not_namedBy_mirrorPath (t : Toggle) : ¬ t.NamedBy "mirror_path" := by
  unfold Toggle.NamedBy
  cases t <;> decide +kernel

/-- The settings that come of a key and a value are those with the one setting changed that they ask
for. -/
theorem changeSetting_eq_ok_iff {key value : String} {s s' : Settings} :
    changeSetting key value s = .ok s' ↔ ∃ slot v, Asks key value slot v ∧ slot.Sets v s s' := by
  constructor
  · intro h
    unfold changeSetting at h
    split at h
    · next hkey =>
      cases h
      refine ⟨.mirrorPath, _, ?_, Slot.sets_mirrorPath _ s⟩
      by_cases hvalue : value = ""
      · rw [hvalue]
        exact .clear hkey rfl
      · rw [if_neg (by simpa [String.isEmpty_iff] using hvalue)]
        exact .mirror hkey hvalue
    · cases htoggle : Toggle.parse key with
      | error e =>
        rw [htoggle] at h
        cases h
      | ok t =>
        cases hswitch : readSwitch value with
        | error e =>
          rw [htoggle, hswitch] at h
          cases h
        | ok on =>
          rw [htoggle, hswitch] at h
          cases h
          have hasks : Asks key value (.toggle t) (.inl on) :=
            .toggle (Toggle.parse_eq_ok_iff.1 htoggle) (readSwitch_eq_ok_iff.1 hswitch)
          exact ⟨_, _, hasks, Slot.sets_toggle t on s⟩
  · rintro ⟨slot, v, hasks, hsets⟩
    -- There are no two such settings, so they are the ones that the change makes.
    unfold changeSetting
    cases hasks with
    | clear hkey hvalue =>
      rw [if_pos hkey, hvalue, hsets.unique (Slot.sets_mirrorPath none s)]
      rfl
    | mirror hkey hvalue =>
      rw [if_pos hkey, hsets.unique (Slot.sets_mirrorPath _ s),
        if_neg (by simpa [String.isEmpty_iff] using hvalue)]
    | toggle hkey hvalue =>
      rw [if_neg fun heq => not_namedBy_mirrorPath _ (heq ▸ hkey), Toggle.parse_eq_ok_iff.2 hkey,
        readSwitch_eq_ok_iff.2 hvalue, hsets.unique (Slot.sets_toggle _ _ s)]
      rfl

/-- A key and a value that ask for nothing are refused. -/
theorem exists_changeSetting_error {key value : String} (h : ∀ slot v, ¬ Asks key value slot v)
    (s : Settings) : ∃ what, changeSetting key value s = .error what := by
  cases hchange : changeSetting key value s with
  | error what => exact ⟨what, rfl⟩
  | ok s' =>
    obtain ⟨slot, v, hasks, _⟩ := changeSetting_eq_ok_iff.1 hchange
    exact absurd hasks (h slot v)

/-- What a key and a value ask for can be made of any settings. -/
theorem Asks.exists_changeSetting_ok {key value : String} {slot : Slot} {v : Bool ⊕ Option Path}
    (h : Asks key value slot v) (s : Settings) :
    ∃ s', slot.Sets v s s' ∧ changeSetting key value s = .ok s' := by
  have hsets : ∃ s', slot.Sets v s s' := by
    cases h with
    | clear => exact ⟨_, Slot.sets_mirrorPath _ s⟩
    | mirror => exact ⟨_, Slot.sets_mirrorPath _ s⟩
    | toggle => exact ⟨_, Slot.sets_toggle _ _ s⟩
  obtain ⟨s', hsets⟩ := hsets
  exact ⟨s', hsets, changeSetting_eq_ok_iff.2 ⟨slot, v, h, hsets⟩⟩

/-- A name may go without `enable_`, and be written with capitals and a dash. -/
example : Asks "Kernel-Debug" " ON " (.toggle .kernelDebug) (.inl true) :=
  .toggle (by unfold Toggle.NamedBy; decide +kernel) (by unfold Switches; decide +kernel)

end CommandLine

/-! ## What a save finds -/

section Found

variable {σ : Type} (service : Service σ)
  (refuse : Path → List UInt8 → FileTree → Option (Nat × FileFault))

/-- The acknowledged settings that a save finds: it looks once the declared ones are stored. -/
def Keeper.found {δ : Type} (d : Device δ) (k : Keeper) (declared : Settings) (s : δ) : Settings :=
  match declared.toToml with
  | none => d.toStorage.settings k.appliedPath s
  | some text => d.toStorage.settings k.appliedPath (d.replaceFile k.path (Utf8.encode text) s).2

/-- They are those of before, since the document of the declared settings is another file. A path
that goes up may lead to a document only after directories were made. -/
theorem Keeper.found_eq (k : Keeper) (declared : Settings) {s : σ × FileTree}
    (hclosed : s.2.Closed) (hdirect : FileTree.Direct k.appliedPath) :
    let d := Device.ofParts service (FileTree.refusing refuse)
    k.found d declared s = d.toStorage.settings k.appliedPath s := by
  intro d
  cases htext : declared.toToml with
  | none => simp only [found, htext]
  | some text =>
    simp only [found, htext]
    refine Storage.settings_congr ?_
    show FileTree.storage.contents k.appliedPath
      ((FileTree.refusing refuse).replaceFile k.path (Utf8.encode text) s.2).2 =
        FileTree.storage.contents k.appliedPath s.2
    rcases FileTree.replaceFile_refusing refuse k.path (Utf8.encode text) s.2 with
      ⟨_, _, hreplace, hgrown⟩ | ⟨t, at_, hreplace, hgrown, hlanding⟩
    · rw [hreplace]
      exact hgrown.sameFiles.contents hclosed _ hdirect
    · rw [hreplace, ← hgrown.sameFiles.contents hclosed _ hdirect]
      obtain ⟨_, name, _, hname⟩ := FileTree.fileName?_of_landing hlanding
      have hslash : Path.slash ∉ Utf8.encode "applied.toml" := by decide +kernel
      obtain ⟨front, last, hparts, hlast⟩ := Path.splitSlash_withExtension hname hslash
      -- The path of the second document ends in a name, as it does not go up.
      have hdots : last ≠ [Path.dot, Path.dot] := by
        rintro rfl
        refine hdirect ?_
        rw [appliedPath, hparts]
        exact List.mem_append_right _ List.mem_cons_self
      have hlength : 2 ≤ last.length := by
        rw [hlast.resolve_left hdots, List.length_append, List.length_cons]
        have hextension : (Utf8.encode "applied.toml").length = 12 := by decide +kernel
        omega
      have hstep : Step.ofPart? last = some (.enter last) := by
        unfold Step.ofPart?
        rw [if_neg, if_neg, if_neg hdots]
        · rintro rfl
          exact absurd hlength (by decide)
        · rintro rfl
          exact absurd hlength (by decide)
      exact FileTree.contents_put hparts hstep hlanding (fileName?_appliedPath_ne k hname)

/-- Which connection a keeper has and in which state the service is makes no difference to what is
stored. -/
theorem Keeper.stored_congr {k k' : Keeper} (hpath : k.path = k'.path) (declared : Settings)
    {s s' : σ × FileTree} (htree : s.2 = s'.2) :
    k.Stored (.ofParts service (FileTree.refusing refuse)) declared s ↔
      k'.Stored (.ofParts service (FileTree.refusing refuse)) declared s' := by
  simp only [Stored, Device.replaceFile_ofParts, hpath, htree]

/-- Nor does it to what a save finds. -/
theorem Keeper.found_congr {k k' : Keeper} (hpath : k.path = k'.path) (declared : Settings)
    {s s' : σ × FileTree} (htree : s.2 = s'.2) :
    k.found (.ofParts service (FileTree.refusing refuse)) declared s =
      k'.found (.ofParts service (FileTree.refusing refuse)) declared s' := by
  have hsettings {s s' : σ × FileTree} (h : s.2 = s'.2) :
      (Device.ofParts service (FileTree.refusing refuse)).toStorage.settings k.appliedPath s =
        (Device.ofParts service (FileTree.refusing refuse)).toStorage.settings k'.appliedPath
          s' := by
    rw [appliedPath, appliedPath, hpath]
    exact Storage.settings_congr (congrArg (FileTree.storage.contents _) h)
  unfold found
  split
  · exact hsettings htree
  · refine hsettings ?_
    rw [Device.replaceFile_ofParts, Device.replaceFile_ofParts, hpath, htree]

/-- Once the settings are stored, each command that a save sends is that of a slot whose value
differs from the acknowledged one. -/
theorem Keeper.log_save_of_stored {k : Keeper} {declared : Settings} {w : World (σ × FileTree)}
    (h : k.Stored (.ofParts service (FileTree.refusing refuse)) declared w.device)
    (hlive : w.connection = k.engine) :
    let d := Device.ofParts service (FileTree.refusing refuse)
    ∃ commands : List Command, ((k.save d declared).run w).2.log =
        w.log ++ commands.map (Event.issued · k.engine) ∧
      ∀ c ∈ commands, ∃ slot : Slot, slot.command? declared = some c ∧
        slot.same (k.found d declared w.device) declared = false := by
  intro d
  obtain ⟨text, htext, hok⟩ := h
  have hwrite : d.replaceFile k.path (Utf8.encode text) w.device =
      (.ok (), (d.replaceFile k.path (Utf8.encode text) w.device).2) := Prod.ext hok rfl
  have hfound : k.found d declared w.device = d.toStorage.settings k.appliedPath
      (d.replaceFile k.path (Utf8.encode text) w.device).2 := by
    simp only [found, htext]
  refine ⟨((pending (k.found d declared w.device) declared).filter fun e =>
    k.engine.any fun c => c.allows e.gate).map Effect.command, ?_, fun c hc => ?_⟩
  · rw [log_save d k htext hwrite hlive, hfound, List.map_map]
    rfl
  · obtain ⟨e, he, rfl⟩ := List.mem_map.1 hc
    have hpending := (List.mem_filter.1 he).1
    exact ⟨e.slot, (mem_effects_iff.1 hpending).1,
      (exists_mem_pending_iff.1 ⟨e, hpending, rfl⟩).2⟩

end Found

/-! ## The command -/

namespace CommandLine

section Command

variable {δ : Type}

/-- What the command says when a save has come to an end. -/
def told (k : Keeper) : Except KeepError SaveReport → Except Failure Result
  | .ok report => .ok ⟨savedText k.path report, some report.toData⟩
  | .error e =>
    match e with
    | .gated .. => .ok ⟨s!"saved; {e.message}", some (.text e.message)⟩
    | _ => .error { what := e.message }

/-- Settings that were stored are told as saved, be it that an effect has to wait. -/
theorem told_verdict (k : Keeper) (p : Progress) : ∃ out, told k (Keeper.verdict p) = .ok out := by
  unfold Keeper.verdict
  split
  · exact ⟨_, rfl⟩
  · exact ⟨_, rfl⟩

/-- The command loads the settings over a connection, changes them, and saves them, if that is what
it was asked for. -/
theorem run_setConfig (s : Session δ) (key value : String) (w : World δ) :
    (setConfig s key value).run w =
      let keeper := (s.keeper.run w).1
      let w' := (s.keeper.run w).2
      match changeSetting key value (s.device.toStorage.settings keeper.path w'.device) with
      | .error what => (.error { what }, w')
      | .ok changed =>
        (told keeper ((keeper.save s.device changed).run w').1,
          ((keeper.save s.device changed).run w').2) := by
  rw [setConfig, Action.run_bind, Action.run_bind, Keeper.load, Keeper.run_readDocument]
  dsimp only
  cases changeSetting key value
      (s.device.toStorage.settings (s.keeper.run w).1.path (s.keeper.run w).2.device) with
  | error what => rfl
  | ok changed =>
    dsimp only
    rw [Action.run_bind]
    cases ((Keeper.save s.device (s.keeper.run w).1 changed).run (s.keeper.run w).2).1 with
    | ok report => rfl
    | error e => cases e <;> rfl

/-- From one world to another a connection was negotiated, unless one was live, commands were sent
over it, and it was ended. -/
def Converses (commands : List Command) (w w' : World δ) : Prop :=
  ∃ shaken live, w'.log = w.log ++ (shaken ++ commands.map (Event.issued · live) ++ [.hungUp]) ∧
    ∀ e ∈ shaken, ∃ c, handshake c = true ∧ e = .issued c none

/-- Making a keeper negotiates a connection, unless one is live, and nothing else. -/
theorem run_keeper {φ : Type} {seen : δ → φ} (s : Session δ)
    (hapart : s.device.toService.Apart seen) (w : World δ) :
    (s.keeper.run w).1.path = s.paths.engineConfig ∧
      seen (s.keeper.run w).2.device = seen w.device ∧
      (s.keeper.run w).2.connection = (s.keeper.run w).1.engine ∧
      ∃ shaken, (s.keeper.run w).2.log = w.log ++ shaken ∧
        ∀ e ∈ shaken, ∃ c, handshake c = true ∧ e = .issued c none := by
  have hsends : Sends (fun e => ∃ c, handshake c = true ∧ e = .issued c none) w.connection s.keeper
      (fun k l => k.engine = l) := s.sends_keeper fun _ c hc => ⟨c, hc, rfl⟩
  obtain ⟨hshaken, hlive⟩ := hsends w rfl
  exact ⟨rfl, s.preserves_keeper hapart w, hlive.symm, hshaken⟩

/-- A session on the command line opens, and does one thing up to its end. -/
theorem run_beforeEnd (d : Device δ) (paths : PathsConfig) (now : String) (intent : Intent)
    (w : World δ) :
    (beforeEnd d paths now intent).run w =
      (perform ⟨d, paths, (d.toStorage.settings paths.engineConfig
        w.device).ignoreProtocolMismatch⟩ now intent).run w := by
  rw [beforeEnd, Action.run_bind, Keeper.load, Keeper.run_readDocument]

/-- What a session on the command line sends, up to its end, and the end. -/
theorem converses_inSession {d : Device δ} {paths : PathsConfig} {now : String} {intent : Intent}
    {w : World δ} {shaken : List Event} (live : Option Connection) {commands : List Command}
    (hlog : ((beforeEnd d paths now intent).run w).2.log =
      w.log ++ (shaken ++ commands.map (Event.issued · live)))
    (hshaken : ∀ e ∈ shaken, ∃ c, handshake c = true ∧ e = .issued c none) :
    Converses commands w ((inSession d paths now intent).run w).2 := by
  refine ⟨shaken, live, ?_, hshaken⟩
  rw [run_inSession]
  show _ ++ [Event.hungUp] = _
  rw [hlog, List.append_assoc]

end Command

variable {σ : Type} (service : Service σ)
  (refuse : Path → List UInt8 → FileTree → Option (Nat × FileFault))

/-- Up to the end of its session the command negotiates a connection, unless one is live, and goes
by the settings that were stored before. -/
theorem run_beforeEnd_setConfig (paths : PathsConfig) (now key value : String)
    (w : World (σ × FileTree)) :
    let d := Device.ofParts service (FileTree.refusing refuse)
    ∃ (k : Keeper) (w' : World (σ × FileTree)) (shaken : List Event),
      k.path = paths.engineConfig ∧ w'.device.2 = w.device.2 ∧ w'.connection = k.engine ∧
      w'.log = w.log ++ shaken ∧ (∀ e ∈ shaken, ∃ c, handshake c = true ∧ e = .issued c none) ∧
      (beforeEnd d paths now (.setConfig key value)).run w =
        match changeSetting key value (d.toStorage.settings paths.engineConfig w.device) with
        | .error what => (.error { what }, w')
        | .ok changed =>
          (told k ((k.save d changed).run w').1, ((k.save d changed).run w').2) := by
  intro d
  -- Whether a service that is too old is accepted makes no difference here.
  obtain ⟨tolerant, hperform⟩ : ∃ tolerant, (beforeEnd d paths now (.setConfig key value)).run w =
      (setConfig ⟨d, paths, tolerant⟩ key value).run w := ⟨_, run_beforeEnd ..⟩
  obtain ⟨hpath, htree, hlive, shaken, hlog, hshaken⟩ := run_keeper ⟨d, paths, tolerant⟩
    (Device.apart_ofParts service (FileTree.refusing refuse)) w
  refine ⟨_, _, shaken, hpath, htree, hlive, hlog, hshaken, ?_⟩
  -- Making the keeper has left the files alone, so the settings are those of before.
  have hsettings : d.toStorage.settings paths.engineConfig
      ((Session.keeper ⟨d, paths, tolerant⟩).run w).2.device =
        d.toStorage.settings paths.engineConfig w.device :=
    Storage.settings_congr (congrArg (FileTree.storage.contents _) htree)
  rw [hperform, run_setConfig]
  dsimp only
  rw [hpath, hsettings]

/-- A key and a value change one setting and nothing else. If they ask for nothing, no file changes
and only the handshake is sent. Otherwise the save is given the settings with that one changed. If
it cannot store them, only the handshake was sent, too, and directories may have been made. If it
can, they are what is loaded afterwards, whatever the engine answers, and each command that is sent
is that of a setting whose value differs from the acknowledged one that the save finds. What it
finds was there before, unless the path goes up. -/
theorem setConfig_changes_one (paths : PathsConfig) (now key value : String)
    (w : World (σ × FileTree)) :
    let d := Device.ofParts service (FileTree.refusing refuse)
    let k : Keeper := ⟨paths.engineConfig, none⟩
    let r := (inSession d paths now (.setConfig key value)).run w
    ((∀ slot v, ¬ Asks key value slot v) →
      (∃ f, r.1 = .error f) ∧ r.2.device.2 = w.device.2 ∧ Converses [] w r.2) ∧
    (∀ slot v, Asks key value slot v → ∃ changed,
      slot.Sets v ((k.load d).run w).1 changed ∧
      (¬ k.Stored d changed w.device →
        (∃ why, r.1 = .error { what := KeepError.message (.persistFailed why) }) ∧
          w.device.2.SameFiles r.2.device.2 ∧ Converses [] w r.2) ∧
      (k.Stored d changed w.device →
        (∃ out, r.1 = .ok out) ∧ ((k.load d).run r.2).1 = changed ∧
          ∃ commands, Converses commands w r.2 ∧ ∀ c ∈ commands, ∃ slot : Slot,
            slot.command? changed = some c ∧
              slot.same (k.found d changed w.device) changed = false)) ∧
    (w.device.2.Closed → FileTree.Direct k.appliedPath → ∀ changed,
      k.found d changed w.device = ((k.applied d).run w).1) := by
  intro d k r
  obtain ⟨k', w', shaken, hpath, htree, hlive, hlog, hshaken, hbefore⟩ :=
    run_beforeEnd_setConfig service refuse paths now key value w
  have hload (w : World (σ × FileTree)) :
      ((k.load d).run w).1 = d.toStorage.settings paths.engineConfig w.device := by
    rw [Keeper.load, Keeper.run_readDocument]
  -- The end of the session leaves the files alone, and what came of the command.
  have hr : r = (((beforeEnd d paths now (.setConfig key value)).run w).1,
      { device := (d.hangUp ((beforeEnd d paths now (.setConfig key value)).run w).2.device).2
        connection := none
        log := ((beforeEnd d paths now (.setConfig key value)).run w).2.log ++ [.hungUp] }) :=
    run_inSession ..
  have hnothing (h : ((beforeEnd d paths now (.setConfig key value)).run w).2.log = w'.log) :
      Converses [] w r.2 := by
    refine converses_inSession none ?_ hshaken
    rw [h, hlog, List.map_nil, List.append_nil]
  refine ⟨fun hnone => ?_, fun slot v hasks => ?_, fun hclosed hdirect changed => ?_⟩
  · obtain ⟨what, hwhat⟩ :=
      exists_changeSetting_error hnone (d.toStorage.settings paths.engineConfig w.device)
    rw [hwhat] at hbefore
    refine ⟨⟨_, by rw [hr, hbefore]⟩, ?_, hnothing (by rw [hbefore])⟩
    rw [hr, hbefore]
    exact htree
  · obtain ⟨changed, hsets, hchange⟩ :=
      hasks.exists_changeSetting_ok (d.toStorage.settings paths.engineConfig w.device)
    rw [hchange] at hbefore
    have hstored : k'.Stored d changed w'.device ↔ k.Stored d changed w.device :=
      Keeper.stored_congr service refuse hpath changed htree
    have hfound : k'.found d changed w'.device = k.found d changed w.device :=
      Keeper.found_congr service refuse hpath changed htree
    refine ⟨changed, by rwa [hload], fun hnot => ?_, fun hput => ?_⟩
    · -- The save ends at the first document, before anything is sent.
      rw [← hstored] at hnot
      obtain ⟨⟨why, hfailed⟩, hsame, hworld⟩ := Keeper.save_of_not_stored service refuse hnot
      refine ⟨⟨why, ?_⟩, ?_, hnothing ?_⟩
      · rw [hr, hbefore]
        exact congrArg (told k') hfailed
      · rw [hr, hbefore, ← htree]
        exact hsame
      · have hlogged := congrArg World.log hworld
        rw [hbefore]
        exact hlogged
    · rw [← hstored] at hput
      obtain ⟨⟨p, hverdict⟩, hsaved⟩ := Keeper.save_of_stored service refuse hput
      obtain ⟨commands, hcommands, hslots⟩ :=
        Keeper.log_save_of_stored service refuse hput hlive
      obtain ⟨out, hout⟩ := told_verdict k' p
      refine ⟨⟨out, ?_⟩, ?_, commands, ?_, ?_⟩
      · rw [hr, hbefore, ← hout]
        exact congrArg (told k') hverdict
      · rw [← hsaved, hr, hbefore, hload, Keeper.load, Keeper.run_readDocument, hpath]
        rfl
      · refine converses_inSession k'.engine ?_ hshaken
        rw [hbefore, ← List.append_assoc, ← hlog]
        exact hcommands
      · rw [← hfound]
        exact hslots
  · rw [Keeper.run_applied]
    exact Keeper.found_eq service refuse k changed hclosed hdirect

end CommandLine

end OverlayControl
