import Mathlib.Control.Monad.Basic
import Mathlib.Tactic.Choose
import OverlayControl.ClientConfig
import OverlayControl.FileTree.Storage
import OverlayControl.Proofs.Record

/-!
# Where the client's settings come from

Each setting has a key in one section of the document, and most have a variable. The variable goes
before the document, and the document before the default; what is wrong with the value of one
setting in the environment has no effect on the others.

* `Part`, `Setting` — the sections and the settings, with the keys, the variables and the values;
* `ofData_eq_some_iff` — what a document holds is what its sections give;
* `Setting.Told`, `Setting.Overridden`, `Setting.Takes` — the value that a setting takes;
* `Admitted`, `exists_ofData_iff` — the documents from which a configuration can be read;
* `exists_override_eq_iff` — the configuration of a document and an environment;
* `Located`, `Opened` — which document is read, and what it holds;
* `load_precedence` — the configuration of a client;
* `load_of_listed_section` — a section without keys tells values as well.
-/

namespace OverlayControl.ClientConfig

/-- The sections of a client's document. -/
inductive Part
  /-- How the service is reached. -/
  | service
  /-- The files of the device. -/
  | paths
  /-- The log. -/
  | logging

/-- The name of a section. -/
def Part.name : Part → String
  | service => "service"
  | paths => "paths"
  | logging => "logging"

/-- The keys of a section, in their order. -/
def Part.keys : Part → List String
  | service => ["transport", "socket", "su_path", "engine_cli", "timeout_secs"]
  | paths => ["engine_config", "module_modes", "mountinfo"]
  | logging => ["level"]

/-- The settings of a client. -/
inductive Setting
  /-- The transport. -/
  | transport
  /-- The address of the socket. -/
  | socket
  /-- The program that opens a root shell. -/
  | suPath
  /-- The engine's command line program. -/
  | engineCli
  /-- How long a call may take. -/
  | timeoutSecs
  /-- The document of the declared settings. -/
  | engineConfig
  /-- The document of the declared strategies. -/
  | moduleModes
  /-- The mount table. -/
  | mountinfo
  /-- The filter of the log. -/
  | logLevel

namespace Setting

/-- The section that a setting stands in. -/
def part : Setting → Part
  | transport | socket | suPath | engineCli | timeoutSecs => .service
  | engineConfig | moduleModes | mountinfo => .paths
  | logLevel => .logging

/-- The key of a setting. -/
def key : Setting → String
  | transport => "transport"
  | socket => "socket"
  | suPath => "su_path"
  | engineCli => "engine_cli"
  | timeoutSecs => "timeout_secs"
  | engineConfig => "engine_config"
  | moduleModes => "module_modes"
  | mountinfo => "mountinfo"
  | logLevel => "level"

/-- The variable that goes before the document. -/
def variableName? : Setting → Option String
  | transport => some "HYMOCTL_TRANSPORT"
  | socket => some "HYMOCTL_SOCKET"
  | suPath => some "HYMOCTL_SU"
  | engineCli => some "HYMOCTL_ENGINE_CLI"
  | timeoutSecs => some "HYMOCTL_TIMEOUT_SECS"
  | engineConfig => some "HYMOCTL_ENGINE_CONFIG"
  | moduleModes | mountinfo | logLevel => none

/-- The values that a setting may have. -/
abbrev Value : Setting → Type
  | transport => Transport
  | socket | engineCli | logLevel => String
  | suPath | engineConfig | moduleModes | mountinfo => Path
  | timeoutSecs => Nat

/-- The value of a setting in a configuration. -/
def get : (s : Setting) → ClientConfig → s.Value
  | transport, c => c.service.transport
  | socket, c => c.service.socket
  | suPath, c => c.service.suPath
  | engineCli, c => c.service.engineCli
  | timeoutSecs, c => c.service.timeoutSecs
  | engineConfig, c => c.paths.engineConfig
  | moduleModes, c => c.paths.moduleModes
  | mountinfo, c => c.paths.mountinfo
  | logLevel, c => c.logLevel

/-- Reads a value from a document. -/
def ofData : (s : Setting) → Data → Option s.Value
  | transport, d => d.choice .toml Transport.ofName
  | socket, d | engineCli, d | logLevel, d => d.asText
  | suPath, d | engineConfig, d | moduleModes, d | mountinfo, d => d.asText.map Path.ofString
  | timeoutSecs, d => d.asNat (UInt64.size - 1)

/-- Reads the value of a variable. -/
def ofText : (s : Setting) → String → Option s.Value
  | transport, text => (Transport.parse text).toOption
  | socket, text | engineCli, text | logLevel, text => some text
  | suPath, text | engineConfig, text | moduleModes, text | mountinfo, text =>
    some (Path.ofString text)
  | timeoutSecs, text => (Text.readLongNat text).toOption

/-- Configurations with the same values are the same. -/
theorem ext_get {c c' : ClientConfig} (h : ∀ s : Setting, s.get c = s.get c') : c = c' := by
  obtain ⟨⟨_, _, _, _, _⟩, ⟨_, _, _⟩, _⟩ := c
  obtain ⟨⟨_, _, _, _, _⟩, ⟨_, _, _⟩, _⟩ := c'
  cases h transport
  cases h socket
  cases h suPath
  cases h engineCli
  cases h timeoutSecs
  cases h engineConfig
  cases h moduleModes
  cases h mountinfo
  cases h logLevel
  rfl

/-- There is a configuration with any values. -/
theorem exists_get (f : (s : Setting) → s.Value) : ∃ c : ClientConfig, ∀ s, s.get c = f s :=
  ⟨⟨⟨f transport, f socket, f suPath, f engineCli, f timeoutSecs⟩,
    ⟨f engineConfig, f moduleModes, f mountinfo⟩, f logLevel⟩, fun s => by cases s <;> rfl⟩

/-- The value that stands in a section for a setting, if there is one. -/
def found (s : Setting) (d : Data) : Option Data :=
  (d.entries? s.part.keys).bind fun entries => entries.lookup s.key

/-- The value that a section gives to a setting: the one that stands there, or the default. -/
def Gives (s : Setting) (d : Data) (a : s.Value) : Prop :=
  Data.field (s.get {}) s.ofData (s.found d) = some a

end Setting

namespace Part

theorem nodup_keys (part : Part) : part.keys.Nodup := by cases part <;> decide

/-- The section is read as a record, and none of its keys is there twice. -/
def Readable (part : Part) (d : Data) : Prop :=
  ∃ entries, d.entries? part.keys = some entries ∧ Data.Once part.keys entries

/-- The values that are read of a section, if any. -/
theorem record_eq_some_iff (part : Part) {d : Data} {values : List (Option Data)} :
    d.record .toml (part.keys.map fun key => [key]) = some values ↔
      part.Readable d ∧
        values = part.keys.map fun key => (d.entries? part.keys).bind fun es => es.lookup key := by
  rw [Data.record_eq_some_iff part.nodup_keys]
  constructor
  · rintro ⟨entries, hentries, honce, rfl⟩
    refine ⟨⟨entries, hentries, honce⟩, ?_⟩
    simp only [hentries, Option.bind_some]
  · rintro ⟨⟨entries, hentries, honce⟩, rfl⟩
    refine ⟨entries, hentries, honce, ?_⟩
    simp only [hentries, Option.bind_some]

end Part

section Document

variable {c : ClientConfig} {d : Data}

/-- The way to the service is read exactly when its section is, and every setting of it. -/
theorem ofData_service_eq_some_iff :
    ServiceConfig.ofData .toml d = some c.service ↔
      Part.service.Readable d ∧ ∀ s : Setting, s.part = .service → s.Gives d (s.get c) := by
  obtain ⟨service, paths, logLevel⟩ := c
  simp only [ServiceConfig.ofData, Option.bind_eq_bind, Option.bind_eq_some_iff]
  constructor
  · rintro ⟨values, hvalues, h⟩
    obtain ⟨hreadable, rfl⟩ := (Part.record_eq_some_iff .service).1 hvalues
    refine ⟨hreadable, fun s hs => ?_⟩
    simp only [Part.keys, List.map_cons, List.map_nil, Option.bind_eq_some_iff,
      Option.some.injEq] at h
    obtain ⟨_, htransport, _, hsocket, _, hsuPath, _, hengineCli, _, htimeoutSecs, rfl⟩ := h
    -- Each field of the record is a setting of the section.
    cases s with
    | transport => exact htransport
    | socket => exact hsocket
    | suPath => exact hsuPath
    | engineCli => exact hengineCli
    | timeoutSecs => exact htimeoutSecs
    | _ => cases hs
  · rintro ⟨hreadable, h⟩
    refine ⟨_, (Part.record_eq_some_iff .service).2 ⟨hreadable, rfl⟩, ?_⟩
    simp only [Part.keys, List.map_cons, List.map_nil, Option.bind_eq_some_iff, Option.some.injEq]
    exact ⟨_, h .transport rfl, _, h .socket rfl, _, h .suPath rfl, _, h .engineCli rfl, _,
      h .timeoutSecs rfl, rfl⟩

theorem ofData_paths_eq_some_iff :
    PathsConfig.ofData .toml d = some c.paths ↔
      Part.paths.Readable d ∧ ∀ s : Setting, s.part = .paths → s.Gives d (s.get c) := by
  obtain ⟨service, paths, logLevel⟩ := c
  simp only [PathsConfig.ofData, Option.bind_eq_bind, Option.bind_eq_some_iff]
  constructor
  · rintro ⟨values, hvalues, h⟩
    obtain ⟨hreadable, rfl⟩ := (Part.record_eq_some_iff .paths).1 hvalues
    refine ⟨hreadable, fun s hs => ?_⟩
    simp only [Part.keys, List.map_cons, List.map_nil, Option.bind_eq_some_iff,
      Option.some.injEq] at h
    obtain ⟨_, hengineConfig, _, hmoduleModes, _, hmountinfo, rfl⟩ := h
    cases s with
    | engineConfig => exact hengineConfig
    | moduleModes => exact hmoduleModes
    | mountinfo => exact hmountinfo
    | _ => cases hs
  · rintro ⟨hreadable, h⟩
    refine ⟨_, (Part.record_eq_some_iff .paths).2 ⟨hreadable, rfl⟩, ?_⟩
    simp only [Part.keys, List.map_cons, List.map_nil, Option.bind_eq_some_iff, Option.some.injEq]
    exact ⟨_, h .engineConfig rfl, _, h .moduleModes rfl, _, h .mountinfo rfl, rfl⟩

theorem logLevelOf_eq_some_iff :
    logLevelOf .toml d = some c.logLevel ↔
      Part.logging.Readable d ∧ ∀ s : Setting, s.part = .logging → s.Gives d (s.get c) := by
  simp only [logLevelOf, Option.bind_eq_bind, Option.bind_eq_some_iff]
  constructor
  · rintro ⟨values, hvalues, h⟩
    obtain ⟨hreadable, rfl⟩ := (Part.record_eq_some_iff .logging).1 hvalues
    refine ⟨hreadable, fun s hs => ?_⟩
    cases s with
    | logLevel => exact h
    | _ => cases hs
  · rintro ⟨hreadable, h⟩
    exact ⟨_, (Part.record_eq_some_iff .logging).2 ⟨hreadable, rfl⟩, h .logLevel rfl⟩

/-- A section of a document; an absent one counts as empty. -/
def sectionOf (sections : List (String × Data)) (part : Part) : Data :=
  (sections.lookup part.name).getD (.table [])

/-- The names of the sections. -/
def partNames : List String := ["service", "paths", "logging"]

/-- All sections are read exactly when each of the three is. -/
theorem forall_part_iff {sections : List (String × Data)} :
    (∀ part : Part, part.Readable (sectionOf sections part) ∧
      ∀ s : Setting, s.part = part → s.Gives (sectionOf sections part) (s.get c)) ↔
    ServiceConfig.ofData .toml (sectionOf sections .service) = some c.service ∧
      PathsConfig.ofData .toml (sectionOf sections .paths) = some c.paths ∧
      logLevelOf .toml (sectionOf sections .logging) = some c.logLevel := by
  rw [ofData_service_eq_some_iff, ofData_paths_eq_some_iff, logLevelOf_eq_some_iff]
  constructor
  · intro h
    exact ⟨h .service, h .paths, h .logging⟩
  · rintro ⟨hservice, hpaths, hlogging⟩ part
    cases part with
    | service => exact hservice
    | paths => exact hpaths
    | logging => exact hlogging

/-- What a document holds is what its sections give. -/
theorem ofData_eq_some_iff {sections : List (String × Data)} :
    ofData .toml (.table sections) = some c ↔
      Data.Once partNames sections ∧ ∀ part : Part, part.Readable (sectionOf sections part) ∧
        ∀ s : Setting, s.part = part → s.Gives (sectionOf sections part) (s.get c) := by
  -- A section that is absent is read as one that is empty.
  have hservice (o : Option Data) : Data.field {} (ServiceConfig.ofData .toml) o =
      ServiceConfig.ofData .toml (o.getD (.table [])) := by cases o <;> rfl
  have hpaths (o : Option Data) : Data.field {} (PathsConfig.ofData .toml) o =
      PathsConfig.ofData .toml (o.getD (.table [])) := by cases o <;> rfl
  have hlogging (o : Option Data) : Data.field "info" (logLevelOf .toml) o =
      logLevelOf .toml (o.getD (.table [])) := by cases o <;> rfl
  have hrecord {values : List (Option Data)} : (Data.table sections).record .toml
      [["service"], ["paths"], ["logging"]] = some values ↔
      Data.Once partNames sections ∧ values = partNames.map fun name => sections.lookup name :=
    Data.mapM_single?_eq_some_iff partNames
  simp only [forall_part_iff, ofData, Option.bind_eq_bind, Option.bind_eq_some_iff, hrecord]
  constructor
  · rintro ⟨_, ⟨honce, rfl⟩, h⟩
    simp only [partNames, List.map_cons, List.map_nil, Option.bind_eq_some_iff, Option.some.injEq,
      hservice, hpaths, hlogging] at h
    obtain ⟨_, hservice, _, hpaths, _, hlogging, rfl⟩ := h
    exact ⟨honce, hservice, hpaths, hlogging⟩
  · rintro ⟨honce, hservice', hpaths', hlogging'⟩
    refine ⟨_, ⟨honce, rfl⟩, ?_⟩
    simp only [partNames, List.map_cons, List.map_nil, Option.bind_eq_some_iff, Option.some.injEq,
      hservice, hpaths, hlogging]
    exact ⟨_, hservice', _, hpaths', _, hlogging', rfl⟩

end Document

/-! ## Precedence -/

section Precedence

variable {sections : List (String × Data)} {env : Environment} {s : Setting} {c : ClientConfig}

namespace Setting

/-- The document tells a value for a setting: it stands under the key of the setting in the section
of the setting. -/
def Told (s : Setting) (sections : List (String × Data)) (x : Data) : Prop :=
  ∃ d entries, (s.part.name, d) ∈ sections ∧ d.entries? s.part.keys = some entries ∧
    (s.key, x) ∈ entries

/-- The variable of a setting is set, and holds a value of the setting. -/
def Overridden (s : Setting) (env : Environment) (a : s.Value) : Prop :=
  ∃ name text, s.variableName? = some name ∧ env name = some text ∧ s.ofText text = some a

/-- The value that a setting takes. -/
inductive Takes (s : Setting) (env : Environment) (sections : List (String × Data)) :
    s.Value → Prop
  /-- That of its variable, if that is set and valid. -/
  | overridden {a : s.Value} (valid : s.Overridden env a) : Takes s env sections a
  /-- Else the one that the document tells. -/
  | told {x : Data} {a : s.Value} (free : ∀ b, ¬s.Overridden env b) (told : s.Told sections x)
      (read : s.ofData x = some a) : Takes s env sections a
  /-- Else the default. -/
  | default (free : ∀ b, ¬s.Overridden env b) (silent : ∀ x, ¬s.Told sections x) :
      Takes s env sections (s.get {})

end Setting

/-- A document from which a configuration can be read. -/
structure Admitted (sections : List (String × Data)) : Prop where
  /-- No section is there twice. -/
  once : Data.Once partNames sections
  /-- Each section is a record without a second value of a key. -/
  readable : ∀ (part : Part) (d : Data), (part.name, d) ∈ sections → part.Readable d
  /-- Each value that is told for a setting is one of the setting. -/
  valued : ∀ (s : Setting) (x : Data), s.Told sections x → ∃ a, s.ofData x = some a

theorem Part.name_mem (part : Part) : part.name ∈ partNames := by cases part <;> decide

theorem Setting.key_mem (s : Setting) : s.key ∈ s.part.keys := by cases s <;> decide

theorem lookup_part_eq_some_iff (h : Data.Once partNames sections) {part : Part} {d : Data} :
    sections.lookup part.name = some d ↔ (part.name, d) ∈ sections :=
  Data.lookup_eq_some_iff_mem (h _ part.name_mem)

theorem readable_sectionOf_iff (h : Data.Once partNames sections) {part : Part} :
    part.Readable (sectionOf sections part) ↔
      ∀ d, (part.name, d) ∈ sections → part.Readable d := by
  simp only [← lookup_part_eq_some_iff h, sectionOf]
  cases sections.lookup part.name with
  | none => simp [Part.Readable, Data.entries?, Data.Once]
  | some d => simp

/-- What is found in a section for a setting is what the document tells. -/
theorem found_sectionOf_eq_some_iff (h : Data.Once partNames sections)
    (hreadable : ∀ part : Part, part.Readable (sectionOf sections part)) {x : Data} :
    s.found (sectionOf sections s.part) = some x ↔ s.Told sections x := by
  obtain ⟨entries, hentries, honce⟩ := hreadable s.part
  rw [Setting.found, hentries, Option.bind_some, Data.lookup_eq_some_iff_mem (honce _ s.key_mem)]
  unfold Setting.Told
  simp only [← lookup_part_eq_some_iff h]
  rw [sectionOf] at hentries
  cases hlookup : sections.lookup s.part.name with
  | none =>
    rw [hlookup] at hentries
    cases hentries
    simp
  | some d =>
    rw [hlookup] at hentries
    rw [Option.getD_some] at hentries
    simp [hentries]

/-- A value of a variable goes before what the document holds. -/
theorem Setting.get_override (s : Setting) (env : Environment) (c : ClientConfig) :
    s.get (override env c) = ((s.variableName?.bind env).bind s.ofText).getD (s.get c) := by
  cases s <;> rfl

theorem Setting.overridden_iff {a : s.Value} :
    s.Overridden env a ↔ (s.variableName?.bind env).bind s.ofText = some a := by
  unfold Overridden
  cases s.variableName? with
  | none => simp
  | some name => simp [Option.bind_eq_some_iff]

/-- A valid variable decides alone. -/
theorem Setting.takes_iff_of_overridden {v b : s.Value} (h : s.Overridden env v) :
    s.Takes env sections b ↔ b = v := by
  constructor
  · rintro (valid | ⟨free, -, -⟩ | ⟨free, -⟩)
    · exact Option.some.inj ((overridden_iff.1 valid).symm.trans (overridden_iff.1 h))
    · exact absurd h (free v)
    · exact absurd h (free v)
  · rintro rfl
    exact .overridden h

/-- Without a valid variable it is the document that decides. -/
theorem Setting.takes_iff_of_free {a b : s.Value} (hfree : ∀ v, ¬s.Overridden env v)
    (hfound : ∀ x, s.found (sectionOf sections s.part) = some x ↔ s.Told sections x)
    (hgives : s.Gives (sectionOf sections s.part) a) : s.Takes env sections b ↔ b = a := by
  unfold Gives at hgives
  cases hstands : s.found (sectionOf sections s.part) with
  | some x =>
    have htold := (hfound x).1 hstands
    rw [hstands] at hgives
    constructor
    · rintro (valid | ⟨-, told, read⟩ | ⟨-, silent⟩)
      · exact absurd valid (hfree b)
      · rw [(hfound _).2 told, Option.some.injEq] at hstands
        rw [hstands] at read
        exact Option.some.inj (read.symm.trans hgives)
      · exact absurd htold (silent x)
    · rintro rfl
      exact .told hfree htold hgives
  | none =>
    have hsilent : ∀ x, ¬s.Told sections x := by
      intro x hx
      rw [(hfound x).2 hx] at hstands
      cases hstands
    rw [hstands] at hgives
    obtain rfl : s.get {} = a := Option.some.inj hgives
    constructor
    · rintro (valid | ⟨-, told, -⟩ | -)
      · exact absurd valid (hfree b)
      · exact absurd told (hsilent _)
      · rfl
    · rintro rfl
      exact .default hfree hsilent

/-- A setting takes the value of its variable, or else what the document gives. -/
theorem Setting.takes_iff_of_gives {a b : s.Value}
    (hfound : ∀ x, s.found (sectionOf sections s.part) = some x ↔ s.Told sections x)
    (hgives : s.Gives (sectionOf sections s.part) a) :
    s.Takes env sections b ↔ b = ((s.variableName?.bind env).bind s.ofText).getD a := by
  cases hvalid : (s.variableName?.bind env).bind s.ofText with
  | some v => exact takes_iff_of_overridden (overridden_iff.2 hvalid)
  | none =>
    refine takes_iff_of_free (fun v hv => ?_) hfound hgives
    rw [overridden_iff, hvalid] at hv
    cases hv

/-- A configuration can be read from a document exactly when the document is admitted. -/
theorem exists_ofData_iff :
    (∃ c, ofData .toml (.table sections) = some c) ↔ Admitted sections := by
  constructor
  · rintro ⟨c, h⟩
    obtain ⟨honce, hparts⟩ := ofData_eq_some_iff.1 h
    refine ⟨honce, fun part d hd => ?_, fun s x hx => ?_⟩
    · exact (readable_sectionOf_iff honce).1 (hparts part).1 d hd
    · have hfound := (found_sectionOf_eq_some_iff honce fun part => (hparts part).1).2 hx
      have hgives := (hparts s.part).2 s rfl
      rw [Setting.Gives, hfound] at hgives
      exact ⟨_, hgives⟩
  · intro h
    have hreadable (part : Part) : part.Readable (sectionOf sections part) :=
      (readable_sectionOf_iff h.once).2 (h.readable part)
    have hgives (s : Setting) : ∃ a, s.Gives (sectionOf sections s.part) a := by
      cases hfound : s.found (sectionOf sections s.part) with
      | none => exact ⟨s.get {}, by rw [Setting.Gives, hfound]; rfl⟩
      | some x =>
        obtain ⟨a, ha⟩ := h.valued s x ((found_sectionOf_eq_some_iff h.once hreadable).1 hfound)
        exact ⟨a, by rw [Setting.Gives, hfound]; exact ha⟩
    -- The values that the sections give make up a configuration.
    choose f hf using hgives
    obtain ⟨c, hc⟩ := Setting.exists_get f
    refine ⟨c, ofData_eq_some_iff.2 ⟨h.once, fun part => ⟨hreadable part, ?_⟩⟩⟩
    rintro s rfl
    rw [hc]
    exact hf s

/-- With the variables of an environment, what is read from a document are the values that the
settings take. -/
theorem exists_override_eq_iff :
    (∃ c', ofData .toml (.table sections) = some c' ∧ override env c' = c) ↔
      Admitted sections ∧ ∀ s : Setting, s.Takes env sections (s.get c) := by
  have htakes {c' : ClientConfig} (h : ofData .toml (.table sections) = some c') (s : Setting)
      (b : s.Value) : s.Takes env sections b ↔ b = s.get (override env c') := by
    obtain ⟨honce, hparts⟩ := ofData_eq_some_iff.1 h
    rw [s.get_override]
    exact Setting.takes_iff_of_gives
      (fun x => found_sectionOf_eq_some_iff honce fun part => (hparts part).1)
      ((hparts s.part).2 s rfl)
  constructor
  · rintro ⟨c', h, rfl⟩
    exact ⟨exists_ofData_iff.1 ⟨c', h⟩, fun s => (htakes h s _).2 rfl⟩
  · rintro ⟨hadmitted, hvalues⟩
    obtain ⟨c', h⟩ := exists_ofData_iff.2 hadmitted
    exact ⟨c', h, Setting.ext_get fun s => ((htakes h s _).1 (hvalues s)).symm⟩

end Precedence

/-! ## Files -/

section Files

variable {φ : Type} {files : Storage φ} {st : φ} {explicit : Option Path} {env : Environment}
  {home : Option Path} {p : Path} {c : ClientConfig}

/-- Which document is read. -/
inductive Located (explicit : Option Path) (env : Environment) (home : Option Path) : Path → Prop
  /-- The one that the client was started with. -/
  | explicit {p : Path} (given : explicit = some p) : Located explicit env home p
  /-- Else the one that a variable names. -/
  | named {text : String} (free : explicit = none) (set : env "HYMOCTL_CONFIG" = some text) :
      Located explicit env home (.ofString text)
  /-- Else the one in the home directory. -/
  | atHome {dir : Path} (free : explicit = none) (unset : env "HYMOCTL_CONFIG" = none)
      (resolved : home = some dir) :
      Located explicit env home ((dir.join ".hymoctl").join "config.toml")

/-- What a file holds, as the sections of a document. -/
inductive Opened (files : Storage φ) (st : φ) (p : Path) : List (String × Data) → Prop
  /-- A file that is not found counts as an empty document. -/
  | absent (missing : files.readText p st = .error .notFound) : Opened files st p []
  /-- Any other one is read, and is a document. -/
  | present {text : String} {sections : List (String × Data)}
      (there : files.readText p st = .ok text)
      (document : Toml.read text = some (.table sections)) : Opened files st p sections

theorem location?_eq_some_iff : location? explicit env home = some p ↔
    Located explicit env home p := by
  unfold location?
  constructor
  · intro h
    split at h
    · next hexplicit =>
      cases h
      exact .explicit rfl
    · split at h
      · next hset =>
        cases h
        exact .named rfl hset
      · next hunset =>
        obtain ⟨dir, hdir, rfl⟩ := Option.map_eq_some_iff.1 h
        exact .atHome rfl hunset hdir
  · rintro (rfl | ⟨rfl, hset⟩ | ⟨rfl, hunset, rfl⟩)
    · rfl
    · rw [hset]
    · rw [hunset]
      rfl

/-- A document is a table. -/
theorem exists_table_of_read {text : String} {d : Data} (h : Toml.read text = some d) :
    ∃ sections, d = .table sections := by
  rw [Toml.read, Toml.readChars, Option.map_eq_some_iff] at h
  obtain ⟨draft, -, rfl⟩ := h
  exact ⟨_, rfl⟩

/-- A configuration is read from a file exactly when it is read from the document that it holds. -/
theorem ofFile_eq_ok_iff : ofFile p (files.readText p st) = .ok c ↔
    ∃ sections, Opened files st p sections ∧ ofData .toml (.table sections) = some c := by
  have hdefaults : ofData .toml (.table []) = some {} := rfl
  constructor
  · intro h
    cases htext : files.readText p st with
    | ok text =>
      rw [htext, ofFile, ofToml] at h
      cases hread : (Toml.read text).bind (ofData .toml) with
      | none =>
        rw [hread] at h
        cases h
      | some c' =>
        rw [hread] at h
        cases h
        obtain ⟨d, hd, hc⟩ := Option.bind_eq_some_iff.1 hread
        obtain ⟨sections, rfl⟩ := exists_table_of_read hd
        exact ⟨sections, .present htext hd, hc⟩
    | error fault =>
      rw [htext] at h
      cases fault with
      | notFound =>
        cases h
        exact ⟨[], .absent htext, hdefaults⟩
      | _ => cases h
  · rintro ⟨sections, hmissing | ⟨hthere, hdocument⟩, hc⟩
    · rw [hmissing, ofFile, ← Option.some.inj (hdefaults.symm.trans hc)]
    · rw [hthere, ofFile, ofToml, hdocument, Option.bind_some, hc]

/-- A configuration is that of the document that is read, with the variables of the environment. -/
theorem load_eq_ok_iff : load files st explicit env home = .ok c ↔
    ∃ p sections, Located explicit env home p ∧ Opened files st p sections ∧ Admitted sections ∧
      ∀ s : Setting, s.Takes env sections (s.get c) := by
  have hmap {p : Path} : (ofFile p (files.readText p st)).map (override env) = .ok c ↔
      ∃ c', ofFile p (files.readText p st) = .ok c' ∧ override env c' = c := by
    cases ofFile p (files.readText p st) <;> simp [Except.map]
  rw [load]
  constructor
  · intro h
    split at h
    · cases h
    · next p hp =>
      obtain ⟨c', hc', rfl⟩ := hmap.1 h
      obtain ⟨sections, hopened, hdata⟩ := ofFile_eq_ok_iff.1 hc'
      exact ⟨p, sections, location?_eq_some_iff.1 hp, hopened,
        exists_override_eq_iff.1 ⟨c', hdata, rfl⟩⟩
  · rintro ⟨p, sections, hlocated, hopened, htakes⟩
    obtain ⟨c', hdata, rfl⟩ := exists_override_eq_iff.2 htakes
    rw [location?_eq_some_iff.2 hlocated]
    exact hmap.2 ⟨c', ofFile_eq_ok_iff.2 ⟨sections, hopened, hdata⟩, rfl⟩

theorem exists_load_iff : (∃ c, load files st explicit env home = .ok c) ↔
    ∃ p sections, Located explicit env home p ∧ Opened files st p sections ∧
      Admitted sections := by
  constructor
  · rintro ⟨c, h⟩
    obtain ⟨p, sections, hlocated, hopened, hadmitted, -⟩ := load_eq_ok_iff.1 h
    exact ⟨p, sections, hlocated, hopened, hadmitted⟩
  · rintro ⟨p, sections, hlocated, hopened, hadmitted⟩
    obtain ⟨c', hdata⟩ := exists_ofData_iff.2 hadmitted
    exact ⟨_, load_eq_ok_iff.2 ⟨p, sections, hlocated, hopened,
      exists_override_eq_iff.1 ⟨c', hdata, rfl⟩⟩⟩

theorem Located.unique {p' : Path} (h : Located explicit env home p)
    (h' : Located explicit env home p') : p' = p :=
  Option.some.inj ((location?_eq_some_iff.2 h').symm.trans (location?_eq_some_iff.2 h))

variable (files st explicit env home) in
/-- The configuration of a client is made of the document that it was started with, else of the one
that a variable names, else of the one in the home directory, where a file that is not found counts
as an empty document. Each setting takes the value of its own variable if that is set and valid,
else the one that the document tells, else its default. A file that is there and cannot be read, or
whose document is not admitted, is an error; in all other cases there is a configuration. The
declared strategies, the mount table and the filter of the log do not depend on the environment,
once the document is chosen. -/
theorem load_precedence :
    (∀ c, load files st explicit env home = .ok c ↔
      ∃ p sections, Located explicit env home p ∧ Opened files st p sections ∧ Admitted sections ∧
        ∀ s : Setting, s.Takes env sections (s.get c)) ∧
    (∀ p sections, Located explicit env home p → Opened files st p sections →
      Admitted sections → ∃ c, load files st explicit env home = .ok c) ∧
    (∀ p, Located explicit env home p →
      ((∃ fault, files.readText p st = .error fault ∧ fault ≠ .notFound) ∨
        ∃ text, files.readText p st = .ok text ∧
          ∀ sections, Toml.read text = some (.table sections) → ¬Admitted sections) →
      ∃ fault, load files st explicit env home = .error fault) ∧
    ∀ env' p c, Located explicit env home p → Located explicit env' home p →
      load files st explicit env home = .ok c →
      ∃ c', load files st explicit env' home = .ok c' ∧
        c'.paths.moduleModes = c.paths.moduleModes ∧ c'.paths.mountinfo = c.paths.mountinfo ∧
        c'.logLevel = c.logLevel := by
  refine ⟨fun c => load_eq_ok_iff, fun p sections hlocated hopened hadmitted => ?_,
    fun p hlocated hbroken => ?_, fun env' p c hlocated hlocated' h => ?_⟩
  · exact exists_load_iff.2 ⟨p, sections, hlocated, hopened, hadmitted⟩
  · cases hload : load files st explicit env home with
    | error fault => exact ⟨fault, rfl⟩
    | ok c =>
      -- The document would have been read and admitted.
      obtain ⟨p', sections, hlocated', hopened, hadmitted⟩ := exists_load_iff.1 ⟨c, hload⟩
      obtain rfl := hlocated.unique hlocated'
      rcases hbroken with ⟨fault, hfault, hne⟩ | ⟨text, htext, hrefused⟩
      · rcases hopened with hmissing | ⟨hthere, -⟩
        · cases hfault.symm.trans hmissing
          exact absurd rfl hne
        · cases hfault.symm.trans hthere
      · rcases hopened with hmissing | ⟨hthere, hdocument⟩
        · cases htext.symm.trans hmissing
        · cases htext.symm.trans hthere
          exact absurd hadmitted (hrefused sections hdocument)
  · obtain ⟨p', sections, hfirst, hopened, htakes⟩ := load_eq_ok_iff.1 h
    obtain rfl := hlocated.unique hfirst
    obtain ⟨c', hdata, rfl⟩ := exists_override_eq_iff.2 htakes
    exact ⟨override env' c', load_eq_ok_iff.2 ⟨p', sections, hlocated', hopened,
      exists_override_eq_iff.1 ⟨c', hdata, rfl⟩⟩, rfl, rfl, rfl⟩

end Files

/-- A variable names the document, one is valid and one is not. The valid one decides, the invalid
one leaves the value of the document, and without both of them what has no variable is the same. A
directory in place of the document is an error. -/
theorem load_precedence_of_invalid_timeout :
    let text := "[service]\ntimeout_secs = 3\n[paths]\nmountinfo = \"/m\"\n"
    let files : FileTree := ⟨[(["c.toml".toUTF8.toList], .file text.toUTF8.toList 0o600)]⟩
    let quiet : Environment := fun name => [("HYMOCTL_CONFIG", "/c.toml")].lookup name
    let env : Environment := fun name => [("HYMOCTL_CONFIG", "/c.toml"),
      ("HYMOCTL_TRANSPORT", "shell"), ("HYMOCTL_TIMEOUT_SECS", "soon")].lookup name
    (∃ c, load FileTree.storage files none env none = .ok c ∧
      c.service.transport = .shell ∧ c.service.timeoutSecs = 3 ∧
      ∃ c', load FileTree.storage files none quiet none = .ok c' ∧
        c'.paths.mountinfo = c.paths.mountinfo) ∧
    ∃ fault, load FileTree.storage files (some (.ofString "/")) env none = .error fault := by
  intro text files quiet env
  let sections : List (String × Data) :=
    [("service", .table [("timeout_secs", .int 3)]), ("paths", .table [("mountinfo", .text "/m")])]
  have hlocated : Located none env none (.ofString "/c.toml") := .named rfl (by decide)
  have hlocated' : Located none quiet none (.ofString "/c.toml") := .named rfl (by decide)
  have hthere : FileTree.storage.readText (.ofString "/c.toml") files = .ok text := by
    simp only [files, text]
    decide +kernel
  have hdocument : Toml.read text = some (.table sections) := by
    simp only [Toml.read, text, String.reduceToList]
    rfl
  have hopened : Opened FileTree.storage files (.ofString "/c.toml") sections :=
    .present hthere hdocument
  have hadmitted : Admitted sections := exists_ofData_iff.1 ⟨_, by rfl⟩
  have hdirectory : FileTree.storage.readText (.ofString "/") files = .error (.system 21) := by
    simp only [files, text]
    decide +kernel
  obtain ⟨-, htotal, -, hindependent⟩ := load_precedence FileTree.storage files none env none
  obtain ⟨c, hc⟩ := htotal _ sections hlocated hopened hadmitted
  obtain ⟨c', hc', -, hmountinfo, -⟩ := hindependent quiet _ c hlocated hlocated' hc
  obtain ⟨-, -, hbroken, -⟩ :=
    load_precedence FileTree.storage files (some (.ofString "/")) env none
  have hvalues : ((load FileTree.storage files none env none).toOption.map ClientConfig.service) =
      some { transport := .shell, timeoutSecs := 3 } := by
    simp only [files, text, env]
    decide +kernel
  rw [hc] at hvalues
  have hservice : c.service = { transport := .shell, timeoutSecs := 3 } := Option.some.inj hvalues
  exact ⟨⟨c, hc, congrArg _ hservice, congrArg _ hservice, c', hc', hmountinfo⟩,
    hbroken _ (.explicit rfl) (.inl ⟨_, hdirectory, by decide⟩)⟩

/-- A section that is written as a list tells its values by their places, though none of its keys is
there. -/
theorem load_of_listed_section :
    let text := "service = [\"shell\"]\n"
    let files : FileTree := ⟨[(["c.toml".toUTF8.toList], .file text.toUTF8.toList 0o600)]⟩
    let sections := [("service", Data.list [.text "shell"])]
    Toml.read text = some (.table sections) ∧
      (¬∃ entries x, ("service", .table entries) ∈ sections ∧ ("transport", x) ∈ entries) ∧
      (∃ c, load FileTree.storage files (some (.ofString "/c.toml")) (fun _ => none) none = .ok c ∧
        c.service.transport = .shell) ∧
      ({} : ClientConfig).service.transport = .socket := by
  intro text files sections
  refine ⟨?_, by simp [sections], ⟨{ service := { transport := .shell } }, ?_, rfl⟩, rfl⟩
  · simp only [Toml.read, text, String.reduceToList]
    rfl
  · simp only [files, text]
    decide +kernel

end OverlayControl.ClientConfig
