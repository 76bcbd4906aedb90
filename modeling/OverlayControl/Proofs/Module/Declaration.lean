import OverlayControl.Module.Bindings
import OverlayControl.Proofs.FileTree.Growth
import OverlayControl.Proofs.Module.Strategies
import OverlayControl.Proofs.Privilege
import OverlayControl.Proofs.Utf8

/-!
# Declared strategies are never lost

Strategies are declared one after the other, offline or over connections of any tier, with files in
a tree whose system may refuse anything and a service that may answer anything.

* `Storage.strategies` — the strategies that a document declares;
* `Declaration`, `Declaration.Step` — one declaration, and what it may do;
* `Declaration.Run` — declarations one after the other;
* `Declaration.run_mapM_perform` — every row of declarations is a run;
* `Declaration.strategies_of_run` — what is declared after a run.
-/

namespace OverlayControl

namespace Storage

variable {φ : Type}

/-- The strategies that a document declares; none when it is absent or malformed. -/
def strategies (files : Storage φ) (p : Path) (s : φ) : Strategies :=
  (((files.contents p s).bind Utf8.decode?).bind Strategies.ofToml).getD {}

theorem ordered_strategies (files : Storage φ) (p : Path) (s : φ) :
    (files.strategies p s).Ordered := by
  unfold strategies
  cases hread : ((files.contents p s).bind Utf8.decode?).bind Strategies.ofToml with
  | none => exact Strategies.ordered_empty
  | some m =>
    obtain ⟨_, _, htext⟩ := Option.bind_eq_some_iff.1 hread
    exact Strategies.ordered_of_ofToml htext

/-- A document that holds what was written for strategies declares them. -/
theorem strategies_of_contents {files : Storage φ} {p : Path} {s : φ} {m : Strategies}
    (hm : m.Ordered) (h : files.contents p s = some (Utf8.encode m.toToml)) :
    files.strategies p s = m := by
  rw [strategies, h, Option.bind_some, Utf8.decode?_encode, Option.bind_some,
    Strategies.ofToml_toToml hm, Option.getD_some]

end Storage

theorem Device.strategies_ofParts {σ φ : Type} (service : Service σ) (files : Storage φ) (p : Path)
    (s : σ × φ) :
    (Device.ofParts service files).toStorage.strategies p s = files.strategies p s.2 := rfl

theorem isModuleId_eq_true_iff {id : String} :
    isModuleId id = true ↔
      id ≠ "" ∧ ∀ c ∈ id.toList, c.isAlphanum = true ∨ c = '_' ∨ c = '-' ∨ c = '.' := by
  simp [isModuleId, or_assoc]

/-- Rules of the overlay engine may be declared over a connection of the kernel tier only, anything
else always. -/
theorem Strategy.mem_allowed_iff {connection : Option Connection} {s : Strategy} :
    s ∈ allowed connection ↔ (s = .hymofs → ∃ c, connection = some c ∧ c.tier = .kernel) := by
  have hkernel (c : Connection) : c.allows .overlayEngine = true ↔ c.tier = .kernel :=
    Connection.allows_iff_kernel (by decide) c
  have hall (s : Strategy) : s ∈ all := by cases s <;> decide
  by_cases hs : s = .hymofs <;> simp [allowed, hall, hs, hkernel, Option.any_eq_true]

namespace BindingStore

variable {δ : Type} (d : Device δ) (b : BindingStore) {id : String} {s : Strategy} {w : World δ}

/-- What is pending is what the document declares, whoever asks. -/
theorem run_pending (w : World δ) :
    (pending d b).run w = (d.toStorage.strategies b.path w.device, w) := by
  have htext := Storage.readText_toOption d.toStorage b.path w.device
  unfold Storage.strategies
  rw [← htext]
  rw [pending, StateT.run_bind, run_readText]
  cases d.toStorage.readText b.path w.device <;> rfl

theorem run_write (m : Strategies) (w : World δ) :
    (write d b m).run w =
      ((d.replaceFile b.path (Utf8.encode m.toToml) w.device).1.mapError fun e =>
          .persistFailed s!"{b.path.display}: {e.message}",
        { w with device := (d.replaceFile b.path (Utf8.encode m.toToml) w.device).2 }) := by
  rw [write, StateT.run_bind, run_replaceFile]
  cases (d.replaceFile b.path (Utf8.encode m.toToml) w.device).1 <;> rfl

variable {d b}

/-- A name that no module can have is refused. -/
theorem run_set_of_invalid (hid : isModuleId id = false) (w : World δ) :
    (set d b id s).run w = (.error (.invalidValue s!"module id '{id}' is not valid"), w) := by
  rw [set, hid]
  rfl

/-- A strategy that the connection does not allow is refused. -/
theorem run_set_of_forbidden (hid : isModuleId id = true) (hs : s ∉ b.allowed) (w : World δ) :
    (set d b id s).run w =
      (.error (.gated [s!"{id}={s.name}"] Capability.overlayEngine.minTier), w) := by
  rw [set, hid, Bool.eq_false_iff.2 fun h => hs (List.contains_iff_mem.1 h)]
  rfl

/-- A declaration that is fit to be made puts the strategy next to those that are declared. -/
theorem run_set (hid : isModuleId id = true) (hs : s ∈ b.allowed) (w : World δ) :
    (set d b id s).run w =
      ((write d b ((d.toStorage.strategies b.path w.device).insert id s) >>= fun
        | .error e => pure (.error e)
        | .ok () => do
          let inForce ← active d b
          pure (.ok ⟨id, some s, inForce.bind fun m => m.get? id⟩) : Action δ _).run w) := by
  rw [set, hid, List.contains_iff_mem.2 hs]
  show (pending d b >>= _ : Action δ _).run w = _
  rw [StateT.run_bind, run_pending]
  rfl

section Parts

variable {σ φ : Type} {service : Service σ} {files : Storage φ} {w : World (σ × φ)}

variable (service files b w) in
/-- Asking for the strategies in force is one command at most, and touches no file. -/
theorem run_active :
    ∃ inner sent, (sent = [] ∨ sent = [.issued .listModules w.connection]) ∧
      ((active (Device.ofParts service files) b).run w).2 =
        { w with device := (inner, w.device.2), log := w.log ++ sent } := by
  obtain ⟨path, engine⟩ := b
  obtain ⟨device, connection, log⟩ := w
  cases engine with
  | none => exact ⟨device.1, [], .inl rfl, by rw [List.append_nil]; rfl⟩
  | some c =>
    cases connection with
    | none => exact ⟨device.1, [], .inl rfl, by rw [List.append_nil]; rfl⟩
    | some k => exact ⟨_, _, .inr rfl, rfl⟩

/-- When the document cannot be put in place nothing else is done. -/
theorem run_set_of_fault (hid : isModuleId id = true) (hs : s ∈ b.allowed) {e : FileFault} {t : φ}
    (hwrite : files.replaceFile b.path
      (Utf8.encode ((files.strategies b.path w.device.2).insert id s).toToml) w.device.2 =
        (.error e, t)) :
    (set (Device.ofParts service files) b id s).run w =
      (.error (.persistFailed s!"{b.path.display}: {e.message}"),
        { w with device := (w.device.1, t) }) := by
  rw [run_set hid hs, StateT.run_bind, run_write, Device.replaceFile_ofParts,
    Device.strategies_ofParts, hwrite]
  rfl

variable (service) in
/-- When it is put in place the strategies in force are asked for, to show the one of the module. -/
theorem exists_run_set_of_stored (hid : isModuleId id = true) (hs : s ∈ b.allowed) {t : φ}
    (hwrite : files.replaceFile b.path
      (Utf8.encode ((files.strategies b.path w.device.2).insert id s).toToml) w.device.2 =
        (.ok (), t)) :
    ∃ inner sent shown, (sent = [] ∨ sent = [.issued .listModules w.connection]) ∧
      (set (Device.ofParts service files) b id s).run w =
        (.ok ⟨id, some s, shown⟩, { w with device := (inner, t), log := w.log ++ sent }) := by
  obtain ⟨inner, sent, hsent, hactive⟩ :=
    run_active b service files { w with device := (w.device.1, t) }
  refine ⟨inner, sent, (((active (Device.ofParts service files) b).run
    { w with device := (w.device.1, t) }).1.bind fun m => m.get? id), hsent, ?_⟩
  rw [run_set hid hs, StateT.run_bind, run_write, Device.replaceFile_ofParts,
    Device.strategies_ofParts, hwrite]
  exact congrArg (Prod.mk _) hactive

end Parts

end BindingStore

/-- One declaration: the module and its strategy, the connection of the store, and the live one. -/
structure Declaration where
  /-- The module. -/
  id : String
  /-- The strategy. -/
  strategy : Strategy
  /-- The connection of the store; none when the declaration is made offline. -/
  engine : Option Connection
  /-- The connection that is live during the declaration. -/
  live : Option Connection

namespace Declaration

/-- Declares, and tells what was sent. -/
def perform {δ : Type} (d : Device δ) (path : Path) (t : Declaration) :
    StateM δ (Except KeepError BindingView × List Event) := fun s =>
  let r := (BindingStore.set d ⟨path, t.engine⟩ t.id t.strategy).run
    { device := s, connection := t.live }
  ((r.1, r.2.log), r.2.device)

/-- The module has a proper name: letters, digits, underscores, dashes and dots, and not none. -/
def Named (t : Declaration) : Prop :=
  t.id ≠ "" ∧ ∀ c ∈ t.id.toList, c.isAlphanum = true ∨ c = '_' ∨ c = '-' ∨ c = '.'

/-- The strategy needs no rules of the engine, or the store has a connection of the kernel tier. -/
def Permitted (t : Declaration) : Prop :=
  t.strategy = .hymofs → ∃ c, t.engine = some c ∧ c.tier = .kernel

/-- What one declaration may do: its result, what is sent, and what becomes of the service and the
files. -/
inductive Step {σ : Type} (path : Path) (s : σ × FileTree) (t : Declaration) :
    Except KeepError BindingView × List Event → σ × FileTree → Prop
  /-- The name is refused, and nothing is done. -/
  | invalid (named : ¬t.Named) (what : String) : Step path s t (.error (.invalidValue what), []) s
  /-- The strategy is refused, and nothing is done. -/
  | gated (named : t.Named) (permitted : ¬t.Permitted) (settings : List String) (needed : Tier) :
      Step path s t (.error (.gated settings needed), []) s
  /-- The document cannot be put in place: no file changes, and nothing is sent. -/
  | failed {files : FileTree} (named : t.Named) (permitted : t.Permitted)
      (same : s.2.SameFiles files) (why : String) :
      Step path s t (.error (.persistFailed why), []) (s.1, files)
  /-- The module has the strategy, and every other one has what it had. -/
  | declared {s' : σ × FileTree} {sent : List Event} (named : t.Named) (permitted : t.Permitted)
      (document : FileTree.storage.contents path s'.2 =
        some (Utf8.encode ((FileTree.storage.strategies path s.2).insert t.id t.strategy).toToml))
      (strategies : FileTree.storage.strategies path s'.2 =
        (FileTree.storage.strategies path s.2).insert t.id t.strategy)
      (entries : ∀ other, (FileTree.storage.strategies path s'.2).get? other =
        if other = t.id then some t.strategy else (FileTree.storage.strategies path s.2).get? other)
      (asked : sent = [] ∨ sent = [.issued .listModules t.live]) (active : Option Strategy) :
      Step path s t (.ok ⟨t.id, some t.strategy, active⟩, sent) s'

/-- Declarations one after the other. -/
inductive Run {σ : Type} (path : Path) : σ × FileTree → List Declaration →
    List (Except KeepError BindingView × List Event) → σ × FileTree → Prop
  /-- Nothing is declared. -/
  | nil (s : σ × FileTree) : Run path s [] [] s
  /-- One declaration, and those after it. -/
  | cons {s s' s'' : σ × FileTree} {t : Declaration} {ts : List Declaration}
      {outcome : Except KeepError BindingView × List Event}
      {outcomes : List (Except KeepError BindingView × List Event)}
      (step : Step path s t outcome s') (run : Run path s' ts outcomes s'') :
      Run path s (t :: ts) (outcome :: outcomes) s''

section

variable {σ : Type} (service : Service σ)
  (refuse : Path → List UInt8 → FileTree → Option (Nat × FileFault)) (path : Path)

/-- A declaration that is fit to be made is a step, whether its document is put in place or not. -/
theorem step_perform_of_fit {t : Declaration} (hid : isModuleId t.id = true)
    (hs : t.strategy ∈ Strategy.allowed t.engine) (s : σ × FileTree) :
    let r := (perform (Device.ofParts service (FileTree.refusing refuse)) path t).run s
    Step path s t r.1 r.2 := by
  intro r
  have hnamed : t.Named := isModuleId_eq_true_iff.1 hid
  have hpermitted : t.Permitted := Strategy.mem_allowed_iff.1 hs
  let d := Device.ofParts service (FileTree.refusing refuse)
  let b : BindingStore := ⟨path, t.engine⟩
  let w : World (σ × FileTree) := { device := s, connection := t.live }
  have hr : r = ((((BindingStore.set d b t.id t.strategy).run w).1,
      ((BindingStore.set d b t.id t.strategy).run w).2.log),
        ((BindingStore.set d b t.id t.strategy).run w).2.device) := rfl
  rcases FileTree.replaceFile_cases refuse path (Utf8.encode
      ((FileTree.storage.strategies path s.2).insert t.id t.strategy).toToml) s.2 with
    ⟨e, tree, hfault, hgrown⟩ | ⟨tree, hput, hholds⟩
  · rw [hr, BindingStore.run_set_of_fault (b := b) (w := w) hid hs hfault]
    exact .failed hnamed hpermitted hgrown.sameFiles _
  · obtain ⟨inner, sent, shown, hsent, hset⟩ :=
      BindingStore.exists_run_set_of_stored service (b := b) (w := w) hid hs hput
    have hordered := (FileTree.storage.ordered_strategies path s.2).insert t.id t.strategy
    have hstrategies := Storage.strategies_of_contents hordered hholds.contents
    rw [hr, hset]
    refine .declared hnamed hpermitted ?document ?strategies ?entries hsent shown
    case document => exact hholds.contents
    case strategies => exact hstrategies
    case entries =>
      intro other
      show (FileTree.storage.strategies path tree).get? other = _
      rw [hstrategies, Strategies.get?_insert]

/-- Every declaration is a step. -/
theorem step_perform (t : Declaration) (s : σ × FileTree) :
    let r := (perform (Device.ofParts service (FileTree.refusing refuse)) path t).run s
    Step path s t r.1 r.2 := by
  intro r
  let d := Device.ofParts service (FileTree.refusing refuse)
  let b : BindingStore := ⟨path, t.engine⟩
  let w : World (σ × FileTree) := { device := s, connection := t.live }
  have hr : r = ((((BindingStore.set d b t.id t.strategy).run w).1,
      ((BindingStore.set d b t.id t.strategy).run w).2.log),
        ((BindingStore.set d b t.id t.strategy).run w).2.device) := rfl
  cases hid : isModuleId t.id with
  | false =>
    rw [hr, BindingStore.run_set_of_invalid hid]
    refine .invalid (fun hnamed => ?_) _
    rw [isModuleId_eq_true_iff.2 hnamed] at hid
    cases hid
  | true =>
    by_cases hs : t.strategy ∈ b.allowed
    · exact step_perform_of_fit service refuse path hid hs s
    · rw [hr, BindingStore.run_set_of_forbidden hid hs]
      exact .gated (isModuleId_eq_true_iff.1 hid) (fun h => hs (Strategy.mem_allowed_iff.2 h)) _ _

/-- Every row of declarations is a run. -/
theorem run_of_mapM_perform (ts : List Declaration) (s : σ × FileTree) :
    let r := (ts.mapM (perform (Device.ofParts service (FileTree.refusing refuse)) path)).run s
    Run path s ts r.1 r.2 := by
  induction ts generalizing s with
  | nil => exact .nil s
  | cons t ts ih =>
    rw [List.mapM_cons]
    exact .cons (step_perform service refuse path t s) (ih _)

/-- Whoever asks, what is pending is what the document declares. And every row of declarations,
offline or over connections of any tier, with files whose system may refuse anything and a service
that may answer anything, is a run: a declaration that succeeds gives its module the strategy and
leaves every other one as it is, and one that fails changes no file and sends nothing. -/
theorem pending_mapM_perform :
    (∀ (engine : Option Connection) (w : World (σ × FileTree)),
      (BindingStore.pending (Device.ofParts service (FileTree.refusing refuse))
          ⟨path, engine⟩).run w =
        (FileTree.storage.strategies path w.device.2, w)) ∧
    ∀ (ts : List Declaration) (s : σ × FileTree),
      let r := (ts.mapM (perform (Device.ofParts service (FileTree.refusing refuse)) path)).run s
      Run path s ts r.1 r.2 :=
  ⟨fun engine => BindingStore.run_pending _ ⟨path, engine⟩, run_of_mapM_perform service refuse path⟩

end

/-- The strategies after declarations with the given outcomes: those that succeeded count, one over
the other. -/
def replay (m : Strategies)
    (turns : List (Declaration × (Except KeepError BindingView × List Event))) : Strategies :=
  turns.foldl (fun m (t, outcome) => if outcome.1.isOk then m.insert t.id t.strategy else m) m

/-- One declaration leaves a document that is there in its place, with the strategy added if it
succeeds. -/
theorem Step.replay {σ : Type} {path : Path} {s s' : σ × FileTree} {t : Declaration}
    {outcome : Except KeepError BindingView × List Event} (h : Step path s t outcome s')
    (hpresent : (FileTree.storage.contents path s.2).isSome = true) :
    (FileTree.storage.contents path s'.2).isSome = true ∧
      FileTree.storage.strategies path s'.2 =
        Declaration.replay (FileTree.storage.strategies path s.2) [(t, outcome)] := by
  cases h with
  | invalid => exact ⟨hpresent, rfl⟩
  | gated => exact ⟨hpresent, rfl⟩
  | failed _ _ same =>
    -- What was read under the path still is.
    obtain ⟨bytes, hbytes⟩ := Option.isSome_iff_exists.1 hpresent
    have hbytes' := same.kept path bytes hbytes
    refine ⟨Option.isSome_of_eq_some hbytes', ?_⟩
    show FileTree.storage.strategies path _ = FileTree.storage.strategies path _
    rw [Storage.strategies, hbytes', Storage.strategies, hbytes]
  | declared _ _ document strategies => exact ⟨Option.isSome_of_eq_some document, strategies⟩

/-- Nothing that was declared is lost: after any run over a document that was there, it declares
what it declared at first, with the strategies of all declarations that succeeded since. -/
theorem strategies_of_run {σ : Type} {path : Path} {s s' : σ × FileTree} {ts : List Declaration}
    {outcomes : List (Except KeepError BindingView × List Event)}
    (hrun : Run path s ts outcomes s')
    (hpresent : (FileTree.storage.contents path s.2).isSome = true) :
    FileTree.storage.strategies path s'.2 =
      replay (FileTree.storage.strategies path s.2) (ts.zip outcomes) := by
  induction hrun with
  | nil s => rfl
  | cons hstep _ ih =>
    obtain ⟨hpresent', hstrategies⟩ := hstep.replay hpresent
    rw [ih hpresent', hstrategies]
    rfl

end Declaration

end OverlayControl
