import OverlayControl.CommandLine.Run
import OverlayControl.Proofs.FileTree.Append
import OverlayControl.Proofs.Session.Operation
import OverlayControl.Proofs.Session.Preserves
import OverlayControl.Simulation.Engine
import OverlayControl.Simulation.Peer

/-!
# Looking changes nothing

Opening a session, the status, the listings and the readings of documents only look: they send the
service questions, and replace no file, whatever the service answers and whatever the documents
hold.

* `Command.asks`, `Event.asks` — the questions among the commands;
* `Look`, `Look.run` — the ways of looking;
* `Look.sends`, `Look.preserves` — one look only asks, and leaves alone what the service does not
  reach;
* `Look.onlyAsks_runAll` — so do looks one after the other;
* `CommandLine.onlyAsks_inSession` — and a whole session on the command line, up to its end;
* `CommandLine.files_run` — a run of the command line changes files only in preparing its log;
* `CommandLine.sameFilesBut_prepareLog` — that makes directories, and adds to the end of the log;
* `looking_changes_nothing` — all of this together.
-/

namespace OverlayControl

/-- Whether a command only asks the service something. -/
def Command.asks : Command → Bool
  | .probeTier _ | .serviceVersion | .engineVersion | .selinuxContext _ | .listRules
  | .listModules => true
  | _ => false

/-- Whether an event is a question to the service. -/
def Event.asks : Event → Prop
  | .issued c _ => c.asks = true
  | .hungUp => False

theorem Event.asks_of_handshake {c : Command} {l : Option Connection} (h : handshake c = true) :
    (Event.issued c l).asks := by
  cases c <;> first | rfl | cases h

namespace CommandLine

/-- Whether an intent only looks. -/
def Intent.looks : Intent → Bool
  | .status | .listRules | .showConfig | .listModules | .checkMounts => true
  | _ => false

/-- Whether arguments ask for nothing but looking, if they ask for anything. -/
def askToLook (args : List String) : Bool :=
  match read args with
  | some (.run _ intent) => intent.looks
  | _ => true

/-- The directory of the log that arguments ask for. -/
def logDir? (args : List String) : Option Path :=
  match read args with
  | some (.run o _) => o.logDir
  | _ => none

end CommandLine

/-- The ways of looking at a device. The stores are any stores, and need not have been made for the
connection that is live. -/
inductive Look
  /-- Opens a session. -/
  | opening (paths : PathsConfig)
  /-- Connects if there is no live connection, as for making a store. -/
  | connect (tolerant : Bool)
  /-- Gathers what a status screen shows. -/
  | status (paths : PathsConfig) (tolerant : Bool)
  /-- Lists the rules. -/
  | rules (store : RuleStore)
  /-- Reads the declared settings. -/
  | declaredSettings (k : Keeper)
  /-- Reads the acknowledged settings. -/
  | acknowledgedSettings (k : Keeper)
  /-- Reads the declared strategies. -/
  | declaredStrategies (b : BindingStore)
  /-- Lists the strategies in force. -/
  | activeStrategies (b : BindingStore)
  /-- Views the strategies of all modules. -/
  | viewStrategies (b : BindingStore)
  /-- Looks at the mount table. -/
  | mounts (m : MountReconciler)
  /-- Does on the command line what only looks. -/
  | perform (paths : PathsConfig) (tolerant : Bool) (now : String) (intent : CommandLine.Intent)
    (looks : intent.looks = true)

variable {δ η ν σ φ : Type}

namespace Look

/-- Looks at a device; what is seen is left out. -/
def run (d : Device δ) : Look → Action δ Unit
  | .opening paths => discard (Session.opening d paths)
  | .connect tolerant => discard (OverlayControl.connect d tolerant)
  | .status paths tolerant => discard (Session.status ⟨d, paths, tolerant⟩)
  | .rules store => discard (store.list d)
  | .declaredSettings k => discard (k.load d)
  | .acknowledgedSettings k => discard (k.applied d)
  | .declaredStrategies b => discard (b.pending d)
  | .activeStrategies b => discard (b.active d)
  | .viewStrategies b => discard (b.views d)
  | .mounts m => discard (m.check d)
  | .perform paths tolerant now intent _ =>
    discard (CommandLine.perform ⟨d, paths, tolerant⟩ now intent)

/-- Looks at a device any number of times. -/
def runAll (d : Device δ) : List Look → Action δ Unit
  | [] => pure ()
  | look :: looks => do
    look.run d
    runAll d looks

end Look

/-! ## What looking sends -/

section Sending

variable {l : Option Connection}

namespace CommandLine

theorem sends_withRules {ok : Event → Prop} (s : Session δ)
    (h : ∀ c, handshake c = true → ok (.issued c none))
    {f : RuleStore → Action δ (Except RuleError Result)}
    (hf : ∀ store k, Sends ok k (f store) (Stays k)) :
    Sends ok l (withRules s f) (fun _ _ => True) := by
  refine (s.sends_rules fun _ => h).bind fun r k _ => ?_
  cases r with
  | error e => exact .pure trivial
  | ok store =>
    refine (hf store k).andThen fun r => ?_
    cases r <;> exact .pure trivial

theorem sends_withMounts {ok : Event → Prop} (s : Session δ)
    (h : ∀ c, handshake c = true → ok (.issued c none))
    {f : MountReconciler → Action δ (Except Failure Result)}
    (hf : ∀ m k, Sends ok k (f m) (Stays k)) :
    Sends ok l (withMounts s f) (fun _ _ => True) := by
  refine (s.sends_mounts fun _ => h).bind fun r k _ => ?_
  cases r with
  | error e => exact .pure trivial
  | ok m => exact (hf m k).weaken fun _ _ _ => trivial

/-- An intent that only looks sends questions. -/
theorem sends_perform (s : Session δ) (now : String) {intent : Intent}
    (hlooks : intent.looks = true) :
    Sends Event.asks l (perform s now intent) (fun _ _ => True) := by
  have hhandshake (c : Command) (h : handshake c = true) : (Event.issued c none).asks :=
    Event.asks_of_handshake h
  cases intent with
  | status =>
    refine (s.sends_status hhandshake (fun _ => rfl) fun _ _ => rfl).bind fun _ _ _ => ?_
    exact .pure trivial
  | listRules =>
    refine sends_withRules s hhandshake fun store k => ?_
    have hlist : Sends Event.asks k (store.list s.device) (Stays k) :=
      RuleStore.sends_list s.device fun _ _ => rfl
    exact hlist.andThen fun _ => .pure rfl
  | showConfig =>
    refine (s.sends_keeper fun _ => hhandshake).bind fun k _ _ => ?_
    refine (Keeper.sends_readDocument s.device _).andThen fun _ => ?_
    exact .pure trivial
  | listModules =>
    refine (s.sends_bindings fun _ => hhandshake).bind fun b k _ => ?_
    have hviews : Sends Event.asks k (b.views s.device) (Stays k) :=
      BindingStore.sends_views s.device fun _ _ => rfl
    exact hviews.andThen fun _ => .pure trivial
  | checkMounts =>
    refine sends_withMounts s hhandshake fun m k => ?_
    refine (MountReconciler.sends_check s.device).andThen fun r => ?_
    cases r <;> exact .pure rfl
  | addRule | deleteRule | clearRules | stealth | setConfig | setModule | fixMounts => cases hlooks

end CommandLine

/-- Opening a session reads one document and sends nothing; the session is one over the device. -/
theorem Session.sends_opening {ok : Event → Prop} (d : Device δ) (paths : PathsConfig) :
    Sends ok l (Session.opening d paths) (fun _ k => k = l) := by
  refine (Keeper.sends_readDocument d _).andThen fun _ => ?_
  exact .pure rfl

/-- One look sends questions. -/
theorem Look.sends (look : Look) (d : Device δ) :
    Sends Event.asks l (look.run d) (fun _ _ => True) := by
  cases look with
  | opening paths => exact Session.sends_discard (Session.sends_opening d paths)
  | connect tolerant =>
    exact Session.sends_discard (sends_connect d (fun _ _ => Event.asks_of_handshake) tolerant)
  | status paths tolerant =>
    exact Session.sends_discard
      (Session.sends_status _ (fun _ => Event.asks_of_handshake) (fun _ => rfl) fun _ _ => rfl)
  | rules store => exact Session.sends_discard (RuleStore.sends_list d fun _ _ => rfl)
  | declaredSettings k => exact Session.sends_discard (Keeper.sends_readDocument d _)
  | acknowledgedSettings k => exact Session.sends_discard (Keeper.sends_readDocument d _)
  | declaredStrategies b => exact Session.sends_discard (BindingStore.sends_pending d)
  | activeStrategies b => exact Session.sends_discard (BindingStore.sends_active d fun _ _ => rfl)
  | viewStrategies b => exact Session.sends_discard (BindingStore.sends_views d fun _ _ => rfl)
  | mounts m => exact Session.sends_discard (MountReconciler.sends_check d)
  | perform paths tolerant now intent looks =>
    exact Session.sends_discard (CommandLine.sends_perform _ now looks)

end Sending

/-- So do looks one after the other; a look may leave any connection to the next one. -/
theorem Look.sends_runAll (d : Device δ) (looks : List Look) (l : Option Connection) :
    Sends Event.asks l (runAll d looks) (fun _ _ => True) := by
  induction looks generalizing l with
  | nil => exact .pure trivial
  | cons look looks ih => exact (look.sends d).bind fun _ k _ => ih k

/-! ## What looking leaves alone -/

section Preserving

variable {seen : δ → φ}

/-- An intent that only looks leaves alone what the service does not reach. -/
theorem CommandLine.preserves_perform (s : Session δ) (now : String)
    (hapart : s.device.toService.Apart seen) {intent : Intent} (hlooks : intent.looks = true) :
    Preserves seen (perform s now intent) := by
  cases intent with
  | status => exact (s.preserves_status hapart).bind fun _ => .pure _
  | listRules =>
    refine (s.preserves_rules hapart).bind fun r => ?_
    cases r with
    | error e => exact .pure _
    | ok store =>
      have hlist : Preserves seen (do
          let t ← store.list s.device
          pure (.ok ⟨rulesText t, t.toData⟩) : Action δ (Except RuleError Result)) :=
        (RuleStore.preserves_list hapart store).bind fun _ => .pure _
      refine hlist.bind fun r => ?_
      cases r <;> exact .pure _
  | showConfig =>
    refine (s.preserves_keeper hapart).bind fun k => ?_
    exact (Keeper.preserves_readDocument _).bind fun _ => .pure _
  | listModules =>
    refine (s.preserves_bindings hapart).bind fun b => ?_
    exact (b.preserves_views hapart).bind fun _ => .pure _
  | checkMounts =>
    refine (s.preserves_mounts hapart).bind fun r => ?_
    cases r with
    | error e => exact .pure _
    | ok m =>
      refine m.preserves_check.bind fun r => ?_
      cases r <;> exact .pure _
  | addRule | deleteRule | clearRules | stealth | setConfig | setModule | fixMounts => cases hlooks

/-- One look leaves alone what the service does not reach. -/
theorem Look.preserves (look : Look) {d : Device δ} (hapart : d.toService.Apart seen) :
    Preserves seen (look.run d) := by
  cases look with
  | opening paths => exact (Session.preserves_opening paths).discard
  | connect tolerant => exact (preserves_connect hapart tolerant).discard
  | status paths tolerant => exact (Session.preserves_status _ hapart).discard
  | rules store => exact (store.preserves_list hapart).discard
  | declaredSettings k => exact (Keeper.preserves_readDocument _).discard
  | acknowledgedSettings k => exact (Keeper.preserves_readDocument _).discard
  | declaredStrategies b => exact b.preserves_pending.discard
  | activeStrategies b => exact (b.preserves_active hapart).discard
  | viewStrategies b => exact (b.preserves_views hapart).discard
  | mounts m => exact m.preserves_check.discard
  | perform paths tolerant now intent looks =>
    exact (CommandLine.preserves_perform _ now hapart looks).discard

theorem Look.preserves_runAll {d : Device δ} (hapart : d.toService.Apart seen)
    (looks : List Look) : Preserves seen (runAll d looks) := by
  induction looks with
  | nil => exact .pure ()
  | cons look looks ih => exact (look.preserves hapart).bind fun _ => ih

end Preserving

/-- From one world to another the service was asked questions, with `ending` after them, and what is
seen of the device is the same. -/
structure OnlyAsks (seen : δ → φ) (ending : List Event) (w w' : World δ) : Prop where
  /-- What is seen has not changed. -/
  kept : seen w'.device = seen w.device
  /-- What was sent. -/
  asked : ∃ sent, w'.log = w.log ++ (sent ++ ending) ∧ ∀ e ∈ sent, e.asks

section Runs

variable {seen : δ → φ} {d : Device δ}

theorem onlyAsks_of_sends {α : Type} {x : Action δ α} {w : World δ}
    {after : α → Option Connection → Prop} (hsends : Sends Event.asks w.connection x after)
    (hpreserves : Preserves seen x) : OnlyAsks seen [] w (x.run w).2 := by
  obtain ⟨sent, hlog, hsent⟩ := (hsends w rfl).1
  refine ⟨hpreserves w, sent, ?_, hsent⟩
  rw [List.append_nil]
  exact hlog

/-- Any number of looks, one after the other, only asks. -/
theorem Look.onlyAsks_runAll (hapart : d.toService.Apart seen) (looks : List Look) (w : World δ) :
    OnlyAsks seen [] w ((runAll d looks).run w).2 :=
  onlyAsks_of_sends (sends_runAll d looks w.connection) (preserves_runAll hapart looks)

namespace CommandLine

/-- All of a session on the command line but its end. -/
def beforeEnd (d : Device δ) (paths : PathsConfig) (now : String) (intent : Intent) :
    Action δ (Except Failure Result) := do
  let declared ← Keeper.load d ⟨paths.engineConfig, none⟩
  perform ⟨d, paths, declared.ignoreProtocolMismatch⟩ now intent

/-- A session on the command line ends by hanging up. -/
theorem run_inSession (d : Device δ) (paths : PathsConfig) (now : String) (intent : Intent)
    (w : World δ) :
    (inSession d paths now intent).run w =
      (((beforeEnd d paths now intent).run w).1,
        { device := (d.hangUp ((beforeEnd d paths now intent).run w).2.device).2
          connection := none
          log := ((beforeEnd d paths now intent).run w).2.log ++ [.hungUp] }) := by
  have hclosing (x : Action δ (Except Failure Result)) :
      ((do
        let result ← x
        disconnect d
        pure result : Action δ _).run w) =
      ((x.run w).1, ⟨(d.hangUp (x.run w).2.device).2, none, (x.run w).2.log ++ [.hungUp]⟩) := rfl
  rw [← hclosing]
  simp only [inSession, beforeEnd, Session.opening, Session.close, bind_assoc, pure_bind]

/-- A session on the command line that only looks asks questions, and hangs up in the end. -/
theorem onlyAsks_inSession (hapart : d.toService.Apart seen) (paths : PathsConfig) (now : String)
    {intent : Intent} (hlooks : intent.looks = true) (w : World δ) :
    OnlyAsks seen [.hungUp] w ((inSession d paths now intent).run w).2 := by
  have hsends : Sends Event.asks w.connection (beforeEnd d paths now intent) (fun _ _ => True) :=
    (Keeper.sends_readDocument d _).andThen fun _ => sends_perform _ now hlooks
  have hpreserves : Preserves seen (beforeEnd d paths now intent) :=
    (Keeper.preserves_readDocument _).bind fun _ => preserves_perform _ now hapart hlooks
  obtain ⟨hkept, sent, hlog, hsent⟩ := onlyAsks_of_sends hsends hpreserves
  rw [run_inSession, List.append_nil] at *
  refine ⟨(hapart.hangUp _).trans hkept, sent, ?_, hsent⟩
  rw [hlog, List.append_assoc]

/-- Of a host whose files its streams and programs do not reach, a run that only looks changes no
more than its log, if there is to be one. -/
theorem files_run {h : Host η} {files : η → φ} (hapart : h.Apart files) (around : Setting)
    {args : List String} (hlooks : askToLook args = true) (st : η) :
    files (run h around args st).2 = files st ∨
      files (run h around args st).2 = files (prepareLog h around.now (logDir? args) st).2 := by
  unfold askToLook at hlooks
  unfold run logDir?
  cases hread : read args with
  | none => exact .inl rfl
  | some request =>
    cases request with
    | help => exact .inl rfl
    | version => exact .inl rfl
    | run o intent =>
      rw [hread] at hlooks
      dsimp only
      unfold runIntent
      cases ClientConfig.load h.files st o.config around.env around.home with
      | error e => exact .inl rfl
      | ok config =>
        dsimp only
        generalize prepareLog h around.now o.logDir st = prepared
        obtain ⟨_ | _, st'⟩ := prepared
        · exact .inr rfl
        · exact .inr (onlyAsks_inSession (hapart.device config.service) config.paths around.now
            hlooks { device := ({}, st') }).kept

end CommandLine

end Runs

/-! ## Files beside everything else -/

/-- An operation on the first of two parts. -/
def onFirst {α : Type} (f : ν → α × ν) (s : ν × φ) : α × (ν × φ) :=
  ((f s.1).1, ((f s.1).2, s.2))

/-- A host with a file tree beside its streams and programs. The lines are what a run writes to its
log. -/
def Host.beside (network : Socket.Network ν) (programs : Shell.Programs ν) (lines : List UInt8) :
    Host (ν × FileTree) where
  files := {
    readFile := fun p s => s.2.read p
    replaceFile := fun p bytes s => ((s.2.replace p bytes).1, (s.1, (s.2.replace p bytes).2)) }
  network := {
    dial := fun address => onFirst (network.dial address)
    send := fun stream bytes => onFirst (network.send stream bytes)
    receive := fun stream n => onFirst (network.receive stream n)
    shut := fun stream => onFirst (network.shut stream) }
  programs := { run := fun program args => onFirst (programs.run program args) }
  makeDirectories := fun p s => ((s.2.makeDirectories p).1, (s.1, (s.2.makeDirectories p).2))
  openLog := fun p s => ((s.2.append p lines).1, (s.1, (s.2.append p lines).2))

theorem Host.apart_beside (network : Socket.Network ν) (programs : Shell.Programs ν)
    (lines : List UInt8) : (Host.beside network programs lines).Apart Prod.snd where
  dial _ _ := rfl
  send _ _ _ := rfl
  receive _ _ _ := rfl
  shut _ _ := rfl
  run _ _ _ := rfl

/-- Preparing the log makes directories, and adds to the end of the log of the day. -/
theorem CommandLine.sameFilesBut_prepareLog (network : Socket.Network ν)
    (programs : Shell.Programs ν) (lines : List UInt8) (now : String) (dir : Path)
    (st : ν × FileTree) :
    st.2.SameFilesBut (logPath dir now) lines
      (prepareLog (Host.beside network programs lines) now (some dir) st).2.2 := by
  have hgrown : FileTree.Grown st.2 (st.2.makeDirectories dir).2 := by
    unfold FileTree.makeDirectories
    split
    · exact .refl _
    · exact FileTree.grown_makeOutward ..
  simp only [prepareLog, Host.beside]
  cases hmake : st.2.makeDirectories dir with
  | mk made t =>
    rw [hmake] at hgrown
    cases made with
    | error e => exact hgrown.sameFiles.sameFilesBut ..
    | ok _ =>
      have happended := hgrown.sameFilesBut_append (logPath dir now) lines
      dsimp only at happended ⊢
      split <;> next hopened =>
        rw [Prod.ext_iff] at hopened
        rw [← hopened.2]
        exact happended

/-- Looking changes no file and sends nothing but questions. This is so for any row of looks at a
device whose service and files may be any whatsoever, for a session on the command line over such a
device, which also hangs up in the end, and for a run of the command line on a host with any streams
and programs. A run that is told to keep a log adds to the end of the log of the day, which it makes
if it is not there, and changes no other file. -/
theorem looking_changes_nothing (service : Service σ) (files : Storage φ)
    (network : Socket.Network ν) (programs : Shell.Programs ν) (lines : List UInt8) :
    (∀ looks w, OnlyAsks Prod.snd [] w ((Look.runAll (.ofParts service files) looks).run w).2) ∧
    (∀ paths now intent, CommandLine.Intent.looks intent = true → ∀ w,
      OnlyAsks Prod.snd [.hungUp] w
        ((CommandLine.inSession (.ofParts service files) paths now intent).run w).2) ∧
    (∀ around args, CommandLine.askToLook args = true → ∀ st : ν × FileTree,
      let after := (CommandLine.run (.beside network programs lines) around args st).2.2
      (CommandLine.logDir? args = none → after = st.2) ∧
        ∀ dir, CommandLine.logDir? args = some dir →
          st.2.SameFilesBut (CommandLine.logPath dir around.now) lines after) := by
  have hdevice := Device.apart_ofParts service files
  refine ⟨Look.onlyAsks_runAll hdevice, fun paths now intent hlooks w =>
    CommandLine.onlyAsks_inSession hdevice paths now hlooks w, fun around args hlooks st => ?_⟩
  rcases CommandLine.files_run (Host.apart_beside network programs lines) around hlooks st with
    hsame | hsame
  · simp only [hsame]
    exact ⟨fun _ => trivial, fun _ _ => (FileTree.Grown.refl _).sameFiles.sameFilesBut ..⟩
  · simp only [hsame]
    refine ⟨fun hnone => ?_, fun dir hdir => ?_⟩
    · rw [hnone]
      rfl
    · rw [hdir]
      exact CommandLine.sameFilesBut_prepareLog network programs lines around.now dir st

/-- Runs that list the rules, on a host whose socket nobody listens at: one without a log, and one
with a log. -/
theorem looking_changes_nothing_of_rules_list :
    let host := Host.beside Simulation.Peer.network ⟨fun _ _ s => (.timedOut, s)⟩ [0x7B, 0x7D, 0x0A]
    let around : CommandLine.Setting :=
      ⟨fun _ => none, some (.ofString "/home"), "2026-07-01T09:30:00Z"⟩
    let logged := ["--log-dir", "/logs", "rules", "list"]
    (CommandLine.askToLook ["rules", "list"] = true ∧
      (CommandLine.run host around ["rules", "list"] ({}, {})).2.2 = {}) ∧
    (CommandLine.askToLook logged = true ∧
      FileTree.SameFilesBut (.ofString "/logs/hymoctl.log.2026-07-01") [0x7B, 0x7D, 0x0A] {}
        (CommandLine.run host around logged ({}, {})).2.2) := by
  intro host around logged
  have hlooks : CommandLine.askToLook ["rules", "list"] = true := by decide +kernel
  have hlooks' : CommandLine.askToLook logged = true := by decide +kernel
  have hpath : CommandLine.logPath (.ofString "/logs") around.now =
      .ofString "/logs/hymoctl.log.2026-07-01" := by decide +kernel
  have hrun := (looking_changes_nothing (Simulation.Engine.service .socket) FileTree.storage
    Simulation.Peer.network ⟨fun _ _ s => (.timedOut, s)⟩ [0x7B, 0x7D, 0x0A]).2.2
  refine ⟨⟨hlooks, (hrun around _ hlooks _).1 (by decide +kernel)⟩, hlooks', ?_⟩
  rw [← hpath]
  exact (hrun around _ hlooks' ({}, {})).2 (.ofString "/logs") (by decide +kernel)

/-- The log is made, and holds what was written to it. -/
example :
    FileTree.storage.contents (.ofString "/logs/hymoctl.log.2026-07-01")
      (CommandLine.run (.beside Simulation.Peer.network ⟨fun _ _ s => (.timedOut, s)⟩ [0x7B, 0x7D])
        ⟨fun _ => none, some (.ofString "/home"), "2026-07-01T09:30:00Z"⟩
        ["--log-dir", "/logs", "rules", "list"] ({}, {})).2.2 = some [0x7B, 0x7D] := by
  decide +kernel

end OverlayControl
