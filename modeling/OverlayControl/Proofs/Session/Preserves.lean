import OverlayControl.Host
import OverlayControl.Session

/-!
# What operations leave alone

`Preserves seen x` says that the operation `x` leaves what is seen of the device as it is, whatever
the service answers. Where the service does not reach it, nothing but a replacement of a file can
change it, so that the operations below, which replace none, preserve it.

* `Service.Apart` — a service that does not reach what is seen of the device;
* `Device.apart_ofParts`, `Host.Apart.device` — devices with such services;
* `preserves_issue`, `preserves_connect` and their like — the single steps;
* `Session.preserves_status` and its like — the operations that only look.
-/

namespace OverlayControl

variable {δ η α β φ σ : Type}

/-- A service that does not reach what is seen of its state. -/
structure Service.Apart (service : Service δ) (seen : δ → φ) : Prop where
  /-- Answering a command leaves it as it is. -/
  call : ∀ c s, seen (service.call c s).2 = seen s
  /-- So does the end of a connection. -/
  hangUp : ∀ s, seen (service.hangUp s).2 = seen s

/-- The service of a device of two parts does not reach the files. -/
theorem Device.apart_ofParts (service : Service σ) (files : Storage φ) :
    (Device.ofParts service files).toService.Apart Prod.snd where
  call _ _ := rfl
  hangUp _ := rfl

/-! ## Hosts -/

/-- A host whose streams and programs do not reach what is seen of its state. -/
structure Host.Apart (h : Host η) (seen : η → φ) : Prop where
  /-- Opening a stream leaves it as it is. -/
  dial : ∀ address s, seen (h.network.dial address s).2 = seen s
  /-- So does writing to one. -/
  send : ∀ stream bytes s, seen (h.network.send stream bytes s).2 = seen s
  /-- So does reading from one. -/
  receive : ∀ stream n s, seen (h.network.receive stream n s).2 = seen s
  /-- So does its end. -/
  shut : ∀ stream s, seen (h.network.shut stream s).2 = seen s
  /-- So does running a program. -/
  run : ∀ program args s, seen (h.programs.run program args s).2 = seen s

namespace Host.Apart

variable {h : Host η} {seen : η → φ} (hapart : h.Apart seen)

include hapart

theorem takeStream (address : Socket.Address) (c : Socket.Client) (s : η) :
    seen (Socket.Client.takeStream h.network address c s).2 = seen s := by
  unfold Socket.Client.takeStream
  cases c.stream with
  | some stream => rfl
  | none =>
    unfold Socket.Client.dial
    cases address.resolved.fault? with
    | some why => rfl
    | none =>
      have hdial := hapart.dial address.resolved s
      generalize h.network.dial address.resolved s = dialed at hdial ⊢
      obtain ⟨_ | _, _⟩ := dialed <;> exact hdial

theorem receiveResponse (seconds stream : Nat) (seq : UInt32) (s : η) :
    seen (Socket.Client.receiveResponse h.network seconds stream seq s).2 = seen s := by
  unfold Socket.Client.receiveResponse
  have hhead := hapart.receive stream 16 s
  generalize h.network.receive stream 16 s = head at hhead ⊢
  obtain ⟨_ | raw, s'⟩ := head
  · exact hhead
  · dsimp only at hhead ⊢
    cases Socket.ResponseHeader.decode raw with
    | error e => exact hhead
    | ok header =>
      dsimp only
      split
      · exact hhead
      · -- The header is followed by the payload, which is read from the state that it left.
        have hbody := (hapart.receive stream header.size.toNat s').trans hhead
        generalize h.network.receive stream header.size.toNat s' = body at hbody ⊢
        obtain ⟨_ | _, _⟩ := body <;> exact hbody

theorem exchange (seconds stream : Nat) (seq : UInt32) (f : Socket.Frame) (s : η) :
    seen (Socket.Client.exchange h.network seconds stream seq f s).2 = seen s := by
  unfold Socket.Client.exchange
  dsimp only
  have hsend := hapart.send stream
    ((Socket.RequestHeader.mk f.opcode seq (UInt32.ofNat f.payload.length)).encode ++ f.payload) s
  generalize h.network.send stream _ s = sent at hsend ⊢
  obtain ⟨_ | _, s'⟩ := sent
  · exact hsend
  · exact (hapart.receiveResponse seconds stream seq s').trans hsend

/-- A call of the socket transport reaches no further than its streams. -/
theorem socketCall (address : Socket.Address) (seconds : Nat) (command : Command)
    (c : Socket.Client) (s : η) :
    seen (Socket.Client.call h.network address seconds command (c, s)).2.2 = seen s := by
  simp only [Socket.Client.call]
  cases Socket.Frame.ofCommand command with
  | error e => rfl
  | ok frame =>
    dsimp only
    have htake := hapart.takeStream address c s
    generalize Socket.Client.takeStream h.network address c s = taken at htake ⊢
    obtain ⟨_ | stream, s'⟩ := taken
    · exact htake
    · have hexchange := (hapart.exchange seconds stream (c.seq + 1) frame s').trans htake
      dsimp only
      generalize Socket.Client.exchange h.network seconds stream (c.seq + 1) frame s' = exchanged
        at hexchange ⊢
      obtain ⟨_ | _, _⟩ := exchanged <;> exact hexchange

theorem socketHangUp (seconds : Nat) (c : Socket.Client) (s : η) :
    seen (Socket.Client.hangUp h.network seconds (c, s)).2.2 = seen s := by
  simp only [Socket.Client.hangUp]
  cases c.stream with
  | none => rfl
  | some stream => exact hapart.shut stream s

theorem shellRun (c : Shell.Client) (program : Path) (args : List String) (s : η) :
    seen (c.run h.programs program args s).2 = seen s := by
  unfold Shell.Client.run
  split
  · rfl
  · exact hapart.run program args s

/-- A call of the shell transport reaches no further than its programs. -/
theorem shellCall (c : Shell.Client) (command : Command) (s : η) :
    seen (c.call h.programs command s).2 = seen s := by
  have hline (line : String) : seen (c.runElevated h.programs line s).2 = seen s :=
    hapart.shellRun c ..
  unfold Shell.Client.call
  split
  · -- A probe is one run, whichever tier it asks for.
    next tier =>
    cases tier with
    | shell => exact hapart.shellRun c (.ofString "sh") ["-c", "true"] s
    | root => exact hline _
    | kernel => exact hline _
  · split
    · rfl
    · exact hline _

/-- The service of a device over the host does not reach what is seen of the host, whichever
transport it is. -/
theorem device (config : ServiceConfig) :
    (h.device config).toService.Apart fun s => seen s.2 := by
  show (h.service config).Apart _
  unfold Host.service
  cases config.transport with
  | socket =>
    exact ⟨fun command s => hapart.socketCall _ _ command s.1 s.2,
      fun s => hapart.socketHangUp _ s.1 s.2⟩
  | shell => exact ⟨fun command s => hapart.shellCall _ command s.2, fun _ => rfl⟩

end Host.Apart

/-! ## Operations -/

/-- The operation `x` leaves what is seen of the device as it is. -/
def Preserves (seen : δ → φ) (x : Action δ α) : Prop :=
  ∀ w : World δ, seen (x.run w).2.device = seen w.device

section Steps

variable {seen : δ → φ}

theorem Preserves.pure (a : α) : Preserves seen (Pure.pure a : Action δ α) := fun _ => rfl

theorem Preserves.bind {x : Action δ α} {f : α → Action δ β} (hx : Preserves seen x)
    (hf : ∀ a, Preserves seen (f a)) : Preserves seen (x >>= f) :=
  fun w => (hf _ (x.run w).2).trans (hx w)

theorem Preserves.discard {x : Action δ α} (hx : Preserves seen x) :
    Preserves seen (Functor.discard x) :=
  hx.bind fun _ => .pure ()

theorem preserves_live : Preserves seen (live : Action δ _) := fun _ => rfl

theorem preserves_setLive (c : Option Connection) :
    Preserves seen (setLive c : Action δ Unit) := fun _ => rfl

variable {d : Device δ}

theorem preserves_readText (p : Path) : Preserves seen (readText d p) := fun _ => rfl

theorem Keeper.preserves_readDocument (p : Path) : Preserves seen (Keeper.readDocument d p) := by
  refine (preserves_readText p).bind fun r => ?_
  cases r <;> exact .pure _

theorem MountReconciler.preserves_check (m : MountReconciler) : Preserves seen (m.check d) := by
  refine (preserves_readText m.mountinfo).bind fun r => ?_
  cases r <;> exact .pure _

theorem BindingStore.preserves_pending (b : BindingStore) : Preserves seen (b.pending d) := by
  refine (preserves_readText b.path).bind fun r => ?_
  cases r <;> exact .pure _

theorem Session.preserves_opening (paths : PathsConfig) :
    Preserves seen (Session.opening d paths) :=
  (Keeper.preserves_readDocument _).bind fun _ => .pure _

variable (hapart : d.toService.Apart seen)

include hapart

theorem preserves_issue (c : Command) : Preserves seen (issue d c) :=
  fun w => hapart.call c w.device

theorem preserves_execute (c : Command) : Preserves seen (execute d c) := by
  refine preserves_live.bind fun r => ?_
  cases r with
  | none => exact .pure _
  | some _ => exact (preserves_issue hapart c).bind fun _ => .pure _

theorem preserves_negotiateTier (ts : List Tier) (why : String) :
    Preserves seen (negotiateTier d ts why) := by
  -- By induction on the tiers still to be tried; each costs one probe.
  induction ts generalizing why with
  | nil => exact .pure _
  | cons t ts ih =>
    refine (preserves_issue hapart _).bind fun answer => ?_
    cases grant t answer with
    | ok granted => exact .pure _
    | error why => exact ih why

theorem preserves_negotiate (tolerant : Bool) : Preserves seen (negotiate d tolerant) := by
  refine (preserves_negotiateTier hapart _ _).bind fun tier => ?_
  cases tier with
  | error e => exact .pure _
  | ok tier =>
    refine (preserves_issue hapart _).bind fun answer => ?_
    dsimp only
    split
    · exact .pure _
    · exact (preserves_issue hapart _).bind fun _ =>
        (preserves_issue hapart _).bind fun _ => .pure _

theorem preserves_connect (tolerant : Bool) : Preserves seen (connect d tolerant) := by
  refine preserves_live.bind fun r => ?_
  cases r with
  | some c => exact .pure _
  | none =>
    refine (preserves_negotiate hapart tolerant).bind fun r => ?_
    cases r with
    | error e => exact .pure _
    | ok c => exact (preserves_setLive _).bind fun _ => .pure _

theorem RuleStore.preserves_list (s : RuleStore) : Preserves seen (s.list d) := by
  have hfetch : Preserves seen (s.fetch d) := by
    unfold RuleStore.fetch
    cases s.requireEngine with
    | error e => exact .pure _
    | ok _ => exact (preserves_execute hapart _).bind fun _ => .pure _
  refine hfetch.bind fun t => ?_
  cases t <;> exact .pure _

theorem BindingStore.preserves_active (b : BindingStore) : Preserves seen (b.active d) := by
  unfold BindingStore.active
  cases b.engine with
  | none => exact .pure _
  | some _ => exact (preserves_execute hapart _).bind fun _ => .pure _

theorem BindingStore.preserves_views (b : BindingStore) : Preserves seen (b.views d) :=
  b.preserves_pending.bind fun _ => (b.preserves_active hapart).bind fun _ => .pure _

end Steps

namespace Session

variable {seen : δ → φ} (s : Session δ) (hapart : s.device.toService.Apart seen)

include hapart

theorem preserves_rules : Preserves seen s.rules :=
  (preserves_connect hapart s.tolerant).bind fun _ => .pure _

theorem preserves_mounts : Preserves seen s.mounts :=
  (preserves_connect hapart s.tolerant).bind fun _ => .pure _

theorem preserves_keeper : Preserves seen s.keeper :=
  (preserves_connect hapart s.tolerant).bind fun _ => .pure _

theorem preserves_bindings : Preserves seen s.bindings :=
  (preserves_connect hapart s.tolerant).bind fun _ => .pure _

theorem preserves_status : Preserves seen s.status := by
  refine (Keeper.preserves_readDocument _).bind fun declared => ?_
  refine (s.preserves_bindings hapart).bind fun store => ?_
  refine (store.preserves_views hapart).bind fun views => ?_
  refine (preserves_connect hapart s.tolerant).bind fun attempt => ?_
  have hcounts (connection : Option Connection) (kernelMode : Bool) :
      Preserves seen (s.ruleCounts connection kernelMode) := by
    unfold ruleCounts
    split
    · exact (RuleStore.preserves_list hapart _).bind fun _ => .pure _
    · exact .pure _
  exact (hcounts _ _).bind fun _ => .pure _

end Session

end OverlayControl
