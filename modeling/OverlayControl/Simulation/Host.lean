import OverlayControl.FileTree.Storage
import OverlayControl.Host
import OverlayControl.Simulation.Peer
import OverlayControl.Simulation.RootShell

/-!
# A host in memory

The file tree, the peer and the root shell in memory, together as a host. The tree has a socket
where the peer listens at a path, and it decides what other paths lead to.
-/

namespace OverlayControl.Simulation

/-- The parts of a host in memory. -/
structure HostState where
  /-- The files. -/
  files : FileTree := {}
  /-- The peer. -/
  peer : Peer := {}
  /-- The root shell. -/
  shell : RootShell

namespace HostState

/-- Changes the peer and keeps the rest. -/
def onPeer {α : Type} (f : Peer → α × Peer) (s : HostState) : α × HostState :=
  let (a, peer) := f s.peer
  (a, { s with peer })

/-- The host with a socket in its tree where the peer listens. -/
def listening (s : HostState) : HostState :=
  match s.peer.address with
  | some (.path p) => { s with files := (s.files.putAt p .socket).toOption.getD s.files }
  | _ => s

/-- Opens a stream. -/
def dial (address : Socket.Address) (s : HostState) : Except String Nat × HostState :=
  match address, s.peer.address with
  | .path p, listening =>
    match s.files.locate p, listening with
    | .error e, _ => (.error e.message, s)
    | .ok at_, some own =>
      if s.files.find? at_ = some .socket then onPeer (Peer.dial own) s
      else (.error FileFault.refused.message, s)
    | .ok _, none => (.error FileFault.refused.message, s)
  | hidden, _ => onPeer (Peer.dial hidden) s

/-- Runs a program. -/
def run (program : Path) (args : List String) (s : HostState) : Shell.Run × HostState :=
  match s.shell.run? program args with
  | some (result, shell) => (result, { s with shell })
  | none => (.notStarted (s.files.startFault program).message, s)

/-- The host. -/
def host : OverlayControl.Host HostState where
  files := {
    readFile := fun p s => s.files.read p
    replaceFile := fun p bytes s =>
      let (result, files) := s.files.replace p bytes
      (result, { s with files }) }
  network := {
    dial := dial
    send := fun stream bytes => onPeer (Peer.send stream bytes)
    receive := fun stream n => onPeer (Peer.receive stream n)
    shut := fun stream => onPeer (Peer.shut stream) }
  programs := { run := run }
  makeDirectories := fun p s =>
    let (result, files) := s.files.makeDirectories p
    (result, { s with files })
  -- Nothing is written to a log here.
  openLog := fun p s =>
    let (result, files) := s.files.append p []
    (result, { s with files })

end HostState

end OverlayControl.Simulation
