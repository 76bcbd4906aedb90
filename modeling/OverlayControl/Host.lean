import OverlayControl.ClientConfig
import OverlayControl.Shell.Client
import OverlayControl.Socket.Client

/-!
# Hosts

A host offers files, streams and programs. Together with the configuration of a client it is a
device: the configured transport over the host's streams or programs, and the host's files.
-/

namespace OverlayControl

/-- A host with states `η`. -/
structure Host (η : Type) where
  /-- The files. -/
  files : Storage η
  /-- The streams. -/
  network : Socket.Network η
  /-- The programs. -/
  programs : Shell.Programs η
  /-- Makes a directory and those on the way to it. -/
  makeDirectories : Path → η → Except FileFault Unit × η
  /-- Opens a log, which is made if it is not there. What a run writes to it is added to its end. -/
  openLog : Path → η → Except FileFault Unit × η

namespace Host

variable {η : Type}

/-- The socket client of a configuration, over the host. -/
def socketService (h : Host η) (c : ServiceConfig) : Service (Socket.Client × η) :=
  Socket.service h.network (.parse c.socket) c.timeout

/-- The shell client of a configuration, over the host. -/
def shellService (h : Host η) (c : ServiceConfig) : Service (Socket.Client × η) :=
  let inner := Shell.service h.programs ⟨c.suPath, c.engineCli, c.timeout⟩
  { transport := inner.transport
    call := fun command (held, s) =>
      let (answer, s) := inner.call command s
      (answer, (held, s))
    hangUp := fun (held, s) =>
      let (answer, s) := inner.hangUp s
      (answer, (held, s)) }

/-- The service that a configuration selects. -/
def service (h : Host η) (c : ServiceConfig) : Service (Socket.Client × η) :=
  match c.transport with
  | .socket => h.socketService c
  | .shell => h.shellService c

/-- The device that a configuration selects: its service, and the host's files. -/
def device (h : Host η) (c : ServiceConfig) : Device (Socket.Client × η) where
  toService := h.service c
  readFile p s := h.files.readFile p s.2
  replaceFile p bytes s :=
    let (result, files) := h.files.replaceFile p bytes s.2
    (result, (s.1, files))

end Host

/-- A service and a storage side by side are a device. -/
def Device.ofParts {σ φ : Type} (service : Service σ) (files : Storage φ) : Device (σ × φ) where
  transport := service.transport
  call command s :=
    let (answer, inner) := service.call command s.1
    (answer, (inner, s.2))
  hangUp s :=
    let (answer, inner) := service.hangUp s.1
    (answer, (inner, s.2))
  readFile p s := files.readFile p s.2
  replaceFile p bytes s :=
    let (result, inner) := files.replaceFile p bytes s.2
    (result, (s.1, inner))

end OverlayControl
