import OverlayControl.Service

/-!
# Frames of the socket transport

A request is a header of 24 bytes and its payload; a response is a header of 16 bytes and its
payload. Headers are little-endian words. A path travels in a field of 256 bytes that ends in NUL
bytes.

* `RequestHeader.encode`, `ResponseHeader.decode`;
* `Frame.ofCommand` — the operation code and the payload of a command;
* `replyOf` — the reply that a result code and a payload amount to.
-/

namespace OverlayControl.Socket

/-- The word that starts every header. -/
def magic : UInt32 := 0x4D525341

/-- The version of the framing. -/
def framingVersion : UInt32 := 1

/-- The longest payload. -/
def maxPayload : Nat := 65536

/-- The length of a path field. -/
def pathFieldLength : Nat := 256

/-- A word as four bytes, the lowest first. -/
def wordBytes (w : UInt32) : List UInt8 :=
  [w.toUInt8, (w >>> 8).toUInt8, (w >>> 16).toUInt8, (w >>> 24).toUInt8]

/-- The word that four bytes are, the lowest first. -/
def wordOf (a b c d : UInt8) : UInt32 :=
  a.toUInt32 ||| (b.toUInt32 <<< 8) ||| (c.toUInt32 <<< 16) ||| (d.toUInt32 <<< 24)

/-- The signed number that a word is in two's complement. -/
def signed (w : UInt32) : Int := w.toInt32.toInt

/-- The varying fields of a request header. -/
structure RequestHeader where
  /-- The operation. -/
  opcode : UInt32
  /-- The number of the request, which the response repeats. -/
  seq : UInt32
  /-- The length of the payload. -/
  size : UInt32
  deriving DecidableEq

/-- A request header as 24 bytes. -/
def RequestHeader.encode (h : RequestHeader) : List UInt8 :=
  [magic, framingVersion, h.opcode, h.seq, h.size, 0].flatMap wordBytes

theorem length_encode (h : RequestHeader) : h.encode.length = 24 := rfl

/-- A response header. -/
structure ResponseHeader where
  /-- The number of the request that is answered. -/
  seq : UInt32
  /-- The result code; negative on failure. -/
  result : Int
  /-- The length of the payload. -/
  size : UInt32
  deriving DecidableEq

/-- Reads a response header. -/
def ResponseHeader.decode (b : Vector UInt8 16) : Except ServiceError ResponseHeader :=
  let m := wordOf b[0] b[1] b[2] b[3]
  if m ≠ magic then
    .error (.protocol s!"bad response magic 0x{String.ofList (Text.hexPadded false 8 m.toNat)}")
  else
    let size := wordOf b[12] b[13] b[14] b[15]
    if maxPayload < size.toNat then
      .error (.protocol s!"response payload of {size} bytes exceeds {maxPayload}")
    else
      .ok { seq := wordOf b[4] b[5] b[6] b[7]
            result := signed (wordOf b[8] b[9] b[10] b[11])
            size }

/-- An operation code and its payload. -/
structure Frame where
  /-- The operation. -/
  opcode : UInt32
  /-- The payload. -/
  payload : List UInt8
  deriving DecidableEq

/-- A path as a field: its text, filled up with NUL bytes. -/
def pathField (p : Path) : Except ServiceError (List UInt8) :=
  let bytes := Utf8.encode p.display
  if pathFieldLength ≤ bytes.length then
    .error (.invalidRequest s!"path '{p.display}' is longer than {pathFieldLength - 1} bytes")
  else if bytes.contains 0 then
    .error (.invalidRequest s!"path '{p.display}' contains a NUL byte")
  else .ok (bytes ++ List.replicate (pathFieldLength - bytes.length) 0)

/-- A path field always has the same length. -/
theorem length_of_pathField {p : Path} {field : List UInt8} (h : pathField p = .ok field) :
    field.length = pathFieldLength := by
  simp only [pathField] at h
  split at h
  · cases h
  · split at h
    · cases h
    · rename_i short _
      obtain rfl := Except.ok.inj h
      rw [List.length_append, List.length_replicate]
      omega

/-- The kind of node that a rule's flags tell. -/
def nodeType (f : RuleFlags) : UInt32 :=
  if f.has .symlink then 2 else if f.has .directory then 1 else 0

/-- A truth value as a payload. -/
def flagBytes (on : Bool) : List UInt8 := wordBytes (if on then 1 else 0)

/-- The payload of a rule with a target, an empty path standing for none. -/
def rulePayload (source : Path) (target : Option Path) (flags : RuleFlags) :
    Except ServiceError (List UInt8) := do
  let s ← pathField source
  let t ← pathField (target.getD ⟨[]⟩)
  pure (s ++ t ++ wordBytes (nodeType flags))

/-- The error of a command that has no frame. -/
def unsupported (c : Command) : ServiceError := .unsupported c.name .socket

/-- The operation code and the payload of a command, however long it is. -/
def Frame.unmeasured (c : Command) : Except ServiceError Frame :=
  match c with
  | .probeTier .kernel => .ok ⟨4, []⟩
  | .probeTier _ => .ok ⟨3, []⟩
  | .serviceVersion => .ok ⟨1, []⟩
  | .engineVersion => .ok ⟨2, []⟩
  | .selinuxContext pid =>
    -- Zero stands for the service itself.
    let n := pid.getD 0
    if n.toNat < UInt32.size / 2 then .ok ⟨10, wordBytes n⟩ else .error (.invalidRequest "pid out of range")
  | .addRule .hide source _ _ => (pathField source).map (Frame.mk 29)
  | .addRule .add source target flags => (rulePayload source target flags).map (Frame.mk 20)
  | .addRule .merge source target flags => (rulePayload source target flags).map (Frame.mk 21)
  | .addRule .inject _ _ _ => .error (unsupported c)
  | .deleteRule id => .ok ⟨22, wordBytes id.number⟩
  | .clearRules => .ok ⟨23, []⟩
  | .listRules => .ok ⟨24, []⟩
  | .setStealth on => .ok ⟨25, flagBytes on⟩
  | .setDebug on => .ok ⟨26, flagBytes on⟩
  | .setAvcSpoof _ => .error (unsupported c)
  | .setMirrorPath p => (pathField p).map (Frame.mk 27)
  | .fixMounts => .ok ⟨28, []⟩
  | .nukeExt4Sysfs => .ok ⟨46, []⟩
  | .listModules => .error (unsupported c)

/-- The frame of a command, if it fits into a packet. -/
def Frame.ofCommand (c : Command) : Except ServiceError Frame := do
  let f ← Frame.unmeasured c
  if maxPayload < f.payload.length then
    .error (.invalidRequest s!"{c.name} payload exceeds {maxPayload} bytes")
  else pure f

/-- The signed word that a payload starts with, if it is long enough. -/
def leadingNumber : List UInt8 → Option Int
  | a :: b :: c :: d :: _ => some (signed (wordOf a b c d))
  | _ => none

/-- The text that a payload holds up to its first NUL byte. -/
def leadingText (payload : List UInt8) : String := Utf8.decodeLossy (payload.takeWhile (· != 0))

/-- Whether a privilege level grants a tier. -/
def levelGrants (tier : Tier) (level : Int) : Bool :=
  match tier with
  | .kernel => level != 0
  | .root => 1 ≤ level
  | .shell => 0 ≤ level

/-- The reply that a result code and a payload amount to. -/
def replyOf (c : Command) (result : Int) (payload : List UInt8) : Reply :=
  if result < 0 then
    { status := result, value := none, structured := true
      text := s!"{c.name} rejected by service (code {result})" }
  else
    match c with
    | .probeTier tier =>
      let code := if (leadingNumber payload).any (levelGrants tier) then tier.code else -1
      { status := code, value := some code, text := "", structured := true }
    | .serviceVersion | .engineVersion =>
      let version := (leadingNumber payload).getD (-1)
      { status := if 0 ≤ version then 0 else -1, value := some version, text := toString version
        structured := true }
    | .selinuxContext _ | .listRules =>
      { status := result, value := none, text := leadingText payload, structured := true }
    | _ => .ofStatus result

end OverlayControl.Socket
