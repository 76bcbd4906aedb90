import OverlayControl.Proofs.Utf8
import OverlayControl.Socket.Frame

/-!
# Frames can be decoded

What a service can tell from a frame. A frame is read back as the command that it was made from, but
for what no frame carries.

* `Frame.command?` — the command that a frame stands for;
* `Command.onWire` — what a frame carries of a command;
* `Path.Fits`, `Command.Fits` — the paths and numbers that a frame can carry;
* `Framing` — the frame of a command, or why it has none.
-/

namespace OverlayControl

namespace Socket

/-- The word that a payload is. -/
def word? : List UInt8 → Option UInt32
  | [a, b, c, d] => some (wordOf a b c d)
  | _ => none

/-- The path that a field holds. -/
def pathOf (field : List UInt8) : Path := ⟨field.takeWhile (· != 0)⟩

/-- The flags that a kind of node stands for. -/
def flagsOf (node : UInt32) : RuleFlags :=
  if node = 2 then .symlink else if node = 1 then .directory else .none

/-- The rule that a payload holds: two path fields and the kind of node. -/
def ruleOf? (kind : RuleKind) (payload : List UInt8) : Option Command :=
  let source := payload.take pathFieldLength
  let target := (payload.drop pathFieldLength).take pathFieldLength
  (word? (payload.drop (2 * pathFieldLength))).map fun node =>
    .addRule kind (pathOf source) (if pathOf target = ⟨[]⟩ then none else some (pathOf target))
      (flagsOf node)

/-- The command that a frame stands for. -/
def Frame.command? (f : Frame) : Option Command :=
  match f.opcode with
  | 1 => some .serviceVersion
  | 2 => some .engineVersion
  | 3 => some (.probeTier .root)
  | 4 => some (.probeTier .kernel)
  | 10 => (word? f.payload).map fun pid => .selinuxContext (if pid = 0 then none else some pid)
  | 20 => ruleOf? .add f.payload
  | 21 => ruleOf? .merge f.payload
  | 22 => (word? f.payload).map fun number => .deleteRule ⟨number⟩
  | 23 => some .clearRules
  | 24 => some .listRules
  | 25 => (word? f.payload).map fun on => .setStealth (on != 0)
  | 26 => (word? f.payload).map fun on => .setDebug (on != 0)
  | 27 => some (.setMirrorPath (pathOf f.payload))
  | 28 => some .fixMounts
  | 29 => some (.addRule .hide (pathOf f.payload) none .none)
  | 46 => some .nukeExt4Sysfs
  | _ => none

end Socket

/-- What a frame tells of a rule's flags. -/
def RuleFlags.onWire (f : RuleFlags) : RuleFlags :=
  if f.has .symlink then .symlink else if f.has .directory then .directory else .none

namespace Command

/-- What a frame carries of a command: the root and the shell tier are probed alike, no process and
the process zero are the same, and so are no target and the empty one; flags only tell the kind of
node; and a hiding rule has neither flags nor a target. -/
def onWire : Command → Command
  | probeTier .shell => probeTier .root
  | selinuxContext pid => selinuxContext (if pid = some 0 then none else pid)
  | addRule .hide source _ _ => addRule .hide source none .none
  | addRule kind source target flags =>
    addRule kind source (if target = some ⟨[]⟩ then none else target) flags.onWire
  | c => c

/-- The paths that a frame carries: a hiding rule has no use for a target. -/
def sentPaths : Command → List Path
  | addRule .hide source _ _ => [source]
  | addRule _ source target _ => source :: target.toList
  | setMirrorPath p => [p]
  | _ => []

/-- Whether the socket transport has a form for the command. -/
def isFramed : Command → Bool
  | addRule .inject _ _ _ | setAvcSpoof _ | listModules => false
  | _ => true

end Command

/-- A path whose text is at most 255 bytes long and has no NUL byte. -/
def Path.Fits (p : Path) : Prop :=
  (Utf8.encode p.display).length ≤ 255 ∧ 0 ∉ Utf8.encode p.display

/-- The text of a path that is UTF-8 has the bytes of the path. -/
theorem Path.encode_display {p : Path} {s : String} (h : p.text? = some s) :
    Utf8.encode p.display = p.bytes := by
  obtain rfl := Path.ofString_of_text? h
  rw [Path.display_ofString]
  rfl

/-- A command whose numbers and paths a frame can carry. -/
structure Command.Fits (c : Command) : Prop where
  /-- The process is a signed word. -/
  process : ∀ pid, c = .selinuxContext (some pid) → pid.toNat < 0x80000000
  /-- The paths fit into their fields. -/
  paths : ∀ p ∈ c.sentPaths, p.Fits

namespace Socket

section Words

/-- The four bytes of a word are put together again, bit by bit. -/
theorem wordOf_bytes (w : UInt32) :
    wordOf w.toUInt8 (w >>> 8).toUInt8 (w >>> 16).toUInt8 (w >>> 24).toUInt8 = w := by
  apply UInt32.toBitVec_inj.1
  apply BitVec.eq_of_getLsbD_eq
  intro i hi
  simp [wordOf, -UInt32.toUInt32_toUInt8]
  grind

@[simp]
theorem word?_wordBytes (w : UInt32) : word? (wordBytes w) = some w :=
  congrArg some (wordOf_bytes w)

theorem length_wordBytes (w : UInt32) : (wordBytes w).length = 4 := rfl

theorem flagsOf_nodeType (f : RuleFlags) : flagsOf (nodeType f) = f.onWire := by
  unfold nodeType RuleFlags.onWire
  by_cases hlink : f.has .symlink = true
  · simp [hlink, flagsOf]
  · by_cases hdirectory : f.has .directory = true <;> simp [hlink, hdirectory, flagsOf]

end Words

section Fields

variable {p : Path} {field : List UInt8}

/-- A path that fits is written into its field, filled up with NUL bytes. -/
theorem pathField_of_fits (h : p.Fits) :
    pathField p = .ok (Utf8.encode p.display ++
      List.replicate (pathFieldLength - (Utf8.encode p.display).length) 0) := by
  obtain ⟨hshort, hzero⟩ := h
  simp [pathField, pathFieldLength, hzero, Nat.not_le.2 (Nat.lt_succ_of_le hshort)]

/-- Any other path is refused. -/
theorem pathField_of_not_fits (h : ¬p.Fits) :
    ∃ why, pathField p = .error (.invalidRequest why) := by
  by_cases hlong : pathFieldLength ≤ (Utf8.encode p.display).length
  · exact ⟨_, by simp only [pathField, if_pos hlong]; rfl⟩
  · by_cases hzero : (0 : UInt8) ∈ Utf8.encode p.display
    · exact ⟨_, by simp only [pathField, if_neg hlong, List.contains_iff_mem.2 hzero]; rfl⟩
    · exact absurd ⟨Nat.le_of_lt_succ (Nat.not_le.1 hlong), hzero⟩ h

/-- A path that is UTF-8 is read back from its field. -/
theorem pathOf_of_pathField (htext : p.text?.isSome = true) (h : pathField p = .ok field) :
    pathOf field = p := by
  by_cases hfits : p.Fits
  · obtain ⟨s, hs⟩ := Option.isSome_iff_exists.1 htext
    rw [pathField_of_fits hfits, Except.ok.injEq] at h
    have hzero : ∀ b ∈ p.bytes, (b != 0) = true := by
      intro b hb
      rw [bne_iff_ne]
      rintro rfl
      exact hfits.2 (Path.encode_display hs ▸ hb)
    rw [← h, Path.encode_display hs, pathOf, List.takeWhile_append_of_pos hzero]
    simp
  · obtain ⟨why, herror⟩ := pathField_of_not_fits hfits
    rw [herror] at h
    cases h

theorem text?_empty : Path.text? ⟨[]⟩ = some "" := Path.text?_ofString ""

theorem fits_empty : Path.Fits ⟨[]⟩ := by
  simp [Path.Fits, Path.encode_display text?_empty]

/-- A rule is read back from two fields and the kind of node. -/
theorem ruleOf?_append (kind : RuleKind) {s t : List UInt8} (hs : s.length = pathFieldLength)
    (ht : t.length = pathFieldLength) (node : UInt32) :
    ruleOf? kind (s ++ t ++ wordBytes node) =
      some (.addRule kind (pathOf s) (if pathOf t = ⟨[]⟩ then none else some (pathOf t))
        (flagsOf node)) := by
  have hsource : (s ++ t ++ wordBytes node).take pathFieldLength = s := by
    rw [List.append_assoc, List.take_left' hs]
  have htarget : ((s ++ t ++ wordBytes node).drop pathFieldLength).take pathFieldLength = t := by
    rw [List.append_assoc, List.drop_left' hs, List.take_left' ht]
  have hnode : (s ++ t ++ wordBytes node).drop (2 * pathFieldLength) = wordBytes node :=
    List.drop_left' (by rw [List.length_append, hs, ht, Nat.two_mul])
  rw [ruleOf?, hsource, htarget, hnode, word?_wordBytes]
  rfl

end Fields

section Rules

variable {source : Path} {target : Option Path}

/-- What holds of an empty path holds of all paths of a rule when it holds of the two that are
written. -/
theorem forall_paths_iff {P : Path → Prop} (hempty : P ⟨[]⟩) :
    (∀ p ∈ source :: target.toList, P p) ↔ P source ∧ P (target.getD ⟨[]⟩) := by
  cases target <;> simp [hempty]

/-- A rule is written if both paths fit, and is read back if they are UTF-8. -/
theorem rulePayload_of_fits (hsource : source.Fits) (htarget : (target.getD ⟨[]⟩).Fits)
    (flags : RuleFlags) :
    ∃ payload, rulePayload source target flags = .ok payload ∧ payload.length = 516 ∧
      (source.text?.isSome = true → (target.getD ⟨[]⟩).text?.isSome = true →
        ∀ kind, ruleOf? kind payload =
          some (.addRule kind source (if target = some ⟨[]⟩ then none else target)
            flags.onWire)) := by
  obtain ⟨s, hs⟩ : ∃ field, pathField source = .ok field := ⟨_, pathField_of_fits hsource⟩
  obtain ⟨t, ht⟩ : ∃ field, pathField (target.getD ⟨[]⟩) = .ok field :=
    ⟨_, pathField_of_fits htarget⟩
  have hlength : s.length = pathFieldLength ∧ t.length = pathFieldLength :=
    ⟨length_of_pathField hs, length_of_pathField ht⟩
  refine ⟨s ++ t ++ wordBytes (nodeType flags), ?_, ?_, fun htext htext' kind => ?_⟩
  · simp only [rulePayload, hs, ht]
    rfl
  · simp [hlength, pathFieldLength, length_wordBytes]
  · rw [ruleOf?_append kind hlength.1 hlength.2, pathOf_of_pathField htext hs,
      pathOf_of_pathField htext' ht, flagsOf_nodeType]
    cases target <;> simp

/-- Otherwise it is refused. -/
theorem rulePayload_of_not_fits (h : ¬(source.Fits ∧ (target.getD ⟨[]⟩).Fits))
    (flags : RuleFlags) :
    ∃ why, rulePayload source target flags = .error (.invalidRequest why) := by
  by_cases hsource : source.Fits
  · obtain ⟨why, herror⟩ := pathField_of_not_fits fun htarget => h ⟨hsource, htarget⟩
    exact ⟨why, by simp only [rulePayload, pathField_of_fits hsource, herror]; rfl⟩
  · obtain ⟨why, herror⟩ := pathField_of_not_fits hsource
    exact ⟨why, by simp only [rulePayload, herror]; rfl⟩

end Rules

/-- The frame of a command, or why it has none. -/
inductive Framing (c : Command) : Except ServiceError Frame → Prop
  /-- The transport has no form for the command. -/
  | unsupported (form : c.isFramed = false) : Framing c (.error (Socket.unsupported c))
  /-- A frame cannot carry the command. -/
  | invalid (form : c.isFramed = true) (fits : ¬c.Fits) (why : String) :
      Framing c (.error (.invalidRequest why))
  /-- The command is read back from the frame, but for what no frame carries. -/
  | framed {f : Frame} (form : c.isFramed = true) (fits : c.Fits)
      (length : f.payload.length ∈ [0, 4, 256, 516])
      (decodes : (∀ p ∈ c.sentPaths, p.text?.isSome = true) → f.command? = some c.onWire) :
      Framing c (.ok f)

namespace Framing

variable {c : Command} {f : Frame}

/-- A command without a path or a process can be carried in any case. -/
theorem bare (form : c.isFramed = true) (hprocess : ∀ pid, c ≠ .selinuxContext (some pid))
    (hpaths : c.sentPaths = []) (length : f.payload.length ∈ [0, 4, 256, 516])
    (decodes : f.command? = some c.onWire) : Framing c (.ok f) :=
  .framed form ⟨fun pid h => absurd h (hprocess pid), by simp [hpaths]⟩ length fun _ => decodes

/-- A command with one path is carried if the path fits. -/
theorem field {p : Path} {opcode : UInt32} (form : c.isFramed = true)
    (hprocess : ∀ pid, c ≠ .selinuxContext (some pid)) (hpaths : c.sentPaths = [p])
    (decodes : ∀ field, pathOf field = p → (Frame.mk opcode field).command? = some c.onWire) :
    Framing c ((pathField p).map (Frame.mk opcode)) := by
  by_cases hfits : p.Fits
  · obtain ⟨field, hfield⟩ : ∃ field, pathField p = .ok field := ⟨_, pathField_of_fits hfits⟩
    rw [hfield]
    refine .framed form ⟨fun pid h => absurd h (hprocess pid), by simpa [hpaths]⟩ ?_ fun htext => ?_
    · have hlength : field.length = 256 := length_of_pathField hfield
      simp [hlength]
    · exact decodes _ (pathOf_of_pathField (htext p (by simp [hpaths])) hfield)
  · obtain ⟨why, herror⟩ := pathField_of_not_fits hfits
    rw [herror]
    exact .invalid form (fun h => hfits (h.paths p (by simp [hpaths]))) why

/-- A rule with two paths is carried if both fit. -/
theorem rule {kind : RuleKind} {source : Path} {target : Option Path} {flags : RuleFlags}
    {opcode : UInt32} (hkind : kind = .add ∨ kind = .merge)
    (decodes : ∀ payload, (Frame.mk opcode payload).command? = ruleOf? kind payload) :
    Framing (.addRule kind source target flags)
      ((rulePayload source target flags).map (Frame.mk opcode)) := by
  have form : (Command.addRule kind source target flags).isFramed = true := by
    rcases hkind with rfl | rfl <;> rfl
  have hpaths : (Command.addRule kind source target flags).sentPaths = source :: target.toList := by
    rcases hkind with rfl | rfl <;> rfl
  have hwire : (Command.addRule kind source target flags).onWire =
      .addRule kind source (if target = some ⟨[]⟩ then none else target) flags.onWire := by
    rcases hkind with rfl | rfl <;> rfl
  have hfits : Command.Fits (.addRule kind source target flags) ↔
      source.Fits ∧ (target.getD ⟨[]⟩).Fits := by
    rw [← forall_paths_iff fits_empty, ← hpaths]
    exact ⟨Command.Fits.paths, fun h => ⟨nofun, h⟩⟩
  by_cases h : source.Fits ∧ (target.getD ⟨[]⟩).Fits
  · obtain ⟨payload, hpayload, hlength, hread⟩ := rulePayload_of_fits h.1 h.2 flags
    rw [hpayload]
    refine .framed form (hfits.2 h) (by simp [hlength]) fun htext => ?_
    rw [hpaths, forall_paths_iff (Option.isSome_of_eq_some text?_empty)] at htext
    rw [decodes, hread htext.1 htext.2, hwire]
  · obtain ⟨why, herror⟩ := rulePayload_of_not_fits h flags
    rw [herror]
    exact .invalid form (fun hc => h (hfits.1 hc)) why

end Framing

/-- Every command has a frame or a reason to have none. -/
theorem framing_unmeasured (c : Command) : Framing c (Frame.unmeasured c) := by
  cases c with
  | probeTier tier => cases tier <;> exact .bare rfl nofun rfl (by decide) rfl
  | serviceVersion => exact .bare rfl nofun rfl (by decide) rfl
  | engineVersion => exact .bare rfl nofun rfl (by decide) rfl
  | selinuxContext pid =>
    by_cases hrange : (pid.getD 0).toNat < UInt32.size / 2
    · rw [Frame.unmeasured, if_pos hrange]
      refine .framed rfl ⟨?_, nofun⟩ (by simp [length_wordBytes]) fun _ => ?_
      · rintro n ⟨⟩
        exact hrange
      · cases pid <;> simp [Frame.command?, Command.onWire]
    · rw [Frame.unmeasured, if_neg hrange]
      refine .invalid rfl (fun hfits => ?_) _
      cases pid with
      | none => exact hrange (by decide)
      | some n => exact hrange (hfits.process n rfl)
  | addRule kind source target flags =>
    cases kind with
    | add => exact .rule (.inl rfl) fun _ => rfl
    | hide => exact .field rfl nofun rfl fun field h => by simp [Frame.command?, Command.onWire, h]
    | inject => exact .unsupported rfl
    | merge => exact .rule (.inr rfl) fun _ => rfl
  | deleteRule id =>
    refine .bare rfl nofun rfl (by simp [length_wordBytes]) ?_
    simp [Frame.command?, Command.onWire]
  | clearRules => exact .bare rfl nofun rfl (by decide) rfl
  | listRules => exact .bare rfl nofun rfl (by decide) rfl
  | setStealth on => cases on <;> exact .bare rfl nofun rfl (by decide) rfl
  | setDebug on => cases on <;> exact .bare rfl nofun rfl (by decide) rfl
  | setAvcSpoof on => exact .unsupported rfl
  | setMirrorPath p =>
    exact .field rfl nofun rfl fun field h => by simp [Frame.command?, Command.onWire, h]
  | fixMounts => exact .bare rfl nofun rfl (by decide) rfl
  | nukeExt4Sysfs => exact .bare rfl nofun rfl (by decide) rfl
  | listModules => exact .unsupported rfl

/-- No payload is too long for a packet. -/
theorem ofCommand_eq_unmeasured (c : Command) : Frame.ofCommand c = Frame.unmeasured c := by
  have hframing := framing_unmeasured c
  rw [Frame.ofCommand]
  generalize Frame.unmeasured c = result at hframing
  cases hframing with
  | unsupported form => rfl
  | invalid form fits why => rfl
  | @framed f form fits length decodes =>
    have hshort : ¬maxPayload < f.payload.length := by
      simp only [List.mem_cons, List.not_mem_nil, or_false] at length
      rw [maxPayload]
      omega
    exact if_neg hshort

theorem nodeType_onWire (f : RuleFlags) : nodeType f.onWire = nodeType f := by
  unfold RuleFlags.onWire
  by_cases hlink : f.has .symlink = true
  · simp only [nodeType, hlink, if_true]
    rfl
  · by_cases hdirectory : f.has .directory = true <;>
      simp only [nodeType, hlink, hdirectory] <;> rfl

theorem rulePayload_onWire (source : Path) (target : Option Path) (flags : RuleFlags) :
    rulePayload source (if target = some ⟨[]⟩ then none else target) flags.onWire =
      rulePayload source target flags := by
  have htarget : (if target = some ⟨[]⟩ then none else target).getD ⟨[]⟩ = target.getD ⟨[]⟩ := by
    by_cases hempty : target = some ⟨[]⟩ <;> simp [hempty]
  rw [rulePayload, htarget, nodeType_onWire]
  rfl

/-- What no frame carries of a command does not matter to its frame. -/
theorem ofCommand_onWire (c : Command) : Frame.ofCommand c.onWire = Frame.ofCommand c := by
  rw [ofCommand_eq_unmeasured, ofCommand_eq_unmeasured]
  cases c with
  | probeTier tier => cases tier <;> rfl
  | selinuxContext pid =>
    by_cases hzero : pid = some 0 <;> simp [Command.onWire, Frame.unmeasured, hzero]
  | addRule kind source target flags =>
    cases kind <;>
      simp [Command.onWire, Frame.unmeasured, rulePayload_onWire, unsupported, Command.name]
  | _ => rfl

/-- The frame of a command whose paths are UTF-8 is read back as the command. -/
theorem command?_of_ofCommand {c : Command} {f : Frame} (h : Frame.ofCommand c = .ok f)
    (htext : ∀ p ∈ c.sentPaths, p.text?.isSome = true) : f.command? = some c.onWire := by
  have hframing := framing_unmeasured c
  rw [← ofCommand_eq_unmeasured, h] at hframing
  cases hframing with
  | framed form fits length decodes => exact decodes htext

/-- What fits has a frame. -/
theorem exists_frame {c : Command} (form : c.isFramed = true) (fits : c.Fits) :
    ∃ f, Frame.ofCommand c = .ok f := by
  have hframing := framing_unmeasured c
  rw [← ofCommand_eq_unmeasured] at hframing
  generalize Frame.ofCommand c = result at hframing
  cases hframing with
  | unsupported hnone => simp [form] at hnone
  | invalid _ hunfit _ => exact absurd fits hunfit
  | @framed f => exact ⟨f, rfl⟩

/-- Every command has a frame of one of four lengths, or is refused for what it is: because the
transport has no form for it, or because a number or a path is out of bounds. The frame is read back
as the command, so that two commands whose paths are UTF-8 have the same frame only if they differ
in nothing but what no frame carries. -/
theorem frames_decodable :
    (∀ c : Command, Framing c (Frame.ofCommand c)) ∧
    (∀ c : Command, Frame.ofCommand c = Frame.unmeasured c) ∧
    (∀ (p : Path) (s : String), p.text? = some s → Utf8.encode p.display = p.bytes) ∧
    ∀ (c c' : Command) (f f' : Frame), Frame.ofCommand c = .ok f → Frame.ofCommand c' = .ok f' →
      (∀ p ∈ c.sentPaths, p.text?.isSome = true) → (∀ p ∈ c'.sentPaths, p.text?.isSome = true) →
        (f = f' ↔ c.onWire = c'.onWire) := by
  refine ⟨fun c => ?_, ofCommand_eq_unmeasured, fun _ _ => Path.encode_display, ?_⟩
  · rw [ofCommand_eq_unmeasured]
    exact framing_unmeasured c
  · intro c c' f f' hc hc' htext htext'
    constructor
    · rintro rfl
      have hread := command?_of_ofCommand hc htext
      rw [command?_of_ofCommand hc' htext'] at hread
      exact (Option.some.inj hread).symm
    · intro hwire
      rw [← ofCommand_onWire, hwire, ofCommand_onWire, hc'] at hc
      exact (Except.ok.inj hc).symm

/-- A symbolic link that is redirected to nothing: neither the absence of the target nor the other
flag can be told from the frame. -/
theorem frames_decodable_of_symlink :
    let absent : Command := .addRule .add (.ofString "/a") none ⟨3⟩
    let empty : Command := .addRule .add (.ofString "/a") (some (.ofString "")) .symlink
    ∃ f f', Frame.ofCommand absent = .ok f ∧ Frame.ofCommand empty = .ok f' ∧ f = f' := by
  intro absent empty
  have hfits : (Path.ofString "/a").Fits ∧ (Path.ofString "").Fits := by
    simp only [Path.Fits, Path.display_ofString]
    decide
  obtain ⟨f, hf⟩ : ∃ f, Frame.ofCommand absent = .ok f :=
    exists_frame rfl ⟨nofun, by simpa [absent, Command.sentPaths] using hfits.1⟩
  obtain ⟨f', hf'⟩ : ∃ f, Frame.ofCommand empty = .ok f :=
    exists_frame rfl ⟨nofun, by simpa [empty, Command.sentPaths] using hfits⟩
  have hsame : f = f' ↔ absent.onWire = empty.onWire :=
    frames_decodable.2.2.2 absent empty f f' hf hf' (by simp [absent, Command.sentPaths])
      (by simp [empty, Command.sentPaths])
  exact ⟨f, f', hf, hf', hsame.2 (by decide)⟩

end Socket

end OverlayControl
