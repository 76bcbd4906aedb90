import OverlayControl.Proofs.Connection.Grant
import OverlayControl.Proofs.Socket.Decoding
import OverlayControl.Proofs.Socket.Exchange

/-!
# The tier that is granted over a socket

Over a socket a service answers the probes with numbers: it tells whether it runs in kernel mode,
and at which privilege level. Nothing is assumed of the network, and a request without a response is
a probe that is declined.

* `Client.respond` — the response that a request gets, if it gets one;
* `LeadsWith` — the number that a payload starts with, byte by byte;
* `Suffices`, `Offers` — the responses that offer a tier;
* `grant_of_offers`, `grant_of_not_offers` — a probe grants the tier that is asked for, or none;
* `tier_over_socket` — the tier that is granted, in terms of three responses.
-/

namespace OverlayControl.Socket

section Numbers

/-- The byte of a word above its `k` lowest bits. -/
theorem toUInt8_shiftRight {w : UInt32} {b : UInt8} (k : Nat) (hk : k < 32)
    (h : w.toNat >>> k % 256 = b.toNat) : (w >>> UInt32.ofNat k).toUInt8 = b := by
  have hsize : k < 2 ^ 32 := Nat.lt_trans hk (by decide)
  rw [← UInt8.toNat_inj, UInt32.toNat_toUInt8, UInt32.toNat_shiftRight, UInt32.toNat_ofNat',
    Nat.mod_eq_of_lt hsize, Nat.mod_eq_of_lt hk]
  exact h

/-- The word that four bytes are, by their weights. -/
theorem toNat_wordOf (a b c d : UInt8) : (wordOf a b c d).toNat =
    a.toNat + 256 * b.toNat + 65536 * c.toNat + 16777216 * d.toNat := by
  have ha := a.toNat_lt
  have hb := b.toNat_lt
  have hc := c.toNat_lt
  have hd := d.toNat_lt
  -- A word with this number is cut into these four bytes, and they are put together again.
  obtain ⟨w, hw⟩ : ∃ w : UInt32, w.toNat =
      a.toNat + 256 * b.toNat + 65536 * c.toNat + 16777216 * d.toNat :=
    ⟨.ofNat _, UInt32.toNat_ofNat_of_lt' (by rw [UInt32.size]; omega)⟩
  have h₀ : w.toUInt8 = a := by
    rw [← UInt8.toNat_inj, UInt32.toNat_toUInt8]
    omega
  have h₁ : (w >>> 8).toUInt8 = b := toUInt8_shiftRight 8 (by decide) (by omega)
  have h₂ : (w >>> 16).toUInt8 = c := toUInt8_shiftRight 16 (by decide) (by omega)
  have h₃ : (w >>> 24).toUInt8 = d := toUInt8_shiftRight 24 (by decide) (by omega)
  have hword := wordOf_bytes w
  rw [h₀, h₁, h₂, h₃] at hword
  rw [hword, hw]

/-- The payload starts with four bytes that are the number in two's complement, the lowest byte
first. -/
def LeadsWith (payload : List UInt8) (n : Int) : Prop :=
  ∃ a b c d rest, payload = a :: b :: c :: d :: rest ∧
    n = a.toNat + 256 * b.toNat + 65536 * c.toNat + 16777216 * d.toInt8.toInt

theorem signed_wordOf (a b c d : UInt8) : signed (wordOf a b c d) =
    a.toNat + 256 * b.toNat + 65536 * c.toNat + 16777216 * d.toInt8.toInt := by
  have ha := a.toNat_lt
  have hb := b.toNat_lt
  have hc := c.toNat_lt
  have hd := d.toNat_lt
  have hword : signed (wordOf a b c d) = ((wordOf a b c d).toNat : Int).bmod (2 ^ 32) :=
    BitVec.toInt_eq_toNat_bmod _
  have hbyte : d.toInt8.toInt = (d.toNat : Int).bmod (2 ^ 8) := BitVec.toInt_eq_toNat_bmod _
  rw [hword, hbyte, toNat_wordOf]
  -- The word and its highest byte are negative at once, by `2 ^ 24 * 2 ^ 8` and by `2 ^ 8`.
  simp only [Int.bmod_def]
  omega

theorem leadingNumber_eq_some_iff {payload : List UInt8} {n : Int} :
    leadingNumber payload = some n ↔ LeadsWith payload n := by
  unfold leadingNumber LeadsWith
  split
  · next a b c d rest =>
    rw [signed_wordOf, Option.some.injEq]
    refine ⟨fun h => ⟨a, b, c, d, rest, rfl, h.symm⟩, ?_⟩
    rintro ⟨_, _, _, _, _, ⟨⟩, rfl⟩
    rfl
  · next hshort =>
    simp only [reduceCtorEq, false_iff]
    rintro ⟨a, b, c, d, rest, rfl, -⟩
    exact hshort a b c d rest rfl

end Numbers

namespace Client

variable {ω : Type} (net : Network ω) (address : Address) (seconds : Nat)

/-- The response that a request gets, or why it gets none. -/
def respond (f : Frame) :
    Client × ω → Except ServiceError (ResponseHeader × List UInt8) × (Client × ω)
  | (c, w) =>
    match takeStream net address c w with
    | (.error e, w) => (.error e, ({ c with stream := none }, w))
    | (.ok stream, w) =>
      match exchange net seconds stream (c.seq + 1) f w with
      | (.error e, w) => (.error e, (⟨none, c.seq + 1⟩, w))
      | (.ok response, w) => (.ok response, (⟨some stream, c.seq + 1⟩, w))

/-- The answer to a command is read off the response to its frame. -/
theorem call_of_frame {command : Command} {f : Frame} (hframe : Frame.ofCommand command = .ok f)
    (s : Client × ω) : call net address seconds command s =
      ((respond net address seconds f s).1.map fun (header, payload) =>
        replyOf command header.result payload, (respond net address seconds f s).2) := by
  obtain ⟨c, w⟩ := s
  simp only [call, hframe, respond]
  rcases takeStream net address c w with ⟨e | stream, w₁⟩
  · rfl
  dsimp only
  rcases exchange net seconds stream (c.seq + 1) f w₁ with ⟨e | response, w₂⟩ <;> rfl

end Client

/-- The frame that asks whether the service runs in kernel mode. -/
def kernelFrame : Frame := ⟨4, []⟩

/-- The frame that asks for the privilege level of the service. -/
def levelFrame : Frame := ⟨3, []⟩

/-- The frame that asks for a tier. -/
def probeFrame : Tier → Frame
  | .kernel => kernelFrame
  | .root | .shell => levelFrame

theorem ofCommand_probeTier (tier : Tier) :
    Frame.ofCommand (.probeTier tier) = .ok (probeFrame tier) := by
  cases tier <;> rfl

/-- The number that is answered to the probe of a tier is enough for the tier. -/
def Suffices : Tier → Int → Prop
  | .kernel, flag => flag ≠ 0
  | .root, level => 1 ≤ level
  | .shell, level => 0 ≤ level

theorem levelGrants_iff {tier : Tier} {n : Int} : levelGrants tier n = true ↔ Suffices tier n := by
  cases tier <;> simp [levelGrants, Suffices]

/-- The response to the probe of a tier offers the tier: there is a response, its result is not
negative, and its payload starts with a number that is enough. -/
def Offers (tier : Tier) (response : Except ServiceError (ResponseHeader × List UInt8)) : Prop :=
  ∃ header payload n, response = .ok (header, payload) ∧ 0 ≤ header.result ∧
    LeadsWith payload n ∧ Suffices tier n

section Replies

variable {result : Int} (payload : List UInt8)

/-- A negative result is handed on, and no number is told. -/
theorem replyOf_of_neg (command : Command) (h : result < 0) :
    replyOf command result payload =
      { status := result, value := none, structured := true
        text := s!"{command.name} rejected by service (code {result})" } :=
  if_pos h

/-- Else a probe is answered with the code of the tier, or declined. -/
theorem replyOf_probeTier (tier : Tier) (h : 0 ≤ result) :
    replyOf (.probeTier tier) result payload =
      let code := if (leadingNumber payload).any (levelGrants tier) then tier.code else -1
      { status := code, value := some code, text := "", structured := true } :=
  if_neg (Int.not_lt.2 h)

/-- And the version is the number that the payload starts with; a negative one counts as failure. -/
theorem replyOf_serviceVersion (h : 0 ≤ result) :
    replyOf .serviceVersion result payload =
      let version := (leadingNumber payload).getD (-1)
      { status := if 0 ≤ version then 0 else -1, value := some version, text := toString version
        structured := true } :=
  if_neg (Int.not_lt.2 h)

end Replies

section Offers

variable {tier : Tier}

theorem offers_ok_iff {header : ResponseHeader} {payload : List UInt8} :
    Offers tier (.ok (header, payload)) ↔
      0 ≤ header.result ∧ (leadingNumber payload).any (levelGrants tier) = true := by
  simp only [Option.any_eq_true, levelGrants_iff, leadingNumber_eq_some_iff]
  constructor
  · rintro ⟨_, _, n, ⟨⟩, hresult, hleads, hsuffices⟩
    exact ⟨hresult, n, hleads, hsuffices⟩
  · rintro ⟨hresult, n, hleads, hsuffices⟩
    exact ⟨header, payload, n, rfl, hresult, hleads, hsuffices⟩

/-- The answer that a response to the probe of a tier amounts to. -/
def probeAnswer (tier : Tier) (response : Except ServiceError (ResponseHeader × List UInt8)) :
    Except ServiceError Reply :=
  response.map fun (header, payload) => replyOf (.probeTier tier) header.result payload

theorem probeAnswer_ok (header : ResponseHeader) (payload : List UInt8) :
    probeAnswer tier (.ok (header, payload)) =
      .ok (replyOf (.probeTier tier) header.result payload) := rfl

variable {response : Except ServiceError (ResponseHeader × List UInt8)}

/-- What offers the tier grants it. -/
theorem grant_of_offers (h : Offers tier response) :
    grant tier (probeAnswer tier response) = .ok tier := by
  obtain ⟨header, payload, -, rfl, -⟩ := id h
  obtain ⟨hresult, henough⟩ := offers_ok_iff.1 h
  have hanswer : replyOf (.probeTier tier) header.result payload =
      { status := tier.code, value := some tier.code, text := "", structured := true } := by
    rw [replyOf_probeTier payload tier hresult, if_pos henough]
  rw [probeAnswer_ok, hanswer]
  cases tier <;> rfl

/-- What does not offer it grants nothing. -/
theorem grant_of_not_offers (h : ¬Offers tier response) :
    ∃ why, grant tier (probeAnswer tier response) = .error why := by
  rcases response with e | ⟨header, payload⟩
  · exact ⟨_, rfl⟩
  rw [offers_ok_iff] at h
  have hstatus : (replyOf (.probeTier tier) header.result payload).status < 0 := by
    rcases Int.lt_or_le header.result 0 with hresult | hresult
    · rw [replyOf_of_neg payload _ hresult]
      exact hresult
    · rw [replyOf_probeTier payload tier hresult, if_neg fun henough => h ⟨hresult, henough⟩]
      decide
  rw [probeAnswer_ok]
  exact ⟨_, by simp only [grant, probeCode, if_pos hstatus]; rfl⟩

end Offers

section Tiers

variable {ω : Type} (net : Network ω) (address : Address) (seconds : Nat)
  (files : Storage (Client × ω))

/-- A device whose service is reached over a socket. -/
def device : Device (Client × ω) :=
  { toService := service net address seconds, toStorage := files }

section Probe

variable {tier : Tier} {w : World (Client × ω)} {s : Client × ω}

/-- A probe is answered as the response to its frame demands. -/
theorem run_issue_probeTier (hw : w.device = s) (tier : Tier) :
    ∃ w', w'.device = (Client.respond net address seconds (probeFrame tier) s).2 ∧
      (issue (device net address seconds files) (.probeTier tier)).run w =
        (probeAnswer tier (Client.respond net address seconds (probeFrame tier) s).1, w') := by
  subst hw
  have hcall : (device net address seconds files).call (.probeTier tier) w.device =
      (probeAnswer tier (Client.respond net address seconds (probeFrame tier) w.device).1,
        (Client.respond net address seconds (probeFrame tier) w.device).2) :=
    Client.call_of_frame net address seconds (ofCommand_probeTier tier) w.device
  have hanswer := congrArg Prod.fst hcall
  exact ⟨_, congrArg Prod.snd hcall, Prod.ext hanswer rfl⟩

/-- A tier that is offered is granted. -/
theorem negotiateTier_of_offers (hw : w.device = s)
    (h : Offers tier (Client.respond net address seconds (probeFrame tier) s).1)
    (tiers : List Tier) (why : String) :
    ((negotiateTier (device net address seconds files) (tier :: tiers) why).run w).1 =
      .ok tier := by
  obtain ⟨w', -, hissue⟩ := run_issue_probeTier net address seconds files hw tier
  rw [run_negotiateTier_cons, hissue, grant_of_offers h]

/-- A tier that is not offered is passed over, and the next one is asked for. -/
theorem negotiateTier_of_not_offers (hw : w.device = s)
    (h : ¬Offers tier (Client.respond net address seconds (probeFrame tier) s).1)
    (tiers : List Tier) (why : String) :
    ∃ why' w', w'.device = (Client.respond net address seconds (probeFrame tier) s).2 ∧
      ((negotiateTier (device net address seconds files) (tier :: tiers) why).run w).1 =
        ((negotiateTier (device net address seconds files) tiers why').run w').1 := by
  obtain ⟨w', hw', hissue⟩ := run_issue_probeTier net address seconds files hw tier
  obtain ⟨why', hdeclined⟩ := grant_of_not_offers h
  refine ⟨why', w', hw', ?_⟩
  rw [run_negotiateTier_cons, hissue, hdeclined]

end Probe

/-- Over a socket a connection has the tier that is granted: the kernel tier to a service that tells
it runs in kernel mode; else the root tier to one that tells a positive level; else the shell tier
to one that tells, when it is asked again, a level that is not negative; and else none. -/
theorem tier_over_socket (w : World (Client × ω)) :
    let kernel := Client.respond net address seconds kernelFrame w.device
    let root := Client.respond net address seconds levelFrame kernel.2
    let shell := Client.respond net address seconds levelFrame root.2
    let result := ((negotiateTier (device net address seconds files) Tier.descending
      "no tier probe answered").run w).1
    (∀ tolerant c, ((negotiate (device net address seconds files) tolerant).run w).1 = .ok c →
      result = .ok c.tier) ∧
    (result = .ok .kernel ↔ Offers .kernel kernel.1) ∧
    (result = .ok .root ↔ ¬Offers .kernel kernel.1 ∧ Offers .root root.1) ∧
    (result = .ok .shell ↔
      ¬Offers .kernel kernel.1 ∧ ¬Offers .root root.1 ∧ Offers .shell shell.1) ∧
    ((∃ why, result = .error (.unavailable why)) ↔
      ¬Offers .kernel kernel.1 ∧ ¬Offers .root root.1 ∧ ¬Offers .shell shell.1) := by
  intro kernel root shell result
  refine ⟨fun tolerant c => negotiateTier_of_negotiate, ?_⟩
  -- The first tier that is offered ends the row; if none is, the row ends by itself.
  by_cases hkernel : Offers .kernel kernel.1
  · have hresult : result = .ok .kernel :=
      negotiateTier_of_offers net address seconds files rfl hkernel ..
    simp [hresult, hkernel]
  obtain ⟨why₁, w₁, hw₁, hrun₁⟩ := negotiateTier_of_not_offers net address seconds files
    (w := w) rfl hkernel [.root, .shell] "no tier probe answered"
  by_cases hroot : Offers .root root.1
  · have hresult : result = .ok .root :=
      hrun₁.trans (negotiateTier_of_offers net address seconds files hw₁ hroot ..)
    simp [hresult, hkernel, hroot]
  obtain ⟨why₂, w₂, hw₂, hrun₂⟩ :=
    negotiateTier_of_not_offers net address seconds files hw₁ hroot [.shell] why₁
  by_cases hshell : Offers .shell shell.1
  · have hresult : result = .ok .shell := hrun₁.trans
      (hrun₂.trans (negotiateTier_of_offers net address seconds files hw₂ hshell ..))
    simp [hresult, hkernel, hroot, hshell]
  obtain ⟨why₃, w₃, -, hrun₃⟩ :=
    negotiateTier_of_not_offers net address seconds files hw₂ hshell [] why₂
  have hresult : result = .error (.unavailable why₃) := hrun₁.trans (hrun₂.trans hrun₃)
  simp [hresult, hkernel, hroot, hshell]

end Tiers

end OverlayControl.Socket
