import OverlayControl.Proofs.Connection.Grant
import OverlayControl.Proofs.Connection.Lifecycle
import OverlayControl.Proofs.Socket.Grant

/-!
# The versions that are accepted

An owner who tolerates no old service gives up a negotiation when the service tells too old a
version. A version that is not told counts as -1, and this lets a service pass that tells a negative
version, however old that is. Over the socket no negative version is ever told.

* `TellsVersion` — the answers that tell a version;
* `Admission` — what the answer to the question for the version makes of a negotiation;
* `Vouched`, `Vouched.perform` — the live connection has been admitted, and each call keeps it so;
* `versions_admitted` — all negotiations, and all connections that come of them;
* `Admission.of_nonneg`, `Socket.old_versions_refused` — where no negative version is told, as over
  a socket, every old version is refused.
-/

namespace OverlayControl

open Lifecycle (Call perform exists_run_connect run_connect_of_none run_connect_of_some)

/-- The answer tells a version: it is a reply with no negative status, and it carries a number. -/
def TellsVersion (answer : Except ServiceError Reply) (found : Int) : Prop :=
  ∃ r, answer = .ok r ∧ 0 ≤ r.status ∧ r.value = some found

theorem numberOf_eq_some_iff {answer : Except ServiceError Reply} {found : Int} :
    numberOf answer = some found ↔ TellsVersion answer found := by
  cases answer with
  | error e => simp [numberOf, TellsVersion]
  | ok r => simp [numberOf, TellsVersion]

/-- What the answer to the question for the version makes of a negotiation in which a tier was
granted, if no old service is tolerated. -/
inductive Admission (tier : Tier) (answer : Except ServiceError Reply) :
    Except ConnectError Connection → Prop
  /-- The service is too old. -/
  | refused {found : Int} (told : TellsVersion answer found) (nonneg : 0 ≤ found)
      (old : found < minServiceVersion) :
      Admission tier answer (.error (.versionMismatch found minServiceVersion))
  /-- The service is new enough. -/
  | recent {c : Connection} (granted : c.tier = tier) (told : TellsVersion answer c.serviceVersion)
      (recent : minServiceVersion ≤ c.serviceVersion) : Admission tier answer (.ok c)
  /-- The service does not tell its version. -/
  | untold {c : Connection} (granted : c.tier = tier) (untold : ∀ found, ¬TellsVersion answer found)
      (unknown : c.serviceVersion = -1) : Admission tier answer (.ok c)
  /-- The service tells a negative version, as if it had told none. -/
  | negative {c : Connection} (granted : c.tier = tier)
      (told : TellsVersion answer c.serviceVersion) (negative : c.serviceVersion < 0) :
      Admission tier answer (.ok c)

variable {δ : Type} {d : Device δ} {w w' : World δ} {tier : Tier}

/-- Where no negative version is told, a version that is told is refused exactly when it is old, and
a connection has a version that is not old, or -1 if none is told. -/
theorem Admission.of_nonneg {answer : Except ServiceError Reply}
    {result : Except ConnectError Connection} (h : Admission tier answer result)
    (hnonneg : ∀ found, TellsVersion answer found → 0 ≤ found) :
    (∀ found, TellsVersion answer found →
      (result = .error (.versionMismatch found minServiceVersion) ↔ found < minServiceVersion)) ∧
    ∀ c, result = .ok c → minServiceVersion ≤ c.serviceVersion ∨
      c.serviceVersion = -1 ∧ ∀ found, ¬TellsVersion answer found := by
  have hunique {v v' : Int} (hv : TellsVersion answer v) (hv' : TellsVersion answer v') :
      v = v' := by
    rw [← numberOf_eq_some_iff] at hv hv'
    exact Option.some.inj (hv.symm.trans hv')
  cases h with
  | refused told nonneg old =>
    refine ⟨fun found hfound => ?_, nofun⟩
    obtain rfl := hunique told hfound
    exact ⟨fun _ => old, fun _ => rfl⟩
  | recent granted told recent =>
    refine ⟨fun found hfound => ⟨nofun, fun hold => ?_⟩, ?_⟩
    · obtain rfl := hunique told hfound
      exact absurd hold (Int.not_lt.2 recent)
    · rintro c ⟨⟩
      exact .inl recent
  | untold granted untold unknown =>
    refine ⟨fun found hfound => absurd hfound (untold found), ?_⟩
    rintro c ⟨⟩
    exact .inr ⟨unknown, untold⟩
  | negative granted told negative => exact absurd (hnonneg _ told) (Int.not_le.2 negative)

/-- Once a tier is granted, the version alone decides. -/
theorem fst_run_negotiate_of_granted (tolerant : Bool)
    (hgranted : (negotiateTier d Tier.descending "no tier probe answered").run w = (.ok tier, w')) :
    ∃ engineVersion selinuxContext,
      let serviceVersion := (numberOf (d.call .serviceVersion w'.device).1).getD (-1)
      ((negotiate d tolerant).run w).1 =
        if 0 ≤ serviceVersion ∧ serviceVersion < minServiceVersion ∧ tolerant = false then
          .error (.versionMismatch serviceVersion minServiceVersion)
        else .ok { tier, serviceVersion, engineVersion, selinuxContext } := by
  let w₁ := ((issue d .serviceVersion).run w').2
  let w₂ := ((issue d .engineVersion).run w₁).2
  refine ⟨(numberOf (d.call .engineVersion w₁.device).1).getD (-1),
    contextOf (d.call (.selinuxContext none) w₂.device).1, ?_⟩
  rw [negotiate, StateT.run_bind, hgranted]
  change ((if _ then _ else _ : Action δ _).run w₁).1 = _
  split <;> rfl

/-- The negotiation is given up, or it comes to a connection, as the version demands. -/
theorem admission_of_granted
    (hgranted : (negotiateTier d Tier.descending "no tier probe answered").run w = (.ok tier, w')) :
    Admission tier (d.call .serviceVersion w'.device).1 ((negotiate d false).run w).1 := by
  obtain ⟨engineVersion, selinuxContext, hrun⟩ := fst_run_negotiate_of_granted false hgranted
  rw [hrun]
  generalize (d.call .serviceVersion w'.device).1 = answer
  cases htold : numberOf answer with
  | none =>
    -- The version counts as -1, which is never refused.
    refine .untold rfl (fun found h => ?_) rfl
    rw [numberOf_eq_some_iff.2 h] at htold
    cases htold
  | some found =>
    have htells := numberOf_eq_some_iff.1 htold
    rw [Option.getD_some]
    split
    · next hold => exact .refused htells hold.1 hold.2.1
    · next hwelcome =>
      -- Only a version that is not negative has been compared with the oldest one.
      rcases Int.lt_or_le found 0 with hnegative | hnonneg
      · exact .negative rfl htells hnegative
      · exact .recent rfl htells (Int.not_lt.1 fun hless => hwelcome ⟨hnonneg, hless, rfl⟩)

/-- Without a live connection, what is negotiated is returned, and is the live connection. -/
theorem run_connect_settles (d : Device δ) (tolerant : Bool) (hfree : w.connection = none) :
    ((connect d tolerant).run w).1 = ((negotiate d tolerant).run w).1 ∧
      ∀ c, ((connect d tolerant).run w).2.connection = some c ↔
        ((connect d tolerant).run w).1 = .ok c := by
  constructor
  · rw [run_connect_of_none d tolerant hfree]
    obtain ⟨result, w'⟩ := (negotiate d tolerant).run w
    cases result <;> rfl
  · -- There was no connection, and a negotiation that fails leaves none behind.
    intro c
    obtain ⟨t, s, result, -, -, hrun⟩ := exists_run_connect d tolerant hfree
    rw [hrun]
    cases result <;> simp [Lifecycle.negotiated, Except.toOption]

/-- The live connection, if there is one, has been admitted for some answer of the service. -/
def Vouched (d : Device δ) (live : Option Connection) : Prop :=
  ∀ c, live = some c → ∃ s, Admission c.tier (d.call .serviceVersion s).1 (.ok c)

namespace Vouched

theorem none : Vouched d none := nofun

/-- What a strict owner connects to has been admitted. -/
theorem connect (h : Vouched d w.connection) :
    Vouched d ((OverlayControl.connect d false).run w).2.connection := by
  cases hlive : w.connection with
  | some c =>
    rw [run_connect_of_some d false hlive]
    exact h
  | none =>
    obtain ⟨hresult, hsettled⟩ := run_connect_settles d false hlive
    intro c hc
    have hok : ((negotiate d false).run w).1 = .ok c := by
      rw [← hresult]
      exact (hsettled c).1 hc
    have hgranted := negotiateTier_of_negotiate hok
    have hadmitted := admission_of_granted (Prod.ext hgranted rfl)
    rw [hok] at hadmitted
    exact ⟨_, hadmitted⟩

/-- Each call of a strict owner keeps the live connection vouched for. -/
theorem perform (h : Vouched d w.connection) (call : Call) :
    Vouched d ((Lifecycle.perform d false call).run w).2.connection := by
  cases call with
  | connect => exact h.connect
  | disconnect => exact .none
  | reconnect => exact connect (w := Lifecycle.hungUp d w) .none

/-- And so do any number of calls. -/
theorem mapM_perform (h : Vouched d w.connection) (calls : List Call) :
    Vouched d ((calls.mapM (Lifecycle.perform d false)).run w).2.connection := by
  -- By induction on the calls, from any world whose connection is vouched for.
  induction calls generalizing w with
  | nil => exact h
  | cons call calls ih =>
    rw [List.mapM_cons]
    exact ih (h.perform call)

end Vouched

/-- An owner who tolerates no old service connects to any device. If there is no connection yet and
a tier is granted, the version that the service tells decides: from 0 up to the oldest version that
is accepted, it is refused and there is no live connection; otherwise the connection has this
version, or -1 if none is told. After any number of calls the live connection has such a version. -/
theorem versions_admitted (d : Device δ) :
    (∀ (w w' : World δ) (tier : Tier), w.connection = none →
      (negotiateTier d Tier.descending "no tier probe answered").run w = (.ok tier, w') →
      Admission tier (d.call .serviceVersion w'.device).1 ((connect d false).run w).1 ∧
        ∀ c, ((connect d false).run w).2.connection = some c ↔
          ((connect d false).run w).1 = .ok c) ∧
    ∀ (calls : List Call) (s : δ) (c : Connection),
      ((calls.mapM (perform d false)).run { device := s }).2.connection = some c →
      ∃ s', Admission c.tier (d.call .serviceVersion s').1 (.ok c) := by
  refine ⟨fun w w' tier hfree hgranted => ?_, fun calls s => ?_⟩
  · obtain ⟨hresult, hsettled⟩ := run_connect_settles d false hfree
    rw [hresult] at hsettled ⊢
    exact ⟨admission_of_granted hgranted, hsettled⟩
  · let w : World δ := { device := s }
    exact Vouched.mapM_perform (w := w) .none calls

/-- A service that tells the version 0 is refused; one that tells the version -2 is connected to. -/
theorem versions_admitted_of_negative :
    let d (v : Int) : Device Unit :=
      { transport := .shell
        call := fun c s =>
          (.ok { Reply.ofStatus 0 with value := if c = .serviceVersion then v else some 2 }, s)
        hangUp := fun s => (.ok (), s)
        readFile := fun _ _ => .error .notFound
        replaceFile := fun _ _ s => (.ok (), s) }
    let w : World Unit := { device := () }
    let c : Connection := ⟨.kernel, -2, 2, none⟩
    w.connection = none ∧
    (∀ v, ((negotiateTier (d v) Tier.descending "no tier probe answered").run w).1 =
      .ok .kernel) ∧
    Admission .kernel ((d 0).call .serviceVersion ()).1
      (.error (.versionMismatch 0 minServiceVersion)) ∧
    Admission .kernel ((d (-2)).call .serviceVersion ()).1 (.ok c) ∧
    ((([.connect] : List Call).mapM (perform (d (-2)) false)).run w).2.connection = some c ∧
    ∃ s', Admission .kernel ((d (-2)).call .serviceVersion s').1 (.ok c) := by
  intro d w c
  have hgranted (v : Int) :
      ((negotiateTier (d v) Tier.descending "no tier probe answered").run w).1 = .ok .kernel := rfl
  have hlive : ((([.connect] : List Call).mapM (perform (d (-2)) false)).run w).2.connection =
      some c := by decide
  refine ⟨rfl, hgranted, ?_, ?_, hlive, ?_⟩
  · exact ((versions_admitted (d 0)).1 w _ .kernel rfl (Prod.ext (hgranted 0) rfl)).1
  · exact ((versions_admitted (d (-2))).1 w _ .kernel rfl (Prod.ext (hgranted (-2)) rfl)).1
  · exact (versions_admitted (d (-2))).2 [.connect] () c hlive

namespace Socket

variable {ω : Type} (net : Network ω) (address : Address) (seconds : Nat)
  (files : Storage (Client × ω))

/-- Over a socket no negative version is told: what tells one has a negative status. -/
theorem nonneg_of_tellsVersion {s : Client × ω} {found : Int}
    (h : TellsVersion ((device net address seconds files).call .serviceVersion s).1 found) :
    0 ≤ found := by
  have hframe : Frame.ofCommand .serviceVersion = .ok ⟨1, []⟩ := rfl
  have hcall := congrArg Prod.fst (Client.call_of_frame net address seconds hframe s)
  obtain ⟨r, hr, hstatus, hvalue⟩ := h
  replace hcall := hcall.symm.trans hr
  dsimp only at hcall
  generalize (Client.respond net address seconds ⟨1, []⟩ s).1 = response at hcall
  rcases response with e | ⟨header, payload⟩
  · cases hcall
  · have hreply : replyOf .serviceVersion header.result payload = r := Except.ok.inj hcall
    rw [← hreply] at hstatus hvalue
    rcases Int.lt_or_le header.result 0 with hresult | hresult
    · rw [replyOf_of_neg payload _ hresult] at hvalue
      cases hvalue
    · rw [replyOf_serviceVersion payload hresult] at hstatus hvalue
      obtain rfl := Option.some.inj hvalue
      refine Int.not_lt.1 fun hnegative => ?_
      simp only [if_neg (Int.not_le.2 hnegative)] at hstatus
      exact absurd hstatus (by decide)

/-- So an old service is always refused over a socket, and what the live connection has for a
version is not old, unless it is -1. -/
theorem old_versions_refused :
    (∀ (w w' : World (Client × ω)) (tier : Tier) (found : Int), w.connection = none →
      (negotiateTier (device net address seconds files) Tier.descending
        "no tier probe answered").run w = (.ok tier, w') →
      TellsVersion ((device net address seconds files).call .serviceVersion w'.device).1 found →
      (((connect (device net address seconds files) false).run w).1 =
        .error (.versionMismatch found minServiceVersion) ↔ found < minServiceVersion)) ∧
    ∀ (calls : List Call) (s : Client × ω) (c : Connection),
      ((calls.mapM (perform (device net address seconds files) false)).run
        { device := s }).2.connection = some c →
      minServiceVersion ≤ c.serviceVersion ∨ c.serviceVersion = -1 := by
  have hnonneg (s : Client × ω) (found : Int)
      (h : TellsVersion ((device net address seconds files).call .serviceVersion s).1 found) :=
    nonneg_of_tellsVersion net address seconds files h
  refine ⟨fun w w' tier found hfree hgranted htold => ?_, fun calls s c hlive => ?_⟩
  · have hadmitted := admission_of_granted hgranted
    rw [(run_connect_settles _ false hfree).1]
    exact (hadmitted.of_nonneg (hnonneg _)).1 found htold
  · let w : World (Client × ω) := { device := s }
    obtain ⟨s', hadmitted⟩ := Vouched.mapM_perform (w := w) .none calls c hlive
    exact ((hadmitted.of_nonneg (hnonneg _)).2 c rfl).imp id And.left

end Socket

end OverlayControl
