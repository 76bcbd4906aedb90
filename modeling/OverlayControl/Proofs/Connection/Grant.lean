import OverlayControl.Proofs.Connection.Negotiated
import OverlayControl.Proofs.Privilege

/-!
# The tier that a negotiation grants

Tiers are probed from the highest to the lowest, and the first answer that accepts decides. It
carries a code, and the tier that is granted is the lower one of the tier that was asked for and the
tier that the code names.

* `Service.probes` — the answers to the probes of a row of tiers;
* `AcceptedAs`, `FirstAccepted` — the answer that decides, and its code;
* `Tier.limitedBy` — the tier that a code grants;
* `negotiation_grants_first_accepted` — what is granted, and when nothing is.
-/

namespace OverlayControl

/-- The answers that a service gives to the probes of a row of tiers, one after the other. -/
def Service.probes {σ : Type} (service : Service σ) :
    List Tier → σ → List (Tier × Except ServiceError Reply)
  | [], _ => []
  | t :: ts, s =>
    let (answer, s') := service.call (.probeTier t) s
    (t, answer) :: service.probes ts s'

/-- Each tier of the row is probed, in order. -/
theorem Service.fst_probes {σ : Type} (service : Service σ) (tiers : List Tier) (s : σ) :
    (service.probes tiers s).map Prod.fst = tiers := by
  induction tiers generalizing s with
  | nil => rfl
  | cons t ts ih => rw [Service.probes, List.map_cons, ih]

/-- An answer that accepts a probe with a code: a reply with no negative status, whose number, or
else its status, is the code and is not negative. -/
def AcceptedAs (answer : Except ServiceError Reply) (code : Int) : Prop :=
  ∃ r, answer = .ok r ∧ 0 ≤ r.status ∧ code = r.value.getD r.status ∧ 0 ≤ code

theorem acceptedAs_ok_iff {r : Reply} {code : Int} :
    AcceptedAs (.ok r) code ↔ probeCode r = some code ∧ 0 ≤ code := by
  by_cases hstatus : r.status < 0
  · simp [AcceptedAs, probeCode, hstatus, Int.not_le.2 hstatus]
  · simp [AcceptedAs, probeCode, hstatus, Int.not_lt.1 hstatus, eq_comm]

theorem accepted_iff_exists_code {answer : Except ServiceError Reply} :
    Accepted answer ↔ ∃ code, AcceptedAs answer code := by
  cases answer with
  | error e => simp [Accepted, AcceptedAs]
  | ok r => simp only [accepted_ok_iff, acceptedAs_ok_iff]

/-- The tier that a code grants to one who has asked for a tier: the lower one of the two, or the
tier that was asked for when the code names none. -/
def Tier.limitedBy (asked : Tier) (code : Int) : Tier :=
  (ofCode code).elim asked fun named => named.lower asked

/-- The tier that is granted has the lower one of both codes. -/
theorem Tier.code_limitedBy (asked : Tier) {code : Int} (h : 0 ≤ code) :
    (asked.limitedBy code).code = min asked.code code := by
  cases hnamed : ofCode code with
  | none =>
    rw [limitedBy, hnamed, Option.elim_none,
      Int.min_eq_left (Int.le_of_lt (code_lt_of_ofCode_eq_none h hnamed asked))]
  | some named =>
    rw [limitedBy, hnamed, Option.elim_some, code_lower, eq_code_of_ofCode hnamed, Int.min_comm]

/-- An answer grants a tier exactly when it accepts the probe. -/
theorem grant_eq_ok_iff {asked granted : Tier} {answer : Except ServiceError Reply} :
    grant asked answer = .ok granted ↔
      ∃ code, AcceptedAs answer code ∧ granted = asked.limitedBy code := by
  cases answer with
  | error e => simp [grant, AcceptedAs]
  | ok r =>
    simp only [acceptedAs_ok_iff]
    cases hcode : probeCode r with
    | none => simp [grant, hcode]
    | some code =>
      by_cases hnonneg : 0 ≤ code
      · have hgrant : grant asked (.ok r) = .ok (asked.limitedBy code) := by
          cases hnamed : Tier.ofCode code <;> simp [grant, hcode, hnonneg, hnamed, Tier.limitedBy]
        rw [hgrant, Except.ok.injEq, eq_comm]
        exact ⟨fun h => ⟨code, ⟨rfl, hnonneg⟩, h⟩, by rintro ⟨_, ⟨⟨⟩, -⟩, h⟩; exact h⟩
      · simp [grant, hcode, hnonneg]

/-- Among the answers to the probes of a row of tiers, the first one that accepts is the one for the
tier `p`, and it carries the code. -/
def FirstAccepted (probes : List (Tier × Except ServiceError Reply)) (p : Tier) (code : Int) :
    Prop :=
  ∃ before answer after, probes = before ++ (p, answer) :: after ∧
    (∀ x ∈ before, ¬Accepted x.2) ∧ AcceptedAs answer code

section FirstAccepted

variable {asked p : Tier} {answer : Except ServiceError Reply} {code : Int}
  {probes : List (Tier × Except ServiceError Reply)}

theorem not_firstAccepted_nil : ¬FirstAccepted [] p code := by
  rintro ⟨before, answer, after, hsplit, -⟩
  simp at hsplit

theorem firstAccepted_cons_of_accepted (h : Accepted answer) :
    FirstAccepted ((asked, answer) :: probes) p code ↔ p = asked ∧ AcceptedAs answer code := by
  constructor
  · rintro ⟨before, answer', after, hsplit, hdeclined, hcode⟩
    rcases List.cons_eq_append_iff.1 hsplit with ⟨-, heq⟩ | ⟨rest, rfl, -⟩
    · cases heq
      exact ⟨rfl, hcode⟩
    · exact absurd h (hdeclined _ List.mem_cons_self)
  · rintro ⟨rfl, hcode⟩
    exact ⟨[], answer, probes, rfl, by simp, hcode⟩

theorem firstAccepted_cons_of_not_accepted (h : ¬Accepted answer) :
    FirstAccepted ((asked, answer) :: probes) p code ↔ FirstAccepted probes p code := by
  constructor
  · rintro ⟨before, answer', after, hsplit, hdeclined, hcode⟩
    rcases List.cons_eq_append_iff.1 hsplit with ⟨-, heq⟩ | ⟨rest, rfl, hrest⟩
    · cases heq
      exact absurd (accepted_iff_exists_code.2 ⟨code, hcode⟩) h
    · exact ⟨rest, answer', after, hrest,
        fun x hx => hdeclined x (List.mem_cons_of_mem _ hx), hcode⟩
  · rintro ⟨before, answer', after, rfl, hdeclined, hcode⟩
    exact ⟨(asked, answer) :: before, answer', after, rfl, List.forall_mem_cons.2 ⟨h, hdeclined⟩,
      hcode⟩

/-- Some answer decides exactly when some answer accepts. -/
theorem exists_firstAccepted_iff :
    (∃ p code, FirstAccepted probes p code) ↔ ∃ x ∈ probes, Accepted x.2 := by
  induction probes with
  | nil => simp [not_firstAccepted_nil]
  | cons x probes ih =>
    by_cases h : Accepted x.2
    · simp [firstAccepted_cons_of_accepted h, ← accepted_iff_exists_code, h]
    · simp [firstAccepted_cons_of_not_accepted h, ih, h]

end FirstAccepted

variable {δ : Type}

theorem run_negotiateTier_cons (d : Device δ) (t : Tier) (ts : List Tier) (why : String)
    (w : World δ) :
    (negotiateTier d (t :: ts) why).run w =
      match grant t ((issue d (.probeTier t)).run w).1 with
      | .ok granted => (.ok granted, ((issue d (.probeTier t)).run w).2)
      | .error why' => (negotiateTier d ts why').run ((issue d (.probeTier t)).run w).2 := by
  change (match grant t ((issue d (.probeTier t)).run w).1 with
      | .ok granted => pure (.ok granted)
      | .error why' => negotiateTier d ts why' : Action δ _).run _ = _
  cases grant t ((issue d (.probeTier t)).run w).1 <;> rfl

/-- Asking for a row of tiers comes to what the first answer that accepts grants. -/
theorem negotiateTier_eq_ok_iff (d : Device δ) (tiers : List Tier) (why : String) (w : World δ)
    (granted : Tier) :
    ((negotiateTier d tiers why).run w).1 = .ok granted ↔
      ∃ p code, FirstAccepted (d.toService.probes tiers w.device) p code ∧
        granted = p.limitedBy code := by
  -- By induction on the tiers still to be asked for; each costs one probe.
  induction tiers generalizing why w with
  | nil =>
    simp only [Service.probes, not_firstAccepted_nil]
    simp [negotiateTier]
  | cons t ts ih =>
    rw [run_negotiateTier_cons, Service.probes]
    change _ ↔ ∃ p code, FirstAccepted ((t, ((issue d (.probeTier t)).run w).1) ::
      d.toService.probes ts ((issue d (.probeTier t)).run w).2.device) p code ∧ _
    generalize (issue d (.probeTier t)).run w = told
    obtain ⟨answer, w'⟩ := told
    cases hgrant : grant t answer with
    | ok g =>
      simp only [firstAccepted_cons_of_accepted (accepted_of_grant hgrant)]
      have hlaw : Except.ok g = .ok granted ↔
          ∃ code, AcceptedAs answer code ∧ granted = t.limitedBy code := hgrant ▸ grant_eq_ok_iff
      simpa [and_assoc] using hlaw
    | error why' =>
      simpa only [firstAccepted_cons_of_not_accepted (not_accepted_of_grant hgrant)] using ih why' w'

/-- Asking for a row of tiers fails exactly when no answer accepts. -/
theorem negotiateTier_eq_error_iff (d : Device δ) (tiers : List Tier) (why : String)
    (w : World δ) :
    (∃ reason, ((negotiateTier d tiers why).run w).1 = .error (.unavailable reason)) ↔
      ∀ x ∈ d.toService.probes tiers w.device, ¬Accepted x.2 := by
  have hgranted := negotiateTier_eq_ok_iff d tiers why w
  have hsome : (∃ p code, FirstAccepted (d.toService.probes tiers w.device) p code) ↔ _ :=
    exists_firstAccepted_iff
  obtain ⟨_, _, _, hprobed, _⟩ := talks_negotiateTier d tiers why w
  generalize ((negotiateTier d tiers why).run w).1 = result at hgranted hprobed ⊢
  -- Asking ends in one of two ways, and an answer that accepts excludes the first one.
  cases hprobed with
  | declined declines reason =>
    refine ⟨fun _ x hx haccepted => ?_, fun _ => ⟨reason, rfl⟩⟩
    obtain ⟨p, code, hfirst⟩ := hsome.2 ⟨x, hx, haccepted⟩
    cases (hgranted (p.limitedBy code)).2 ⟨p, code, hfirst, rfl⟩
  | @accepted _ _ _ granted =>
    refine ⟨nofun, fun hdeclined => ?_⟩
    obtain ⟨p, code, hfirst, -⟩ := (hgranted granted).1 rfl
    obtain ⟨x, hx, haccepted⟩ := hsome.1 ⟨p, code, hfirst⟩
    exact absurd haccepted (hdeclined x hx)

/-- The tier of a connection is the one that was granted. -/
theorem negotiateTier_of_negotiate {d : Device δ} {tolerant : Bool} {w : World δ} {c : Connection}
    (h : ((negotiate d tolerant).run w).1 = .ok c) :
    ((negotiateTier d Tier.descending "no tier probe answered").run w).1 = .ok c.tier := by
  rw [negotiate, StateT.run_bind] at h
  generalize (negotiateTier d Tier.descending "no tier probe answered").run w = told at h ⊢
  obtain ⟨result, w'⟩ := told
  cases result with
  | error e => cases h
  | ok tier =>
    change ((if _ then _ else _ : Action δ _).run ((issue d .serviceVersion).run w').2).1 = _ at h
    -- The connection is refused when the version is too old; else it has the tier.
    split at h <;> cases h
    rfl

/-- No negotiation is granted more than it has probed. The kernel tier is probed first, then the
root tier, then the shell tier. The first answer that accepts its probe grants the lower one of the
tier that was asked for and the tier that its code names, or the former when the code names none; no
connection comes about exactly when no answer accepts. So what is granted is never above the tier
whose probe was accepted, and it includes all that lower tiers grant. -/
theorem negotiation_grants_first_accepted (d : Device δ) (w : World δ) :
    let probes := d.toService.probes Tier.descending w.device
    let result := ((negotiateTier d Tier.descending "no tier probe answered").run w).1
    probes.map Prod.fst = [.kernel, .root, .shell] ∧
    (∀ granted, result = .ok granted ↔ ∃ p code, FirstAccepted probes p code ∧
      granted = p.limitedBy code) ∧
    (∀ p code, FirstAccepted probes p code →
      (p.limitedBy code).code = min p.code code ∧ (p.limitedBy code).atMost p = true) ∧
    ((∃ why, result = .error (.unavailable why)) ↔ ∀ x ∈ probes, ¬Accepted x.2) ∧
    (∀ tolerant c, ((negotiate d tolerant).run w).1 = .ok c → result = .ok c.tier) ∧
    ∀ lower granted : Tier, lower.atMost granted = true →
      lower.capabilities.within granted.capabilities = true := by
  dsimp only
  refine ⟨Service.fst_probes _ _ _, negotiateTier_eq_ok_iff d _ _ w, fun p code hfirst => ?_,
    negotiateTier_eq_error_iff d _ _ w, fun _ _ => negotiateTier_of_negotiate,
    fun _ _ => Tier.within_of_atMost⟩
  obtain ⟨-, -, -, -, -, -, -, -, -, hnonneg⟩ := hfirst
  have hcode := p.code_limitedBy hnonneg
  refine ⟨hcode, ?_⟩
  rw [Tier.atMost_iff, hcode]
  exact Int.min_le_left _ _

/-- A service that declines the kernel probe, and then answers the root probe with the code of the
kernel tier, has granted the root tier. -/
theorem negotiation_grants_root_to_overclaim :
    let d : Device Unit :=
      { transport := .socket
        call := fun c s =>
          (.ok (.ofStatus (if c = .probeTier .kernel then -1 else Tier.kernel.code)), s)
        hangUp := fun s => (.ok (), s)
        readFile := fun _ _ => .error .notFound
        replaceFile := fun _ _ s => (.ok (), s) }
    let w : World Unit := { device := () }
    FirstAccepted (d.toService.probes Tier.descending w.device) .root Tier.kernel.code ∧
      ((negotiateTier d Tier.descending "no tier probe answered").run w).1 = .ok .root := by
  intro d w
  have hfirst : FirstAccepted (d.toService.probes Tier.descending w.device) .root
      Tier.kernel.code := by
    refine ⟨[(.kernel, .ok (.ofStatus (-1)))], .ok (.ofStatus Tier.kernel.code),
      [(.shell, .ok (.ofStatus Tier.kernel.code))], rfl, ?_, ?_⟩
    · simp [Accepted, Reply.ofStatus]
    · exact ⟨_, rfl, by decide, rfl, by decide⟩
  obtain ⟨-, hgranted, -⟩ := negotiation_grants_first_accepted d w
  exact ⟨hfirst, (hgranted .root).2 ⟨.root, Tier.kernel.code, hfirst, rfl⟩⟩

end OverlayControl
