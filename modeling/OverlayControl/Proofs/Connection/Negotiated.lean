import OverlayControl.Negotiation
import OverlayControl.Proofs.Transcript

/-!
# What a negotiation asks, and what it comes to

Nothing is assumed of the service: it may answer each question differently every time.

* `Talks` — an operation that only exchanges commands and answers with the service;
* `Accepted` — an answer that accepts a probe;
* `Probed` — the probes of a negotiation, up to the first that is accepted;
* `Negotiated` — a whole negotiation;
* `talks_negotiate` — every negotiation is one.
-/

namespace OverlayControl

variable {δ α β : Type} {d : Device δ}

/-- The operation `x` does nothing but exchange commands and answers with the service; `said` tells
which ones, and what it results in. -/
def Talks (d : Device δ) (x : Action δ α) (said : Transcript → α → Prop) : Prop :=
  ∀ w : World δ, ∃ t s, d.toService.Answers w.device t s ∧ said t (x.run w).1 ∧
    (x.run w).2 = w.after s (t.map Prod.fst)

theorem Talks.pure {said : Transcript → α → Prop} {a : α} (h : said [] a) :
    Talks d (Pure.pure a : Action δ α) said :=
  fun w => ⟨[], w.device, .nil _, h, w.after_nil.symm⟩

theorem Talks.weaken {x : Action δ α} {said said' : Transcript → α → Prop} (hx : Talks d x said)
    (h : ∀ t a, said t a → said' t a) : Talks d x said' := by
  intro w
  obtain ⟨t, s, hanswers, hsaid, hafter⟩ := hx w
  exact ⟨t, s, hanswers, h _ _ hsaid, hafter⟩

/-- What is said in the second part comes after what is said in the first one. -/
theorem Talks.bind {x : Action δ α} {f : α → Action δ β} {first : Transcript → α → Prop}
    {said : Transcript → β → Prop} (hx : Talks d x first)
    (hf : ∀ t a, first t a → Talks d (f a) fun u b => said (t ++ u) b) :
    Talks d (x >>= f) said := by
  intro w
  obtain ⟨t, s, hanswers, hfirst, hafter⟩ := hx w
  obtain ⟨u, s', hanswers', hsaid, hafter'⟩ := hf _ _ hfirst (x.run w).2
  have hworld : ((x >>= f).run w).2 = w.after s' ((t ++ u).map Prod.fst) := by
    rw [List.map_append, ← World.after_after, ← hafter, ← hafter']
    rfl
  rw [hafter] at hanswers'
  exact ⟨t ++ u, s', hanswers.append hanswers', hsaid, hworld⟩

/-- A question to the service, and what is done with the answer. -/
theorem Talks.issue {c : Command} {f : Except ServiceError Reply → Action δ β}
    {said : Transcript → β → Prop}
    (hf : ∀ answer, Talks d (f answer) fun u b => said ((c, answer) :: u) b) :
    Talks d (OverlayControl.issue d c >>= f) said := by
  have hissue : Talks d (OverlayControl.issue d c) fun t answer => t = [(c, answer)] :=
    fun _ => ⟨_, _, .cons c (.nil _), rfl, rfl⟩
  refine hissue.bind ?_
  rintro _ answer rfl
  exact hf answer

/-- An answer that accepts a probe: a reply with no negative status and no negative number. -/
def Accepted (answer : Except ServiceError Reply) : Prop :=
  ∃ r, answer = .ok r ∧ 0 ≤ r.status ∧ ∀ n, r.value = some n → 0 ≤ n

theorem accepted_ok_iff {r : Reply} :
    Accepted (.ok r) ↔ ∃ code, probeCode r = some code ∧ 0 ≤ code := by
  obtain ⟨status, value, _, _⟩ := r
  by_cases hstatus : status < 0
  · simp [Accepted, probeCode, hstatus, Int.not_le.2 hstatus]
  · cases value <;> simp [Accepted, probeCode, hstatus, Int.not_lt.1 hstatus]

/-- An answer that accepts the probe grants a tier. -/
theorem Accepted.grant {answer : Except ServiceError Reply} (h : Accepted answer) (asked : Tier) :
    ∃ granted, grant asked answer = .ok granted := by
  obtain ⟨r, rfl, _⟩ := id h
  obtain ⟨code, hcode, hnonneg⟩ := accepted_ok_iff.1 h
  cases hnamed : Tier.ofCode code <;> simp [OverlayControl.grant, hcode, hnonneg, hnamed]

/-- Any other answer grants none. -/
theorem accepted_of_grant {answer : Except ServiceError Reply} {asked granted : Tier}
    (h : grant asked answer = .ok granted) : Accepted answer := by
  cases answer with
  | error e => simp [grant] at h
  | ok r =>
    rw [accepted_ok_iff]
    cases hcode : probeCode r with
    | none => simp [grant, hcode] at h
    | some code =>
      by_cases hnonneg : 0 ≤ code
      · exact ⟨code, rfl, hnonneg⟩
      · simp [grant, hcode, hnonneg] at h

theorem not_accepted_of_grant {answer : Except ServiceError Reply} {asked : Tier} {why : String}
    (h : grant asked answer = .error why) : ¬Accepted answer := by
  intro haccepted
  obtain ⟨granted, hok⟩ := haccepted.grant asked
  rw [h] at hok
  cases hok

/-- Tiers are asked for in order, and no probe is accepted. -/
structure Declines (tiers : List Tier) (t : Transcript) : Prop where
  /-- There is one probe for each tier. -/
  asked : t.map Prod.fst = tiers.map .probeTier
  /-- None is accepted. -/
  declined : ∀ x ∈ t, ¬Accepted x.2

theorem Declines.nil : Declines [] [] := ⟨rfl, by simp⟩

theorem Declines.cons {tier : Tier} {tiers : List Tier} {answer : Except ServiceError Reply}
    {t : Transcript} (h : Declines tiers t) (hanswer : ¬Accepted answer) :
    Declines (tier :: tiers) ((.probeTier tier, answer) :: t) := by
  refine ⟨by simp [h.asked], ?_⟩
  rintro x (_ | ⟨_, hx⟩)
  · exact hanswer
  · exact h.declined x hx

/-- The probes of a negotiation: tiers are asked for in order up to and including the first that is
accepted, and that one decides. -/
inductive Probed (tiers : List Tier) : Transcript → Except ConnectError Tier → Prop
  /-- All tiers are asked for in vain. -/
  | declined {t : Transcript} (declines : Declines tiers t) (why : String) :
      Probed tiers t (.error (.unavailable why))
  /-- A tier is accepted, and those before it are not. -/
  | accepted {before after : List Tier} {tier granted : Tier} {front : Transcript}
      {answer : Except ServiceError Reply} (order : tiers = before ++ tier :: after)
      (declines : Declines before front) (accepted : Accepted answer)
      (grants : grant tier answer = .ok granted) :
      Probed tiers (front ++ [(.probeTier tier, answer)]) (.ok granted)

theorem Probed.cons {tier : Tier} {tiers : List Tier} {answer : Except ServiceError Reply}
    {t : Transcript} {result : Except ConnectError Tier} (h : Probed tiers t result)
    (hanswer : ¬Accepted answer) :
    Probed (tier :: tiers) ((.probeTier tier, answer) :: t) result := by
  cases h with
  | declined declines why => exact .declined (declines.cons hanswer) why
  | accepted order declines accepted grants =>
    rw [← List.cons_append]
    exact .accepted (by rw [order, List.cons_append]) (declines.cons hanswer) accepted grants

theorem talks_negotiateTier (d : Device δ) (tiers : List Tier) (why : String) :
    Talks d (negotiateTier d tiers why) (Probed tiers) := by
  -- By induction on the tiers still to be asked for; each costs one probe.
  induction tiers generalizing why with
  | nil => exact .pure (.declined .nil why)
  | cons tier tiers ih =>
    refine .issue fun answer => ?_
    cases hgrant : grant tier answer with
    | ok granted =>
      exact .pure (.accepted rfl .nil (accepted_of_grant hgrant) hgrant)
    | error why' =>
      exact (ih why').weaken fun _ _ h => h.cons (not_accepted_of_grant hgrant)

/-- A negotiation, with all that is said in it. -/
inductive Negotiated (tolerant : Bool) : Transcript → Except ConnectError Connection → Prop
  /-- No tier is to be had, and nothing else is asked. -/
  | unavailable {probes : Transcript} {why : String}
      (probed : Probed [.kernel, .root, .shell] probes (.error (.unavailable why))) :
      Negotiated tolerant probes (.error (.unavailable why))
  /-- The service tells too old a version, and nothing else is asked. -/
  | outdated {probes : Transcript} {tier : Tier} {answer : Except ServiceError Reply} {found : Int}
      (probed : Probed [.kernel, .root, .shell] probes (.ok tier))
      (told : numberOf answer = some found) (old : 0 ≤ found ∧ found < minServiceVersion)
      (strict : tolerant = false) :
      Negotiated tolerant (probes ++ [(.serviceVersion, answer)])
        (.error (.versionMismatch found minServiceVersion))
  /-- The service is new enough, does not tell, or is tolerated. -/
  | established {probes : Transcript} {tier : Tier}
      {service engine context : Except ServiceError Reply}
      (probed : Probed [.kernel, .root, .shell] probes (.ok tier))
      (welcome : ∀ found, numberOf service = some found → 0 ≤ found → found < minServiceVersion →
        tolerant = true) :
      Negotiated tolerant
        (probes ++ [(.serviceVersion, service), (.engineVersion, engine),
          (.selinuxContext none, context)])
        (.ok { tier, serviceVersion := (numberOf service).getD (-1)
               engineVersion := (numberOf engine).getD (-1), selinuxContext := contextOf context })

/-- Every negotiation asks for the tiers first, then for the versions and the context, and stops as
soon as it fails. -/
theorem talks_negotiate (d : Device δ) (tolerant : Bool) :
    Talks d (negotiate d tolerant) (Negotiated tolerant) := by
  refine (talks_negotiateTier d _ _).bind fun probes result hprobed => ?_
  cases hprobed with
  | declined declines why =>
    refine .pure ?_
    rw [List.append_nil]
    exact .unavailable (.declined declines why)
  | accepted order declines accepted grants =>
    have hprobed := Probed.accepted order declines accepted grants
    refine .issue fun service => ?_
    dsimp only
    split
    · rename_i hold
      -- A version that is not told counts as -1, so this one has been told.
      cases htold : numberOf service with
      | none =>
        rw [htold] at hold
        exact absurd hold.1 (by decide)
      | some found =>
        rw [htold] at hold
        exact .pure (.outdated hprobed htold ⟨hold.1, hold.2.1⟩ hold.2.2)
    · rename_i hwelcome
      refine .issue fun engine => .issue fun context => .pure ?_
      refine .established hprobed fun found htold hnonneg hless => ?_
      rw [htold] at hwelcome
      rw [← Bool.not_eq_false]
      exact fun hstrict => hwelcome ⟨hnonneg, hless, hstrict⟩

end OverlayControl
