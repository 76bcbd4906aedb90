import OverlayControl.Proofs.Rule.Refinement

/-!
# What an addition says to the engine

Nothing is assumed of the engine: it may answer each command differently every time, and other
actors may change its rules between two commands. An addition lists the rules first. Unless that
listing has a number for the rule, the rule is submitted, once; and if the engine takes it without
telling a number in range, or says that it has the rule already, the rules are listed once more.

* `RuleStore.listedId` — the number that the answer to a listing has for a rule;
* `RuleStore.Submitted` — all that is said in an addition, and what it comes to;
* `RuleStore.run_existingId_of_live`, `RuleStore.submitted_of_submit` — the two parts of an
  addition;
* `RuleStore.add_submits_once` — every addition over a live connection is one.
-/

namespace OverlayControl

variable {δ : Type}

namespace RuleStore

/-- The number that the answer to a listing has for a rule: that of the first rule of its key, if
the listing succeeded, can be read, has such a rule, and tells its number. -/
def listedId (r : Rule) (answer : Except ServiceError Reply) : Option RuleId :=
  let o := Outcome.ofAnswer .listRules answer
  if o.success then
    (Listing.read o.text).toOption.bind fun rules =>
      (rules.find? fun p => p.sameKey r).bind Rule.id
  else none

/-- It is that of the rule in the table that the listing amounts to. -/
theorem listedId_eq (r : Rule) (answer : Except ServiceError Reply) :
    listedId r answer =
      match tableOf (Outcome.ofAnswer .listRules answer) with
      | .ok t => (t.find? r).bind Rule.id
      | .error _ => none := by
  unfold listedId tableOf
  generalize Outcome.ofAnswer .listRules answer = o
  dsimp only
  by_cases hsuccess : o.success = true
  · rw [if_pos hsuccess, if_pos hsuccess]
    cases Listing.read o.text with
    | error e => rfl
    | ok rules =>
      dsimp only
      rw [RuleTable.find?_ofList]
      rfl
  · rw [if_neg hsuccess, if_neg hsuccess]

/-- The outcome that the answer to a submission amounts to. -/
def submission (r : Rule) (answer : Except ServiceError Reply) : Outcome :=
  Outcome.ofAnswer (.addRule r.kind r.source r.target r.flags) answer

/-- Whether the rules are listed again after a submission: the engine has taken the rule without
telling a 32-bit word for its number, or says that it has the rule already. -/
def asksAgain (o : Outcome) : Prop :=
  (o.success = true ∧ ∀ i : RuleId, o.value ≠ some (i.number.toNat : Int)) ∨
    (o.success = false ∧ o.status = some alreadyExists)

/-- All that is said in an addition of a rule, and what the addition comes to. -/
structure Submitted (r : Rule) (t : Transcript) (result : Except RuleError RuleId) : Prop where
  /-- The rules are listed; then the rule may be submitted; then the rules may be listed again. -/
  commands : t.map Prod.fst = [.listRules] ∨
    t.map Prod.fst = [.listRules, .addRule r.kind r.source r.target r.flags] ∨
    t.map Prod.fst = [.listRules, .addRule r.kind r.source r.target r.flags, .listRules]
  /-- The rule is submitted exactly when the first listing has no number for it. -/
  submits : ∀ first rest, t = (.listRules, first) :: rest → (rest ≠ [] ↔ listedId r first = none)
  /-- The rules are listed again exactly when the submission leaves the number open. -/
  listsAgain : ∀ first c answer rest, t = (.listRules, first) :: (c, answer) :: rest →
    (rest ≠ [] ↔ asksAgain (submission r answer))
  /-- The result is a number exactly when a listing has it for the rule, or the engine told it as it
  took the rule. -/
  number : ∀ i, result = .ok i ↔
    (∃ answer, (.listRules, answer) ∈ t ∧ listedId r answer = some i) ∨
    ∃ answer, (.addRule r.kind r.source r.target r.flags, answer) ∈ t ∧
      (submission r answer).success = true ∧
      (submission r answer).value = some (i.number.toNat : Int)
  /-- Any other result is a refusal, or that the engine cannot be reached. -/
  error : ∀ e, result = .error e →
    (∃ code diagnostic, e = .rejected code diagnostic) ∨ ∃ why, e = .engineUnreachable why

/-- A reply tells a number in range exactly when it carries it. -/
theorem idOf_eq_some_iff {o : Outcome} {i : RuleId} :
    idOf o = some i ↔ o.value = some (i.number.toNat : Int) := by
  unfold idOf
  cases o.value with
  | none => simp
  | some v =>
    have hrange := i.number.toNat_lt
    constructor
    · intro h
      dsimp only at h
      split at h
      · next hv =>
        cases h
        have hlt : v.toNat < UInt32.size := (Int.toNat_lt hv.1).2 hv.2
        have hword : (UInt32.ofNat v.toNat).toNat = v.toNat := by
          rw [UInt32.toNat_ofNat', Nat.mod_eq_of_lt hlt]
        rw [hword, Int.toNat_of_nonneg hv.1]
      · cases h
    · intro h
      cases h
      dsimp only
      rw [if_pos ⟨Int.natCast_nonneg _, Int.ofNat_lt.2 hrange⟩, Int.toNat_natCast,
        UInt32.ofNat_toNat]

section Paths

variable {r : Rule} {first answer second : Except ServiceError Reply}

/-- The first listing has the number. -/
theorem Submitted.found {i : RuleId} (h : listedId r first = some i) :
    Submitted r [(.listRules, first)] (.ok i) where
  commands := .inl rfl
  submits := by
    rintro _ _ ⟨⟩
    simp [h]
  listsAgain := by
    rintro _ _ _ _ ⟨⟩
  number j := by
    simp [h]
  error := by
    rintro _ ⟨⟩

/-- The rule is submitted, and that decides. -/
theorem Submitted.decided {result : Except RuleError RuleId} (hfirst : listedId r first = none)
    (hagain : ¬asksAgain (submission r answer))
    (hnumber : ∀ i, result = .ok i ↔ (submission r answer).success = true ∧
      (submission r answer).value = some (i.number.toNat : Int))
    (herror : ∀ e, result = .error e → e = failure (submission r answer)) :
    Submitted r [(.listRules, first), (.addRule r.kind r.source r.target r.flags, answer)]
      result where
  commands := .inr (.inl rfl)
  submits := by
    rintro _ _ ⟨⟩
    simp [hfirst]
  listsAgain := by
    rintro _ _ _ _ ⟨⟩
    simp [hagain]
  number i := by
    rw [hnumber]
    simp [hfirst]
  error e he := by
    rw [herror e he, failure]
    split
    · exact .inl ⟨_, _, rfl⟩
    · exact .inr ⟨_, rfl⟩

/-- The rule is submitted, and the second listing decides. -/
theorem Submitted.again {result : Except RuleError RuleId} (hfirst : listedId r first = none)
    (hagain : asksAgain (submission r answer))
    (hnumber : ∀ i, result = .ok i ↔ listedId r second = some i)
    (herror : ∀ e, result = .error e → ∃ code diagnostic, e = .rejected code diagnostic) :
    Submitted r [(.listRules, first), (.addRule r.kind r.source r.target r.flags, answer),
      (.listRules, second)] result where
  commands := .inr (.inr rfl)
  submits := by
    rintro _ _ ⟨⟩
    simp [hfirst]
  listsAgain := by
    rintro _ _ _ _ ⟨⟩
    simp [hagain]
  number i := by
    -- The submission told no number as it succeeded, if it did.
    have hnone : (submission r answer).success = true →
        (submission r answer).value ≠ some (i.number.toNat : Int) := by
      intro hsuccess
      rcases hagain with ⟨_, hvalue⟩ | ⟨hfailed, _⟩
      · exact hvalue i
      · rw [hfailed] at hsuccess
        cases hsuccess
    rw [hnumber]
    simpa [hfirst] using fun hsuccess hvalue => absurd hvalue (hnone hsuccess)
  error e he := .inl (herror e he)

end Paths

section Live

variable {d : Device δ} {c k : Connection} {w : World δ} {r : Rule}

/-- Over a live connection the rules are listed for the number of a rule. -/
theorem run_existingId_of_live (htier : c.tier = .kernel) (hlive : w.connection = some k) :
    (existingId d ⟨c⟩ r).run w =
      (listedId r (d.call .listRules w.device).1,
        w.after (d.call .listRules w.device).2 [.listRules]) := by
  have hfetch : (fetch d ⟨c⟩).run w = (tableOf (d.toService.outcome .listRules w.device),
      w.after (d.call .listRules w.device).2 [.listRules]) := by
    rw [fetch, requireEngine_of_kernel htier]
    show (execute d .listRules >>= fun o => pure (tableOf o)).run w = _
    rw [StateT.run_bind, run_execute_of_live d .listRules hlive]
    rfl
  rw [existingId, StateT.run_bind, hfetch, listedId_eq]
  show StateT.run (match tableOf (d.toService.outcome .listRules w.device) with
    | .ok t => pure ((t.find? r).bind Rule.id)
    | .error _ => pure none) (w.after _ _) = _
  cases htable : tableOf (d.toService.outcome .listRules w.device) with
  | ok t => rw [show tableOf (Outcome.ofAnswer _ _) = _ from htable]; rfl
  | error e => rw [show tableOf (Outcome.ofAnswer _ _) = _ from htable]; rfl

/-- What follows the answer to a submission. -/
theorem run_submit_of_live (hlive : w.connection = some k) {s : RuleStore} {o : Outcome}
    {w' : World δ} (ho : o = submission r (d.call (.ofRule r) w.device).1)
    (hw' : w' = w.after (d.call (.ofRule r) w.device).2 [.ofRule r]) :
    (submit d s r).run w =
      if o.success then
        match idOf o with
        | some i => (.ok i, w')
        | none =>
          (((existingId d s r).run w').1.elim (.error (.rejected (o.status.getD 0)
            "engine accepted the rule but did not report an id")) .ok,
            ((existingId d s r).run w').2)
      else if o.status = some alreadyExists then
        (((existingId d s r).run w').1.elim (.error (failure o)) .ok,
          ((existingId d s r).run w').2)
      else (.error (failure o), w') := by
  have hexecute : (execute d (.ofRule r)).run w = (o, w') := by
    rw [ho, hw', run_execute_of_live d _ hlive]
    rfl
  rw [submit, StateT.run_bind, hexecute]
  show (ite (o.success = true) _ _ : Action δ _).run w' = _
  -- Each branch is a step that ends here, or a listing and what is made of its number.
  by_cases hsuccess : o.success = true
  · rw [if_pos hsuccess, if_pos hsuccess]
    dsimp only
    cases idOf o with
    | some i => rfl
    | none =>
      rw [StateT.run_bind]
      obtain ⟨found, _⟩ := (existingId d s r).run w'
      cases found <;> rfl
  · rw [if_neg hsuccess, if_neg hsuccess]
    dsimp only
    by_cases hstatus : o.status = some alreadyExists
    · rw [if_pos hstatus, if_pos hstatus, StateT.run_bind]
      obtain ⟨found, _⟩ := (existingId d s r).run w'
      cases found <;> rfl
    · rw [if_neg hstatus, if_neg hstatus]
      rfl

/-- When the rules are listed again, that listing decides, and without a number it is a refusal. -/
theorem run_submit_of_asksAgain (hlive : w.connection = some k) {s : RuleStore} {o : Outcome}
    {w' : World δ} (ho : o = submission r (d.call (.ofRule r) w.device).1)
    (hw' : w' = w.after (d.call (.ofRule r) w.device).2 [.ofRule r]) (hagain : asksAgain o) :
    ∃ code diagnostic, (submit d s r).run w =
      (((existingId d s r).run w').1.elim (.error (.rejected code diagnostic)) .ok,
        ((existingId d s r).run w').2) := by
  rw [run_submit_of_live hlive ho hw']
  rcases hagain with ⟨hsuccess, hvalue⟩ | ⟨hfailed, hstatus⟩
  · have hid : idOf o = none :=
      Option.eq_none_iff_forall_ne_some.2 fun i hid => hvalue i (idOf_eq_some_iff.1 hid)
    refine ⟨o.status.getD 0, "engine accepted the rule but did not report an id", ?_⟩
    rw [if_pos hsuccess, hid]
  · refine ⟨alreadyExists, o.text, ?_⟩
    rw [if_neg (ne_true_of_eq_false hfailed), if_pos hstatus, failure, hstatus]

/-- Otherwise the answer to the submission decides alone. -/
theorem run_submit_of_not_asksAgain (hlive : w.connection = some k) {s : RuleStore} {o : Outcome}
    {w' : World δ} (ho : o = submission r (d.call (.ofRule r) w.device).1)
    (hw' : w' = w.after (d.call (.ofRule r) w.device).2 [.ofRule r]) (hagain : ¬asksAgain o) :
    (∃ i, o.success = true ∧ idOf o = some i ∧ (submit d s r).run w = (.ok i, w')) ∨
      (o.success = false ∧ (submit d s r).run w = (.error (failure o), w')) := by
  rw [run_submit_of_live hlive ho hw']
  cases hsuccess : o.success with
  | true =>
    cases hid : idOf o with
    | some i => exact .inl ⟨i, rfl, rfl, by simp⟩
    | none =>
      refine absurd (.inl ⟨hsuccess, fun i hvalue => ?_⟩) hagain
      rw [idOf_eq_some_iff.2 hvalue] at hid
      cases hid
  | false =>
    have hstatus : o.status ≠ some alreadyExists := fun hstatus =>
      hagain (.inr ⟨hsuccess, hstatus⟩)
    exact .inr ⟨rfl, by simp [hstatus]⟩

/-- A submission says what an addition may say after a listing that has no number. -/
theorem submitted_of_submit (htier : c.tier = .kernel) (hlive : w.connection = some k)
    {first : Except ServiceError Reply} (hfirst : listedId r first = none) :
    ∃ t s, d.toService.Answers w.device t s ∧
      ((submit d ⟨c⟩ r).run w).2 = w.after s (t.map Prod.fst) ∧
        Submitted r ((.listRules, first) :: t) ((submit d ⟨c⟩ r).run w).1 := by
  obtain ⟨o, ho⟩ : ∃ o, o = submission r (d.call (.ofRule r) w.device).1 := ⟨_, rfl⟩
  obtain ⟨w', hw'⟩ : ∃ w', w' = w.after (d.call (.ofRule r) w.device).2 [.ofRule r] := ⟨_, rfl⟩
  by_cases hagain : asksAgain o
  · obtain ⟨code, diagnostic, hrun⟩ :=
      run_submit_of_asksAgain (s := ⟨c⟩) hlive ho hw' hagain
    have hlive' : w'.connection = some k := by
      rw [hw']
      exact hlive
    have hanswers : d.toService.Answers w.device [(.ofRule r, (d.call (.ofRule r) w.device).1),
        (.listRules, (d.call .listRules w'.device).1)] (d.call .listRules w'.device).2 := by
      rw [hw']
      exact .cons _ (.cons _ (.nil _))
    rw [hrun, run_existingId_of_live htier hlive']
    refine ⟨_, _, hanswers, ?_, .again hfirst (ho ▸ hagain) (fun i => ?_) fun e he => ?_⟩
    · rw [hw', World.after_after]
      rfl
    · cases hfound : listedId r _ <;> simp
    · -- Only without a number does the listing leave an error.
      cases hfound : listedId r (d.call .listRules w'.device).1 with
      | some i =>
        rw [hfound] at he
        cases he
      | none =>
        rw [hfound] at he
        cases he
        exact ⟨code, diagnostic, rfl⟩
  · rcases run_submit_of_not_asksAgain (s := ⟨c⟩) hlive ho hw' hagain with
      ⟨i, hsuccess, hid, hrun⟩ | ⟨hfailed, hrun⟩
    · rw [hrun, hw']
      refine ⟨[(.ofRule r, _)], _, .cons _ (.nil _), rfl, ?_⟩
      refine .decided hfirst (ho ▸ hagain) (fun j => ?_) fun e he => by cases he
      rw [← ho, ← idOf_eq_some_iff, hid]
      simp [hsuccess]
    · rw [hrun, hw']
      refine ⟨[(.ofRule r, _)], _, .cons _ (.nil _), rfl, ?_⟩
      refine .decided hfirst (ho ▸ hagain) (fun j => ?_) fun e he => ?_
      · rw [← ho]
        simp [hfailed]
      · cases he
        rw [ho]

/-- An addition submits a rule at most once, and never makes a number up. Whatever the engine
answers, and whoever else changes its rules, over a live connection an addition of a rule that has
the shape of its kind, by a store whose connection grants the engine, is a listing, a submission and
another listing, the second and third of which are only sent when there is a reason to; and it
results in a number exactly when a listing or the submission told it. Any other addition fails and
does nothing else. -/
theorem add_submits_once (d : Device δ) (s : RuleStore) (r : Rule)
    (hlive : w.connection = some k) :
    (∀ e, r.validate = .error e → (add d s r).run w = (.error e, w)) ∧
    (r.validate = .ok () → s.connection.allows .overlayEngine = false →
      ∃ why, (add d s r).run w = (.error (.engineUnreachable why), w)) ∧
    (r.validate = .ok () → s.connection.allows .overlayEngine = true →
      ∃ t state, d.toService.Answers w.device t state ∧
        ((add d s r).run w).2 = w.after state (t.map Prod.fst) ∧
          Submitted r t ((add d s r).run w).1) := by
  refine ⟨fun e hinvalid => ?_, fun hvalid hdenied => ?_, fun hvalid hallows => ?_⟩
  · rw [add, hinvalid]
    rfl
  · refine ⟨s!"tier {s.connection.tier.name} has no overlay engine access", ?_⟩
    rw [add, hvalid]
    dsimp only
    rw [requireEngine, if_neg (ne_true_of_eq_false hdenied)]
    rfl
  · have htier := (Connection.allows_iff_kernel (by decide) s.connection).1 hallows
    rw [run_add_of_valid htier hvalid, run_existingId_of_live htier hlive]
    cases hfirst : listedId r (d.call .listRules w.device).1 with
    | some i => exact ⟨_, _, .cons _ (.nil _), rfl, .found hfirst⟩
    | none =>
      -- The submission starts from the world that the listing leaves.
      obtain ⟨t, state, hanswers, hworld, hsubmitted⟩ := submitted_of_submit htier
        (w := w.after (d.call .listRules w.device).2 [.listRules]) hlive hfirst
      refine ⟨_, state, .cons _ hanswers, ?_, hsubmitted⟩
      rw [hworld, World.after_after]
      rfl

/-- A path is hidden over a connection of the kernel tier. -/
theorem add_submits_once_of_hide :
    let c : Connection := ⟨.kernel, 1, 12, none⟩
    let d := Device.ofParts (Simulation.Engine.service .socket) FileTree.storage
    let w : World (Simulation.Engine × FileTree) :=
      { device := ({ tier := some .kernel }, {}), connection := some c }
    let r : Rule := { kind := .hide, source := .ofString "/a" }
    w.connection = some c ∧ ∃ t state, d.toService.Answers w.device t state ∧
      ((add d ⟨c⟩ r).run w).2 = w.after state (t.map Prod.fst) ∧
        Submitted r t ((add d ⟨c⟩ r).run w).1 :=
  ⟨rfl, (add_submits_once _ _ _ rfl).2.2 (by rfl) (by decide)⟩

end Live

end RuleStore

end OverlayControl
