import OverlayControl.Mount.Reconciler
import OverlayControl.Proofs.Mount.Report
import OverlayControl.Proofs.Rule.Refinement
import OverlayControl.Simulation.Engine

/-!
# Reconciling mounts

Nothing is assumed of the engine or of the file that holds the mount table: the table may be
readable or not, before and after a repair, and the engine may answer each command in any way. The
engine is asked to renumber at most once, and not at all when the numbers strictly increase.

* `RuleStore.Lists`, `RuleStore.listing` — what the answer to a listing tells;
* `MountReconciler.scan`, `MountReconciler.InOrder` — the mount table in a state of the device;
* `MountReconciler.Repaired` — all that is said in a repair, and what it comes to;
* `MountReconciler.repaired_of_repair` — every repair is one;
* `MountReconciler.reconcile_repairs_when_needed` — when there is a repair, and when there is none.
-/

namespace OverlayControl

variable {δ : Type}

namespace RuleStore

/-- The answer to a listing tells the rules: it is a success, and its text can be read. -/
def Lists (answer : Except ServiceError Reply) (rules : List Rule) : Prop :=
  ∃ r, answer = .ok r ∧ Verdict.Returns r ∧ Listing.read r.text = .ok rules

/-- The table that the answer to a listing amounts to. -/
def listing (answer : Except ServiceError Reply) : RuleTable :=
  match tableOf (.ofAnswer .listRules answer) with
  | .ok t => t
  | .error e => .missing e.message

section Listing

variable {answer : Except ServiceError Reply} {rules : List Rule} {t : RuleTable}

theorem tableOf_eq_ok_iff :
    tableOf (.ofAnswer .listRules answer) = .ok t ↔
      ∃ rules, Lists answer rules ∧ t = .ofList rules := by
  cases answer with
  | error e => simp [tableOf, Outcome.ofAnswer, Outcome.failure, Lists]
  | ok r =>
    by_cases hreturns : Verdict.Returns r
    · have hsuccess := Verdict.succeeded_text_eq_true_iff.2 hreturns
      cases hread : Listing.read r.text with
      | error e => simp [tableOf, Outcome.ofAnswer, Command.returnsText, Lists, hsuccess, hread]
      | ok rules =>
        have htable : tableOf (.ofAnswer .listRules (.ok r)) = .ok (.ofList rules) := by
          simp [tableOf, Outcome.ofAnswer, Command.returnsText, hsuccess, hread]
        rw [htable]
        constructor
        · rintro ⟨⟩
          exact ⟨rules, ⟨r, rfl, hreturns, hread⟩, rfl⟩
        · rintro ⟨_, ⟨_, ⟨⟩, -, hread'⟩, rfl⟩
          rw [hread, Except.ok.injEq] at hread'
          rw [hread']
    · have hfailed : Verdict.succeeded r true = false :=
        Bool.eq_false_iff.2 fun hs => hreturns (Verdict.succeeded_text_eq_true_iff.1 hs)
      simp [tableOf, Outcome.ofAnswer, Command.returnsText, Lists, hfailed, hreturns]

/-- It is the table of the rules that the answer tells. -/
theorem listing_of_lists (h : Lists answer rules) : listing answer = .ofList rules := by
  rw [listing, tableOf_eq_ok_iff.2 ⟨rules, h, rfl⟩]

/-- It is authoritative exactly when the answer tells any. -/
theorem isAuthoritative_listing_iff :
    (listing answer).isAuthoritative = true ↔ ∃ rules, Lists answer rules := by
  refine ⟨fun h => ?_, fun ⟨rules, h⟩ => by rw [listing_of_lists h]; rfl⟩
  cases htable : tableOf (.ofAnswer .listRules answer) with
  | ok t =>
    obtain ⟨rules, hlists, -⟩ := tableOf_eq_ok_iff.1 htable
    exact ⟨rules, hlists⟩
  | error e =>
    rw [listing, htable] at h
    cases h

end Listing

/-- Over a live connection the rules are listed once. -/
theorem run_list_of_live {d : Device δ} {c k : Connection} {w : World δ}
    (hallows : c.allows .overlayEngine = true) (hlive : w.connection = some k)
    {answer : Except ServiceError Reply} {s : δ}
    (hcall : d.call .listRules w.device = (answer, s)) :
    (list d ⟨c⟩).run w = (listing answer, w.after s [.listRules]) := by
  have htier := (Connection.allows_iff_kernel (by decide) c).1 hallows
  rw [list, StateT.run_bind, run_fetch_of_live htier hlive, Service.outcome, Service.after,
    hcall, listing]
  cases tableOf (.ofAnswer .listRules answer) <;> rfl

end RuleStore

namespace MountReconciler

/-- The report on the mount table in a state of the device; none when it cannot be read. -/
def scan (d : Device δ) (m : MountReconciler) (s : δ) : Option MountReport :=
  (d.toStorage.readText m.mountinfo s).toOption.map .ofText

/-- In a state of the device the mount table can be read, and its numbers strictly increase. -/
def InOrder (d : Device δ) (m : MountReconciler) (s : δ) : Prop :=
  ∃ text, d.toStorage.readText m.mountinfo s = .ok text ∧
    ((mountLines text).map MountLine.id).Pairwise (· < ·)

/-- The answers to two listings tell rules, so many different ones the first and so many the
second. -/
def Counted (first second : Except ServiceError Reply) (counts : Nat × Nat) : Prop :=
  ∃ was now, RuleStore.Lists first was ∧ RuleStore.Lists second now ∧
    counts = ((was.eraseDupsBy Rule.sameKey).length, (now.eraseDupsBy Rule.sameKey).length)

/-- All that is said in a repair, the state that it leaves the device in, and what it comes to. -/
inductive Repaired (d : Device δ) (m : MountReconciler) (before : Option MountReport) :
    Transcript → δ → Except MountError ReconcileReport → Prop
  /-- The engine does not renumber, and nothing else is asked. -/
  | rejected {first fix : Except ServiceError Reply} {s : δ} {diagnostic : String}
      (failed : (Outcome.ofAnswer .fixMounts fix).success = false) (told : diagnostic ≠ "") :
      Repaired d m before [(.listRules, first), (.fixMounts, fix)] s
        (.error (.engineRejected diagnostic))
  /-- The engine renumbers, and the rules and the table are looked at again. -/
  | repaired {first fix second : Except ServiceError Reply} {s : δ}
      {ruleCounts : Option (Nat × Nat)}
      (done : (Outcome.ofAnswer .fixMounts fix).success = true)
      (counted : ∀ counts, ruleCounts = some counts ↔ Counted first second counts) :
      Repaired d m before [(.listRules, first), (.fixMounts, fix), (.listRules, second)] s
        (.ok { before, after := scan d m s, repaired := true, ruleCounts })

section Scan

variable {d : Device δ} {m : MountReconciler}

theorem run_check (w : World δ) : (check d m).run w =
    ((d.toStorage.readText m.mountinfo w.device).map .ofText, w) := by
  rw [check, StateT.run_bind, run_readText]
  cases d.toStorage.readText m.mountinfo w.device <;> rfl

/-- A scan is what looking at the table comes to. -/
theorem toOption_check (w : World δ) : ((check d m).run w).1.toOption = scan d m w.device := by
  rw [run_check, scan]
  cases d.toStorage.readText m.mountinfo w.device <;> rfl

/-- The table is in order exactly when the scan finds it canonical. -/
theorem any_isCanonical_scan_iff {s : δ} :
    (scan d m s).any MountReport.isCanonical = true ↔ InOrder d m s := by
  unfold scan InOrder
  cases d.toStorage.readText m.mountinfo s with
  | error e => simp [Except.toOption]
  | ok text => simp [Except.toOption, MountReport.ofText, MountReport.isCanonical_ofMounts_iff]

end Scan

section Repair

variable {d : Device δ} {m : MountReconciler} {w : World δ} {k : Connection}

theorem run_fix_of_live (hallows : m.connection.allows .overlayEngine = true)
    (hlive : w.connection = some k) {answer : Except ServiceError Reply} {s : δ}
    (hcall : d.call .fixMounts w.device = (answer, s)) :
    (fix d m).run w = (if (Outcome.ofAnswer .fixMounts answer).success then .ok ()
      else .error (.engineRejected (Outcome.ofAnswer .fixMounts answer).text),
        w.after s [.fixMounts]) := by
  rw [fix, if_pos hallows, StateT.run_bind, run_execute_of_live d _ hlive, Service.outcome,
    Service.after, hcall]
  rfl

/-- The counts are told exactly when both listings tell rules. -/
theorem counts_eq_some_iff {first second : Except ServiceError Reply} {counts : Nat × Nat} :
    (if (RuleStore.listing first).isAuthoritative && (RuleStore.listing second).isAuthoritative then
        some ((RuleStore.listing first).rules.length, (RuleStore.listing second).rules.length)
      else none) = some counts ↔ Counted first second counts := by
  constructor
  · intro h
    split at h
    · next hboth =>
      obtain ⟨hfirst, hsecond⟩ := Bool.and_eq_true_iff.1 hboth
      obtain ⟨was, hwas⟩ := RuleStore.isAuthoritative_listing_iff.1 hfirst
      obtain ⟨now, hnow⟩ := RuleStore.isAuthoritative_listing_iff.1 hsecond
      rw [RuleStore.listing_of_lists hwas, RuleStore.listing_of_lists hnow,
        RuleTable.rules_ofList, RuleTable.rules_ofList, Option.some.injEq] at h
      exact ⟨was, now, hwas, hnow, h.symm⟩
    · cases h
  · rintro ⟨was, now, hwas, hnow, rfl⟩
    rw [RuleStore.listing_of_lists hwas, RuleStore.listing_of_lists hnow,
      RuleTable.rules_ofList, RuleTable.rules_ofList]
    rfl

/-- A repair, with the answers that it gets. -/
theorem run_repair_of_live (hallows : m.connection.allows .overlayEngine = true)
    (hlive : w.connection = some k) {before : Option MountReport}
    {first fix second : Except ServiceError Reply} {s₁ s₂ s₃ : δ}
    (hfirst : d.call .listRules w.device = (first, s₁)) (hfix : d.call .fixMounts s₁ = (fix, s₂))
    (hsecond : d.call .listRules s₂ = (second, s₃)) :
    (repair d m before).run w =
      if (Outcome.ofAnswer .fixMounts fix).success then
        (.ok { before, after := scan d m s₃, repaired := true, ruleCounts :=
            if (RuleStore.listing first).isAuthoritative &&
                (RuleStore.listing second).isAuthoritative then
              some ((RuleStore.listing first).rules.length, (RuleStore.listing second).rules.length)
            else none },
          w.after s₃ [.listRules, .fixMounts, .listRules])
      else
        (.error (.engineRejected (Outcome.ofAnswer .fixMounts fix).text),
          w.after s₂ [.listRules, .fixMounts]) := by
  -- The world after each of the three commands.
  let w₁ := w.after s₁ [.listRules]
  let w₂ := w₁.after s₂ [.fixMounts]
  let w₃ := w₂.after s₃ [.listRules]
  have hw₂ : w₂ = w.after s₂ [.listRules, .fixMounts] := World.after_after ..
  have hw₃ : w₃ = w.after s₃ [.listRules, .fixMounts, .listRules] := by
    rw [show w₃ = w₂.after s₃ [.listRules] from rfl, hw₂, World.after_after]
    rfl
  have hwas : (m.rules.list d).run w = (RuleStore.listing first, w₁) :=
    RuleStore.run_list_of_live hallows hlive hfirst
  have hrun := run_fix_of_live (w := w₁) hallows hlive hfix
  have hnow : (m.rules.list d).run w₂ = (RuleStore.listing second, w₃) :=
    RuleStore.run_list_of_live (w := w₂) hallows hlive hsecond
  rw [repair, StateT.run_bind, hwas]
  show StateT.run (MountReconciler.fix d m >>= _) w₁ = _
  rw [StateT.run_bind, hrun, ← hw₂, ← hw₃]
  split
  · -- Only after a renumbering are the rules and the table looked at again.
    show StateT.run (m.rules.list d >>= _) w₂ = _
    rw [StateT.run_bind, hnow]
    show StateT.run (check d m >>= _) w₃ = _
    have hafter : scan d m s₃ = ((check d m).run w₃).1.toOption := (toOption_check w₃).symm
    rw [StateT.run_bind, hafter, run_check]
    rfl
  · rfl

/-- Every repair is a listing, the renumbering and, if that succeeds, another listing. -/
theorem repaired_of_repair (hallows : m.connection.allows .overlayEngine = true)
    (hlive : w.connection = some k) (before : Option MountReport) :
    ∃ t s, d.toService.Answers w.device t s ∧
      ((repair d m before).run w).2 = w.after s (t.map Prod.fst) ∧
      Repaired d m before t s ((repair d m before).run w).1 := by
  obtain ⟨first, s₁, hfirst⟩ : ∃ a s, d.call .listRules w.device = (a, s) := ⟨_, _, rfl⟩
  obtain ⟨fix, s₂, hfix⟩ : ∃ a s, d.call .fixMounts s₁ = (a, s) := ⟨_, _, rfl⟩
  obtain ⟨second, s₃, hsecond⟩ : ∃ a s, d.call .listRules s₂ = (a, s) := ⟨_, _, rfl⟩
  rw [run_repair_of_live hallows hlive hfirst hfix hsecond]
  cases hsuccess : (Outcome.ofAnswer .fixMounts fix).success with
  | true =>
    refine ⟨[(.listRules, first), (.fixMounts, fix), (.listRules, second)], s₃, ?_, rfl, ?_⟩
    · exact .call hfirst (.call hfix (.call hsecond (.nil s₃)))
    · exact .repaired hsuccess fun _ => counts_eq_some_iff
  | false =>
    refine ⟨[(.listRules, first), (.fixMounts, fix)], s₂, ?_, rfl, ?_⟩
    · exact .call hfirst (.call hfix (.nil s₂))
    · exact .rejected hsuccess (Outcome.text_ofAnswer_ne _ _ hsuccess)

/-- The table is scanned, and then there may be a repair. -/
theorem run_reconcile (hallows : m.connection.allows .overlayEngine = true) :
    (reconcile d m).run w = if (scan d m w.device).any MountReport.isCanonical then
        (.ok { before := scan d m w.device, after := none, repaired := false, ruleCounts := none },
          w)
      else (repair d m (scan d m w.device)).run w := by
  rw [reconcile, if_pos hallows, StateT.run_bind, ← toOption_check, run_check]
  show StateT.run (ite _ _ _) w = _
  split <;> rfl

/-- Without the overlay engine nothing is sent. With it, and with a mount table in order, nothing is
sent either. Otherwise there is one repair. -/
theorem reconcile_repairs_when_needed (d : Device δ) (m : MountReconciler)
    (hlive : w.connection = some k) :
    (m.connection.allows .overlayEngine = false →
      (reconcile d m).run w = (.error (.unsupported m.connection.tier), w)) ∧
    (m.connection.allows .overlayEngine = true → InOrder d m w.device →
      (reconcile d m).run w =
        (.ok { before := scan d m w.device, after := none, repaired := false, ruleCounts := none },
          w)) ∧
    (m.connection.allows .overlayEngine = true → ¬InOrder d m w.device →
      ∃ t s, d.toService.Answers w.device t s ∧
        ((reconcile d m).run w).2 = w.after s (t.map Prod.fst) ∧
        Repaired d m (scan d m w.device) t s ((reconcile d m).run w).1) := by
  refine ⟨fun hdenied => ?_, fun hallows horder => ?_, fun hallows horder => ?_⟩
  · rw [reconcile, if_neg (by simp [hdenied])]
    rfl
  · rw [run_reconcile hallows, if_pos (any_isCanonical_scan_iff.2 horder)]
  · rw [run_reconcile hallows, if_neg fun h => horder (any_isCanonical_scan_iff.1 h)]
    exact repaired_of_repair hallows hlive _

/-- Over a connection of the kernel tier there is no repair of two mounts in order; without a mount
table there is one. Over a connection of the shell tier there is none either way. -/
theorem reconcile_repairs_when_needed_of_kernel :
    let c : Connection := ⟨.kernel, 1, 12, none⟩
    let d := Device.ofParts (Simulation.Engine.service .socket) FileTree.storage
    let mounts : FileTree := ⟨[(["m".toUTF8.toList], .file "1 0\n2 1\n".toUTF8.toList 0o600)]⟩
    let w (t : FileTree) : World (Simulation.Engine × FileTree) :=
      { device := ({ tier := some .kernel }, t), connection := some c }
    let m (tier : Tier) : MountReconciler := ⟨{ c with tier }, .ofString "/m"⟩
    (w {}).connection = some c ∧
    (reconcile d (m .shell)).run (w {}) = (.error (.unsupported .shell), w {}) ∧
    (reconcile d (m .kernel)).run (w mounts) =
      (.ok { before := some ⟨2, [], []⟩, after := none, repaired := false, ruleCounts := none },
        w mounts) ∧
    ∃ t s, d.toService.Answers (w {}).device t s ∧
      ((reconcile d (m .kernel)).run (w {})).2 = (w {}).after s (t.map Prod.fst) ∧
      Repaired d (m .kernel) none t s ((reconcile d (m .kernel)).run (w {})).1 := by
  intro c d mounts w m
  have hscan : scan d (m .kernel) (w mounts).device = some ⟨2, [], []⟩ := by decide +kernel
  refine ⟨rfl, ?_, ?_, ?_⟩
  · exact (reconcile_repairs_when_needed d (m .shell) (w := w {}) rfl).1 (by decide)
  · rw [← hscan]
    exact (reconcile_repairs_when_needed d (m .kernel) (w := w mounts) rfl).2.1 (by decide)
      (any_isCanonical_scan_iff.1 (by rw [hscan]; rfl))
  · exact (reconcile_repairs_when_needed d (m .kernel) (w := w {}) rfl).2.2 (by decide)
      (fun h => absurd (any_isCanonical_scan_iff.2 h) (by decide))

end Repair

end MountReconciler

end OverlayControl
