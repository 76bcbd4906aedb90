import OverlayControl.Proofs.Mount.Reconcile
import OverlayControl.Proofs.Verdict

/-!
# What becomes of an answer

Taking rules away, the switches of the engine, its mirror directory and the repair of the mounts are
one command each. Whatever the service answers, and even if it does not, the operation comes to the
one result that fits the answer: a success only after a reply that is one, a refusal with the status
of the reply, and otherwise that the engine could not be reached.

* `RuleStore.Single` — the operations of a store that are one command;
* `Filed` — the result that fits an answer, and `Diagnoses`, what it tells;
* `filed_ofAnswer` — the outcome of a command is filed by its answer;
* `RuleStore.Single.run_perform`, `MountReconciler.filed_fix` — the operations send their command
  once, and file its answer;
* `RuleStore.files_failures` — all of this together.
-/

namespace OverlayControl

variable {δ : Type}

/-- The operations of a store that are one command. -/
inductive RuleStore.Single
  /-- Takes a rule from the engine. -/
  | delete (i : RuleId)
  /-- Takes all rules from the engine. -/
  | clear
  /-- Turns stealth on or off. -/
  | stealth (on : Bool)
  /-- Turns kernel debugging on or off. -/
  | debug (on : Bool)
  /-- Points the engine at another mirror directory. -/
  | mirror (p : Path)

/-- A diagnostic for an answer: it says something, and if a reply says something, then just that. -/
structure Diagnoses (answer : Except ServiceError Reply) (why : String) : Prop where
  /-- It says something. -/
  ne_empty : why ≠ ""
  /-- A reply that says something is quoted. -/
  quotes : ∀ r, answer = .ok r → r.text ≠ "" → why = r.text

/-- The result of an operation that fits the answer to its command, in terms of the errors for a
refusal and for no reply. -/
inductive Filed {ε : Type} (refused : Int → String → ε) (unreached : String → ε) :
    Except ServiceError Reply → Except ε Unit → Prop
  /-- The reply is a success. -/
  | done {r : Reply} (h : Verdict.Succeeds r) : Filed refused unreached (.ok r) (.ok ())
  /-- The reply is none. -/
  | refused {r : Reply} {why : String} (h : ¬Verdict.Succeeds r) (hwhy : Diagnoses (.ok r) why) :
      Filed refused unreached (.ok r) (.error (refused r.status why))
  /-- There is no reply. -/
  | unreached {e : ServiceError} {why : String} (hwhy : Diagnoses (.error e) why) :
      Filed refused unreached (.error e) (.error (unreached why))

/-- What the outcome of a failed command tells is a diagnostic for its answer. -/
theorem diagnoses_text {c : Command} {answer : Except ServiceError Reply}
    (h : (Outcome.ofAnswer c answer).success = false) :
    Diagnoses answer (Outcome.ofAnswer c answer).text where
  ne_empty := Outcome.text_ofAnswer_ne c answer h
  quotes r hanswer htext := by
    subst hanswer
    simp [Outcome.ofAnswer, htext]

section Filing

variable {ε : Type} {refused : Int → String → ε} {unreached : String → ε}
  {answer : Except ServiceError Reply} {result : Except ε Unit}

/-- The outcome of a command whose reply is not asked for its text is filed by the answer. -/
theorem filed_ofAnswer {c : Command} (hc : c.returnsText = false)
    (answer : Except ServiceError Reply) :
    Filed refused unreached answer (if (Outcome.ofAnswer c answer).success then .ok ()
      else .error (match (Outcome.ofAnswer c answer).status with
        | some code => refused code (Outcome.ofAnswer c answer).text
        | none => unreached (Outcome.ofAnswer c answer).text)) := by
  -- Only a reply has a status, which is what tells a refusal from no reply.
  cases answer with
  | error e => exact .unreached (diagnoses_text rfl)
  | ok r =>
    have hsuccess : (Outcome.ofAnswer c (.ok r)).success = Verdict.succeeded r false :=
      congrArg (Verdict.succeeded r) hc
    by_cases h : Verdict.Succeeds r
    · rw [if_pos (hsuccess.trans (Verdict.succeeded_eq_true_iff.2 h))]
      exact .done h
    · have hfailed : (Outcome.ofAnswer c (.ok r)).success = false := by
        rw [hsuccess, Bool.eq_false_iff]
        exact fun hs => h (Verdict.succeeded_eq_true_iff.1 hs)
      rw [if_neg (ne_true_of_eq_false hfailed)]
      exact .refused h (diagnoses_text hfailed)

/-- Success is filed exactly for a reply that is one. -/
theorem Filed.eq_ok_iff (h : Filed refused unreached answer result) :
    result = .ok () ↔ ∃ r, answer = .ok r ∧ Verdict.Succeeds r := by
  cases h with
  | done h => exact ⟨fun _ => ⟨_, rfl, h⟩, fun _ => rfl⟩
  | refused h =>
    refine ⟨nofun, ?_⟩
    rintro ⟨r, ⟨⟩, hr⟩
    exact absurd hr h
  | unreached =>
    refine ⟨nofun, ?_⟩
    rintro ⟨r, ⟨⟩, -⟩

end Filing

namespace RuleStore

variable {d : Device δ} {w : World δ} {c k : Connection} {answer : Except ServiceError Reply}
  {result : Except RuleError Unit}

/-- Refusals are filed exactly for replies that are no success, with their status. -/
theorem eq_rejected_iff_of_filed (h : Filed .rejected .engineUnreachable answer result)
    (code : Int) :
    (∃ why, result = .error (.rejected code why)) ↔
      ∃ r, answer = .ok r ∧ ¬Verdict.Succeeds r ∧ code = r.status := by
  cases h with
  | done h =>
    refine ⟨nofun, ?_⟩
    rintro ⟨r, ⟨⟩, hr, -⟩
    exact absurd h hr
  | refused h =>
    constructor
    · rintro ⟨why, ⟨⟩⟩
      exact ⟨_, rfl, h, rfl⟩
    · rintro ⟨r, ⟨⟩, -, rfl⟩
      exact ⟨_, rfl⟩
  | unreached =>
    refine ⟨nofun, ?_⟩
    rintro ⟨r, ⟨⟩, -⟩

/-- That the engine could not be reached is filed exactly when there is no reply. -/
theorem eq_engineUnreachable_iff_of_filed (h : Filed .rejected .engineUnreachable answer result) :
    (∃ why, result = .error (.engineUnreachable why)) ↔ ∃ e, answer = .error e := by
  cases h with
  | done => exact ⟨nofun, nofun⟩
  | refused => exact ⟨nofun, nofun⟩
  | unreached => exact ⟨fun _ => ⟨_, rfl⟩, fun _ => ⟨_, rfl⟩⟩

theorem diagnoses_of_filed (h : Filed .rejected .engineUnreachable answer result) {why : String}
    (hwhy : (∃ code, result = .error (.rejected code why)) ∨
      result = .error (.engineUnreachable why)) : Diagnoses answer why := by
  rcases hwhy with ⟨code, rfl⟩ | rfl
  · cases h with
    | refused _ hdiagnoses => exact hdiagnoses
  · cases h with
    | unreached hdiagnoses => exact hdiagnoses

namespace Single

/-- The command of an operation. -/
def command : Single → Command
  | .delete i => .deleteRule i
  | .clear => .clearRules
  | .stealth on => .setStealth on
  | .debug on => .setDebug on
  | .mirror p => .setMirrorPath p

/-- Performs an operation. -/
def perform (d : Device δ) (s : RuleStore) : Single → Action δ (Except RuleError Unit)
  | .delete i => s.delete d i
  | .clear => s.clear d
  | .stealth on => s.setStealth d on
  | .debug on => s.setDebug d on
  | .mirror p => s.setMirrorPath d p

/-- A mirror directory has to have a path that may be sent: absolute and without NUL bytes. -/
def Valid (op : Single) : Prop :=
  ∀ p, op = .mirror p → p.bytes.head? = some Path.slash ∧ 0 ∉ p.bytes

theorem returnsText_command (op : Single) : op.command.returnsText = false := by
  cases op <;> rfl

theorem perform_eq_run {op : Single} (h : op.Valid) (s : RuleStore) :
    op.perform d s = s.run d op.command := by
  cases op with
  | delete i => rfl
  | clear => rfl
  | stealth on => rfl
  | debug on => rfl
  | mirror p =>
    obtain ⟨hroot, hnul⟩ := h p rfl
    have hcheck : checkPath "mirror" p = .ok () := by
      refine checkPath_eq_ok_iff.2 ⟨?_, ?_, ?_⟩
      · cases hbytes : p.bytes with
        | nil => rw [hbytes] at hroot; cases hroot
        | cons b bs => rw [Path.isEmpty, hbytes]; rfl
      · rw [Path.isAbsolute, hroot]; rfl
      · simpa using hnul
    rw [perform, setMirrorPath, hcheck]
    rfl

/-- An operation sends its command once, and files the answer. -/
theorem run_perform {op : Single} (h : op.Valid) (htier : c.tier = .kernel)
    (hlive : w.connection = some k) :
    ((op.perform d ⟨c⟩).run w).2 = w.after (d.call op.command w.device).2 [op.command] ∧
      Filed .rejected .engineUnreachable (d.call op.command w.device).1
        ((op.perform d ⟨c⟩).run w).1 := by
  have hrun := run_run (d := d) htier hlive op.command
  rw [perform_eq_run h, hrun]
  exact ⟨rfl, filed_ofAnswer (returnsText_command op) _⟩

end Single

end RuleStore

namespace MountReconciler

section Filing

variable {answer : Except ServiceError Reply} {result : Except MountError Unit}

/-- A repair is refused exactly when there is no reply that is a success. -/
theorem eq_engineRejected_iff_of_filed
    (h : Filed (fun _ => .engineRejected) .engineRejected answer result) :
    (∃ why, result = .error (.engineRejected why)) ↔
      ∀ r, answer = .ok r → ¬Verdict.Succeeds r := by
  cases h with
  | done h => exact ⟨nofun, fun hnone => absurd h (hnone _ rfl)⟩
  | refused h =>
    refine ⟨fun _ => ?_, fun _ => ⟨_, rfl⟩⟩
    rintro r ⟨⟩
    exact h
  | unreached => exact ⟨fun _ => nofun, fun _ => ⟨_, rfl⟩⟩

theorem diagnoses_of_filed
    (h : Filed (fun _ => .engineRejected) .engineRejected answer result) {why : String}
    (hwhy : result = .error (.engineRejected why)) : Diagnoses answer why := by
  subst hwhy
  cases h with
  | refused _ hdiagnoses => exact hdiagnoses
  | unreached hdiagnoses => exact hdiagnoses

end Filing

/-- A repair sends its command once, and files the answer. -/
theorem run_fix_filed {d : Device δ} {w : World δ} {m : MountReconciler} {k : Connection}
    (htier : m.connection.tier = .kernel) (hlive : w.connection = some k) :
    ((m.fix d).run w).2 = w.after (d.call .fixMounts w.device).2 [.fixMounts] ∧
      Filed (fun _ => .engineRejected) .engineRejected (d.call .fixMounts w.device).1
        ((m.fix d).run w).1 := by
  have hallows : m.connection.allows .overlayEngine = true := by
    rw [Connection.allows_iff_kernel (by decide)]
    exact htier
  rw [run_fix_of_live hallows hlive rfl]
  refine ⟨rfl, ?_⟩
  have hfiled : Filed (fun _ => MountError.engineRejected) .engineRejected
      (d.call .fixMounts w.device).1 _ := filed_ofAnswer (c := .fixMounts) rfl _
  -- A repair fails in one way, whether there is a reply or not.
  cases hstatus : (Outcome.ofAnswer .fixMounts (d.call .fixMounts w.device).1).status with
  | none => rwa [hstatus] at hfiled
  | some code => rwa [hstatus] at hfiled

end MountReconciler

/-- Over a connection of the kernel tier that is live, whatever the service answers: each operation
that is one command sends just that command, once. It succeeds exactly after a reply that is a
success. It is refused, with the status of the reply, exactly after a reply that is none, and finds
the engine out of reach exactly when there is no reply; a repair of the mounts is refused in both
cases. What a failure tells is what the reply says, if it says something, and never nothing. -/
theorem RuleStore.files_failures (d : Device δ) {w : World δ} {c k : Connection}
    (htier : c.tier = .kernel) (hlive : w.connection = some k) :
    (∀ op : Single, op.Valid →
      let answer := (d.call op.command w.device).1
      let r := (op.perform d ⟨c⟩).run w
      r.2 = w.after (d.call op.command w.device).2 [op.command] ∧
        (r.1 = .ok () ↔ ∃ reply, answer = .ok reply ∧ Verdict.Succeeds reply) ∧
        (∀ code, (∃ why, r.1 = .error (.rejected code why)) ↔
          ∃ reply, answer = .ok reply ∧ ¬Verdict.Succeeds reply ∧ code = reply.status) ∧
        ((∃ why, r.1 = .error (.engineUnreachable why)) ↔ ∃ e, answer = .error e) ∧
        (∀ why, (∃ code, r.1 = .error (.rejected code why)) ∨
          r.1 = .error (.engineUnreachable why) → Diagnoses answer why)) ∧
      ∀ mountinfo,
        let answer := (d.call .fixMounts w.device).1
        let r := (MountReconciler.fix d ⟨c, mountinfo⟩).run w
        r.2 = w.after (d.call .fixMounts w.device).2 [.fixMounts] ∧
          (r.1 = .ok () ↔ ∃ reply, answer = .ok reply ∧ Verdict.Succeeds reply) ∧
          ((∃ why, r.1 = .error (.engineRejected why)) ↔
            ∀ reply, answer = .ok reply → ¬Verdict.Succeeds reply) ∧
          ∀ why, r.1 = .error (.engineRejected why) → Diagnoses answer why := by
  refine ⟨fun op hvalid => ?_, fun mountinfo => ?_⟩
  · obtain ⟨hworld, hfiled⟩ := Single.run_perform (d := d) hvalid htier hlive
    exact ⟨hworld, hfiled.eq_ok_iff, eq_rejected_iff_of_filed hfiled,
      eq_engineUnreachable_iff_of_filed hfiled, fun why => diagnoses_of_filed hfiled⟩
  · obtain ⟨hworld, hfiled⟩ :=
      MountReconciler.run_fix_filed (d := d) (m := ⟨c, mountinfo⟩) htier hlive
    exact ⟨hworld, hfiled.eq_ok_iff, MountReconciler.eq_engineRejected_iff_of_filed hfiled,
      fun why => MountReconciler.diagnoses_of_filed hfiled⟩

/-- A shell whose command ends well but complains: the deletion is refused with the status zero, in
the words of the shell. -/
theorem RuleStore.files_failures_of_complaint :
    let c : Connection := ⟨.kernel, 1, 12, none⟩
    let reply : Reply :=
      { status := 0, value := none, text := " Failed: no such rule", structured := false }
    let shell : Service Unit :=
      { transport := .shell, call := fun _ s => (.ok reply, s), hangUp := fun s => (.ok (), s) }
    let d := Device.ofParts shell FileTree.storage
    let w : World (Unit × FileTree) := { device := ((), {}), connection := some c }
    let r := (Single.perform d ⟨c⟩ (.delete ⟨7⟩)).run w
    r.2.log = [.issued (.deleteRule ⟨7⟩) (some c)] ∧
      r.1 = .error (.rejected 0 " Failed: no such rule") := by
  intro c reply shell d w r
  obtain ⟨hworld, -, hrejected, -, hwhy⟩ :=
    (files_failures d (w := w) (c := c) rfl rfl).1 (.delete ⟨7⟩) nofun
  have hcomplains : ¬Verdict.Succeeds reply := by
    rintro (⟨hstructured, -⟩ | ⟨-, -, hquiet⟩)
    · cases hstructured
    · have hblank : ∀ c ∈ [' '], Text.isBlank c = true := by
        intro c hc
        rw [List.mem_singleton.1 hc]
        decide
      have hrest : ∀ c ∈ ": no such rule".toList.head?, Text.isWordChar c = false := by
        rintro c ⟨⟩
        decide +kernel
      exact hquiet ⟨[' '], "Failed".toList, ": no such rule".toList, by decide, hblank, by decide,
        hrest⟩
  obtain ⟨why, hresult⟩ := (hrejected 0).2 ⟨reply, rfl, hcomplains, rfl⟩
  have hquotes := (hwhy why (.inl ⟨0, hresult⟩)).quotes reply rfl (by decide)
  refine ⟨?_, by rw [hresult, hquotes]⟩
  rw [hworld]
  rfl

end OverlayControl
