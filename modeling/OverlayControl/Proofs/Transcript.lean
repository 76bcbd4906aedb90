import OverlayControl.Proofs.Verdict
import OverlayControl.World

/-!
# What passes between the program and the service

* `Transcript` — commands and the answers that they got;
* `Outcome.text_ofAnswer_ne` — a failed command always tells something;
* `Service.recording` — a service together with a transcript of what it was sent and answered;
* `Service.Answers` — a service that answers a row of commands in a given way;
* `World.after` — a world after the service has been sent commands.
-/

namespace OverlayControl

/-- Commands and the answers that they got, in order. -/
abbrev Transcript := List (Command × Except ServiceError Reply)

/-- Whether a command got a successful reply. -/
def Transcript.grants (t : Transcript) (c : Command) : Bool :=
  t.any fun (sent, answer) => sent == c &&
    match answer with
    | .ok r => Verdict.succeeded r c.returnsText
    | .error _ => false

theorem Command.name_ne (c : Command) : c.name ≠ "" := by cases c <;> simp [name]

/-- What the outcome of a failed command tells is never empty. -/
theorem Outcome.text_ofAnswer_ne (c : Command) (answer : Except ServiceError Reply)
    (h : (ofAnswer c answer).success = false) : (ofAnswer c answer).text ≠ "" := by
  have hname : toString c.name ≠ "" := c.name_ne
  cases answer with
  | error e => simp [ofAnswer, failure, hname]
  | ok r =>
    have hfailed : Verdict.succeeded r c.returnsText = false := h
    by_cases htext : r.text = ""
    · simp [ofAnswer, hfailed, htext, hname]
    · simp [ofAnswer, hfailed, htext]

/-- A service that keeps a transcript. -/
def Service.recording {σ : Type} (service : Service σ) : Service (σ × Transcript) where
  transport := service.transport
  call c s :=
    let (answer, inner) := service.call c s.1
    (answer, (inner, s.2 ++ [(c, answer)]))
  hangUp s :=
    let (answer, inner) := service.hangUp s.1
    (answer, (inner, s.2))

namespace Transcript

theorem grants_append (t u : Transcript) (c : Command) :
    (t ++ u).grants c = (t.grants c || u.grants c) := List.any_append

theorem grants_singleton (c : Command) (answer : Except ServiceError Reply) :
    grants [(c, answer)] c = (Outcome.ofAnswer c answer).success := by
  cases answer <;> simp [grants, Outcome.ofAnswer, Outcome.failure]

/-- A command that is not asked for its text is granted when it got a reply that is a success. -/
theorem grants_eq_true_iff {t : Transcript} {c : Command} (h : c.returnsText = false) :
    t.grants c = true ↔ ∃ r, (c, .ok r) ∈ t ∧ Verdict.Succeeds r := by
  simp only [← Verdict.succeeded_eq_true_iff]
  constructor
  · intro hgrant
    obtain ⟨⟨sent, answer⟩, hmem, hanswer⟩ := List.any_eq_true.1 hgrant
    rw [Bool.and_eq_true, beq_iff_eq] at hanswer
    obtain ⟨rfl, hanswer⟩ := hanswer
    cases answer with
    | error e => cases hanswer
    | ok r => exact ⟨r, hmem, h ▸ hanswer⟩
  · rintro ⟨r, hmem, hr⟩
    refine List.any_eq_true.2 ⟨(c, .ok r), hmem, ?_⟩
    rw [Bool.and_eq_true, beq_iff_eq, h]
    exact ⟨rfl, hr⟩

/-- Only a command that was sent is granted. -/
theorem mem_of_grants {t : Transcript} {c : Command} (h : t.grants c = true) :
    ∃ x ∈ t, x.1 = c := by
  obtain ⟨x, hx, hgrant⟩ := List.any_eq_true.1 h
  rw [Bool.and_eq_true, beq_iff_eq] at hgrant
  exact ⟨x, hx, hgrant.1⟩

theorem grants_eq_false {t : Transcript} {c : Command} (h : ∀ x ∈ t, x.1 ≠ c) :
    t.grants c = false := by
  rw [Bool.eq_false_iff]
  intro hgrant
  obtain ⟨x, hx, heq⟩ := mem_of_grants hgrant
  exact h x hx heq

end Transcript

/-- Sent the commands of a transcript one after the other, the service gives the answers of the
transcript and goes from one state to another. -/
inductive Service.Answers {σ : Type} (service : Service σ) : σ → Transcript → σ → Prop
  /-- Nothing is sent. -/
  | nil (s : σ) : service.Answers s [] s
  /-- A command is sent, and then the others. -/
  | cons {s s' : σ} {t : Transcript} (c : Command)
      (rest : service.Answers (service.call c s).2 t s') :
      service.Answers s ((c, (service.call c s).1) :: t) s'

/-- A command with the answer that it gets, and then the others. -/
theorem Service.Answers.call {σ : Type} {service : Service σ} {s s' s'' : σ} {t : Transcript}
    {c : Command} {answer : Except ServiceError Reply} (hcall : service.call c s = (answer, s'))
    (rest : service.Answers s' t s'') : service.Answers s ((c, answer) :: t) s'' := by
  have hanswers : service.Answers (service.call c s).2 t s'' →
      service.Answers s ((c, (service.call c s).1) :: t) s'' := .cons c
  rw [hcall] at hanswers
  exact hanswers rest

theorem Service.Answers.append {σ : Type} {service : Service σ} {s s' s'' : σ} {t u : Transcript}
    (ht : service.Answers s t s') (hu : service.Answers s' u s'') :
    service.Answers s (t ++ u) s'' := by
  induction ht with
  | nil s => exact hu
  | cons c _ ih => exact .cons c (ih hu)

variable {δ : Type}

/-- A world after the service has gone to a state and commands were recorded. -/
def World.after (w : World δ) (s : δ) (sent : List Command) : World δ :=
  { w with device := s, log := w.log ++ sent.map fun c => .issued c w.connection }

theorem World.after_nil (w : World δ) : w.after w.device [] = w := by
  rw [World.after, List.map_nil, List.append_nil]

theorem World.after_after (w : World δ) (s s' : δ) (sent more : List Command) :
    (w.after s sent).after s' more = w.after s' (sent ++ more) := by
  simp only [World.after, List.map_append, List.append_assoc]

end OverlayControl
