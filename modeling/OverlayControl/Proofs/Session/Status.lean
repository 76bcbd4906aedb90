import OverlayControl.Proofs.Connection.Lifecycle
import OverlayControl.Proofs.Module.Views
import OverlayControl.Proofs.Mount.Reconcile
import OverlayControl.Proofs.Rule.Firsts
import OverlayControl.Proofs.Session.Sends

/-!
# What a status screen shows

A status screen asks for a connection twice, first for the strategies and then for itself, and the
service may answer each time in another way, or not at all. Whatever it does, what is shown fits
together, and fits what the service was asked.

* `World.Spoken` — a world that another one becomes while commands are sent;
* `Transcript.requests` — what is asked for apart from handshakes;
* `RuleCounts.Count`, `Transcript.Tallies` — counts of rules, and of those that were told;
* `Session.spoken_connect`, `BindingStore.spoken_active`, `Session.spoken_ruleCounts` — what each
  part of the screen asks for;
* `StatusReport.Coherent` — a report that fits together, and fits what was said;
* `StatusReport.Reports`, `Session.run_status` — a report shows what the second attempt at a
  connection came to;
* `Session.status_coherent` — every report is coherent.
-/

namespace OverlayControl

variable {δ : Type}

/-- The command that an event is, if it is one. -/
def Event.command? : Event → Option Command
  | .issued c _ => some c
  | .hungUp => none

/-- On the way from one world to another, the service was sent the commands of the transcript, one
after the other, and gave its answers. Nothing else has happened to the device. -/
structure World.Spoken (d : Device δ) (w : World δ) (t : Transcript) (w' : World δ) : Prop where
  /-- The answers are those that the service gives. -/
  answers : d.toService.Answers w.device t w'.device
  /-- The commands are recorded after what was recorded before. -/
  recorded : ∃ sent, w'.log = w.log ++ sent ∧ sent.map Event.command? = t.map fun x => some x.1

/-- What is asked for, apart from handshakes. -/
def Transcript.requests (t : Transcript) : List Command :=
  (t.map Prod.fst).filter fun c => !handshake c

/-- The counts are those of rules: of each kind so many, and so many of all kinds together. -/
structure RuleCounts.Count (counts : RuleCounts) (rules : List Rule) : Prop where
  /-- All rules. -/
  total : counts.total = rules.length
  /-- The rules that hide. -/
  hide : counts.hide = rules.countP fun r => r.kind = .hide
  /-- The rules that redirect are those that add a path. -/
  redirect : counts.redirect = rules.countP fun r => r.kind = .add
  /-- The rules that merge. -/
  merge : counts.merge = rules.countP fun r => r.kind = .merge
  /-- The rules that inject. -/
  inject : counts.inject = rules.countP fun r => r.kind = .inject

theorem RuleTable.count_iff {counts : RuleCounts} {t : RuleTable} :
    counts.Count t.rules ↔ counts = t.counts := by
  have hcount (k : RuleKind) : t.count k = t.rules.countP fun r => r.kind = k := rfl
  constructor
  · rintro ⟨htotal, hhide, hredirect, hmerge, hinject⟩
    rw [← hcount] at hhide hredirect hmerge hinject
    obtain ⟨_, _, _, _, _⟩ := counts
    rw [RuleTable.counts, ← htotal, ← hhide, ← hredirect, ← hmerge, ← hinject]
  · rintro rfl
    exact ⟨rfl, rfl, rfl, rfl, rfl⟩

/-- The rules are asked for and told, and the counts are those of the rules without a second one of
a key. -/
def Transcript.Tallies (t : Transcript) (counts : RuleCounts) : Prop :=
  ∃ answer rules, (.listRules, answer) ∈ t ∧ RuleStore.Lists answer rules ∧
    counts.Count (rules.eraseDupsBy Rule.sameKey)

namespace World.Spoken

variable {d : Device δ} {w w' w'' : World δ} {t u : Transcript}

theorem refl (w : World δ) : Spoken d w [] w := ⟨.nil _, [], (List.append_nil _).symm, rfl⟩

theorem trans (h : Spoken d w t w') (h' : Spoken d w' u w'') : Spoken d w (t ++ u) w'' := by
  obtain ⟨sent, hlog, hsent⟩ := h.recorded
  obtain ⟨more, hlog', hmore⟩ := h'.recorded
  refine ⟨h.answers.append h'.answers, sent ++ more, ?_, ?_⟩
  · rw [hlog', hlog, List.append_assoc]
  · rw [List.map_append, List.map_append, hsent, hmore]

/-- Commands that were sent over one connection, whatever connection is live afterwards. -/
theorem of_after {s : δ} (h : d.toService.Answers w.device t s) (k : Option Connection) :
    Spoken d w t { w.after s (t.map Prod.fst) with connection := k } :=
  ⟨h, _, rfl, by simp [Event.command?]⟩

end World.Spoken

namespace Transcript

variable {t u : Transcript} {c : Command} {answer : Except ServiceError Reply}

theorem requests_append (t u : Transcript) : (t ++ u).requests = t.requests ++ u.requests := by
  rw [requests, requests, requests, List.map_append, List.filter_append]

theorem requests_eq_nil (h : ∀ x ∈ t, handshake x.1 = true) : t.requests = [] := by
  rw [requests, List.filter_eq_nil_iff]
  intro c hc
  obtain ⟨x, hx, rfl⟩ := List.mem_map.1 hc
  simp [h x hx]

theorem requests_singleton (h : handshake c = false) : requests [(c, answer)] = [c] := by
  simp [requests, h]

/-- What is no part of a handshake was said exactly when it was asked for. -/
theorem mem_requests_iff (h : handshake c = false) :
    c ∈ t.requests ↔ ∃ answer, (c, answer) ∈ t := by
  simp [requests, h]

/-- Of the modules and the rules, those were asked for that the requests name. -/
theorem mem_iff_of_requests {modules rules : Bool}
    (h : t.requests = (if modules then [.listModules] else []) ++
      if rules then [.listRules] else []) :
    ((∃ answer, (.listModules, answer) ∈ t) ↔ modules = true) ∧
      ((∃ answer, (.listRules, answer) ∈ t) ↔ rules = true) := by
  rw [← mem_requests_iff rfl, ← mem_requests_iff rfl, h]
  cases modules <;> cases rules <;> simp

/-- Where the rules are not asked for, they are not told. -/
theorem tallies_append_iff {counts : RuleCounts} (h : .listRules ∉ t.requests) :
    (t ++ u).Tallies counts ↔ u.Tallies counts := by
  have hmem (answer : Except ServiceError Reply) :
      (.listRules, answer) ∈ t ++ u ↔ (.listRules, answer) ∈ u := by
    rw [List.mem_append]
    exact or_iff_right fun ht => h ((mem_requests_iff rfl).2 ⟨answer, ht⟩)
  simp only [Tallies, hmem]

theorem not_tallies_nil {counts : RuleCounts} : ¬Tallies [] counts := by
  rintro ⟨answer, rules, hmem, -⟩
  cases hmem

/-- Rules are told only where they are asked for. -/
theorem Tallies.mem {counts : RuleCounts} (h : t.Tallies counts) :
    ∃ answer, (.listRules, answer) ∈ t := by
  obtain ⟨answer, rules, hmem, -⟩ := h
  exact ⟨answer, hmem⟩

/-- Of each kind there are as many as make up the total. -/
theorem Tallies.total {counts : RuleCounts} (h : t.Tallies counts) :
    counts.hide + counts.redirect + counts.merge + counts.inject = counts.total := by
  obtain ⟨answer, rules, -, -, hcount⟩ := h
  rw [← RuleTable.rules_ofList, RuleTable.count_iff] at hcount
  rw [hcount, RuleTable.counts_add]

end Transcript

section Handshake

variable {t : Transcript} {tiers : List Tier}

theorem Declines.handshake (h : Declines tiers t) : ∀ x ∈ t, handshake x.1 = true := by
  intro x hx
  have hasked := List.mem_map_of_mem (f := Prod.fst) hx
  rw [h.asked] at hasked
  obtain ⟨tier, -, htier⟩ := List.mem_map.1 hasked
  rw [← htier]
  rfl

theorem Probed.handshake {result : Except ConnectError Tier} (h : Probed tiers t result) :
    ∀ x ∈ t, handshake x.1 = true := by
  cases h with
  | declined declines why => exact declines.handshake
  | accepted order declines accepted grants =>
    intro x hx
    rcases List.mem_append.1 hx with hx | hx
    · exact declines.handshake x hx
    · rw [List.mem_singleton.1 hx]
      rfl

/-- All that is said in a negotiation belongs to a handshake. -/
theorem Negotiated.handshake {tolerant : Bool} {result : Except ConnectError Connection}
    (h : Negotiated tolerant t result) : ∀ x ∈ t, handshake x.1 = true := by
  intro x hx
  cases h with
  | unavailable probed => exact probed.handshake x hx
  | outdated probed told old strict =>
    rcases List.mem_append.1 hx with hx | hx
    · exact probed.handshake x hx
    · rw [List.mem_singleton.1 hx]
      rfl
  | established probed welcome =>
    rcases List.mem_append.1 hx with hx | hx
    · exact probed.handshake x hx
    · simp only [List.mem_cons, List.not_mem_nil, or_false] at hx
      rcases hx with rfl | rfl | rfl <;> rfl

end Handshake

namespace BindingStore

variable {d : Device δ} {b : BindingStore} {w : World δ}

theorem run_active_of_none (h : b.engine = none) : (active d b).run w = (none, w) := by
  rw [active, h]
  rfl

/-- A store for the live connection, if there is one, asks for the modules exactly when there is
one, and leaves it as it is. -/
theorem spoken_active (h : b.engine = w.connection) :
    ∃ t, w.Spoken d t ((active d b).run w).2 ∧
      t.requests = (if b.engine.isSome then [.listModules] else []) ∧
      ((active d b).run w).2.connection = w.connection := by
  cases hengine : b.engine with
  | none =>
    rw [run_active_of_none hengine]
    exact ⟨[], .refl w, rfl, rfl⟩
  | some c =>
    have hworld : ((active d b).run w).2 =
        w.after (d.toService.after .listModules w.device) [.listModules] := by
      unfold active
      rw [hengine]
      simp only [StateT.run_bind, run_execute_of_live d _ (h.symm.trans hengine)]
      rfl
    rw [hworld]
    exact ⟨[(.listModules, _)], .of_after (.cons _ (.nil _)) w.connection,
      Transcript.requests_singleton rfl, rfl⟩

end BindingStore

namespace Session

variable {s : Session δ} {c : Connection} {w : World δ}

/-- The counts of the answer to a listing are those of the rules that it tells, without a second
rule of a key. -/
theorem counts_listing_eq_some_iff {answer : Except ServiceError Reply} {counts : RuleCounts} :
    (if (RuleStore.listing answer).isAuthoritative then some (RuleStore.listing answer).counts
      else none) = some counts ↔
      ∃ rules, RuleStore.Lists answer rules ∧ counts.Count (rules.eraseDupsBy Rule.sameKey) := by
  simp only [← RuleTable.rules_ofList, RuleTable.count_iff]
  constructor
  · intro h
    split at h
    · next hauthoritative =>
      obtain ⟨rules, hlists⟩ := RuleStore.isAuthoritative_listing_iff.1 hauthoritative
      rw [RuleStore.listing_of_lists hlists, Option.some.injEq] at h
      exact ⟨rules, hlists, h.symm⟩
    · cases h
  · rintro ⟨rules, hlists, rfl⟩
    rw [RuleStore.listing_of_lists hlists]
    rfl

/-- Over a connection that reaches the engine the rules are listed once, and without one not at
all. -/
theorem spoken_ruleCounts {connection : Option Connection} (hlive : w.connection = connection) :
    let kernelMode := connection.any fun c => c.allows .overlayEngine
    ∃ t, w.Spoken s.device t ((s.ruleCounts connection kernelMode).run w).2 ∧
      t.requests = (if kernelMode then [.listRules] else []) ∧
      ∀ counts,
        ((s.ruleCounts connection kernelMode).run w).1 = some counts ↔ t.Tallies counts := by
  have hsilent (counts : RuleCounts) : (none : Option RuleCounts) = some counts ↔
      Transcript.Tallies [] counts := ⟨nofun, (absurd · Transcript.not_tallies_nil)⟩
  cases connection with
  | none => exact ⟨[], .refl w, rfl, hsilent⟩
  | some c =>
    dsimp only
    rw [Option.any_some]
    cases hallows : c.allows .overlayEngine with
    | false => exact ⟨[], .refl w, rfl, hsilent⟩
    | true =>
      obtain ⟨answer, after, hcall⟩ : ∃ a s', s.device.call .listRules w.device = (a, s') :=
        ⟨_, _, rfl⟩
      rw [ruleCounts, StateT.run_bind, RuleStore.run_list_of_live hallows hlive hcall]
      refine ⟨[(.listRules, answer)], .of_after (.call hcall (.nil _)) w.connection,
        Transcript.requests_singleton rfl, fun counts => counts_listing_eq_some_iff.trans ?_⟩
      simp [Transcript.Tallies]

end Session

namespace StatusReport

variable {r : StatusReport}

/-- A report that fits together, and fits what was said to the service while it was made: `t`. The
first attempt at a connection came to `first`, the second one to `second`. -/
structure Coherent (r : StatusReport) (declared : Settings) (t : Transcript)
    (first second : Except ConnectError Connection) : Prop where
  /-- A connection is shown or the reason why there is none, and never both. -/
  exclusive : ((∃ c, r.connection = some c) ∧ r.connectError = none) ∨
    (r.connection = none ∧ ∃ why, r.connectError = some why)
  /-- The connection is the one that the second attempt came to. -/
  connection : ∀ c, r.connection = some c ↔ second = .ok c
  /-- The reason is the one for which that attempt failed. -/
  connectError : ∀ why, r.connectError = some why ↔ ∃ e, second = .error e ∧ why = e.message
  /-- The engine can be reached exactly over a connection of the kernel tier. -/
  kernel : r.kernelMode = true ↔ ∃ c, r.connection = some c ∧ c.tier = .kernel
  /-- Apart from handshakes, at most the modules and the rules are asked for, once each. -/
  requests : t.requests =
    (if first.toOption.isSome then [.listModules] else []) ++
      if r.kernelMode then [.listRules] else []
  /-- The modules are asked for exactly when the first attempt came to a connection. -/
  modulesAsked : (∃ answer, (.listModules, answer) ∈ t) ↔ ∃ c, first = .ok c
  /-- The rules are asked for exactly when the engine can be reached. -/
  rulesAsked : (∃ answer, (.listRules, answer) ∈ t) ↔ r.kernelMode = true
  /-- There are counts exactly when the rules are told, and they are those of the rules. -/
  counted : ∀ counts, r.rules = some counts ↔ r.kernelMode = true ∧ t.Tallies counts
  /-- The counts of the kinds make up the total. -/
  total : ∀ counts, r.rules = some counts →
    counts.hide + counts.redirect + counts.merge + counts.inject = counts.total
  /-- Stealth is shown as it is declared. -/
  stealth : r.stealth = declared.enableStealth

/-- The report shows what an attempt at a connection came to. -/
structure Reports (r : StatusReport) (attempt : Except ConnectError Connection) : Prop where
  /-- The connection. -/
  connection : r.connection = attempt.toOption
  /-- The reason why there is none. -/
  connectError : ∀ why, r.connectError = some why ↔ ∃ e, attempt = .error e ∧ why = e.message
  /-- Whether it reaches the engine. -/
  kernelMode : r.kernelMode = attempt.toOption.any fun c => c.allows .overlayEngine

/-- A report that shows what the second attempt came to fits together if it is known what was asked
for, and that the counts are those of the rules that were told. -/
theorem Reports.coherent {declared : Settings} {t : Transcript}
    {first second : Except ConnectError Connection} (hreports : r.Reports second)
    (hrequests : t.requests = (if first.toOption.isSome then [.listModules] else []) ++
      if r.kernelMode then [.listRules] else [])
    (hcounted : ∀ counts, r.rules = some counts ↔ t.Tallies counts)
    (hstealth : r.stealth = declared.enableStealth) : r.Coherent declared t first second := by
  obtain ⟨hmodules, hrules⟩ := Transcript.mem_iff_of_requests hrequests
  obtain ⟨hconnection, hconnectError, hkernel⟩ := hreports
  have hneeded : Capability.overlayEngine ∈ Capability.ofEngine := by decide
  exact
  { exclusive := by
      rw [hconnection]
      cases second with
      | ok c =>
        refine .inl ⟨⟨c, rfl⟩, Option.eq_none_iff_forall_ne_some.2 fun why hwhy => ?_⟩
        obtain ⟨e, he, -⟩ := (hconnectError why).1 hwhy
        cases he
      | error e => exact .inr ⟨rfl, e.message, (hconnectError _).2 ⟨e, rfl, rfl⟩⟩
    connection := by
      rw [hconnection]
      cases second <;> simp [Except.toOption]
    connectError := hconnectError
    kernel := by
      rw [hkernel, hconnection]
      cases second <;> simp [Except.toOption, Connection.allows_iff_kernel hneeded]
    requests := hrequests
    modulesAsked := by
      rw [hmodules]
      cases first <;> simp [Except.toOption]
    rulesAsked := hrules
    counted := fun counts => by
      rw [hcounted]
      exact ⟨fun h => ⟨hrules.1 h.mem, h⟩, And.right⟩
    total := fun counts h => ((hcounted counts).1 h).total
    stealth := hstealth }

end StatusReport

namespace Session

variable (s : Session δ) (w : World δ)

/-- With a live connection, that one is handed out again. -/
theorem run_connect_of_held {c : Connection} (h : w.connection = some c) :
    s.connect.run w = (.ok c, w) := Lifecycle.run_connect_of_some s.device s.tolerant h

/-- An attempt at a connection asks for nothing but what belongs to a handshake. What it comes to is
live then. -/
theorem spoken_connect :
    ∃ t, w.Spoken s.device t (s.connect.run w).2 ∧ t.requests = [] ∧
      (s.connect.run w).2.connection = (s.connect.run w).1.toOption := by
  cases hlive : w.connection with
  | some c =>
    rw [s.run_connect_of_held w hlive]
    exact ⟨[], .refl w, rfl, hlive⟩
  | none =>
    obtain ⟨t, after, result, hanswers, hcomes, hrun⟩ :=
      Lifecycle.exists_run_connect s.device s.tolerant hlive
    rw [connect, hrun]
    exact ⟨t, .of_after hanswers _, Transcript.requests_eq_nil hcomes.handshake, rfl⟩

/-- The store for the strategies, made with what the first attempt at a connection came to. -/
def opened : BindingStore := ⟨s.paths.moduleModes, (s.connect.run w).1.toOption⟩

/-- The world after the modules have been asked for. -/
def askedModules : World δ := (((s.opened w).active s.device).run (s.connect.run w).2).2

/-- A status screen connects, asks for the modules, connects once more, and asks for the rules. -/
theorem run_status :
    let second := s.connect.run (s.askedModules w)
    let counts := (s.ruleCounts second.1.toOption
      (second.1.toOption.any fun c => c.allows .overlayEngine)).run second.2
    ∃ r : StatusReport, s.status.run w = (r, counts.2) ∧ r.Reports second.1 ∧ r.rules = counts.1 ∧
      r.stealth = (s.device.toStorage.settings s.paths.engineConfig w.device).enableStealth := by
  have hopened : s.bindings.run w = (s.opened w, (s.connect.run w).2) := rfl
  obtain ⟨views, hviews⟩ : ∃ views, ((s.opened w).views s.device).run (s.connect.run w).2 =
      (views, s.askedModules w) := ⟨_, BindingStore.run_views ..⟩
  let pendingRestart := (views.filter BindingView.needsRestart).map BindingView.moduleId
  intro second counts
  let shown : StatusReport :=
    { transport := s.device.transport
      connection := second.1.toOption
      connectError := ConnectError.message? second.1
      kernelMode := second.1.toOption.any fun c => c.allows .overlayEngine
      rules := counts.1
      stealth := (s.device.toStorage.settings s.paths.engineConfig w.device).enableStealth
      pendingRestart }
  refine ⟨shown, ?_, ⟨rfl, fun _ => ConnectError.message?_eq_some_iff, rfl⟩, rfl, rfl⟩
  simp only [status, Action.run_bind, Keeper.load, Keeper.run_readDocument, hopened, hviews]
  rfl

/-- The modules are asked for if the first attempt came to a connection, which stays live. -/
theorem spoken_askedModules :
    ∃ t, (s.connect.run w).2.Spoken s.device t (s.askedModules w) ∧
      t.requests = (if (s.connect.run w).1.toOption.isSome then [.listModules] else []) ∧
      (s.askedModules w).connection = (s.connect.run w).1.toOption := by
  obtain ⟨-, -, -, hlive⟩ := s.spoken_connect w
  obtain ⟨t, hspoken, hrequests, hstays⟩ :=
    BindingStore.spoken_active (d := s.device) (b := s.opened w) hlive.symm
  exact ⟨t, hspoken, hrequests, hstays.trans hlive⟩

/-- After the modules have been asked for, another attempt comes to what it would have come to
before. -/
theorem connect_askedModules :
    (s.connect.run (s.askedModules w)).1 = (s.connect.run (s.connect.run w).2).1 := by
  obtain ⟨-, -, -, hlive⟩ := s.spoken_connect w
  obtain ⟨-, -, -, hasked⟩ := s.spoken_askedModules w
  cases hfirst : (s.connect.run w).1 with
  | error e =>
    -- Without a connection nothing is asked for.
    have hengine : (s.opened w).engine = none := congrArg Except.toOption hfirst
    rw [askedModules, BindingStore.run_active_of_none hengine]
  | ok c =>
    rw [hfirst] at hlive hasked
    rw [s.run_connect_of_held _ hasked, s.run_connect_of_held _ hlive]

end Session

/-- Whatever the service answers, and whatever the files hold, the status screen shows what fits
together and fits what was said to the service on the way. The declared settings are those for which
their document was written. -/
theorem Session.status_coherent (s : Session δ) (w : World δ) :
    let first := s.connect.run w
    let second := s.connect.run first.2
    let declared := s.device.toStorage.settings s.paths.engineConfig w.device
    (∃ t, World.Spoken s.device w t (s.status.run w).2 ∧
      StatusReport.Coherent (s.status.run w).1 declared t first.1 second.1) ∧
      ∀ r, s.device.toStorage.StandsFor s.paths.engineConfig w.device r → declared = r := by
  intro first second declared
  refine ⟨?_, fun r hr => hr.settings_eq⟩
  -- The two attempts at a connection, and what is asked for after each of them.
  obtain ⟨t₁, hspoken₁, hrequests₁, -⟩ := s.spoken_connect w
  obtain ⟨t₂, hspoken₂, hrequests₂, -⟩ := s.spoken_askedModules w
  obtain ⟨t₃, hspoken₃, hrequests₃, hlive⟩ := s.spoken_connect (s.askedModules w)
  obtain ⟨t₄, hspoken₄, hrequests₄, hcounts⟩ := spoken_ruleCounts (s := s) hlive
  obtain ⟨r, hrun, hreports, hrules, hstealth⟩ := s.run_status w
  have hsecond : (s.connect.run (s.askedModules w)).1 = second.1 := s.connect_askedModules w
  rw [hrun]
  refine ⟨t₁ ++ (t₂ ++ (t₃ ++ t₄)), hspoken₁.trans (hspoken₂.trans (hspoken₃.trans hspoken₄)),
    (hsecond ▸ hreports).coherent ?_ (fun counts => ?_) hstealth⟩
  · rw [hreports.kernelMode, Transcript.requests_append, Transcript.requests_append,
      Transcript.requests_append, hrequests₁, hrequests₂, hrequests₃, hrequests₄, List.nil_append,
      List.nil_append]
  · -- Only the last part may ask for the rules.
    rw [hrules, hcounts, Transcript.tallies_append_iff (by simp [hrequests₁]),
      Transcript.tallies_append_iff (by rw [hrequests₂]; split <;> simp),
      Transcript.tallies_append_iff (by simp [hrequests₃])]

/-- A service that declines the first three probes and grants everything after them. The second
attempt comes to a connection, and the rules are counted; the modules are not asked for. -/
example :
    let service : Service Nat :=
      { transport := .socket
        call := fun _ n => (if n < 3 then .error (.timeout 1) else .ok (.ofStatus 2), n + 1)
        hangUp := fun n => (.ok (), n) }
    let s : Session (Nat × FileTree) := ⟨.ofParts service FileTree.storage, {}, false⟩
    let ended := s.status.run { device := (0, {}) }
    ended.1.rules = some ⟨0, 0, 0, 0, 0⟩ ∧ ended.2.log.filterMap Event.command? =
      [.probeTier .kernel, .probeTier .root, .probeTier .shell, .probeTier .kernel, .serviceVersion,
        .engineVersion, .selinuxContext none, .listRules] := by decide +kernel

end OverlayControl
