import OverlayControl.Proofs.FileTree.Storage
import OverlayControl.Proofs.Privilege
import OverlayControl.Proofs.Rule.Engine
import OverlayControl.Proofs.Rule.Table
import OverlayControl.Proofs.Transcript

/-!
# The store is a table of rules

Over a connection of the kernel tier, and with an engine that keeps rules by the book, the
operations of the store are those of the reference table.

* `RuleStore.perform` — the operations as one function;
* `RuleStore.run_fetch`, `run_existingId`, `run_submit` — the parts of an addition;
* `RuleStore.step_of_perform`, `RuleStore.run_of_mapM_perform` — one operation, and any number of
  them;
* `RuleStore.refines_table` — the same from an empty engine.
-/

namespace OverlayControl

variable {δ : Type}

/-- With a live connection a command goes to the service. -/
theorem run_execute_of_live (d : Device δ) (c : Command) {w : World δ} {k : Connection}
    (h : w.connection = some k) :
    (execute d c).run w =
      (d.toService.outcome c w.device, w.after (d.toService.after c w.device) [c]) := by
  rw [run_execute_of_some d c h]
  rfl

namespace RuleStore

/-- Performs an operation. -/
def perform (d : Device δ) (s : RuleStore) : RuleOperation → Action δ RuleAnswer
  | .add r => do pure (.number (← add d s r))
  | .delete i => do pure (.done (← delete d s i))
  | .clear => do pure (.done (← clear d s))
  | .list => do pure (.table (← list d s))

theorem requireEngine_of_kernel {c : Connection} (h : c.tier = .kernel) :
    requireEngine ⟨c⟩ = .ok () := by
  have hallows : c.allows .overlayEngine = true := by
    rw [Connection.allows_iff_kernel (by decide)]
    exact h
  exact if_pos hallows

section Kernel

variable {d : Device δ} {holds : δ → List Rule → Nat → Prop} {listed : Rule → Prop}
  {c : Connection} {w : World δ} {rules : List Rule} {n : Nat} {r : Rule}

/-- A listing is asked for, and read. -/
theorem run_fetch_of_live {k : Connection} (htier : c.tier = .kernel)
    (hlive : w.connection = some k) :
    (fetch d ⟨c⟩).run w =
      (tableOf (d.toService.outcome .listRules w.device),
        w.after (d.toService.after .listRules w.device) [.listRules]) := by
  rw [fetch, requireEngine_of_kernel htier]
  show (execute d .listRules >>= fun o => pure (tableOf o)).run w = _
  rw [StateT.run_bind, run_execute_of_live d .listRules hlive]
  rfl

/-- A fresh listing is the engine's rules. -/
theorem run_fetch (hkeeps : d.toService.KeepsRules holds listed) (htier : c.tier = .kernel)
    (hlive : w.connection = some c) (hholds : holds w.device rules n)
    (hsound : RuleTable.Sound rules) (hlisted : ∀ p ∈ rules, listed p) :
    (fetch d ⟨c⟩).run w =
      (.ok { rules, unavailable := none },
        w.after (d.toService.after .listRules w.device) [.listRules]) := by
  obtain ⟨hsuccess, hread, _⟩ := hkeeps.list hholds hlisted
  rw [run_fetch_of_live htier hlive, tableOf, if_pos hsuccess, hread]
  exact congrArg (fun t => (Except.ok t, w.after _ _)) (RuleTable.ofList_of_sound hsound)

/-- The number of a rule is that of the first rule of its key. -/
theorem run_existingId (hkeeps : d.toService.KeepsRules holds listed) (htier : c.tier = .kernel)
    (hlive : w.connection = some c) (hholds : holds w.device rules n)
    (hsound : RuleTable.Sound rules) (hlisted : ∀ p ∈ rules, listed p) :
    (existingId d ⟨c⟩ r).run w =
      ((rules.find? fun p => p.sameKey r).bind Rule.id,
        w.after (d.toService.after .listRules w.device) [.listRules]) := by
  rw [existingId, StateT.run_bind, run_fetch hkeeps htier hlive hholds hsound hlisted]
  rfl

/-- A rule that the engine takes gets the number that it reports. -/
theorem run_submit (hlive : w.connection = some c) {i : RuleId}
    (hsuccess : (d.toService.outcome (.ofRule r) w.device).success = true)
    (hvalue : (d.toService.outcome (.ofRule r) w.device).value = some (i.number.toNat : Int)) :
    (submit d ⟨c⟩ r).run w =
      (.ok i, w.after (d.toService.after (.ofRule r) w.device) [.ofRule r]) := by
  have hid : idOf (d.toService.outcome (.ofRule r) w.device) = some i := by
    have hrange : (0 : Int) ≤ i.number.toNat ∧ (i.number.toNat : Int) < UInt32.size :=
      ⟨Int.natCast_nonneg _, Int.ofNat_lt.2 i.number.toNat_lt⟩
    rw [idOf, hvalue]
    show ite _ _ _ = _
    rw [if_pos hrange, Int.toNat_natCast, UInt32.ofNat_toNat]
  rw [submit, StateT.run_bind, run_execute_of_live d _ hlive]
  show (ite _ _ _ : Action δ _).run _ = _
  rw [if_pos hsuccess, hid]
  rfl

/-- What a command does for which success is all that matters. -/
theorem run_run {k : Connection} (htier : c.tier = .kernel) (hlive : w.connection = some k)
    (command : Command) :
    (run d ⟨c⟩ command).run w =
      (if (d.toService.outcome command w.device).success then .ok ()
        else .error (failure (d.toService.outcome command w.device)),
        w.after (d.toService.after command w.device) [command]) := by
  rw [run, requireEngine_of_kernel htier]
  show (execute d command >>= fun o => pure _).run w = _
  rw [StateT.run_bind, run_execute_of_live d command hlive]
  rfl

/-- An addition asks for the rule's number first, and submits the rule if it has none. -/
theorem run_add_of_valid (htier : c.tier = .kernel) (hvalid : r.validate = .ok ()) :
    (add d ⟨c⟩ r).run w =
      match ((existingId d ⟨c⟩ r).run w).1 with
      | some i => (.ok i, ((existingId d ⟨c⟩ r).run w).2)
      | none => (submit d ⟨c⟩ r).run ((existingId d ⟨c⟩ r).run w).2 := by
  rw [add, hvalid]
  dsimp only
  rw [requireEngine_of_kernel htier]
  dsimp only
  rw [StateT.run_bind]
  obtain ⟨found, w'⟩ := (existingId d ⟨c⟩ r).run w
  cases found <;> rfl

/-- A rule with the key of one that is there gets that one's number. -/
theorem run_add_of_present (hkeeps : d.toService.KeepsRules holds listed) (htier : c.tier = .kernel)
    (hlive : w.connection = some c) (hholds : holds w.device rules n)
    (hsound : RuleTable.Sound rules) (hlisted : ∀ p ∈ rules, listed p)
    (hvalid : r.validate = .ok ()) {p : Rule} {i : RuleId}
    (hfind : (rules.find? fun p => p.sameKey r) = some p) (hid : p.id = some i) :
    (add d ⟨c⟩ r).run w =
      (.ok i, w.after (d.toService.after .listRules w.device) [.listRules]) := by
  rw [run_add_of_valid htier hvalid, run_existingId hkeeps htier hlive hholds hsound hlisted, hfind,
    Option.bind_some, hid]

/-- A rule of a key that is not there is sent, and gets a number of its own. -/
theorem run_add_of_absent (hkeeps : d.toService.KeepsRules holds listed) (htier : c.tier = .kernel)
    (hlive : w.connection = some c) (hholds : holds w.device rules n)
    (hsound : RuleTable.Sound rules) (hlisted : ∀ p ∈ rules, listed p) (hn : n < UInt32.size)
    (hvalid : r.validate = .ok ()) (hkey : ∀ p ∈ rules, p.sameKey r = false) :
    ∃ i s, (∀ p ∈ rules, p.id ≠ some i) ∧
      (add d ⟨c⟩ r).run w = (.ok i, w.after s [.listRules, .ofRule r]) ∧
        holds s (rules ++ [{ r with id := some i }]) (n + 1) := by
  obtain ⟨_, _, hholds'⟩ := hkeeps.list hholds hlisted
  -- The engine compares bytes: what is there byte for byte is there by its key.
  have hbytes : ∀ p ∈ rules, ¬(p.kind = r.kind ∧ p.source = r.source ∧ p.target = r.target) := by
    rintro p hp ⟨hkind, hsource, htarget⟩
    have hsame : p.sameKey r = true :=
      Rule.sameKey_eq_true_iff.2 ⟨hkind, by rw [hsource], by rw [htarget]⟩
    exact Bool.false_ne_true ((hkey p hp).symm.trans hsame)
  obtain ⟨i, hid, hsuccess, hvalue, hholds''⟩ := hkeeps.add_absent hholds' hn hbytes
  have hfind : (rules.find? fun p => p.sameKey r) = none := by
    rw [List.find?_eq_none]
    intro p hp
    rw [hkey p hp]
    exact Bool.false_ne_true
  refine ⟨i, _, hid, ?_, hholds''⟩
  rw [run_add_of_valid htier hvalid, run_existingId hkeeps htier hlive hholds hsound hlisted, hfind]
  have hlive' :
      (w.after (d.toService.after .listRules w.device) [.listRules]).connection = some c := hlive
  have hsubmit := run_submit hlive' hsuccess hvalue
  rw [World.after_after] at hsubmit
  exact hsubmit

/-- One operation does to the engine what it does to the reference table. -/
theorem step_of_perform (hkeeps : d.toService.KeepsRules holds listed) (htier : c.tier = .kernel)
    (hlive : w.connection = some c) (hholds : holds w.device rules n)
    (hsound : RuleTable.Sound rules) (hlisted : ∀ p ∈ rules, listed p) (hn : n < UInt32.size)
    (op : RuleOperation)
    (hadd : ∀ r, op = .add r → r.validate = .ok () → ∀ i, listed { r with id := some i }) :
    ∃ answer sent s rules' n', (perform d ⟨c⟩ op).run w = (answer, w.after s sent) ∧
      RuleTable.Step rules op answer sent rules' ∧ holds s rules' n' ∧ n' ≤ n + 1 ∧
        ∀ p ∈ rules', listed p := by
  cases op with
  | add r =>
    cases hvalid : r.validate with
    | error e =>
      obtain ⟨what, rfl⟩ := Rule.exists_invalidShape hvalid
      refine ⟨_, [], w.device, rules, n, ?_, .invalid hvalid, hholds, Nat.le_succ n, hlisted⟩
      rw [World.after_nil, perform, add, hvalid]
      rfl
    | ok _ =>
      -- The client looks its rule up by the key before it sends it.
      cases hfind : rules.find? fun p => p.sameKey r with
      | some p =>
        have hmem := List.mem_of_find?_eq_some hfind
        have hsame := List.find?_some hfind
        obtain ⟨i, hid⟩ := Option.isSome_iff_exists.1 (hsound.numbered p hmem)
        obtain ⟨_, _, hholds'⟩ := hkeeps.list hholds hlisted
        refine ⟨_, _, _, rules, n, ?_, .present hvalid hmem hsame hid, hholds',
          Nat.le_succ n, hlisted⟩
        rw [perform, StateT.run_bind,
          run_add_of_present hkeeps htier hlive hholds hsound hlisted hvalid hfind hid]
        rfl
      | none =>
        have hkey : ∀ p ∈ rules, p.sameKey r = false := fun p hp =>
          Bool.eq_false_iff.2 (List.find?_eq_none.1 hfind p hp)
        obtain ⟨i, s, hid, hrun, hholds'⟩ :=
          run_add_of_absent hkeeps htier hlive hholds hsound hlisted hn hvalid hkey
        refine ⟨_, _, s, _, n + 1, ?_, .added hvalid hkey hid, hholds', Nat.le_refl _, ?_⟩
        · rw [perform, StateT.run_bind, hrun]
          rfl
        · intro p hp
          rcases List.mem_append.1 hp with hp | hp
          · exact hlisted p hp
          · rw [List.mem_singleton.1 hp]
            exact hadd r rfl hvalid i
  | delete i =>
    have hperform : (perform d ⟨c⟩ (.delete i)).run w =
        (.done (if (d.toService.outcome (.deleteRule i) w.device).success then .ok ()
          else .error (failure (d.toService.outcome (.deleteRule i) w.device))),
          w.after (d.toService.after (.deleteRule i) w.device) [.deleteRule i]) := by
      rw [perform, delete, StateT.run_bind, run_run htier hlive]
      rfl
    -- The client does not look a number up: the engine tells whether it is there.
    by_cases hpresent : ∃ p ∈ rules, p.id = some i
    · obtain ⟨p, hp, hid⟩ := hpresent
      obtain ⟨before, after, rfl⟩ := List.append_of_mem hp
      obtain ⟨hsuccess, hholds'⟩ := hkeeps.delete_present hholds hid
      rw [if_pos hsuccess] at hperform
      refine ⟨_, _, _, _, n, hperform, .deleted rfl hid, hholds', Nat.le_succ n, fun q hq => ?_⟩
      have hsub := (List.sublist_cons_self p after).append_left before
      exact hlisted q (hsub.subset hq)
    · have habsent : ∀ p ∈ rules, p.id ≠ some i := fun p hp hid => hpresent ⟨p, hp, hid⟩
      obtain ⟨hfailed, hstatus, hholds'⟩ := hkeeps.delete_absent hholds habsent
      rw [if_neg (by rw [hfailed]; exact Bool.false_ne_true), failure, hstatus] at hperform
      exact ⟨_, _, _, rules, n, hperform, .absent habsent, hholds', Nat.le_succ n, hlisted⟩
  | clear =>
    obtain ⟨hsuccess, hholds'⟩ := hkeeps.clear hholds
    refine ⟨_, _, _, [], n, ?_, .cleared, hholds', Nat.le_succ n, fun p hp => nomatch hp⟩
    rw [perform, clear, StateT.run_bind, run_run htier hlive, if_pos hsuccess]
    rfl
  | list =>
    obtain ⟨_, _, hholds'⟩ := hkeeps.list hholds hlisted
    refine ⟨_, _, _, rules, n, ?_, .listed hsound, hholds', Nat.le_succ n, hlisted⟩
    rw [perform, list, StateT.run_bind, StateT.run_bind,
      run_fetch hkeeps htier hlive hholds hsound hlisted]
    rfl

/-- Any number of operations do to the engine what they do to the reference table, as long as the
numbers last. -/
theorem run_of_mapM_perform (hkeeps : d.toService.KeepsRules holds listed)
    (htier : c.tier = .kernel) (hlive : w.connection = some c) (hholds : holds w.device rules n)
    (hsound : RuleTable.Sound rules) (hlisted : ∀ p ∈ rules, listed p) {ops : List RuleOperation}
    (hn : n + ops.length ≤ UInt32.size)
    (hadd : ∀ r, .add r ∈ ops → r.validate = .ok () → ∀ i, listed { r with id := some i }) :
    ∃ answers sent s rules' n', (ops.mapM (perform d ⟨c⟩)).run w = (answers, w.after s sent) ∧
      RuleTable.Run rules ops answers sent rules' ∧ holds s rules' n' ∧
        RuleTable.Sound rules' := by
  -- By induction on the operations. Each step leaves the rules sound and takes one number at most.
  induction ops generalizing w rules n with
  | nil =>
    refine ⟨[], [], w.device, rules, n, ?_, .nil, hholds, hsound⟩
    rw [World.after_nil]
    rfl
  | cons op ops ih =>
    rw [List.length_cons] at hn
    obtain ⟨answer, sent, s, rules', n', hrun, hstep, hholds', hn', hlisted'⟩ :=
      step_of_perform hkeeps htier hlive hholds hsound hlisted (by omega) op
        fun r hop => hadd r (hop ▸ List.mem_cons_self)
    have hlive' : (w.after s sent).connection = some c := hlive
    obtain ⟨answers, more, s', rules'', n'', hruns, hsteps, hholds'', hsound'⟩ :=
      ih hlive' hholds' (RuleTable.sound_of_step hstep hsound) hlisted' (by omega)
        fun r hr => hadd r (List.mem_cons_of_mem op hr)
    refine ⟨answer :: answers, sent ++ more, s', rules'', n'', ?_, .cons hstep hsteps, hholds'',
      hsound'⟩
    rw [List.mapM_cons, StateT.run_bind, hrun]
    show ((ops.mapM (perform d ⟨c⟩) >>= fun answers => pure (answer :: answers)).run
      (w.after s sent) : _ × _) = _
    rw [StateT.run_bind, hruns, World.after_after]
    rfl

/-- With the engine in memory, started empty, operations on rules whose paths are texts do what they
do to the reference table; if it lists by lines, the paths have no blanks. -/
theorem run_of_engine {φ : Type} (transport : Transport) (files : Storage φ)
    (htier : c.tier = .kernel) {w : World (Simulation.Engine × φ)} (hlive : w.connection = some c)
    (hreached : w.device.1.tier.isSome = true) (hempty : w.device.1.rules = [])
    {ops : List RuleOperation} (hlength : ops.length ≤ UInt32.size)
    (hsuits : ∀ r, .add r ∈ ops → w.device.1.format.Suits r) :
    ∃ answers sent s, (ops.mapM
        (perform (Device.ofParts (Simulation.Engine.service transport) files) ⟨c⟩)).run w =
          (answers, w.after s sent) ∧
      RuleTable.Run [] ops answers sent s.1.rules ∧ RuleTable.Sound s.1.rules := by
  have hkeeps := Device.keepsRules_ofParts (Simulation.Engine.keepsRules transport
    w.device.1.format w.device.1.nextId) files
  obtain ⟨answers, sent, s, rules, _, hrun, hsteps, hholds, hsound⟩ :=
    run_of_mapM_perform hkeeps htier hlive (Simulation.Engine.holds_nil hreached hempty)
      RuleTable.sound_nil (fun p hp => absurd hp List.not_mem_nil)
      (by rw [Nat.zero_add]; exact hlength) fun r hr hvalid i => (hsuits r hr).fits hvalid i
  refine ⟨answers, sent, s, hrun, ?_, ?_⟩
  · rw [hholds.table]
    exact hsteps
  · rw [hholds.table]
    exact hsound

/-- Over a connection of the kernel tier, to an engine that keeps rules by the book and is empty,
any run of fewer than `2 ^ 32` operations on rules that the engine's listing can show is a run of
the reference table: it answers and sends what the table's operations do, and leaves the engine with
the table's rules. -/
theorem refines_table (hkeeps : d.toService.KeepsRules holds listed) (htier : c.tier = .kernel)
    (ops : List RuleOperation) (hlength : ops.length < UInt32.size)
    (hlisted : ∀ r, .add r ∈ ops → r.validate = .ok () → ∀ i, listed { r with id := some i })
    (hlive : w.connection = some c) (hempty : holds w.device [] 0) :
    let result := (ops.mapM (perform d ⟨c⟩)).run w
    ∃ sent rules n, RuleTable.Run [] ops result.1 sent rules ∧ RuleTable.Sound rules ∧
      result.2.log = w.log ++ sent.map (fun command => .issued command (some c)) ∧
        holds result.2.device rules n := by
  intro result
  obtain ⟨answers, sent, s, rules, n, hrun, hsteps, hholds, hsound⟩ :=
    run_of_mapM_perform hkeeps htier hlive hempty RuleTable.sound_nil
      (fun p hp => absurd hp List.not_mem_nil) (by omega) hlisted
  have hresult : result = (answers, w.after s sent) := hrun
  rw [hresult]
  refine ⟨sent, rules, n, hsteps, hsound, ?_, hholds⟩
  rw [← hlive]
  rfl

/-- Hiding a path twice, in two spellings, and then once without its slash; taking the rule back
twice, and listing what is left. -/
theorem refines_table_of_hide :
    let c : Connection := ⟨.kernel, 1, 12, none⟩
    let d := Device.ofParts (Simulation.Engine.service .socket) FileTree.storage
    let w : World (Simulation.Engine × FileTree) :=
      { device := ({ tier := some .kernel }, {}), connection := some c }
    let hide (path : String) : Rule := { kind := .hide, source := .ofString path }
    let ops : List RuleOperation := [.add (hide "/a"), .add (hide "/a/"), .add (hide "a"),
      .delete ⟨1⟩, .delete ⟨1⟩, .list]
    let result := (ops.mapM (perform d ⟨c⟩)).run w
    ∃ sent rules, RuleTable.Run [] ops result.1 sent rules ∧
      result.2.log = sent.map (fun command => .issued command (some c)) ∧
        result.2.device.1.rules = rules := by
  intro c d w hide ops result
  have hhide (path : String) (hword : Text.IsWord path.toList) :
      Simulation.ListingFormat.lines.Suits (hide path) := by
    have hflags : RuleFlags.known 0 = .none := by decide
    exact ⟨fun p hp => ⟨path, List.mem_singleton.1 hp, fun _ => hword.2⟩, hflags⟩
  have hsuits : ∀ r, .add r ∈ ops → Simulation.ListingFormat.lines.Suits r := by
    intro r hr
    simp only [ops, List.mem_cons, RuleOperation.add.injEq, reduceCtorEq, List.not_mem_nil,
      or_false] at hr
    rcases hr with rfl | rfl | rfl <;>
      exact hhide _ (Text.isWord_of_all (by decide) (by decide))
  obtain ⟨sent, rules, _, hrun, _, hlog, hholds⟩ := refines_table (w := w) (c := c)
    (Device.keepsRules_ofParts (Simulation.Engine.keepsRules .socket .lines 1) FileTree.storage) rfl
    ops (by decide) (fun r hr hvalid i => (hsuits r hr).fits hvalid i) rfl
    (Simulation.Engine.holds_nil (e := { tier := some .kernel }) rfl rfl)
  exact ⟨sent, rules, hrun, hlog, hholds.table⟩

end Kernel

end RuleStore

end OverlayControl
