import OverlayControl.Proofs.Module.Declaration
import OverlayControl.Proofs.Module.Document
import OverlayControl.Proofs.Settings.Save
import OverlayControl.Proofs.Text.Blank
import OverlayControl.Proofs.Verdict
import OverlayControl.Session

/-!
# Views of modules

A view shows what is declared for a module next to what is in force. Declared strategies stand in a
document, which may hold anything; those in force stand in the engine's listing, a text whose lines
may tell of a module more than once, or of nothing.

* `Strategies.Tells` — what a line of a listing tells;
* `Strategies.get?_ofListing` — of a listing is kept, for each module, the last that it tells;
* `BindingStore.Declared` — what is declared by the entries of the document;
* `BindingStore.Listed`, `BindingStore.InForce` — the text of the engine's listing, if it can be
  had, and the strategies in force by it;
* `BindingView.needsRestart_iff` — when a restart is needed;
* `Session.pendingRestart_status` — what the status screen shows of it;
* `BindingStore.views_complete` — the views, and what the status screen shows of them.
-/

namespace OverlayControl

variable {δ : Type}

namespace Strategies

/-! ## Listings -/

/-- The line tells that the module is mounted by the strategy: its first word is the module, and its
second word the strategy, in small or capital letters. -/
def Tells (line : String) (id : String) (s : Strategy) : Prop :=
  ∃ word rest, Text.words line = id :: word :: rest ∧ Text.lower word = s.name

variable {line id : String} {s : Strategy}

theorem ofLine_eq_some_iff : ofLine line = some (id, s) ↔ Tells line id s := by
  unfold ofLine Tells
  split
  · next first word rest hwords =>
    have htrim : Text.trim word = word :=
      Text.trim_of_mem_words (s := line) (by rw [hwords]; simp)
    rw [hwords, Strategy.parse, htrim]
    constructor
    · intro h
      cases hname : Strategy.ofName (Text.lower word) with
      | none =>
        rw [hname] at h
        cases h
      | some t =>
        rw [hname] at h
        cases h
        exact ⟨word, rest, rfl, Strategy.ofName_eq_some_iff.1 hname⟩
    · rintro ⟨_, _, heq, hname⟩
      cases heq
      rw [Strategy.ofName_eq_some_iff.2 hname]
      rfl
  · next hwords =>
    refine ⟨nofun, ?_⟩
    rintro ⟨word, rest, heq, -⟩
    exact absurd heq (hwords id word rest)

/-- The strategies of a listing are, for each module, the last that its lines tell of it. -/
theorem get?_ofListing {text : String} :
    (ofListing text).get? id = some s ↔ LastTold Tells (Text.lines text) id s :=
  get?_ofList_filterMap (fun _ _ _ => ofLine_eq_some_iff) _

/-- A line with an unknown strategy does not undo what an earlier one told. -/
example : (ofListing "a magic\nb overlay\na OVERLAY mounted\na unknown\n").get? "a" =
    some .overlay := by decide +kernel

/-! ## The modules of two assignments -/

theorem mem_ids_iff {m : Strategies} : id ∈ m.ids ↔ ∃ s, m.get? id = some s := by
  rw [← Option.isSome_iff_exists, get?, Option.isSome_map, List.find?_isSome, ids, List.mem_map]
  simp

theorem mem_ids_insert {m : Strategies} {k : String} {t : Strategy} :
    id ∈ (m.insert k t).ids ↔ id = k ∨ id ∈ m.ids := by
  rw [mem_ids_iff, mem_ids_iff, get?_insert]
  by_cases hk : id = k <;> simp [hk]

theorem mem_ids_foldl {m : Strategies} {pairs : List (String × Strategy)} :
    id ∈ (pairs.foldl (fun m x => m.insert x.1 x.2) m).ids ↔
      id ∈ m.ids ∨ id ∈ pairs.map Prod.fst := by
  induction pairs generalizing m with
  | nil => simp
  | cons x pairs ih =>
    rw [List.foldl_cons, ih, mem_ids_insert, List.map_cons, List.mem_cons, or_assoc, or_left_comm]

theorem Ordered.pairwise_ids {m : Strategies} (h : m.Ordered) :
    m.ids.Pairwise fun a b => Utf8.encode a < Utf8.encode b :=
  List.pairwise_map.2 (h.imp precedes_eq_true_iff.1)

end Strategies

/-! ## Views -/

/-- A restart is needed exactly for a declared strategy that is not left to the engine and is not in
force, unless it is to leave the module unmounted and none is in force. -/
theorem BindingView.needsRestart_iff {v : BindingView} :
    v.needsRestart = true ↔
      ∃ p, v.pending = some p ∧ p ≠ .auto ∧ v.active ≠ some p ∧ ¬(p = .none ∧ v.active = none) := by
  obtain ⟨moduleId, pending, active⟩ := v
  cases pending with
  | none => simp [needsRestart]
  | some p =>
    cases active with
    | none => cases p <;> simp [needsRestart]
    | some a => cases p <;> cases a <;> simp [needsRestart]

namespace BindingStore

section Store

variable {d : Device δ} {b : BindingStore} {w : World δ} {text id : String} {s : Strategy}

theorem mem_allIds_iff {p a : Strategies} :
    id ∈ allIds p a ↔ (∃ s, p.get? id = some s) ∨ ∃ s, a.get? id = some s := by
  rw [allIds, Strategies.mem_ids_foldl, Strategies.mem_ids_iff, ← Strategies.mem_ids_iff (m := a)]
  rfl

variable (d b w) in
/-- The document of the store can be read as a text, and declares the strategy for the module. -/
def Declared (id : String) (s : Strategy) : Prop :=
  ∃ text, d.toStorage.contents b.path w.device = some (Utf8.encode text) ∧
    Strategies.Declares text id s

/-- What the store finds declared is what its document declares. -/
theorem get?_strategies :
    (d.toStorage.strategies b.path w.device).get? id = some s ↔ Declared d b w id s := by
  have htext (text : String) :
      (d.toStorage.contents b.path w.device).bind Utf8.decode? = some text ↔
        d.toStorage.contents b.path w.device = some (Utf8.encode text) := by
    simp [Option.bind_eq_some_iff, Utf8.decode?_eq_some_iff]
  unfold Storage.strategies Declared
  simp only [← htext]
  cases (d.toStorage.contents b.path w.device).bind Utf8.decode? with
  | none => simp [Strategies.get?]
  | some text => simp [Strategies.get?_ofToml_iff]

variable (d b w) in
/-- The engine's listing can be had, and is the text: the store has a connection, one is live, and
the engine's reply is a success. -/
def Listed (text : String) : Prop :=
  b.engine ≠ none ∧ w.connection ≠ none ∧ ∃ r, (d.call .listModules w.device).1 = .ok r ∧
    Verdict.Returns r ∧ r.text = text

variable (d b w) in
/-- The strategy is the last that the engine's listing tells of the module. -/
def InForce (id : String) (s : Strategy) : Prop :=
  ∃ text, Listed d b w text ∧ Strategies.LastTold Strategies.Tells (Text.lines text) id s

/-- What is active is what the engine's listing tells, if it can be had. -/
theorem active_eq_some_iff {m : Strategies} :
    ((active d b).run w).1 = some m ↔ ∃ text, Listed d b w text ∧ m = .ofListing text := by
  unfold Listed
  cases hengine : b.engine with
  | none =>
    rw [active, hengine]
    refine ⟨nofun, ?_⟩
    rintro ⟨text, ⟨hengine, -⟩, -⟩
    exact absurd rfl hengine
  | some k =>
    rw [active, hengine, StateT.run_bind, run_execute]
    cases hlive : w.connection with
    | none =>
      refine ⟨nofun, ?_⟩
      rintro ⟨text, ⟨-, hlive, -⟩, -⟩
      exact absurd rfl hlive
    | some l =>
      show (if (Outcome.ofAnswer .listModules (d.call .listModules w.device).1).success then
          some (Strategies.ofListing
            (Outcome.ofAnswer .listModules (d.call .listModules w.device).1).text)
        else none) = some m ↔ _
      cases (d.call .listModules w.device).1 with
      | error e => simp [Outcome.ofAnswer, Outcome.failure]
      | ok r =>
        simp only [← Verdict.succeeded_text_eq_true_iff]
        -- The text of a listing that succeeds is that of the reply.
        cases hsuccess : Verdict.succeeded r true with
        | false => simp [Outcome.ofAnswer, Command.returnsText, hsuccess]
        | true =>
          have houtcome : (Outcome.ofAnswer .listModules (.ok r)).success = true ∧
              (Outcome.ofAnswer .listModules (.ok r)).text = r.text := by
            simp [Outcome.ofAnswer, Command.returnsText, hsuccess]
          rw [if_pos houtcome.1, houtcome.2, Option.some.injEq]
          constructor
          · rintro rfl
            exact ⟨r.text, ⟨nofun, nofun, r, rfl, hsuccess, rfl⟩, rfl⟩
          · rintro ⟨_, ⟨-, -, _, ⟨⟩, -, rfl⟩, rfl⟩
            rfl

/-- What is active is what is in force. -/
theorem get?_active : (((active d b).run w).1.getD {}).get? id = some s ↔ InForce d b w id s := by
  unfold InForce
  cases hactive : ((active d b).run w).1 with
  | none =>
    refine ⟨nofun, ?_⟩
    rintro ⟨text, hlisted, -⟩
    rw [active_eq_some_iff.2 ⟨text, hlisted, rfl⟩] at hactive
    cases hactive
  | some m =>
    obtain ⟨text, hlisted, rfl⟩ := active_eq_some_iff.1 hactive
    rw [Option.getD_some, Strategies.get?_ofListing]
    constructor
    · intro h
      exact ⟨text, hlisted, h⟩
    · rintro ⟨text', hlisted', h⟩
      obtain ⟨-, -, r, hr, -, rfl⟩ := hlisted
      obtain ⟨-, -, r', hr', -, rfl⟩ := hlisted'
      rw [hr] at hr'
      cases hr'
      exact h

variable (d b w) in
/-- The views are made of what the document declares and what is active then. -/
theorem run_views :
    (views d b).run w =
      ((allIds (d.toStorage.strategies b.path w.device) (((active d b).run w).1.getD {})).map
        fun id => ⟨id, (d.toStorage.strategies b.path w.device).get? id,
          (((active d b).run w).1.getD {}).get? id⟩, ((active d b).run w).2) := by
  rw [views, StateT.run_bind, run_pending]
  rfl

end Store

end BindingStore

/-- The status screen shows, in their order, the modules whose views need a restart. -/
theorem Session.pendingRestart_status (s : Session δ) (w : World δ) :
    (s.status.run w).1.pendingRestart =
      ((((s.bindings.run w).1.views s.device).run (s.bindings.run w).2).1.filter
        BindingView.needsRestart).map BindingView.moduleId := by
  simp only [status, Action.run_bind, Keeper.load, Keeper.run_readDocument]
  -- The attempts that follow have no part in the list.
  obtain ⟨connection, w'⟩ :=
    s.connect.run ((BindingStore.views s.device (s.bindings.run w).1).run (s.bindings.run w).2).2
  cases connection <;> rfl

/-- The views of modules lose nothing and show nothing twice. Their modules, in the order of the
bytes of their names, are those for which a strategy is declared or in force. Each shows the
strategy that the document declares, if it declares one, and the one in force: the last that the
engine's listing tells of the module, and none when the listing cannot be had. The status screen
shows those that need a restart, and these are the ones whose declared strategy is neither left to
the engine nor in force, nor is to leave unmounted what is not mounted. What documents declare is
nothing less than what is written to them: one of a line for each of some modules declares just
their strategies. -/
theorem BindingStore.views_complete (d : Device δ) :
    (∀ pairs : List (String × Strategy), (pairs.map Prod.fst).Nodup → ∀ id s,
      Strategies.Declares (Strategies.mk pairs).toToml id s ↔ (id, s) ∈ pairs) ∧
    (∀ (b : BindingStore) (w : World δ),
      let views := ((b.views d).run w).1
      (views.Pairwise fun v v' => Utf8.encode v.moduleId < Utf8.encode v'.moduleId) ∧
        (∀ id, (∃ v ∈ views, v.moduleId = id) ↔
          (∃ s, Declared d b w id s) ∨ ∃ s, InForce d b w id s) ∧
        ∀ v ∈ views, (∀ s, v.pending = some s ↔ Declared d b w v.moduleId s) ∧
          (∀ s, v.active = some s ↔ InForce d b w v.moduleId s) ∧
          (v.needsRestart = true ↔ ∃ p, v.pending = some p ∧ p ≠ .auto ∧ v.active ≠ some p ∧
            ¬(p = .none ∧ v.active = none))) ∧
      ∀ (paths : PathsConfig) (tolerant : Bool) (w : World δ),
        let s : Session δ := ⟨d, paths, tolerant⟩
        let opened := s.bindings.run w
        (s.status.run w).1.pendingRestart =
          (((opened.1.views d).run opened.2).1.filter BindingView.needsRestart).map
            BindingView.moduleId := by
  refine ⟨fun pairs hnodup id s => Strategies.declares_toToml_iff hnodup, fun b w => ?_,
    fun paths tolerant w => Session.pendingRestart_status ⟨d, paths, tolerant⟩ w⟩
  dsimp only
  rw [run_views]
  refine ⟨?_, fun id => ?_, fun v hv => ?_⟩
  · rw [List.pairwise_map]
    exact ((d.toStorage.ordered_strategies b.path w.device).foldl_insert _).pairwise_ids
  · rw [← exists_congr fun s => get?_active (d := d) (b := b) (w := w),
      ← exists_congr fun s => get?_strategies (d := d) (b := b) (w := w), ← mem_allIds_iff]
    constructor
    · rintro ⟨v, hv, rfl⟩
      obtain ⟨id, hid, rfl⟩ := List.mem_map.1 hv
      exact hid
    · intro hid
      exact ⟨_, List.mem_map_of_mem hid, rfl⟩
  · obtain ⟨id, hid, rfl⟩ := List.mem_map.1 hv
    exact ⟨fun s => get?_strategies, fun s => get?_active, BindingView.needsRestart_iff⟩

end OverlayControl
