import OverlayControl.Proofs.Settings.Slot
import OverlayControl.Session

/-!
# What operations send

`Sends ok l x after` says that the operation `x`, started while `l` is the live connection, sends
only what `ok` admits, and ends with a result and a live connection that `after` admits. It composes
along the steps of an operation (`Sends.bind`), so that each operation needs one lemma that says
under which conditions it sends which command.

* `sends_issue`, `sends_execute` — the two ways of sending a command;
* `sends_connect`, `sends_disconnect`, `sends_reconnect` — the handshake;
* `RuleStore.sends_add`, `Keeper.sends_save`, `MountReconciler.sends_reconcile`,
  `BindingStore.sends_set` and their like — the operations of the stores;
* `Session.sends_status` — the status screen.
-/

namespace OverlayControl

variable {δ α β : Type}

/-- What an operation sends and how it ends, when it starts with a given live connection. -/
def Sends (ok : Event → Prop) (l : Option Connection) (x : Action δ α)
    (after : α → Option Connection → Prop) : Prop :=
  ∀ w : World δ, w.connection = l →
    (∃ sent, (x.run w).2.log = w.log ++ sent ∧ ∀ e ∈ sent, ok e) ∧
      after (x.run w).1 (x.run w).2.connection

/-- The live connection is still the given one. -/
def Stays (l : Option Connection) : α → Option Connection → Prop := fun _ k => k = l

section Steps

variable {ok : Event → Prop} {l : Option Connection}

theorem Sends.pure {after : α → Option Connection → Prop} {a : α} (h : after a l) :
    Sends ok l (Pure.pure a : Action δ α) after := by
  rintro w rfl
  exact ⟨⟨[], (List.append_nil _).symm, fun _ he => absurd he List.not_mem_nil⟩, h⟩

theorem Sends.bind {x : Action δ α} {f : α → Action δ β} {mid : α → Option Connection → Prop}
    {after : β → Option Connection → Prop} (hx : Sends ok l x mid)
    (hf : ∀ a k, mid a k → Sends ok k (f a) after) : Sends ok l (x >>= f) after := by
  intro w hw
  obtain ⟨⟨sent, hlog, hsent⟩, hmid⟩ := hx w hw
  obtain ⟨⟨more, hlog', hmore⟩, hafter⟩ := hf _ _ hmid (x.run w).2 rfl
  -- The second part starts from the world that the first one leaves.
  refine ⟨⟨sent ++ more, ?_, ?_⟩, hafter⟩
  · rw [← List.append_assoc, ← hlog]
    exact hlog'
  · intro e he
    rcases List.mem_append.1 he with he | he
    · exact hsent e he
    · exact hmore e he

/-- After a step that leaves the connection alone, the next one starts with the same. -/
theorem Sends.andThen {x : Action δ α} {f : α → Action δ β}
    {after : β → Option Connection → Prop} (hx : Sends ok l x (Stays l))
    (hf : ∀ a, Sends ok l (f a) after) : Sends ok l (x >>= f) after :=
  hx.bind fun a _ hk => hk ▸ hf a

theorem Sends.weaken {x : Action δ α} {after after' : α → Option Connection → Prop}
    (hx : Sends ok l x after) (h : ∀ a k, after a k → after' a k) : Sends ok l x after' :=
  fun w hw => ⟨(hx w hw).1, h _ _ (hx w hw).2⟩

/-- An operation that may send nothing leaves the record of what was sent as it is. -/
theorem Sends.log_eq {x : Action δ α} {after : α → Option Connection → Prop} {w : World δ}
    (hx : Sends (fun _ => False) w.connection x after) : (x.run w).2.log = w.log := by
  obtain ⟨⟨sent, hlog, hsent⟩, _⟩ := hx w rfl
  rw [hlog, List.eq_nil_iff_forall_not_mem.2 hsent, List.append_nil]

variable (d : Device δ)

theorem sends_live : Sends ok l (live : Action δ _) (fun r k => r = l ∧ k = l) := by
  rintro w rfl
  exact ⟨⟨[], (List.append_nil _).symm, fun _ he => absurd he List.not_mem_nil⟩, rfl, rfl⟩

theorem sends_setLive (c : Option Connection) :
    Sends ok l (setLive c : Action δ Unit) (fun _ k => k = c) := by
  rintro w rfl
  exact ⟨⟨[], (List.append_nil _).symm, fun _ he => absurd he List.not_mem_nil⟩, rfl⟩

theorem sends_issue {c : Command} (h : ok (.issued c l)) :
    Sends ok l (issue d c) (Stays l) := by
  rintro w rfl
  refine ⟨⟨[.issued c w.connection], log_issue d c w, ?_⟩, connection_issue d c w⟩
  intro e he
  rw [List.mem_singleton.1 he]
  exact h

theorem sends_hangUp (h : ok .hungUp) : Sends ok l (hangUp d) (Stays l) := by
  rintro w rfl
  refine ⟨⟨[.hungUp], rfl, ?_⟩, rfl⟩
  intro e he
  rw [List.mem_singleton.1 he]
  exact h

theorem sends_readText (p : Path) : Sends ok l (readText d p) (Stays l) := by
  rintro w rfl
  exact ⟨⟨[], (List.append_nil _).symm, fun _ he => absurd he List.not_mem_nil⟩, rfl⟩

theorem sends_replaceFile (p : Path) (bytes : List UInt8) :
    Sends ok l (replaceFile d p bytes) (Stays l) := by
  rintro w rfl
  exact ⟨⟨[], (List.append_nil _).symm, fun _ he => absurd he List.not_mem_nil⟩, rfl⟩

/-- A command is only executed over a live connection. -/
theorem sends_execute {c : Command} (h : l.isSome = true → ok (.issued c l)) :
    Sends ok l (execute d c) (Stays l) := by
  refine sends_live.bind fun r k hr => ?_
  obtain ⟨rfl, rfl⟩ := hr
  -- Without a live connection the command stays here.
  cases k with
  | none => exact .pure rfl
  | some c => exact (sends_issue d (h rfl)).andThen fun _ => .pure rfl

end Steps

section Handshake

variable {ok : Event → Prop} {l : Option Connection} (d : Device δ)

/-- The commands of a handshake. -/
def handshake : Command → Bool
  | .probeTier _ | .serviceVersion | .engineVersion | .selinuxContext _ => true
  | _ => false

theorem sends_negotiateTier (h : ∀ c, handshake c = true → ok (.issued c l)) (ts : List Tier)
    (why : String) : Sends ok l (negotiateTier d ts why) (Stays l) := by
  -- By induction on the tiers still to be tried; each costs one probe.
  induction ts generalizing why with
  | nil => exact .pure rfl
  | cons t ts ih =>
    refine (sends_issue d (h _ rfl)).andThen fun answer => ?_
    cases grant t answer with
    | ok granted => exact .pure rfl
    | error why => exact ih why

theorem sends_negotiate (h : ∀ c, handshake c = true → ok (.issued c l)) (tolerant : Bool) :
    Sends ok l (negotiate d tolerant) (Stays l) := by
  refine (sends_negotiateTier d h _ _).andThen fun tier => ?_
  cases tier with
  | error e => exact .pure rfl
  | ok tier =>
    refine (sends_issue d (h _ rfl)).andThen fun answer => ?_
    dsimp only
    -- An unwanted protocol ends the handshake; otherwise two more questions are asked, whose
    -- answers are only shown.
    split
    · exact .pure rfl
    · exact (sends_issue d (h _ rfl)).andThen fun _ =>
        (sends_issue d (h _ rfl)).andThen fun _ => .pure rfl

/-- Connecting sends the handshake, and only without a live connection. What it results in is the
live connection then. -/
theorem sends_connect (h : l = none → ∀ c, handshake c = true → ok (.issued c none))
    (tolerant : Bool) :
    Sends ok l (connect d tolerant) (fun r k => r.toOption = k) := by
  refine sends_live.bind fun r k hr => ?_
  obtain ⟨rfl, rfl⟩ := hr
  cases k with
  | some c => exact .pure rfl
  -- Only a handshake that succeeds sets the live connection, to what it results in.
  | none =>
    refine (sends_negotiate d (h rfl) tolerant).andThen fun r => ?_
    cases r with
    | error e => exact .pure rfl
    | ok c =>
      refine (sends_setLive (some c)).bind fun _ k hk => ?_
      exact .pure hk.symm

theorem sends_disconnect (h : ok .hungUp) : Sends ok l (disconnect d) (Stays none) := by
  refine (sends_setLive none).bind fun _ k hk => ?_
  subst hk
  exact (sends_hangUp d h).andThen fun _ => .pure rfl

theorem sends_reconnect (hhang : ok .hungUp)
    (h : ∀ c, handshake c = true → ok (.issued c none)) (tolerant : Bool) :
    Sends ok l (reconnect d tolerant) (fun r k => r.toOption = k) := by
  refine (sends_disconnect d hhang).bind fun _ k hk => ?_
  -- Whatever was live is not any more, so the handshake is sent in any case.
  subst hk
  exact sends_connect d (fun _ => h) tolerant

end Handshake

section Stores

variable {ok : Event → Prop} {l : Option Connection} (d : Device δ)

namespace RuleStore

variable (s : RuleStore)

theorem allows_of_requireEngine (h : s.requireEngine = .ok ()) :
    s.connection.allows .overlayEngine = true := by
  unfold requireEngine at h
  split at h
  · assumption
  · cases h

variable {s}

theorem sends_fetch (hlist : s.connection.allows .overlayEngine = true → l.isSome = true →
    ok (.issued .listRules l)) : Sends ok l (fetch d s) (Stays l) := by
  unfold fetch
  cases hengine : s.requireEngine with
  | error e => exact .pure rfl
  | ok _ =>
    exact (sends_execute d (hlist (allows_of_requireEngine s hengine))).andThen fun _ => .pure rfl

theorem sends_list (hlist : s.connection.allows .overlayEngine = true → l.isSome = true →
    ok (.issued .listRules l)) : Sends ok l (list d s) (Stays l) := by
  refine (sends_fetch d hlist).andThen fun t => ?_
  cases t <;> exact .pure rfl

theorem sends_existingId (hlist : s.connection.allows .overlayEngine = true → l.isSome = true →
    ok (.issued .listRules l)) (r : Rule) : Sends ok l (existingId d s r) (Stays l) := by
  refine (sends_fetch d hlist).andThen fun t => ?_
  cases t <;> exact .pure rfl

theorem sends_submit (hlist : s.connection.allows .overlayEngine = true → l.isSome = true →
    ok (.issued .listRules l)) {r : Rule} (hadd : l.isSome = true → ok (.issued (.ofRule r) l)) :
    Sends ok l (submit d s r) (Stays l) := by
  refine (sends_execute d hadd).andThen fun o => ?_
  -- The engine may leave the number out of its answer, or have the rule already: then the rules are
  -- listed to look it up.
  split
  · cases idOf o with
    | some i => exact .pure rfl
    | none =>
      refine (sends_existingId d hlist r).andThen fun i => ?_
      cases i <;> exact .pure rfl
  · split
    · refine (sends_existingId d hlist r).andThen fun i => ?_
      cases i <;> exact .pure rfl
    · exact .pure rfl

/-- A rule is submitted only if it has the shape of its kind. -/
theorem sends_add (hlist : s.connection.allows .overlayEngine = true → l.isSome = true →
    ok (.issued .listRules l)) {r : Rule} (hadd : r.validate = .ok () →
    s.connection.allows .overlayEngine = true → l.isSome = true → ok (.issued (.ofRule r) l)) :
    Sends ok l (add d s r) (Stays l) := by
  unfold add
  -- The three reasons not to send the rule, in the order in which they are looked at.
  cases hvalid : r.validate with
  | error e => exact .pure rfl
  | ok _ =>
    dsimp only
    cases hengine : s.requireEngine with
    | error e => exact .pure rfl
    | ok _ =>
      refine (sends_existingId d hlist r).andThen fun i => ?_
      cases i with
      | some i => exact .pure rfl
      | none => exact sends_submit d hlist (hadd hvalid (allows_of_requireEngine s hengine))

theorem sends_run {c : Command} (h : s.connection.allows .overlayEngine = true →
    l.isSome = true → ok (.issued c l)) : Sends ok l (run d s c) (Stays l) := by
  unfold run
  cases hengine : s.requireEngine with
  | error e => exact .pure rfl
  | ok _ =>
    exact (sends_execute d (h (allows_of_requireEngine s hengine))).andThen fun _ => .pure rfl

/-- The mirror path is sent only if it may be. -/
theorem sends_setMirrorPath {p : Path} (h : checkPath "mirror" p = .ok () →
    s.connection.allows .overlayEngine = true → l.isSome = true →
      ok (.issued (.setMirrorPath p) l)) : Sends ok l (setMirrorPath d s p) (Stays l) := by
  unfold setMirrorPath
  cases hcheck : checkPath "mirror" p with
  | error e => exact .pure rfl
  | ok _ => exact sends_run d (h hcheck)

end RuleStore

namespace Keeper

variable {k : Keeper}

theorem sends_readDocument (p : Path) : Sends ok l (readDocument d p) (Stays l) := by
  refine (sends_readText d p).andThen fun r => ?_
  cases r <;> exact .pure rfl

theorem sends_writeDocument (p : Path) (s : Settings) :
    Sends ok l (writeDocument d p s) (Stays l) := by
  unfold writeDocument
  cases s.toToml with
  | none => exact .pure rfl
  | some text =>
    refine (sends_replaceFile d p _).andThen fun r => ?_
    cases r <;> exact .pure rfl

theorem sends_push {e : Effect} (h : (k.engine.any fun c => c.allows e.gate) = true →
    l.isSome = true → ok (.issued e.command l)) (declared : Settings) (p : Progress) :
    Sends ok l (push d k declared p e) (Stays l) := by
  unfold push
  split
  · next hallows =>
    refine (sends_execute d (h hallows)).andThen fun o => ?_
    dsimp only
    split <;> exact .pure rfl
  · exact .pure rfl

theorem sends_pushAll {es : List Effect} (h : ∀ e ∈ es,
    (k.engine.any fun c => c.allows e.gate) = true → l.isSome = true → ok (.issued e.command l))
    (declared : Settings) (p : Progress) :
    Sends ok l (pushAll d k declared es p) (Stays l) := by
  induction es generalizing p with
  | nil => exact .pure rfl
  | cons e es ih =>
    refine (sends_push d (h e (List.mem_cons_self ..)) declared p).andThen fun p => ?_
    exact ih (fun f hf => h f (List.mem_cons_of_mem _ hf)) p

/-- The note of what was acknowledged is a matter of files. -/
theorem sends_record (before after : Settings) :
    Sends ok l (record d k before after) (Stays l) := by
  unfold record
  split
  · exact .pure rfl
  · exact (sends_writeDocument d k.appliedPath _).andThen fun _ => .pure rfl

/-- A save sends the commands of declared values, each only when the keeper's connection grants what
it needs. -/
theorem sends_save {declared : Settings} (h : ∀ slot c gate,
    Slot.command? slot declared = some c → slot.gate? = some gate →
      (k.engine.any fun c => c.allows gate) = true → l.isSome = true → ok (.issued c l)) :
    Sends ok l (save d k declared) (Stays l) := by
  refine (sends_writeDocument d k.path declared).andThen fun r => ?_
  cases r with
  | error e => exact .pure rfl
  | ok _ =>
    refine (sends_readDocument d k.appliedPath).andThen fun before => ?_
    -- Each pending effect is that of some slot, declared at a value with a command.
    have heffects : ∀ e ∈ pending before declared,
        (k.engine.any fun c => c.allows e.gate) = true → l.isSome = true →
          ok (.issued e.command l) := by
      intro e he
      obtain ⟨hcommand, hgate, _⟩ := mem_effects_iff.1 he
      exact h e.slot e.command e.gate hcommand hgate
    refine (sends_pushAll d heffects declared _).andThen fun p => ?_
    exact (sends_record d before p.acknowledged).andThen fun _ => .pure rfl

end Keeper

namespace MountReconciler

variable {m : MountReconciler}

theorem sends_check : Sends ok l (check d m) (Stays l) := by
  refine (sends_readText d m.mountinfo).andThen fun r => ?_
  cases r <;> exact .pure rfl

theorem sends_fix (h : m.connection.allows .overlayEngine = true → l.isSome = true →
    ok (.issued .fixMounts l)) : Sends ok l (fix d m) (Stays l) := by
  unfold fix
  split
  · next hallows => exact (sends_execute d (h hallows)).andThen fun _ => .pure rfl
  · exact .pure rfl

theorem sends_reconcile (hlist : m.connection.allows .overlayEngine = true → l.isSome = true →
    ok (.issued .listRules l)) (hfix : m.connection.allows .overlayEngine = true →
      l.isSome = true → ok (.issued .fixMounts l)) : Sends ok l (reconcile d m) (Stays l) := by
  unfold reconcile
  split
  · refine (sends_check d).andThen fun before => ?_
    dsimp only
    split
    · exact .pure rfl
    · -- The rules are listed before the repair and after it.
      refine (RuleStore.sends_list (s := m.rules) d hlist).andThen fun was => ?_
      refine (sends_fix d hfix).andThen fun r => ?_
      cases r with
      | error e => exact .pure rfl
      | ok _ =>
        refine (RuleStore.sends_list (s := m.rules) d hlist).andThen fun now => ?_
        exact (sends_check d).andThen fun after => .pure rfl
  · exact .pure rfl

end MountReconciler

namespace BindingStore

variable {b : BindingStore}

theorem sends_pending : Sends ok l (pending d b) (Stays l) := by
  refine (sends_readText d b.path).andThen fun r => ?_
  cases r <;> exact .pure rfl

/-- The modules are listed only for a store that was made with a connection. -/
theorem sends_active (h : b.engine.isSome = true → l.isSome = true →
    ok (.issued .listModules l)) : Sends ok l (active d b) (Stays l) := by
  unfold active
  cases hengine : b.engine with
  | none => exact .pure rfl
  | some c =>
    rw [hengine] at h
    exact (sends_execute d (h rfl)).andThen fun _ => .pure rfl

theorem sends_set (h : b.engine.isSome = true → l.isSome = true →
    ok (.issued .listModules l)) (id : String) (s : Strategy) :
    Sends ok l (set d b id s) (Stays l) := by
  unfold set
  split
  · exact .pure rfl
  · split
    · exact .pure rfl
    · refine (sends_pending d).andThen fun declared => ?_
      have hwrite : Sends ok l (write d b (declared.insert id s)) (Stays l) := by
        refine (sends_replaceFile d b.path _).andThen fun r => ?_
        cases r <;> exact .pure rfl
      refine hwrite.andThen fun r => ?_
      cases r with
      | error e => exact .pure rfl
      | ok _ => exact (sends_active d h).andThen fun _ => .pure rfl

theorem sends_views (h : b.engine.isSome = true → l.isSome = true →
    ok (.issued .listModules l)) : Sends ok l (views d b) (Stays l) :=
  (sends_pending d).andThen fun _ => (sends_active d h).andThen fun _ => .pure rfl

end BindingStore

end Stores

namespace Session

variable {ok : Event → Prop} {l : Option Connection} (s : Session δ)

section

variable (h : l = none → ∀ c, handshake c = true → ok (.issued c none))

include h

/-- A store of the rules is made for the connection that is live then. -/
theorem sends_rules :
    Sends ok l s.rules (fun r k => ∀ store, r = .ok store → k = some store.connection) := by
  refine (sends_connect s.device h s.tolerant).bind fun r k hk => ?_
  -- What connecting results in is live, and the store is made of it.
  subst hk
  cases r with
  | error e => exact .pure fun _ hstore => nomatch hstore
  | ok c =>
    refine .pure fun store hstore => ?_
    cases hstore
    rfl

theorem sends_mounts :
    Sends ok l s.mounts (fun r k => ∀ m, r = .ok m → k = some m.connection) := by
  refine (sends_connect s.device h s.tolerant).bind fun r k hk => ?_
  subst hk
  cases r with
  | error e => exact .pure fun _ hm => nomatch hm
  | ok c =>
    refine .pure fun m hm => ?_
    cases hm
    rfl

theorem sends_keeper : Sends ok l s.keeper (fun keeper k => keeper.engine = k) :=
  (sends_connect s.device h s.tolerant).bind fun _ _ hk => .pure hk

theorem sends_bindings : Sends ok l s.bindings (fun b k => b.engine = k) :=
  (sends_connect s.device h s.tolerant).bind fun _ _ hk => .pure hk

end

/-- The status screen sends handshakes; over the connection of the first one it lists the modules,
and over that of the second one the rules, if that connection grants it. -/
theorem sends_status (hhandshake : ∀ c, handshake c = true → ok (.issued c none))
    (hmodules : ∀ c, ok (.issued .listModules (some c)))
    (hlist : ∀ c : Connection, c.allows .overlayEngine = true → ok (.issued .listRules (some c))) :
    Sends ok l s.status (fun r k => r.connection = k) := by
  refine (Keeper.sends_readDocument s.device _).andThen fun declared => ?_
  -- The strategies come first, on a store made for them.
  refine (s.sends_bindings fun _ => hhandshake).bind fun store k hstore => ?_
  have hviews : Sends ok k (store.views s.device) (Stays k) := by
    refine BindingStore.sends_views s.device fun _ hlive => ?_
    obtain ⟨c, rfl⟩ := Option.isSome_iff_exists.1 hlive
    exact hmodules c
  refine hviews.andThen fun views => ?_
  -- Then a connection is asked for once more, and the rules are counted over that one.
  refine (sends_connect s.device (fun _ => hhandshake) s.tolerant).bind fun attempt k hk => ?_
  subst hk
  have hcounts (connection : Option Connection) : Sends ok connection (s.ruleCounts connection
      (connection.any fun c => c.allows .overlayEngine)) (Stays connection) := by
    cases connection with
    | none => exact .pure rfl
    | some c =>
      rw [Option.any_some]
      cases hallows : c.allows .overlayEngine with
      | false => exact .pure rfl
      | true =>
        exact (RuleStore.sends_list (s := ⟨c⟩) s.device fun _ _ => hlist c hallows).andThen
          fun t => .pure rfl
  exact (hcounts _).andThen fun rules => .pure rfl

end Session

end OverlayControl
