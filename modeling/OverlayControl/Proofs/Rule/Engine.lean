import OverlayControl.Host
import OverlayControl.Proofs.Rule.Document
import OverlayControl.Rule.Store
import OverlayControl.Simulation.Engine

/-!
# Engines that keep rules

What a client of the engine relies on: the engine keeps a list of rules, numbers new ones, refuses
what it has already and what it has not, and lists what it has.

* `Service.KeepsRules` — a service that does so;
* `Device.keepsRules_ofParts` — files beside the service do not matter;
* `Simulation.Engine.keepsRules` — the engine in memory does so, in both forms of listing.
-/

namespace OverlayControl

/-- The outcome of a command. -/
def Service.outcome {σ : Type} (service : Service σ) (c : Command) (s : σ) : Outcome :=
  .ofAnswer c (service.call c s).1

/-- The state of the service after a command. -/
def Service.after {σ : Type} (service : Service σ) (c : Command) (s : σ) : σ :=
  (service.call c s).2

/-- A service that keeps rules by the book. `holds s rules n` tells that in the state `s` the rules
are `rules` and that `n` numbers have been given out, `listed` tells which rules the listing can
show. -/
structure Service.KeepsRules {σ : Type} (service : Service σ) (holds : σ → List Rule → Nat → Prop)
    (listed : Rule → Prop) : Prop where
  /-- A rule that is there byte for byte is refused as there already. -/
  add_present {s : σ} {rules : List Rule} {n : Nat} {r : Rule} : holds s rules n →
    (∃ p ∈ rules, p.kind = r.kind ∧ p.source = r.source ∧ p.target = r.target) →
      (service.outcome (.ofRule r) s).success = false ∧
        (service.outcome (.ofRule r) s).status = some alreadyExists ∧
          holds (service.after (.ofRule r) s) rules n
  /-- Any other rule goes to the end under a number that no rule has, and the number is told;
  numbers are 32-bit words, so this goes on as long as they last. -/
  add_absent {s : σ} {rules : List Rule} {n : Nat} {r : Rule} : holds s rules n → n < UInt32.size →
    (∀ p ∈ rules, ¬(p.kind = r.kind ∧ p.source = r.source ∧ p.target = r.target)) →
      ∃ i : RuleId, (∀ p ∈ rules, p.id ≠ some i) ∧
        (service.outcome (.ofRule r) s).success = true ∧
          (service.outcome (.ofRule r) s).value = some (i.number.toNat : Int) ∧
            holds (service.after (.ofRule r) s) (rules ++ [{ r with id := some i }]) (n + 1)
  /-- The rule with a number is taken out. -/
  delete_present {s : σ} {before after : List Rule} {n : Nat} {p : Rule} {i : RuleId} :
    holds s (before ++ p :: after) n → p.id = some i →
      (service.outcome (.deleteRule i) s).success = true ∧
        holds (service.after (.deleteRule i) s) (before ++ after) n
  /-- A number that no rule has is refused. -/
  delete_absent {s : σ} {rules : List Rule} {n : Nat} {i : RuleId} : holds s rules n →
    (∀ p ∈ rules, p.id ≠ some i) →
      (service.outcome (.deleteRule i) s).success = false ∧
        (service.outcome (.deleteRule i) s).status = some (-2) ∧
          holds (service.after (.deleteRule i) s) rules n
  /-- All rules are taken out. -/
  clear {s : σ} {rules : List Rule} {n : Nat} : holds s rules n →
    (service.outcome .clearRules s).success = true ∧ holds (service.after .clearRules s) [] n
  /-- The listing is read back as the rules, if it can show them all. -/
  list {s : σ} {rules : List Rule} {n : Nat} : holds s rules n → (∀ r ∈ rules, listed r) →
    (service.outcome .listRules s).success = true ∧
      Listing.read (service.outcome .listRules s).text = .ok rules ∧
        holds (service.after .listRules s) rules n

/-- Files beside a service do not matter. -/
theorem Device.keepsRules_ofParts {σ φ : Type} {service : Service σ}
    {holds : σ → List Rule → Nat → Prop} {listed : Rule → Prop}
    (h : service.KeepsRules holds listed) (files : Storage φ) :
    (Device.ofParts service files).toService.KeepsRules (fun s => holds s.1) listed where
  add_present hs := h.add_present hs
  add_absent hs := h.add_absent hs
  delete_present hs := h.delete_present hs
  delete_absent hs := h.delete_absent hs
  clear hs := h.clear hs
  list hs := h.list hs

namespace Simulation

/-- The paths that a form of listing gives back. -/
def ListingFormat.Shows : ListingFormat → Path → Prop
  | .lines => Path.IsWord
  | .json => Path.IsText

/-- A rule with known flags whose paths are texts, and have no blanks if rules are listed by
lines. -/
structure ListingFormat.Suits (format : ListingFormat) (r : Rule) : Prop where
  /-- The source is such a path, and so is the target. -/
  paths : ∀ p ∈ r.source :: r.target.toList, ∃ s : String, p = .ofString s ∧
    (format = .lines → ∀ c ∈ s.toList, Text.isBlank c = false)
  /-- The flags are known ones. -/
  flags : RuleFlags.known r.flags.bits = r.flags

/-- If such a rule is valid, its listing gives it back. -/
theorem ListingFormat.Suits.fits {format : ListingFormat} {r : Rule} (h : format.Suits r)
    (hvalid : r.validate = .ok ()) (i : RuleId) :
    Listing.Fits format.Shows { r with id := some i } := by
  obtain ⟨hsource, htarget⟩ := Rule.isAbsolute_of_validate hvalid
  -- A valid rule has absolute paths, which are never taken for attributes.
  have hshows {p : Path} (hp : p ∈ r.source :: r.target.toList) (habsolute : p.isAbsolute = true) :
      format.Shows p := by
    obtain ⟨s, rfl, hblank⟩ := h.paths p hp
    cases format with
    | lines => exact Path.isWord_of_isAbsolute habsolute (hblank rfl)
    | json => exact Path.isText_of_isAbsolute habsolute
  refine ⟨hshows List.mem_cons_self hsource, fun t ht => ?_, h.flags⟩
  exact hshows (List.mem_cons_of_mem _ (Option.mem_toList.2 ht)) (htarget t ht)

namespace Engine

/-- The listing of the engine in memory is read back as its rules. -/
theorem read_listing {e : Engine} (h : ∀ r ∈ e.rules, Listing.Fits e.format.Shows r) :
    Listing.read e.listing = .ok e.rules := by
  unfold listing
  cases hformat : e.format with
  | lines =>
    rw [hformat] at h
    exact Listing.read_renderLines h
  | json =>
    rw [hformat] at h
    exact Listing.read_renderJson h

/-- The engine in memory holds rules: it can be reached, has given out `n` numbers from `first` on,
and each rule has one of them, no two the same. -/
structure Holds (format : ListingFormat) (first : UInt32) (e : Engine) (rules : List Rule)
    (n : Nat) : Prop where
  /-- The engine can be reached. -/
  reached : e.tier.isSome = true
  /-- It lists in the given form. -/
  listing : e.format = format
  /-- It has the rules. -/
  table : e.rules = rules
  /-- The next number follows those given out. -/
  next : e.nextId = first + UInt32.ofNat n
  /-- Each rule has one of those. -/
  given : ∀ p ∈ rules, ∃ j < n, p.id = some ⟨first + UInt32.ofNat j⟩
  /-- No two rules have the same. -/
  numbers : rules.Pairwise fun p q => p.id ≠ q.id

variable {format : ListingFormat} {first : UInt32} {e : Engine} {rules rules' : List Rule} {n : Nat}

/-- An engine without rules has given out nothing yet. -/
theorem holds_nil (hreached : e.tier.isSome = true) (hempty : e.rules = []) :
    Holds e.format e.nextId e [] 0 where
  reached := hreached
  listing := rfl
  table := hempty
  next := (UInt32.add_zero e.nextId).symm
  given _ hp := absurd hp List.not_mem_nil
  numbers := .nil

theorem any_isRule_iff {r : Rule} :
    rules.any (isRule r.kind r.source r.target) = true ↔
      ∃ p ∈ rules, p.kind = r.kind ∧ p.source = r.source ∧ p.target = r.target := by
  simp [isRule, and_assoc]

theorem Holds.sublist (h : Holds format first e rules n) (hsub : rules'.Sublist rules) :
    Holds format first { e with rules := rules' } rules' n where
  reached := h.reached
  listing := h.listing
  table := rfl
  next := h.next
  given p hp := h.given p (hsub.subset hp)
  numbers := h.numbers.sublist hsub

/-- A number that was not given out yet is new. -/
theorem Holds.next_fresh (h : Holds format first e rules n) (hn : n < UInt32.size) :
    ∀ p ∈ rules, p.id ≠ some ⟨e.nextId⟩ := by
  intro p hp hid
  obtain ⟨j, hj, hgiven⟩ := h.given p hp
  -- Numbers may wrap around, but those given out are distances from the first one.
  have hword : UInt32.ofNat j = UInt32.ofNat n := by
    have hsum : first + UInt32.ofNat j = first + UInt32.ofNat n := by
      rw [← h.next]
      exact congrArg RuleId.number (Option.some.inj (hgiven.symm.trans hid))
    exact (UInt32.add_right_inj first).1 hsum
  have hnat := congrArg UInt32.toNat hword
  rw [UInt32.toNat_ofNat_of_lt' (Nat.lt_trans hj hn), UInt32.toNat_ofNat_of_lt' hn] at hnat
  omega

/-- Adding a rule under the next number. -/
theorem Holds.append (h : Holds format first e rules n) (hn : n < UInt32.size) (r : Rule) :
    Holds format first
      { e with rules := e.rules ++ [{ r with id := some ⟨e.nextId⟩ }], nextId := e.nextId + 1 }
      (rules ++ [{ r with id := some ⟨e.nextId⟩ }]) (n + 1) where
  reached := h.reached
  listing := h.listing
  table := by rw [h.table]
  next := by
    show e.nextId + 1 = _
    rw [h.next, UInt32.ofNat_add, UInt32.add_assoc]
    rfl
  given p hp := by
    rcases List.mem_append.1 hp with hp | hp
    · obtain ⟨j, hj, hid⟩ := h.given p hp
      exact ⟨j, Nat.lt_succ_of_lt hj, hid⟩
    · rw [List.mem_singleton.1 hp]
      exact ⟨n, Nat.lt_succ_self n, by rw [h.next]⟩
  numbers := by
    rw [List.pairwise_append]
    refine ⟨h.numbers, List.pairwise_singleton _ _, fun p hp q hq => ?_⟩
    rw [List.mem_singleton.1 hq]
    exact h.next_fresh hn p hp

/-- Among different numbers, taking out a number takes out one rule. -/
theorem filter_numbers {before after : List Rule} {p : Rule}
    (h : (before ++ p :: after).Pairwise fun p q => p.id ≠ q.id) :
    (before ++ p :: after).filter (fun r => r.id != p.id) = before ++ after := by
  obtain ⟨_, hafter, hbefore⟩ := List.pairwise_append.1 h
  have hkept : before.filter (fun r => r.id != p.id) = before := by
    rw [List.filter_eq_self]
    intro q hq
    exact bne_iff_ne.2 (hbefore q hq p List.mem_cons_self)
  have hkept' : after.filter (fun r => r.id != p.id) = after := by
    rw [List.filter_eq_self]
    intro q hq
    exact bne_iff_ne.2 (Ne.symm ((List.pairwise_cons.1 hafter).1 q hq))
  rw [List.filter_append, List.filter_cons_of_neg (by simp), hkept, hkept']

/-- The engine in memory keeps rules by the book, in both forms of listing. -/
theorem keepsRules (transport : Transport) (format : ListingFormat) (first : UInt32) :
    (service transport).KeepsRules (Holds format first) (Listing.Fits format.Shows) := by
  -- While the engine can be reached its answers are its replies.
  have hreply {e : Engine} {rules : List Rule} {n : Nat} (h : Holds format first e rules n)
      (c : Command) :
      ∃ tier, (service transport).outcome c e = .ofAnswer c (.ok (e.reply tier c).1) ∧
        (service transport).after c e = (e.reply tier c).2 := by
    obtain ⟨tier, htier⟩ := Option.isSome_iff_exists.1 h.reached
    have hcall := call_of_reached htier transport c
    exact ⟨tier, congrArg (Outcome.ofAnswer c) (congrArg Prod.fst hcall), congrArg Prod.snd hcall⟩
  refine ⟨?_, ?_, ?_, ?_, ?_, ?_⟩
  · intro e rules n r h hpresent
    obtain ⟨tier, houtcome, hafter⟩ := hreply h (.ofRule r)
    have hadd : e.reply tier (.ofRule r) = (.ofStatus (-17), e) := by
      rw [← h.table] at hpresent
      exact if_pos (any_isRule_iff.2 hpresent)
    rw [houtcome, hafter, hadd]
    exact ⟨rfl, rfl, h⟩
  · intro e rules n r h hn habsent
    obtain ⟨tier, houtcome, hafter⟩ := hreply h (.ofRule r)
    have hadd : e.reply tier (.ofRule r) =
        ({ status := 0, value := some e.nextId.toNat, text := "", structured := true },
          { e with
            rules := e.rules ++ [{ r with id := some ⟨e.nextId⟩ }]
            nextId := e.nextId + 1 }) := by
      refine if_neg fun hany => ?_
      rw [h.table] at hany
      obtain ⟨p, hp, hsame⟩ := any_isRule_iff.1 hany
      exact habsent p hp hsame
    rw [houtcome, hafter, hadd]
    exact ⟨⟨e.nextId⟩, h.next_fresh hn, rfl, rfl, h.append hn r⟩
  · intro e before after n p i h hid
    obtain ⟨tier, houtcome, hafter⟩ := hreply h (.deleteRule i)
    have hdelete : e.reply tier (.deleteRule i) =
        (.ofStatus 0, { e with rules := e.rules.filter fun r => r.id != some i }) := by
      have hmem : p ∈ e.rules := by
        rw [h.table]
        exact List.mem_append_right before List.mem_cons_self
      have hany : (e.rules.any fun r => r.id == some i) = true :=
        List.any_eq_true.2 ⟨p, hmem, by simp [hid]⟩
      exact if_pos hany
    -- The engine takes out by number, which is one rule.
    have hrules : (e.rules.filter fun r => r.id != some i) = before ++ after := by
      rw [h.table, ← hid]
      exact filter_numbers h.numbers
    rw [houtcome, hafter, hdelete, hrules]
    exact ⟨rfl, h.sublist ((List.sublist_cons_self p after).append_left before)⟩
  · intro e rules n i h habsent
    obtain ⟨tier, houtcome, hafter⟩ := hreply h (.deleteRule i)
    have hdelete : e.reply tier (.deleteRule i) = (.ofStatus noSuchRule, e) := by
      refine if_neg fun hany => ?_
      obtain ⟨p, hp, hid⟩ := List.any_eq_true.1 hany
      rw [h.table] at hp
      exact habsent p hp (beq_iff_eq.1 hid)
    rw [houtcome, hafter, hdelete]
    exact ⟨rfl, rfl, h⟩
  · intro e rules n h
    obtain ⟨tier, houtcome, hafter⟩ := hreply h .clearRules
    rw [houtcome, hafter]
    exact ⟨rfl, h.sublist (List.nil_sublist rules)⟩
  · intro e rules n h hlisted
    obtain ⟨tier, houtcome, hafter⟩ := hreply h .listRules
    have hread : Listing.read e.listing = .ok rules := by
      rw [← h.table, ← h.listing] at hlisted
      rw [← h.table]
      exact read_listing hlisted
    have htext : (Outcome.ofAnswer .listRules (.ok (e.reply tier .listRules).1)).text =
        e.listing := by
      show (if (e.listing.isEmpty && false) = true then _ else e.listing) = _
      rw [Bool.and_false]
      rfl
    rw [houtcome, hafter, htext]
    exact ⟨rfl, hread, h⟩

end Engine

end Simulation

end OverlayControl
