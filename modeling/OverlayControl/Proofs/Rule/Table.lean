import OverlayControl.Command
import OverlayControl.Rule.Table

/-!
# A reference table of rules

What a client of the engine may expect of the rules: a list, to which rules are added at the end and
from which they are taken by number. The number of a new rule is left to the engine.

* `RuleTable.Sound` — no two rules of one key, no two of one number, none without;
* `RuleTable.Step`, `RuleTable.Run` — what operations do to the list, what they answer and which
  commands they send;
* `RuleTable.sound_of_step` — no operation makes the list unsound;
* `RuleTable.rules_ofList` — the table of a list, without a second rule of a key;
* `RuleTable.find?_ofList` — a table finds the first rule of a key in the list that it is of;
* `RuleTable.find?_ofList_isSome` — every rule of a list is found in its table;
* `RuleTable.ofList_of_sound` — a sound list is a table as it stands.
-/

namespace OverlayControl

/-- The operations on rules. -/
inductive RuleOperation
  /-- Gives the engine a rule. -/
  | add (r : Rule)
  /-- Takes a rule from the engine. -/
  | delete (i : RuleId)
  /-- Takes all rules from the engine. -/
  | clear
  /-- Lists the rules. -/
  | list

/-- The answers of the operations on rules. -/
inductive RuleAnswer
  /-- The number of a rule, or why there is none. -/
  | number (result : Except RuleError RuleId)
  /-- Success, or why there is none. -/
  | done (result : Except RuleError Unit)
  /-- A table. -/
  | table (t : RuleTable)

/-- The only error of a rule's shape is that it is invalid. -/
theorem Rule.exists_invalidShape {r : Rule} {e : RuleError} (h : r.validate = .error e) :
    ∃ what, e = .invalidShape what := by
  -- Every check of a path fails in this way.
  have hpath {field : String} {p : Path} {e : RuleError} (h : checkPath field p = .error e) :
      ∃ what, e = .invalidShape what := by
    unfold checkPath at h
    split at h
    · cases h
      exact ⟨_, rfl⟩
    split at h
    · cases h
      exact ⟨_, rfl⟩
    split at h
    · cases h
      exact ⟨_, rfl⟩
    · cases h
  unfold validate at h
  split at h
  · next hsource =>
    cases h
    exact hpath hsource
  · split at h
    · split at h
      · cases h
        exact ⟨_, rfl⟩
      · cases h
    · split at h
      · cases h
        exact ⟨_, rfl⟩
      · exact hpath h

namespace RuleTable

variable {rules rules' : List Rule}

/-- A list of rules in which each has a number, and no two have the same number or the same key. -/
structure Sound (rules : List Rule) : Prop where
  /-- The keys differ. -/
  keys : rules.Pairwise fun p q => p.sameKey q = false
  /-- The numbers differ. -/
  numbers : rules.Pairwise fun p q => p.id ≠ q.id
  /-- Each rule has a number. -/
  numbered : ∀ p ∈ rules, p.id.isSome = true

theorem sound_nil : Sound [] := ⟨.nil, .nil, fun _ h => absurd h List.not_mem_nil⟩

theorem Sound.sublist (h : Sound rules) (hsub : rules'.Sublist rules) : Sound rules' where
  keys := h.keys.sublist hsub
  numbers := h.numbers.sublist hsub
  numbered p hp := h.numbered p (hsub.subset hp)

/-- What an operation does to the list of rules: its answer, the commands that it sends, and the
list after it. -/
inductive Step (rules : List Rule) : RuleOperation → RuleAnswer → List Command → List Rule → Prop
  /-- A rule that has not the shape of its kind is refused before anything is sent. -/
  | invalid {r : Rule} {what : String} (h : r.validate = .error (.invalidShape what)) :
      Step rules (.add r) (.number (.error (.invalidShape what))) [] rules
  /-- A rule with the key of one that is there gets that one's number, and is not sent. -/
  | present {r p : Rule} {i : RuleId} (h : r.validate = .ok ()) (hmem : p ∈ rules)
      (hkey : p.sameKey r = true) (hid : p.id = some i) :
      Step rules (.add r) (.number (.ok i)) [.listRules] rules
  /-- Any other rule is sent, and goes to the end under a number of its own. -/
  | added {r : Rule} {i : RuleId} (h : r.validate = .ok ())
      (hkey : ∀ p ∈ rules, p.sameKey r = false) (hid : ∀ p ∈ rules, p.id ≠ some i) :
      Step rules (.add r) (.number (.ok i)) [.listRules, .ofRule r]
        (rules ++ [{ r with id := some i }])
  /-- The rule with a number is taken out, and no other one. -/
  | deleted {before after : List Rule} {p : Rule} {i : RuleId} (h : rules = before ++ p :: after)
      (hid : p.id = some i) :
      Step rules (.delete i) (.done (.ok ())) [.deleteRule i] (before ++ after)
  /-- A number that no rule has cannot be taken out. -/
  | absent {i : RuleId} {diagnostic : String} (h : ∀ p ∈ rules, p.id ≠ some i) :
      Step rules (.delete i) (.done (.error (.rejected (-2) diagnostic))) [.deleteRule i] rules
  /-- All rules are taken out. -/
  | cleared : Step rules .clear (.done (.ok ())) [.clearRules] []
  /-- A listing is authoritative and holds exactly the rules, in order. -/
  | listed (h : Sound rules) :
      Step rules .list (.table { rules, unavailable := none }) [.listRules] rules

/-- What operations do one after the other. -/
inductive Run : List Rule → List RuleOperation → List RuleAnswer → List Command → List Rule → Prop
  /-- No operation does nothing. -/
  | nil {rules : List Rule} : Run rules [] [] [] rules
  /-- The first operation, and then the others. -/
  | cons {rules rules' rules'' : List Rule} {op : RuleOperation} {ops : List RuleOperation}
      {answer : RuleAnswer} {answers : List RuleAnswer} {sent more : List Command}
      (hstep : Step rules op answer sent rules') (hrun : Run rules' ops answers more rules'') :
      Run rules (op :: ops) (answer :: answers) (sent ++ more) rules''

/-- No operation makes the list unsound. -/
theorem sound_of_step {op : RuleOperation} {answer : RuleAnswer} {sent : List Command}
    (h : Step rules op answer sent rules') (hsound : Sound rules) : Sound rules' := by
  cases h with
  | invalid => exact hsound
  | present => exact hsound
  -- What is new about the added rule is its key and its number.
  | @added r i hvalid hkey hid =>
    refine ⟨?_, ?_, ?_⟩
    · rw [List.pairwise_append]
      refine ⟨hsound.keys, List.pairwise_singleton _ _, fun p hp q hq => ?_⟩
      rw [List.mem_singleton.1 hq]
      exact hkey p hp
    · rw [List.pairwise_append]
      refine ⟨hsound.numbers, List.pairwise_singleton _ _, fun p hp q hq => ?_⟩
      rw [List.mem_singleton.1 hq]
      exact hid p hp
    · intro p hp
      rcases List.mem_append.1 hp with hp | hp
      · exact hsound.numbered p hp
      · rw [List.mem_singleton.1 hp]
        rfl
  | @deleted before after p i hrules hid =>
    rw [hrules] at hsound
    exact hsound.sublist ((List.sublist_cons_self p after).append_left before)
  | absent => exact hsound
  | cleared => exact sound_nil
  | listed => exact hsound

/-- Rules of different keys are all kept. -/
theorem distinct_of_pairwise {seen : List Rule}
    (h : rules.Pairwise fun p q => p.sameKey q = false)
    (hseen : ∀ p ∈ seen, ∀ q ∈ rules, p.sameKey q = false) : distinct seen rules = rules := by
  induction rules generalizing seen with
  | nil => rfl
  | cons r rs ih =>
    obtain ⟨hr, hrs⟩ := List.pairwise_cons.1 h
    -- The rule differs from those that were kept before it.
    have hnew : seen.any r.sameKey = false := by
      rw [List.any_eq_false]
      intro p hp
      rw [Rule.sameKey_comm, hseen p hp r List.mem_cons_self]
      exact Bool.false_ne_true
    rw [distinct, hnew]
    refine congrArg (r :: ·) (ih hrs fun p hp q hq => ?_)
    rcases List.mem_cons.1 hp with rfl | hp
    · exact hr q hq
    · exact hseen p hp q (List.mem_cons_of_mem r hq)

theorem distinct_sublist (seen rs : List Rule) : (distinct seen rs).Sublist rs := by
  induction rs generalizing seen with
  | nil => exact .slnil
  | cons p rs ih =>
    rw [distinct]
    split
    · exact (ih seen).cons p
    · exact (ih (p :: seen)).cons_cons p

/-- Of several rules of one key a table keeps the first. -/
theorem rules_ofList (rs : List Rule) : (ofList rs).rules = rs.eraseDupsBy Rule.sameKey := by
  have hloop (rs seen : List Rule) :
      List.eraseDupsBy.loop Rule.sameKey rs seen = seen.reverse ++ distinct seen rs := by
    induction rs generalizing seen with
    | nil => simp [List.eraseDupsBy.loop, distinct]
    | cons r rs ih =>
      rw [List.eraseDupsBy.loop, distinct]
      cases seen.any r.sameKey with
      | true => exact ih seen
      | false => simp [ih]
  rw [List.eraseDupsBy, hloop]
  rfl

/-- The table of a list finds the first rule of a key. -/
theorem find?_distinct (seen rules : List Rule) (r : Rule) :
    ((distinct seen rules).find? fun p => p.sameKey r) =
      if seen.any fun p => p.sameKey r then none else rules.find? fun p => p.sameKey r := by
  induction rules generalizing seen with
  | nil => simp [distinct]
  | cons p rules ih =>
    rw [distinct, List.find?_cons]
    by_cases hseen : seen.any p.sameKey = true
    · rw [if_pos hseen, ih]
      cases hp : p.sameKey r with
      | false => rfl
      | true =>
        -- What comes before has the key then.
        obtain ⟨q, hq, hpq⟩ := List.any_eq_true.1 hseen
        have hany : (seen.any fun p => p.sameKey r) = true :=
          List.any_eq_true.2 ⟨q, hq, Rule.sameKey_trans (by rwa [Rule.sameKey_comm]) hp⟩
        rw [if_pos hany, if_pos hany]
    · rw [if_neg hseen, List.find?_cons]
      cases hp : p.sameKey r with
      | false => rw [ih, List.any_cons, hp, Bool.false_or]
      | true =>
        have hany : ¬(seen.any fun p => p.sameKey r) = true := by
          intro hany
          obtain ⟨q, hq, hqr⟩ := List.any_eq_true.1 hany
          exact hseen (List.any_eq_true.2
            ⟨q, hq, Rule.sameKey_trans hp (by rwa [Rule.sameKey_comm])⟩)
        rw [if_neg hany]

theorem find?_ofList (rules : List Rule) (r : Rule) :
    (ofList rules).find? r = rules.find? fun p => p.sameKey r :=
  find?_distinct [] rules r

/-- Every rule of a list is found in its table. -/
theorem find?_ofList_isSome {rs : List Rule} {r : Rule} (hr : r ∈ rs) :
    ((ofList rs).find? r).isSome = true := by
  rw [find?_ofList, List.find?_isSome]
  exact ⟨r, hr, r.sameKey_self⟩

/-- A sound list is a table as it stands. -/
theorem ofList_of_sound (h : Sound rules) : ofList rules = { rules, unavailable := none } := by
  rw [ofList, distinct_of_pairwise h.keys fun p hp => absurd hp List.not_mem_nil]

end RuleTable

end OverlayControl
