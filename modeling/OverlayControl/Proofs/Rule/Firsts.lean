import Mathlib.Data.List.FinRange
import OverlayControl.Proofs.Path.Spelling
import OverlayControl.Proofs.Rule.Table

/-!
# The first rule of each key

A table is made from any list of rules, in which keys may occur again and again, with their paths
spelled in other ways each time. It holds the rules at those places of the list before which their
keys do not occur, in the order of the list.

* `Rule.SharesKey` — rules of one kind whose paths are spelled alike;
* `RuleTable.firsts` — the places of a list before which there is no rule of the same key;
* `RuleTable.distinct_eq_map`, `RuleTable.rules_ofList_eq_map` — a table holds the rules at these
  places;
* `RuleTable.find?_ofList_eq_some_iff` — what is found for a key is the first rule of it;
* `RuleTable.ofList_rules_ofList` — the table of a table's rules is that table;
* `RuleTable.counts_add` — the counts of the kinds add up to the number of rules;
* `RuleTable.ofList_keeps_firsts` — all of this together.
-/

namespace OverlayControl

/-- Two rules of one key: the same kind, and sources and targets that are spelled alike. -/
structure Rule.SharesKey (r s : Rule) : Prop where
  /-- The kinds are the same. -/
  kind : r.kind = s.kind
  /-- The sources are spelled alike. -/
  source : r.source.Alike s.source
  /-- The targets are both missing, or spelled alike. -/
  target : Option.Rel Path.Alike r.target s.target

/-- The comparison of rules is that of their keys. -/
theorem Rule.sameKey_iff_sharesKey {r s : Rule} : r.sameKey s = true ↔ r.SharesKey s := by
  rw [sameKey_eq_true_iff, ← Path.alike_iff, ← Path.rel_alike_iff]
  constructor
  · rintro ⟨hkind, hsource, htarget⟩
    exact ⟨hkind, hsource, htarget⟩
  · rintro ⟨hkind, hsource, htarget⟩
    exact ⟨hkind, hsource, htarget⟩

theorem Rule.sameKey_eq_false_iff {r s : Rule} : r.sameKey s = false ↔ ¬r.SharesKey s := by
  rw [← sameKey_iff_sharesKey, Bool.not_eq_true]

namespace RuleTable

variable {seen rs : List Rule} {r : Rule}

/-- Whether the key of the rule at a place is that of no rule in `seen` or at an earlier place. -/
def isFirst (seen rs : List Rule) (i : Fin rs.length) : Bool :=
  decide (∀ s ∈ seen, s.sameKey (rs.get i) = false) &&
    decide (∀ j < i, (rs.get j).sameKey (rs.get i) = false)

/-- The places of a list at which keys occur first, those in `seen` left aside. -/
def firsts (seen rs : List Rule) : List (Fin rs.length) :=
  (List.finRange rs.length).filter (isFirst seen rs)

theorem isFirst_eq_true_iff {i : Fin rs.length} :
    isFirst seen rs i = true ↔ (∀ s ∈ seen, s.sameKey (rs.get i) = false) ∧
      ∀ j < i, (rs.get j).sameKey (rs.get i) = false := by
  simp [isFirst]

theorem mem_firsts_iff {i : Fin rs.length} : i ∈ firsts seen rs ↔ isFirst seen rs i = true := by
  simp [firsts]

theorem pairwise_firsts (seen rs : List Rule) : (firsts seen rs).Pairwise (· < ·) :=
  (List.pairwise_lt_finRange rs.length).filter _

theorem isFirst_zero (seen rs : List Rule) (r : Rule) :
    isFirst seen (r :: rs) 0 = !seen.any r.sameKey := by
  rw [Bool.eq_iff_iff, isFirst_eq_true_iff, Bool.not_eq_true', List.any_eq_false]
  constructor
  · rintro ⟨hseen, -⟩ s hs
    rw [Rule.sameKey_comm]
    rw [Bool.not_eq_true]
    exact hseen s hs
  · intro h
    refine ⟨fun s hs => ?_, fun j hj => absurd hj (Nat.not_lt_zero _)⟩
    rw [Rule.sameKey_comm]
    exact Bool.eq_false_of_not_eq_true (h s hs)

/-- After the first place of a list, its rule is one that has been seen. -/
theorem isFirst_succ (seen rs : List Rule) (r : Rule) (i : Fin rs.length) :
    isFirst seen (r :: rs) i.succ = isFirst (r :: seen) rs i := by
  rw [Bool.eq_iff_iff, isFirst_eq_true_iff, isFirst_eq_true_iff]
  -- The first place is before every other one.
  constructor
  · rintro ⟨hseen, hbefore⟩
    refine ⟨fun s hs => ?_, fun j hj => hbefore j.succ (Fin.succ_lt_succ_iff.2 hj)⟩
    rcases List.mem_cons.1 hs with rfl | hs
    · exact hbefore 0 (Fin.succ_pos i)
    · exact hseen s hs
  · rintro ⟨hseen, hbefore⟩
    refine ⟨fun s hs => hseen s (List.mem_cons_of_mem r hs), fun j hj => ?_⟩
    cases j using Fin.cases with
    | zero => exact hseen r List.mem_cons_self
    | succ j => exact hbefore j (Fin.succ_lt_succ_iff.1 hj)

/-- A rule whose key has been seen may be seen once more. -/
theorem isFirst_cons_of_seen (h : seen.any r.sameKey = true) (i : Fin rs.length) :
    isFirst (r :: seen) rs i = isFirst seen rs i := by
  rw [Bool.eq_iff_iff, isFirst_eq_true_iff, isFirst_eq_true_iff]
  constructor
  · rintro ⟨hseen, hbefore⟩
    exact ⟨fun s hs => hseen s (List.mem_cons_of_mem r hs), hbefore⟩
  · rintro ⟨hseen, hbefore⟩
    refine ⟨fun s hs => ?_, hbefore⟩
    rcases List.mem_cons.1 hs with rfl | hs
    · obtain ⟨p, hp, hkey⟩ := List.any_eq_true.1 h
      -- Whatever shares the key of this rule shares that of the one seen.
      rw [← hseen p hp, Bool.eq_iff_iff]
      exact ⟨Rule.sameKey_trans (by rwa [Rule.sameKey_comm]), Rule.sameKey_trans hkey⟩
    · exact hseen s hs

theorem firsts_cons (seen rs : List Rule) (r : Rule) :
    firsts seen (r :: rs) = (if seen.any r.sameKey then [] else [0]) ++
      (firsts (r :: seen) rs).map Fin.succ := by
  have hsucc : isFirst seen (r :: rs) ∘ Fin.succ = isFirst (r :: seen) rs :=
    funext (isFirst_succ seen rs r)
  have hplaces : List.finRange (r :: rs).length = 0 :: (List.finRange rs.length).map Fin.succ :=
    List.finRange_succ
  rw [firsts, hplaces, List.filter_cons, isFirst_zero, List.filter_map, hsucc]
  cases seen.any r.sameKey <;> rfl

/-- What is kept of a list are the rules at the places where keys occur first. -/
theorem distinct_eq_map (seen rs : List Rule) :
    distinct seen rs = (firsts seen rs).map rs.get := by
  -- By induction on the list; what has been seen grows by the rules that are kept.
  induction rs generalizing seen with
  | nil => rfl
  | cons r rs ih =>
    rw [distinct, firsts_cons, List.map_append, List.map_map]
    by_cases hseen : seen.any r.sameKey = true
    · -- The rule is left out, and changes nothing for those after it.
      have hrest : firsts (r :: seen) rs = firsts seen rs :=
        List.filter_congr fun i _ => isFirst_cons_of_seen hseen i
      rw [if_pos hseen, if_pos hseen, hrest, ih]
      rfl
    · rw [if_neg hseen, if_neg hseen, ih]
      rfl

/-- A table keeps the rules at the places where keys occur first. -/
theorem rules_ofList_eq_map (rs : List Rule) : (ofList rs).rules = (firsts [] rs).map rs.get :=
  distinct_eq_map [] rs

/-- Of two rules in a table, neither has the key of the other. -/
theorem pairwise_rules_ofList (rs : List Rule) :
    (ofList rs).rules.Pairwise fun p q => p.sameKey q = false := by
  rw [rules_ofList_eq_map, List.pairwise_map]
  refine (pairwise_firsts [] rs).imp_of_mem fun {i j} _ hj hlt => ?_
  -- The later place is one before which its key does not occur.
  have hfirst := isFirst_eq_true_iff.1 (mem_firsts_iff.1 hj)
  exact hfirst.2 i hlt

/-- The table of a table's rules is that table. -/
theorem ofList_rules_ofList (rs : List Rule) : ofList (ofList rs).rules = ofList rs := by
  have hkept : distinct [] (ofList rs).rules = (ofList rs).rules :=
    distinct_of_pairwise (pairwise_rules_ofList rs) fun p hp => absurd hp List.not_mem_nil
  rw [ofList, hkept]
  rfl

/-- What a table finds for a key is the first rule of that key in the list. -/
theorem find?_ofList_eq_some_iff {key s : Rule} :
    (ofList rs).find? key = some s ↔
      ∃ before after, rs = before ++ s :: after ∧ s.SharesKey key ∧
        ∀ p ∈ before, ¬p.SharesKey key := by
  rw [find?_ofList, List.find?_eq_some_iff_append]
  constructor
  · rintro ⟨hkey, before, after, hsplit, hbefore⟩
    refine ⟨before, after, hsplit, Rule.sameKey_iff_sharesKey.1 hkey, fun p hp => ?_⟩
    rw [← Rule.sameKey_eq_false_iff]
    simpa using hbefore p hp
  · rintro ⟨before, after, hsplit, hkey, hbefore⟩
    refine ⟨Rule.sameKey_iff_sharesKey.2 hkey, before, after, hsplit, fun p hp => ?_⟩
    simpa using Rule.sameKey_eq_false_iff.2 (hbefore p hp)

/-- A table finds nothing exactly for the keys that no rule of the list has. -/
theorem find?_ofList_eq_none_iff {key : Rule} :
    (ofList rs).find? key = none ↔ ∀ p ∈ rs, ¬p.SharesKey key := by
  rw [find?_ofList, List.find?_eq_none]
  refine forall₂_congr fun p _ => ?_
  rw [Rule.sameKey_iff_sharesKey]

/-- Every rule is of one of the four kinds. -/
theorem counts_add (t : RuleTable) :
    t.counts.hide + t.counts.redirect + t.counts.merge + t.counts.inject = t.counts.total := by
  obtain ⟨rules, unavailable⟩ := t
  simp only [counts, count]
  induction rules with
  | nil => rfl
  | cons r rules ih =>
    simp only [List.countP_cons, List.length_cons, ← ih]
    cases r.kind <;> simp <;> omega

/-- Making a table of any list keeps the first rule of each key. It keeps the rules at the places
before which their key does not occur, in the order of the list, and no two of what it keeps have
one key. What is found for a key is the first rule of it in the list, and nothing when there is
none. A table made of a table's rules is the same again, and the numbers of its rules of each kind
add up to the number of its rules. -/
theorem ofList_keeps_firsts (rs : List Rule) :
    (∃ places : List (Fin rs.length), places.Pairwise (· < ·) ∧
        (ofList rs).rules = places.map rs.get ∧
        ∀ i, i ∈ places ↔ ∀ j < i, ¬(rs.get j).SharesKey (rs.get i)) ∧
      (ofList rs).rules.Sublist rs ∧
      ((ofList rs).rules.Pairwise fun p q => ¬p.SharesKey q) ∧
      (∀ key s, (ofList rs).find? key = some s ↔
        ∃ before after, rs = before ++ s :: after ∧ s.SharesKey key ∧
          ∀ p ∈ before, ¬p.SharesKey key) ∧
      (∀ key, (ofList rs).find? key = none ↔ ∀ p ∈ rs, ¬p.SharesKey key) ∧
      ofList (ofList rs).rules = ofList rs ∧
      (ofList rs).counts.hide + (ofList rs).counts.redirect + (ofList rs).counts.merge +
        (ofList rs).counts.inject = (ofList rs).counts.total ∧
      (ofList rs).counts.total = (ofList rs).rules.length := by
  refine ⟨⟨firsts [] rs, pairwise_firsts [] rs, rules_ofList_eq_map rs, fun i => ?_⟩,
    distinct_sublist [] rs, ?_, fun key s => find?_ofList_eq_some_iff,
    fun key => find?_ofList_eq_none_iff, ofList_rules_ofList rs, counts_add _, rfl⟩
  · rw [mem_firsts_iff, isFirst_eq_true_iff]
    constructor
    · rintro ⟨-, hbefore⟩ j hj
      exact Rule.sameKey_eq_false_iff.1 (hbefore j hj)
    · intro hbefore
      exact ⟨fun s hs => absurd hs List.not_mem_nil,
        fun j hj => Rule.sameKey_eq_false_iff.2 (hbefore j hj)⟩
  · exact (pairwise_rules_ofList rs).imp Rule.sameKey_eq_false_iff.1

end RuleTable

end OverlayControl
