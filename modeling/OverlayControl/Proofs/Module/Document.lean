import Mathlib.Data.List.Induction
import OverlayControl.Proofs.Module.Strategies

/-!
# What documents declare

A document declares strategies if it is a table all of whose entries name one. Both the entries of
such a table and the lines of a listing tell of modules one after the other, and the last word on a
module counts.

* `Strategies.LastTold`, `Strategies.get?_ofList_filterMap` — the last that is told of a module, and
  that it is what is kept of a row of such things;
* `Strategies.Names`, `Strategies.Declares` — data that names a strategy, and a document that
  declares one for a module;
* `Strategies.get?_ofToml_iff` — what is read from a document is what it declares;
* `Strategies.declares_toToml_iff` — a document of one line for each module declares those.
-/

namespace OverlayControl

/-- A strategy has the name that it is found by. -/
theorem Strategy.ofName_eq_some_iff {word : String} {s : Strategy} :
    ofName word = some s ↔ word = s.name := by
  constructor
  · intro h
    have hname := List.find?_some h
    exact (beq_iff_eq.1 hname).symm
  · rintro rfl
    exact Strategies.ofName_name s

namespace Strategies

variable {α : Type} {id : String} {s : Strategy}

/-! ## The last word on a module -/

/-- The last thing in the row that tells a strategy of the module tells this one. -/
def LastTold (tells : α → String → Strategy → Prop) (xs : List α) (id : String) (s : Strategy) :
    Prop :=
  ∃ before x after, xs = before ++ x :: after ∧ tells x id s ∧ ∀ y ∈ after, ∀ t, ¬tells y id t

/-- What comes last tells the last of its module, and nothing of the other modules. -/
theorem lastTold_concat {tells : α → String → Strategy → Prop} {xs : List α} {x : α} :
    LastTold tells (xs ++ [x]) id s ↔
      tells x id s ∨ (∀ t, ¬tells x id t) ∧ LastTold tells xs id s := by
  constructor
  · rintro ⟨before, y, after, hxs, htells, hafter⟩
    -- The thing that counts is the last one, or stands before it.
    rcases List.eq_nil_or_concat after with rfl | ⟨front, last, rfl⟩
    · obtain ⟨-, hlast⟩ := List.append_inj' hxs rfl
      cases hlast
      exact .inl htells
    · rw [List.concat_eq_append, ← List.cons_append, ← List.append_assoc] at hxs
      obtain ⟨rfl, hlast⟩ := List.append_inj' hxs rfl
      cases hlast
      rw [List.concat_eq_append] at hafter
      exact .inr ⟨hafter x (by simp), before, y, front, rfl, htells,
        fun k hk => hafter k (List.mem_append_left _ hk)⟩
  · rintro (htells | ⟨hsilent, before, y, after, rfl, htells, hafter⟩)
    · exact ⟨xs, x, [], rfl, htells, fun y hy => absurd hy List.not_mem_nil⟩
    · refine ⟨before, y, after ++ [x], by simp, htells, fun k hk => ?_⟩
      rcases List.mem_append.1 hk with hk | hk
      · exact hafter k hk
      · rw [List.mem_singleton.1 hk]
        exact hsilent

theorem ofList_concat (pairs : List (String × Strategy)) (x : String × Strategy) :
    ofList (pairs ++ [x]) = (ofList pairs).insert x.1 x.2 := by
  rw [ofList, List.foldl_append]
  rfl

/-- Of a row of things that tell strategies, or nothing, the last word on each module is kept. -/
theorem get?_ofList_filterMap {f : α → Option (String × Strategy)}
    {tells : α → String → Strategy → Prop} (hf : ∀ x id s, f x = some (id, s) ↔ tells x id s)
    (xs : List α) : (ofList (xs.filterMap f)).get? id = some s ↔ LastTold tells xs id s := by
  induction xs using List.reverseRecOn with
  | nil =>
    refine ⟨nofun, ?_⟩
    rintro ⟨before, x, after, hxs, -⟩
    cases before <;> cases hxs
  | append_singleton xs x ih =>
    rw [List.filterMap_append, lastTold_concat, ← ih]
    simp only [← hf]
    cases hx : f x with
    | none => rw [List.filterMap_cons_none hx, List.filterMap_nil, List.append_nil]; simp
    | some pair =>
      obtain ⟨k, t⟩ := pair
      rw [List.filterMap_cons_some hx, List.filterMap_nil, ofList_concat, get?_insert]
      by_cases hk : id = k
      · subst hk
        simp
      · rw [if_neg hk]
        simp [Ne.symm hk]

/-! ## Documents -/

/-- The data names the strategy: it is the name as a text, or a table with the name for its only key
and with nothing under it. -/
def Names (x : Data) (s : Strategy) : Prop :=
  x = .text s.name ∨ ∃ nothing, (nothing = .table [] ∨ nothing = .list []) ∧
    x = .table [(s.name, nothing)]

/-- The entry of a table is for the module, and names the strategy. -/
def EntryTells (e : String × Data) (id : String) (s : Strategy) : Prop := e.1 = id ∧ Names e.2 s

/-- The document declares the strategy for the module: it is a table all of whose entries name
strategies, and of those for the module the last one names this strategy. -/
def Declares (text : String) (id : String) (s : Strategy) : Prop :=
  ∃ entries, Toml.read text = some (.table entries) ∧ (∀ e ∈ entries, ∃ t, Names e.2 t) ∧
    LastTold EntryTells entries id s

theorem choice_eq_some_iff {x : Data} :
    Data.choice .toml Strategy.ofName x = some s ↔ Names x s := by
  have hunit {d : Data} : Data.isUnit .toml d = true ↔ d = .table [] ∨ d = .list [] := by
    unfold Data.isUnit
    split <;> simp_all
  unfold Names Data.choice
  split
  · simp [Strategy.ofName_eq_some_iff]
  · next word d =>
    simp only [reduceCtorEq, false_or, Data.table.injEq, List.cons.injEq, Prod.mk.injEq, and_true]
    by_cases hd : Data.isUnit .toml d = true
    · rw [if_pos hd, Strategy.ofName_eq_some_iff]
      exact ⟨fun h => ⟨d, hunit.1 hd, h, rfl⟩, fun ⟨_, _, h, _⟩ => h⟩
    · rw [if_neg hd]
      refine ⟨nofun, ?_⟩
      rintro ⟨nothing, hnothing, -, rfl⟩
      exact absurd (hunit.2 hnothing) hd
  · next htext htable =>
    refine ⟨nofun, ?_⟩
    rintro (rfl | ⟨nothing, -, rfl⟩)
    · exact absurd rfl (htext _)
    · exact absurd rfl (htable _ _)

/-- What an entry of a document tells. -/
def ofEntry (e : String × Data) : Option (String × Strategy) :=
  (Data.choice .toml Strategy.ofName e.2).map fun s => (e.1, s)

theorem ofEntry_eq_some_iff {e : String × Data} : ofEntry e = some (id, s) ↔ EntryTells e id s := by
  rw [ofEntry, Option.map_eq_some_iff, EntryTells, ← choice_eq_some_iff]
  simp [and_comm]

theorem mapM_ofEntry_eq_some_iff {entries : List (String × Data)}
    {pairs : List (String × Strategy)} :
    entries.mapM ofEntry = some pairs ↔
      (∀ e ∈ entries, ∃ t, Names e.2 t) ∧ pairs = entries.filterMap ofEntry := by
  have hnames (e : String × Data) : (∃ t, Names e.2 t) ↔ ∃ pair, ofEntry e = some pair := by
    simp only [← choice_eq_some_iff, ofEntry, Option.map_eq_some_iff]
    exact ⟨fun ⟨t, ht⟩ => ⟨_, t, ht, rfl⟩, fun ⟨_, t, ht, _⟩ => ⟨t, ht⟩⟩
  simp only [hnames]
  induction entries generalizing pairs with
  | nil => simp [eq_comm]
  | cons e entries ih =>
    rw [List.mapM_cons, List.forall_mem_cons]
    cases he : ofEntry e with
    | none => simp
    | some pair =>
      rw [List.filterMap_cons_some he, Option.bind_eq_bind, Option.bind_some]
      constructor
      · intro h
        obtain ⟨rest, hrest, hpairs⟩ := Option.bind_eq_some_iff.1 h
        obtain ⟨hall, rfl⟩ := ih.1 hrest
        exact ⟨⟨⟨pair, rfl⟩, hall⟩, (Option.some.inj hpairs).symm⟩
      · rintro ⟨⟨-, hall⟩, rfl⟩
        exact Option.bind_eq_some_iff.2 ⟨_, ih.2 ⟨hall, rfl⟩, rfl⟩

/-- What is read from a document is what it declares; a document that is none is as good as an empty
one. -/
theorem get?_ofToml_iff {text : String} :
    ((ofToml text).getD {}).get? id = some s ↔ Declares text id s := by
  have hdata (entries : List (String × Data)) :
      ofData (.table entries) = (entries.mapM ofEntry).map ofList := rfl
  unfold ofToml Declares
  cases hread : Toml.read text with
  | none => simp [get?]
  | some d =>
    rw [Option.bind_some]
    cases d with
    | table entries =>
      simp only [Option.some.injEq, Data.table.injEq, exists_eq_left', hdata]
      cases hpairs : entries.mapM ofEntry with
      | none =>
        refine ⟨nofun, ?_⟩
        rintro ⟨hall, -⟩
        rw [mapM_ofEntry_eq_some_iff.2 ⟨hall, rfl⟩] at hpairs
        cases hpairs
      | some pairs =>
        obtain ⟨hall, rfl⟩ := mapM_ofEntry_eq_some_iff.1 hpairs
        rw [Option.map_some, Option.getD_some,
          get?_ofList_filterMap fun _ _ _ => ofEntry_eq_some_iff]
        exact ⟨fun h => ⟨hall, h⟩, And.right⟩
    | _ => simp [ofData, get?]

/-- A document with a line for each of some modules, in any order, declares their strategies and no
others. -/
theorem declares_toToml_iff {pairs : List (String × Strategy)}
    (hnodup : (pairs.map Prod.fst).Nodup) :
    Declares (toToml ⟨pairs⟩) id s ↔ (id, s) ∈ pairs := by
  have hname {s t : Strategy} : Names (.text s.name) t ↔ s = t := by
    have hinj : s.name = t.name ↔ s = t := by cases s <;> cases t <;> simp [Strategy.name]
    simp [Names, hinj]
  have hread : Toml.read (toToml ⟨pairs⟩) =
      some (.table (pairs.map fun x => (x.1, Data.text x.2.name))) := by
    have hkeys : ((Strategies.mk pairs).lines.map Toml.Line.key).Nodup := by
      rwa [lines, List.map_map]
    rw [Toml.read, toList_toToml, Toml.readChars_lines hkeys]
    simp [lines, Toml.Line.entry, Toml.Line.ofText]
  unfold Declares
  simp only [hread, Option.some.injEq, Data.table.injEq, exists_eq_left']
  constructor
  · rintro ⟨-, before, e, after, hpairs, htells, -⟩
    obtain ⟨x, hx, rfl⟩ := List.mem_map.1 (hpairs ▸ List.mem_append_right _ List.mem_cons_self :
      e ∈ pairs.map fun x => (x.1, Data.text x.2.name))
    obtain ⟨rfl, hs⟩ := htells
    rwa [← hname.1 hs]
  · intro hmem
    refine ⟨fun e he => ?_, ?_⟩
    · obtain ⟨x, -, rfl⟩ := List.mem_map.1 he
      exact ⟨x.2, hname.2 rfl⟩
    · obtain ⟨before, after, rfl⟩ := List.append_of_mem hmem
      refine ⟨before.map _, (id, .text s.name), after.map _, List.map_append,
        ⟨rfl, hname.2 rfl⟩, ?_⟩
      -- No later line is for the module, since it has its one line here.
      rintro e he t ⟨rfl, -⟩
      obtain ⟨x, hx, rfl⟩ := List.mem_map.1 he
      rw [List.map_append, List.map_cons, List.nodup_append, List.nodup_cons] at hnodup
      exact hnodup.2.1.1 (List.mem_map.2 ⟨x, hx, rfl⟩)

end Strategies

end OverlayControl
