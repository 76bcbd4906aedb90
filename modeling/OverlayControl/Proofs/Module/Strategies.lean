import OverlayControl.Module.Strategy
import OverlayControl.Proofs.Toml.Document
import OverlayControl.Proofs.Utf8

/-!
# Strategies survive their document

Strategies are kept in the order of the modules' names. Giving a module a strategy keeps that order,
whatever the name, and ordered strategies are what is read from the document that is written for
them; so no module is lost or renamed on the way.

* `precedes_trans`, `precedes_total` — the order of names;
* `precedes_eq_true_iff` — it is that of their bytes;
* `Strategies.Ordered`, `Strategies.Ordered.insert` — strategies in that order, each module once;
* `Strategies.ordered_of_ofToml` — strategies that were read are in order;
* `Strategies.ofToml_toToml` — and ordered strategies are read back.
-/

namespace OverlayControl

/-! ## Names -/

section Names

variable {as bs cs : List Char}

theorem precedes_cons_iff {c d : Char} :
    precedes (c :: cs) (d :: bs) = true ↔ c.toNat < d.toNat ∨ c = d ∧ precedes cs bs = true := by
  simp [precedes]

@[simp]
theorem precedes_self (cs : List Char) : precedes cs cs = false := by
  induction cs with
  | nil => rfl
  | cons c cs ih => simp [precedes, ih]

theorem precedes_trans (hab : precedes as bs = true) (hbc : precedes bs cs = true) :
    precedes as cs = true := by
  induction bs generalizing as cs with
  | nil => simp [precedes] at hab
  | cons b bs ih =>
    cases cs with
    | nil => simp [precedes] at hbc
    | cons c cs =>
      cases as with
      | nil => rfl
      | cons a as =>
        rw [precedes_cons_iff] at hab hbc ⊢
        -- The first characters decide, unless they are all the same.
        rcases hab with hab | ⟨rfl, hab⟩
        · rcases hbc with hbc | ⟨rfl, -⟩
          · exact .inl (Nat.lt_trans hab hbc)
          · exact .inl hab
        · rcases hbc with hbc | ⟨rfl, hbc⟩
          · exact .inl hbc
          · exact .inr ⟨rfl, ih hab hbc⟩

/-- Of two names one comes first. -/
theorem precedes_total (hne : as ≠ bs) (h : precedes as bs = false) : precedes bs as = true := by
  induction as generalizing bs with
  | nil =>
    cases bs with
    | nil => exact absurd rfl hne
    | cons b bs => simp [precedes] at h
  | cons a as ih =>
    cases bs with
    | nil => rfl
    | cons b bs =>
      rw [precedes_cons_iff]
      rw [← Bool.not_eq_true, precedes_cons_iff, not_or] at h
      by_cases hab : a = b
      · subst hab
        have hrest : precedes as bs = false := by simpa using h.2
        exact .inr ⟨rfl, ih (by simpa using hne) hrest⟩
      · have hlt : b.toNat ≠ a.toNat := fun heq => hab (Char.toNat_inj.1 heq).symm
        exact .inl (by omega)

/-- Names stand in the order of their bytes. -/
theorem precedes_eq_true_iff :
    precedes as bs = true ↔ Utf8.encodeChars as < Utf8.encodeChars bs := by
  have hlt {as bs : List Char} (h : precedes as bs = true) :
      Utf8.encodeChars as < Utf8.encodeChars bs := by
    induction as generalizing bs with
    | nil =>
      cases bs with
      | nil => cases h
      | cons b bs =>
        cases hbytes : Utf8.encodeChars (b :: bs) with
        | nil =>
          have hempty : b :: bs = [] := Utf8.encodeChars_inj hbytes
          cases hempty
        | cons byte bytes => exact List.Lex.nil
    | cons a as ih =>
      cases bs with
      | nil => cases h
      | cons b bs =>
        rcases precedes_cons_iff.1 h with hchar | ⟨rfl, hrest⟩
        · exact Utf8.utf8EncodeChar_append_lt hchar _ _
        · exact List.append_left_lt (ih hrest)
  refine ⟨hlt, fun h => ?_⟩
  -- Otherwise the names are the same, or stand the other way round.
  cases hbefore : precedes as bs with
  | true => rfl
  | false =>
    by_cases heq : as = bs
    · exact absurd (heq ▸ h) (List.lt_irrefl _)
    · exact absurd h (List.lt_asymm (hlt (precedes_total heq hbefore)))

end Names

namespace Strategies

/-! ## Order -/

/-- The modules stand in the order of their names, each once. -/
def Ordered (m : Strategies) : Prop :=
  m.entries.Pairwise fun x y => precedes x.1.toList y.1.toList = true

/-- The strategies of all modules after one was given a strategy. -/
theorem get?_insert (m : Strategies) (id : String) (s : Strategy) (other : String) :
    (m.insert id s).get? other = if other = id then some s else m.get? other := by
  by_cases h : other = id
  · rw [if_pos h, h, get?_insert_self]
  · rw [if_neg h, get?_insert_of_ne m s h]

theorem ordered_empty : Ordered {} := List.Pairwise.nil

section Insert

variable {id : String} {s : Strategy} {e : String × Strategy} {es : List (String × Strategy)}

theorem insertEntry_of_eq (h : e.1 = id) : insertEntry id s (e :: es) = (id, s) :: es := by
  rw [insertEntry, if_pos h]

theorem insertEntry_of_before (hne : e.1 ≠ id) (h : precedes id.toList e.1.toList = true) :
    insertEntry id s (e :: es) = (id, s) :: e :: es := by
  rw [insertEntry, if_neg hne, if_pos h]

theorem insertEntry_of_after (hne : e.1 ≠ id) (h : precedes id.toList e.1.toList = false) :
    insertEntry id s (e :: es) = e :: insertEntry id s es := by
  rw [insertEntry, if_neg hne, h]
  rfl

theorem mem_insertEntry {x : String × Strategy} (h : x ∈ insertEntry id s es) :
    x = (id, s) ∨ x ∈ es := by
  induction es with
  | nil => simpa [insertEntry] using h
  | cons e es ih =>
    by_cases hsame : e.1 = id
    · rw [insertEntry_of_eq hsame, List.mem_cons] at h
      exact h.imp_right (List.mem_cons_of_mem e)
    · cases hbefore : precedes id.toList e.1.toList with
      | true => rwa [insertEntry_of_before hsame hbefore, List.mem_cons] at h
      | false =>
        rw [insertEntry_of_after hsame hbefore, List.mem_cons] at h
        rcases h with rfl | h
        · exact .inr List.mem_cons_self
        · exact (ih h).imp_right (List.mem_cons_of_mem e)

/-- Giving a module a strategy keeps the order. -/
theorem Ordered.insert {m : Strategies} (h : m.Ordered) (id : String) (s : Strategy) :
    (m.insert id s).Ordered := by
  obtain ⟨es⟩ := m
  unfold Ordered Strategies.insert at *
  dsimp only at *
  induction es with
  | nil => simp [insertEntry]
  | cons e es ih =>
    rw [List.pairwise_cons] at h
    obtain ⟨hfirst, hrest⟩ := h
    by_cases hsame : e.1 = id
    · -- The entry takes the place of the one before it.
      rw [insertEntry_of_eq hsame, List.pairwise_cons]
      exact ⟨fun x hx => hsame ▸ hfirst x hx, hrest⟩
    · cases hbefore : precedes id.toList e.1.toList with
      | true =>
        rw [insertEntry_of_before hsame hbefore, List.pairwise_cons, List.pairwise_cons]
        refine ⟨?_, hfirst, hrest⟩
        rintro x (_ | ⟨_, hx⟩)
        · exact hbefore
        · exact precedes_trans hbefore (hfirst x hx)
      | false =>
        rw [insertEntry_of_after hsame hbefore, List.pairwise_cons]
        refine ⟨fun x hx => ?_, ih hrest⟩
        rcases mem_insertEntry hx with rfl | hx
        · exact precedes_total (fun heq => hsame (String.toList_inj.1 heq).symm) hbefore
        · exact hfirst x hx

/-- A name that comes after all others goes to the end. -/
theorem insertEntry_of_last (h : ∀ x ∈ es, precedes x.1.toList id.toList = true) :
    insertEntry id s es = es ++ [(id, s)] := by
  induction es with
  | nil => rfl
  | cons e es ih =>
    have he : precedes e.1.toList id.toList = true := h e List.mem_cons_self
    have hsame : e.1 ≠ id := by
      rintro rfl
      simp at he
    have hbefore : precedes id.toList e.1.toList = false := by
      rw [← Bool.not_eq_true]
      intro hbefore
      simpa using precedes_trans he hbefore
    rw [insertEntry_of_after hsame hbefore, ih fun x hx => h x (List.mem_cons_of_mem e hx),
      List.cons_append]

end Insert

theorem Ordered.foldl_insert {m : Strategies} (h : m.Ordered) (pairs : List (String × Strategy)) :
    (pairs.foldl (fun m x => m.insert x.1 x.2) m).Ordered := by
  induction pairs generalizing m with
  | nil => exact h
  | cons x pairs ih => exact ih (h.insert x.1 x.2)

theorem ordered_ofList (pairs : List (String × Strategy)) : (ofList pairs).Ordered :=
  ordered_empty.foldl_insert pairs

/-- Pairs that are in order stay as they are. -/
theorem ofList_of_ordered {m : Strategies} (h : m.Ordered) : ofList m.entries = m := by
  have hfold (front es : List (String × Strategy)) (h : Ordered ⟨front ++ es⟩) :
      es.foldl (fun m x => m.insert x.1 x.2) ⟨front⟩ = (⟨front ++ es⟩ : Strategies) := by
    -- By induction on the pairs, with those before them in place.
    induction es generalizing front with
    | nil => simp
    | cons x es ih =>
      obtain ⟨id, s⟩ := x
      have hlast : ∀ x ∈ front, precedes x.1.toList id.toList = true := fun x hx =>
        (List.pairwise_append.1 h).2.2 x hx (id, s) List.mem_cons_self
      have hstep : Strategies.insert ⟨front⟩ id s = ⟨front ++ [(id, s)]⟩ :=
        congrArg Strategies.mk (insertEntry_of_last hlast)
      rw [List.append_cons] at h ⊢
      rw [List.foldl_cons]
      dsimp only
      rw [hstep]
      exact ih (front ++ [(id, s)]) h
  exact hfold [] m.entries h

theorem Ordered.nodup {m : Strategies} (h : m.Ordered) : m.ids.Nodup := by
  refine List.pairwise_map.2 (h.imp fun hxy heq => ?_)
  rw [heq, precedes_self] at hxy
  cases hxy

/-! ## The document -/

/-- The lines of the document. -/
def lines (m : Strategies) : List Toml.Line :=
  m.entries.map fun x => Toml.Line.ofText x.1 x.2.name.toList

theorem ofName_name (s : Strategy) : Strategy.ofName s.name = some s := by
  cases s <;> decide

theorem toList_toToml (m : Strategies) : m.toToml.toList = m.lines.flatMap Toml.Line.text := by
  rw [toToml, String.toList_ofList, lines, List.flatMap_map]
  rfl

/-- The entries of the document are the modules and their strategies. -/
theorem ofData_lines {m : Strategies} (h : m.Ordered) :
    ofData (.table (m.lines.map Toml.Line.entry)) = some m := by
  have hread (es : List (String × Strategy)) :
      (es.map fun x => (x.1, Data.text x.2.name)).mapM
        (fun e => (Data.choice .toml Strategy.ofName e.2).map fun s => (e.1, s)) = some es := by
    induction es with
    | nil => rfl
    | cons x es ih =>
      rw [List.map_cons, List.mapM_cons, ih]
      simp [Data.choice, ofName_name]
  have hentries : m.lines.map Toml.Line.entry =
      m.entries.map fun x => (x.1, Data.text x.2.name) := by
    simp [lines, Toml.Line.entry, Toml.Line.ofText]
  rw [ofData, hentries, hread, Option.map_some, ofList_of_ordered h]

/-- Strategies in order are read back from their document. -/
theorem ofToml_toToml {m : Strategies} (h : m.Ordered) : ofToml m.toToml = some m := by
  have hkeys : (m.lines.map Toml.Line.key).Nodup := by
    rw [lines, List.map_map]
    exact h.nodup
  rw [ofToml, Toml.read, toList_toToml, Toml.readChars_lines hkeys, Option.bind_some,
    ofData_lines h]

/-- Strategies that were read are in order. -/
theorem ordered_of_ofToml {text : String} {m : Strategies} (h : ofToml text = some m) :
    m.Ordered := by
  obtain ⟨d, -, hd⟩ := Option.bind_eq_some_iff.1 h
  cases d with
  | table es =>
    obtain ⟨pairs, -, rfl⟩ := Option.map_eq_some_iff.1 hd
    exact ordered_ofList pairs
  | _ => simp [ofData] at hd

end Strategies

end OverlayControl
