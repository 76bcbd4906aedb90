import OverlayControl.Json.Printer
import OverlayControl.Proofs.Json.Spelling

/-!
# Reading back what was printed as JSON

Compact JSON is one way to write data, and is read as the data that was printed. Texts come back
whatever they hold; numbers come back as long as a double tells them apart.

* `Json.Printable` — data that comes back;
* `Json.spells_compactChars` — compact JSON spells it.
-/

namespace OverlayControl.Json

/-- Data that comes back from a document nested at most `depth` deep: truth values, texts, whole
numbers that a double holds exactly, and lists and tables of such data. -/
def Printable : Nat → Data → Prop
  | depth + 1, .list ds => ∀ d ∈ ds, Printable depth d
  | depth + 1, .table es => ∀ e ∈ es, Printable depth e.2
  | _, .int n => 0 ≤ n ∧ n < Text.exactLimit
  | _, .null | _, .bool _ | _, .text _ => True
  | _, _ => False

theorem spellsChar_quoteChar (c : Char) : SpellsChar c (quoteChar c) := by
  unfold quoteChar
  -- The characters with a letter of their own, then those that are written by number, then the
  -- rest.
  iterate 7
    split
    · subst c
      exact .letter (by decide)
  split
  · next hcontrol => exact .unit (hex4_hexPadded (by omega) false)
  · next hquote hslash _ _ _ _ _ hcontrol => exact .plain (Nat.not_lt.1 hcontrol) hquote hslash

theorem spellsText_quote (cs : List Char) : SpellsText cs (cs.flatMap quoteChar) := by
  induction cs with
  | nil => exact .nil
  | cons c cs ih =>
    rw [List.flatMap_cons]
    exact .cons (spellsChar_quoteChar c) ih

section Rows

variable {item : Data → List Char → Prop}

theorem row_compactItems {ds : List Data} (h : ∀ d ∈ ds, item d (compactChars d)) :
    Row ']' item ds (compactItems ds) := by
  have hnone : Space [] := by simp [Space]
  induction ds with
  | nil => exact .empty hnone
  | cons d ds ih =>
    have hd := h d List.mem_cons_self
    cases ds with
    | nil => exact .last hnone hd hnone
    | cons e ds =>
      rw [compactItems.eq_3 _ _ (List.cons_ne_nil e ds)]
      exact .more hnone hd hnone (ih fun x hx => h x (List.mem_cons_of_mem d hx))

theorem row_compactEntries {es : List (String × Data)}
    (h : ∀ e ∈ es, item e.2 (compactChars e.2)) :
    Row '\x7d' (Entry item) es (compactEntries es) := by
  have hnone : Space [] := by simp [Space]
  have hentry {e : String × Data} (he : item e.2 (compactChars e.2)) :
      Entry item e (quote e.1 ++ ':' :: compactChars e.2) := by
    have hquoted : quote e.1 ++ ':' :: compactChars e.2 = '"' ::
        (e.1.toList.flatMap quoteChar ++ '"' :: ([] ++ ':' :: ([] ++ compactChars e.2))) := by
      simp [quote]
    rw [hquoted]
    exact .intro (spellsText_quote _) hnone hnone he
  induction es with
  | nil => exact .empty hnone
  | cons e es ih =>
    have he := hentry (h e List.mem_cons_self)
    cases es with
    | nil =>
      have hrow : Row '\x7d' (Entry item) [e] _ := .last hnone he hnone
      rwa [List.append_assoc] at hrow
    | cons f es =>
      have hrow := Row.more hnone he hnone (ih fun x hx => h x (List.mem_cons_of_mem e hx))
      rwa [List.append_assoc] at hrow

end Rows

/-- A whole number is printed as its digits. -/
theorem atom_int (n : Nat) : atom (.int n) = Nat.toDigits 10 n := by
  rw [← Nat.toList_repr]
  rfl

/-- What is printed spells data that holds no other data. -/
theorem spells_zero_compactChars {d : Data} (h : Printable 0 d) : Spells 0 d (compactChars d) := by
  cases d with
  | null => rfl
  | bool b => cases b <;> rfl
  | text s => exact ⟨_, rfl, spellsText_quote _⟩
  | int n =>
    obtain ⟨m, rfl⟩ := Int.eq_ofNat_of_zero_le h.1
    exact ⟨m, Int.ofNat_lt.1 h.2, rfl, atom_int m⟩
  | _ => exact absurd h not_false

/-- What is printed spells the data. -/
theorem spells_compactChars {depth : Nat} {d : Data} (h : Printable depth d) :
    Spells depth d (compactChars d) := by
  induction depth generalizing d with
  | zero => exact spells_zero_compactChars h
  | succ depth ih =>
    cases d with
    | list ds => exact ⟨_, by rw [compactChars], row_compactItems fun d hd => ih (h d hd)⟩
    | table es => exact ⟨_, by rw [compactChars], row_compactEntries fun e he => ih (h e he)⟩
    | null => exact spells_zero_compactChars (d := .null) h
    | bool b => exact spells_zero_compactChars (d := .bool b) h
    | text s => exact spells_zero_compactChars (d := .text s) h
    | int n => exact spells_zero_compactChars (d := .int n) h
    | fraction => exact absurd h not_false
    | moment => exact absurd h not_false

end OverlayControl.Json
