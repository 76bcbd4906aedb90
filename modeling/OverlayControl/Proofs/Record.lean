import Mathlib.Data.List.Nodup
import OverlayControl.Data

/-!
# Records

However a record is written, it is read as entries: a table is one, and a list stands for the table
of its elements under the names of the record, in their order.

* `Data.entries?`, `Data.Once` — the entries of a record, and that no name has two of them;
* `Data.single?_eq_some_iff`, `Data.record_eq_some_iff` — what is read of a record;
* `Data.lookup_eq_some_iff_mem` — what is found under a name is what the entry of that name holds.
-/

namespace OverlayControl.Data

variable {names : List String} {name : String} {entries : List (String × Data)}

/-- The entries of data that is read as a record with these names: those of a table, and the
elements of a list under the names in their order. A moment has no entries. -/
def entries? (names : List String) : Data → Option (List (String × Data))
  | table entries => some entries
  | list items => some (names.zip items)
  | moment => some []
  | _ => none

/-- None of the names is the key of two entries. -/
def Once (names : List String) (entries : List (String × Data)) : Prop :=
  ∀ name ∈ names, (entries.map Prod.fst).count name ≤ 1

/-- What is looked up under a name is the first of what is found under it. -/
theorem lookup_eq_head?_filter (name : String) (entries : List (String × Data)) :
    entries.lookup name = (entries.filter fun (k, _) => [name].contains k).head?.map Prod.snd := by
  induction entries with
  | nil => rfl
  | cons e entries ih =>
    obtain ⟨key, d⟩ := e
    by_cases hkey : key = name
    · simp [hkey]
    · have hne : (name == key) = false := by simpa using Ne.symm hkey
      rw [List.lookup_cons, hne, List.filter_cons_of_neg (by simpa using hkey)]
      exact ih

/-- The value of a name is read unless the name has two. -/
theorem single?_eq_some_iff {o : Option Data} :
    single? entries [name] = some o ↔
      (entries.map Prod.fst).count name ≤ 1 ∧ o = entries.lookup name := by
  have hcount : (entries.map Prod.fst).count name =
      (entries.filter fun (k, _) => [name].contains k).length := by
    rw [List.count, List.countP_map, List.countP_eq_length_filter]
    congr 2
    funext e
    rw [Bool.eq_iff_iff]
    simp
  rw [hcount, lookup_eq_head?_filter, single?]
  generalize (entries.filter fun (k, _) => [name].contains k) = found
  rcases found with _ | ⟨e, _ | ⟨e', rest⟩⟩
  · simp [eq_comm]
  · simp [eq_comm]
  · simp

/-- Under a name that no two entries have, the value of its entry is found. -/
theorem lookup_eq_some_iff_mem (h : (entries.map Prod.fst).count name ≤ 1) {x : Data} :
    entries.lookup name = some x ↔ (name, x) ∈ entries := by
  rw [List.lookup_eq_some_iff]
  constructor
  · rintro ⟨before, after, rfl, -⟩
    simp
  · intro hmem
    obtain ⟨before, after, rfl⟩ := List.append_of_mem hmem
    refine ⟨before, after, rfl, fun p hp => ?_⟩
    -- An entry of that name before it would be a second one.
    rw [List.map_append, List.count_append, List.map_cons, List.count_cons_self] at h
    have hnone : (before.map Prod.fst).count name = 0 := by omega
    have hne : p.1 ≠ name := fun heq =>
      List.count_eq_zero.1 hnone (heq ▸ List.mem_map_of_mem hp)
    simpa using Ne.symm hne

theorem mapM_single?_eq_some_iff (names : List String) {values : List (Option Data)} :
    (names.map fun name => [name]).mapM (single? entries) = some values ↔
      Once names entries ∧ values = names.map fun name => entries.lookup name := by
  induction names generalizing values with
  | nil => simp [Once, eq_comm]
  | cons name names ih =>
    simp only [List.map_cons, List.mapM_cons, Option.bind_eq_bind, Option.bind_eq_some_iff,
      single?_eq_some_iff, ih, Once, List.forall_mem_cons, Option.pure_def, Option.some.injEq]
    constructor
    · rintro ⟨_, ⟨hname, rfl⟩, _, ⟨hnames, rfl⟩, rfl⟩
      exact ⟨⟨hname, hnames⟩, rfl⟩
    · rintro ⟨⟨hname, hnames⟩, rfl⟩
      exact ⟨_, ⟨hname, rfl⟩, _, ⟨hnames, rfl⟩, rfl⟩

/-- A list gives under each name the element at its place. -/
theorem padded_eq_map_lookup (hnames : names.Nodup) (items : List Data) :
    padded names.length items = names.map fun name => (names.zip items).lookup name := by
  -- By induction on the names: each takes one element, and does not occur among the others.
  induction names generalizing items with
  | nil => rfl
  | cons name names ih =>
    obtain ⟨hname, hnames⟩ := List.nodup_cons.1 hnames
    cases items with
    | nil =>
      rw [List.length_cons, padded, ih hnames, List.zip_nil_right, List.zip_nil_right]
      rfl
    | cons x items =>
      rw [List.length_cons, padded, ih hnames, List.map_cons, List.zip_cons_cons,
        List.lookup_cons_self]
      refine congrArg _ (List.map_congr_left fun other hother => ?_)
      have hne : (other == name) = false := by
        rw [beq_eq_false_iff_ne]
        exact fun heq => hname (heq ▸ hother)
      rw [List.lookup_cons, hne]

theorem once_zip (hnames : names.Nodup) (items : List Data) : Once names (names.zip items) := by
  intro name _
  refine List.nodup_iff_count_le_one.1 (hnames.sublist ?_) name
  rw [List.zip_eq_zip_take_min, List.map_fst_zip (by simp)]
  exact List.take_sublist _ _

/-- Of a record, the values under its names are read, unless a name has two. -/
theorem record_eq_some_iff (hnames : names.Nodup) {d : Data} {values : List (Option Data)} :
    d.record .toml (names.map fun name => [name]) = some values ↔
      ∃ entries, d.entries? names = some entries ∧ Once names entries ∧
        values = names.map fun name => entries.lookup name := by
  cases d with
  | table entries =>
    rw [record, mapM_single?_eq_some_iff]
    simp [entries?]
  | list items =>
    simp [record, entries?, padded_eq_map_lookup hnames, once_zip hnames, eq_comm]
  | moment => simp [record, entries?, Once, eq_comm, Function.comp_def]
  | _ => simp [record, entries?]

end OverlayControl.Data
