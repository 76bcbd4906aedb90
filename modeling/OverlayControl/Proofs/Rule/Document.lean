import OverlayControl.Proofs.Json
import OverlayControl.Proofs.Rule.Rendering

/-!
# Listings written as JSON

A listing may be written as JSON in many ways: as a list of rules or as a table around it, with the
entries of a rule in any order and under any of their names, with other entries among them, and
with any spelling of the data. All of them are read as the same rules, and these are the rules that
a listing by lines is read as, if they can be written by lines.

* `Data.Holds`, `Data.mapM_single?_of_holds` — tables that hold the fields of a record;
* `Listing.RuleTable`, `Listing.ListingData`, `Listing.Document` — the ways to write rules as JSON;
* `Listing.RawRule.Tells` — the rule that a rule of a document stands for;
* `Listing.read_of_document` — what such documents are read as;
* `Listing.read_renderJson` — rules that are printed as JSON are read back;
* `Listing.formats_agree` — the two formats tell the same rules.
-/

namespace OverlayControl

namespace Data

/-- A table with at most one entry for each field of a record, under any of the names of the field.
The entries may be in any order, with others among them whose keys name no field. -/
inductive Holds (names : List (List String)) :
    List (Option Data) → List (String × Data) → Prop
  /-- The entries of the fields, and the others. -/
  | intro {entries : List (String × Data)} (parts : List (Option (String × Data)))
      (others : List (String × Data))
      (named : List.Forall₂ (fun keys part => ∀ e ∈ part, e.1 ∈ keys) names parts)
      (strange : ∀ e ∈ others, ∀ keys ∈ names, e.1 ∉ keys)
      (perm : entries.Perm (parts.filterMap id ++ others)) :
      Holds names (parts.map fun part => part.map Prod.snd) entries

variable {keys : List String} {names : List (List String)} {entries : List (String × Data)}

/-- The entry of a field is found wherever it stands. -/
theorem single?_of_perm {all : List (String × Data)} (h : entries.Perm all)
    (part : Option (String × Data))
    (hpart : (all.filter fun e => keys.contains e.1) = part.toList) :
    single? entries keys = some (part.map Prod.snd) := by
  have hperm := h.filter fun e => keys.contains e.1
  rw [hpart] at hperm
  -- A list of at most one entry has no other order.
  cases part with
  | none =>
    have hnone : (entries.filter fun e => keys.contains e.1) = [] := List.perm_nil.1 hperm
    simp only [single?, hnone, Option.map_none]
  | some e =>
    have hone : (entries.filter fun e => keys.contains e.1) = [e] := List.perm_singleton.1 hperm
    simp only [single?, hone, Option.map_some]

theorem exists_name_of_mem {parts : List (Option (String × Data))}
    (h : List.Forall₂ (fun keys part => ∀ e ∈ part, e.1 ∈ keys) names parts) {e : String × Data}
    (he : e ∈ parts.filterMap id) : ∃ keys ∈ names, e.1 ∈ keys := by
  induction h with
  | nil => cases he
  | @cons keys part names parts hpart _ ih =>
    obtain ⟨part', hmem, rfl⟩ := List.mem_filterMap.1 he
    rcases List.mem_cons.1 hmem with rfl | hmem
    · exact ⟨keys, List.mem_cons_self, hpart e rfl⟩
    · obtain ⟨keys', hkeys', hkey⟩ := ih (List.mem_filterMap.2 ⟨_, hmem, rfl⟩)
      exact ⟨keys', List.mem_cons_of_mem keys hkeys', hkey⟩

/-- The fields of a record are found when no key names two of them. -/
theorem mapM_single?_of_holds {values : List (Option Data)} (hnames : names.Pairwise List.Disjoint)
    (h : Holds names values entries) : names.mapM (single? entries) = some values := by
  obtain ⟨parts, others, named, strange, perm⟩ := h
  -- By induction on the fields; entries of the fields before count among the others.
  induction named generalizing others with
  | nil => rfl
  | @cons keys part names parts hpart hnamed ih =>
    obtain ⟨hdisjoint, hnames⟩ := List.pairwise_cons.1 hnames
    have hsplit : (part :: parts).filterMap id = part.toList ++ parts.filterMap id := by
      cases part <;> rfl
    rw [hsplit, List.append_assoc] at perm
    have hown : (part.toList.filter fun e => keys.contains e.1) = part.toList := by
      rw [List.filter_eq_self]
      exact fun e he => List.contains_iff_mem.2 (hpart e (Option.mem_toList.1 he))
    have hrest : ((parts.filterMap id ++ others).filter fun e => keys.contains e.1) = [] := by
      rw [List.filter_eq_nil_iff]
      intro e he hkey
      have hkey := List.contains_iff_mem.1 hkey
      rcases List.mem_append.1 he with he | he
      · obtain ⟨keys', hmem, hkey'⟩ := exists_name_of_mem hnamed he
        exact hdisjoint keys' hmem hkey hkey'
      · exact strange e he keys List.mem_cons_self hkey
    have hstrange : ∀ e ∈ part.toList ++ others, ∀ keys' ∈ names, e.1 ∉ keys' := by
      intro e he keys' hkeys' hkey
      rcases List.mem_append.1 he with he | he
      · exact hdisjoint keys' hkeys' (hpart e (Option.mem_toList.1 he)) hkey
      · exact strange e he keys' (List.mem_cons_of_mem keys hkeys') hkey
    have hfield : single? entries keys = some (part.map Prod.snd) :=
      single?_of_perm perm part (by rw [List.filter_append, hown, hrest, List.append_nil])
    rw [List.mapM_cons, hfield,
      ih hnames _ hstrange (perm.trans (List.perm_append_comm_assoc _ _ _))]
    rfl

end Data

namespace Listing

/-! ## Rules as data -/

/-- The ways to write an optional field: with `null` in place of what is not there, or not at
all. -/
inductive OptionalField {α : Type} (write : α → Data) : Option α → Option Data → Prop
  /-- The field is there. -/
  | value (a : α) : OptionalField write (some a) (some (write a))
  /-- It is told not to be there. -/
  | null : OptionalField write none (some .null)
  /-- It is not told. -/
  | missing : OptionalField write none none

/-- The ways to write a rule as a table. Flags that are not told are none. -/
inductive RuleTable (raw : RawRule) : Data → Prop
  /-- The entries of the table. -/
  | intro {entries : List (String × Data)} {id target flags : Option Data}
      (hid : OptionalField (fun n : UInt32 => .int n.toNat) raw.id id)
      (htarget : OptionalField .text raw.target target)
      (hflags : flags = some (.int raw.flags.toNat) ∨ raw.flags = 0 ∧ flags = none)
      (holds : Data.Holds
        [["id"], ["kind", "type"], ["source", "src"], ["target", "dst", "dest"], ["flags"]]
        [id, some (.text raw.kind), some (.text raw.source), target, flags] entries) :
      RuleTable raw (.table entries)

/-- The ways to write a listing as data: a list of rules, or a table with one under the key
`rules`. -/
inductive ListingData (raws : List RawRule) : Data → Prop
  /-- The list alone. -/
  | bare {ds : List Data} (hds : List.Forall₂ RuleTable raws ds) : ListingData raws (.list ds)
  /-- A table, perhaps with other entries. -/
  | wrapped {ds : List Data} (before after : List (String × Data))
      (hds : List.Forall₂ RuleTable raws ds) (hothers : ∀ e ∈ before ++ after, e.1 ≠ "rules") :
      ListingData raws (.table (before ++ ("rules", .list ds) :: after))

/-- The ways to write a listing as a document, perhaps with blanks around it. -/
inductive Document (raws : List RawRule) : List Char → Prop
  /-- The data, and how it is spelled. -/
  | intro {d : Data} {before w after : List Char} (hd : ListingData raws d)
      (hw : Json.Spells Json.depthLimit d w)
      (hbefore : ∀ c ∈ before, Text.isBlank c = true)
      (hafter : ∀ c ∈ after, Text.isBlank c = true) : Document raws (before ++ w ++ after)

theorem asWord_int (n : UInt32) : Data.asWord (.int n.toNat) = some n := by
  have hrange : n.toNat ≤ UInt32.size - 1 := Nat.le_sub_one_of_lt n.toNat_lt
  rw [Data.asWord, Data.asNat, if_pos ⟨Int.natCast_nonneg _, by rwa [Int.toNat_natCast]⟩,
    Option.map_some, Int.toNat_natCast, UInt32.ofNat_toNat]

theorem field_of_optionalField {α : Type} {write : α → Data} {read : Data → Option α}
    {o : Option α} {d : Option Data} (h : OptionalField write o d)
    (hread : ∀ a, read (write a) = some a) (hwrite : ∀ a, write a ≠ .null) :
    Data.field none (Data.asOptional read) d = some o := by
  cases h with
  | value a =>
    rw [Data.field, Data.asOptional.eq_2 read (write a) fun h => hwrite a h, hread]
    rfl
  | null => rfl
  | missing => rfl

theorem ofData_of_ruleTable {raw : RawRule} {d : Data} (h : RuleTable raw d) :
    RawRule.ofData d = some raw := by
  obtain @⟨entries, id, target, flags, hid, htarget, hflags, holds⟩ := h
  have hrecord : (Data.table entries).record .json fieldNames =
      some [id, some (.text raw.kind), some (.text raw.source), target, flags] :=
    Data.mapM_single?_of_holds (by simp [fieldNames]) holds
  have hid : Data.field none (Data.asOptional Data.asWord) id = some raw.id :=
    field_of_optionalField hid asWord_int fun _ => nofun
  have htarget : Data.field none (Data.asOptional Data.asText) target = some raw.target :=
    field_of_optionalField htarget (fun _ => rfl) fun _ => nofun
  have hflags : Data.field 0 Data.asWord flags = some raw.flags := by
    rcases hflags with rfl | ⟨hzero, rfl⟩
    · exact asWord_int raw.flags
    · rw [hzero]
      rfl
  unfold RawRule.ofData
  rw [hrecord]
  dsimp only
  rw [hid, htarget, hflags]
  rfl

theorem mapM_ofData_of_forall₂ {raws : List RawRule} {ds : List Data}
    (h : List.Forall₂ RuleTable raws ds) : ds.mapM RawRule.ofData = some raws := by
  induction h with
  | nil => rfl
  | cons hd _ ih =>
    rw [List.mapM_cons, ofData_of_ruleTable hd, ih]
    rfl

theorem rawRules?_of_listingData {raws : List RawRule} {d : Data} (h : ListingData raws d) :
    rawRules? d = some raws := by
  cases h with
  | bare hds => exact mapM_ofData_of_forall₂ hds
  | @wrapped ds before after hds hothers =>
    -- Only one entry has the key that is looked for.
    have hperm : (before ++ ("rules", .list ds) :: after).Perm
        (("rules", .list ds) :: (before ++ after)) := List.perm_middle
    have hrest : ((before ++ after).filter fun e => ["rules"].contains e.1) = [] := by
      rw [List.filter_eq_nil_iff]
      exact fun e he hkey => hothers e he (List.mem_singleton.1 (List.contains_iff_mem.1 hkey))
    have hrules : Data.single? (before ++ ("rules", .list ds) :: after) ["rules"] =
        some (some (.list ds)) :=
      Data.single?_of_perm hperm (some ("rules", .list ds))
        (by rw [List.filter_cons_of_pos (by simp), hrest]; rfl)
    rw [rawRules?, hrules]
    exact mapM_ofData_of_forall₂ hds

/-! ## What the rules of a document stand for -/

/-- A rule of a document stands for a rule: the word for the kind is one of its words, an empty
target counts as none, and of the flags the known ones count. -/
structure RawRule.Tells (raw : RawRule) (r : Rule) : Prop where
  /-- The number. -/
  id : r.id = raw.id.map RuleId.mk
  /-- The kind. -/
  kind : r.kind.NamedBy raw.kind
  /-- The source. -/
  source : r.source = .ofString raw.source
  /-- The target. -/
  target : r.target = (raw.target.filter fun t => t ≠ "").map Path.ofString
  /-- The flags. -/
  flags : r.flags = .known raw.flags

theorem toRule_eq_ok_iff {raw : RawRule} {r : Rule} : raw.toRule = .ok r ↔ raw.Tells r := by
  have htarget : (raw.target.filter fun t => !t.isEmpty) = raw.target.filter fun t => t ≠ "" := by
    cases raw.target with
    | none => rfl
    | some t => by_cases hempty : t = "" <;> simp [Option.filter_some, hempty]
  rw [RawRule.toRule, htarget]
  constructor
  · intro h
    cases hkind : RuleKind.parse raw.kind with
    | error what =>
      rw [hkind] at h
      cases h
    | ok kind =>
      rw [hkind] at h
      cases h
      exact ⟨rfl, RuleKind.parse_eq_ok_iff.1 hkind, rfl, rfl, rfl⟩
  · rintro ⟨hid, hkind, hsource, htarget, hflags⟩
    obtain ⟨id, kind, source, target, flags⟩ := r
    rw [RuleKind.parse_eq_ok_iff.2 hkind, ← hid, ← hsource, ← htarget, ← hflags]
    rfl

/-- A rule of a document stands for a rule exactly when its word names a kind. -/
theorem exists_tells_iff {raw : RawRule} :
    (∃ r, raw.Tells r) ↔ ∃ k : RuleKind, k.NamedBy raw.kind := by
  constructor
  · rintro ⟨r, h⟩
    exact ⟨r.kind, h.kind⟩
  · rintro ⟨k, hk⟩
    exact ⟨{ id := raw.id.map RuleId.mk, kind := k, source := .ofString raw.source
             target := (raw.target.filter fun t => t ≠ "").map Path.ofString
             flags := .known raw.flags }, rfl, hk, rfl, rfl, rfl⟩

theorem toRule_of_unknown {raw : RawRule} (h : ∀ k : RuleKind, ¬k.NamedBy raw.kind) :
    raw.toRule = .error s!"unknown rule kind '{Text.lower raw.kind}'" := by
  rw [RawRule.toRule, RuleKind.parse_of_unknown h]
  rfl

theorem mapM_toRule_eq_ok_iff {raws : List RawRule} {rules : List Rule} :
    raws.mapM RawRule.toRule = .ok rules ↔ List.Forall₂ RawRule.Tells raws rules := by
  induction raws generalizing rules with
  | nil => simp [pure, Except.pure, eq_comm]
  | cons raw raws ih =>
    rw [List.mapM_cons]
    constructor
    · intro h
      cases hraw : raw.toRule with
      | error what =>
        rw [hraw] at h
        cases h
      | ok r =>
        cases hraws : raws.mapM RawRule.toRule with
        | error what =>
          rw [hraw, hraws] at h
          cases h
        | ok rest =>
          rw [hraw, hraws] at h
          cases h
          exact .cons (toRule_eq_ok_iff.1 hraw) (ih.1 hraws)
    · intro h
      cases h with
      | cons hr hrest =>
        rw [toRule_eq_ok_iff.2 hr, ih.2 hrest]
        rfl

/-- The first word that names no kind is the fault of all rules. -/
theorem mapM_toRule_of_unknown {raws : List RawRule} {raw : RawRule} (hmem : raw ∈ raws)
    (h : ∀ k : RuleKind, ¬k.NamedBy raw.kind) :
    ∃ first ∈ raws, (∀ k : RuleKind, ¬k.NamedBy first.kind) ∧
      raws.mapM RawRule.toRule = .error s!"unknown rule kind '{Text.lower first.kind}'" := by
  induction raws with
  | nil => cases hmem
  | cons other raws ih =>
    rw [List.mapM_cons]
    by_cases hother : ∃ r, other.Tells r
    · obtain ⟨r, hr⟩ := hother
      have hne : raw ≠ other := by
        rintro rfl
        exact h r.kind hr.kind
      obtain ⟨first, hfirst, hunknown, herror⟩ := ih (List.mem_of_ne_of_mem hne hmem)
      refine ⟨first, List.mem_cons_of_mem other hfirst, hunknown, ?_⟩
      rw [toRule_eq_ok_iff.2 hr, herror]
      rfl
    · have hunknown : ∀ k : RuleKind, ¬k.NamedBy other.kind :=
        fun k hk => hother (exists_tells_iff.2 ⟨k, hk⟩)
      refine ⟨other, List.mem_cons_self, hunknown, ?_⟩
      rw [toRule_of_unknown hunknown]
      rfl

/-! ## Documents -/

/-- What a document is read as goes by what its rules stand for. -/
theorem read_of_document {text : String} {raws : List RawRule} (h : Document raws text.toList) :
    read text = (raws.mapM RawRule.toRule).mapError (ListingError.mk 0) := by
  generalize htext : text.toList = cs at h
  obtain @⟨d, before, w, after, hd, hw, hbefore, hafter⟩ := h
  have htrim : Text.trimChars text.toList = w := by
    rw [htext, Text.trimChars_append_of_flush (Json.flush_of_spells hw) hbefore hafter]
  have hread : readJson w = (raws.mapM RawRule.toRule).mapError (ListingError.mk 0) := by
    rw [readJson, Json.leading_of_spells hw]
    dsimp only
    rw [rawRules?_of_listingData hd]
    dsimp only [List.isEmpty_nil, Bool.not_true]
    cases raws.mapM RawRule.toRule <;> rfl
  simp only [read, htrim]
  -- The text starts with a bracket, which tells the format.
  cases hd with
  | bare =>
    obtain ⟨row, rfl, -⟩ := hw
    exact hread
  | wrapped =>
    obtain ⟨row, rfl, -⟩ := hw
    exact hread

/-- A document in which rules are written. -/
def Describes (cs : List Char) (rules : List Rule) : Prop :=
  ∃ raws, Document raws cs ∧ List.Forall₂ RawRule.Tells raws rules

theorem read_of_describes {text : String} {rules : List Rule} (h : Describes text.toList rules) :
    read text = .ok rules := by
  obtain ⟨raws, hdocument, htells⟩ := h
  rw [read_of_document hdocument, mapM_toRule_eq_ok_iff.2 htells]
  rfl

/-! ## Rules that are printed as JSON -/

/-- A rule as a document has it. -/
def rawRule (r : Rule) : RawRule :=
  { id := r.id.map RuleId.number, kind := r.kind.name, source := r.source.display,
    target := r.target.map Path.display, flags := r.flags.bits }

/-- A rule that is printed is a table of the rule. -/
theorem ruleTable_ruleData (r : Rule) : RuleTable (rawRule r) (ruleData r) := by
  obtain ⟨id, kind, source, target, flags⟩ := r
  have hid : OptionalField (fun n : UInt32 => .int n.toNat) (id.map RuleId.number)
      (some ((id.map fun i => Data.int i.number.toNat).getD .null)) := by
    cases id
    · exact .null
    · exact .value _
  have htarget : OptionalField .text (target.map Path.display)
      (some ((target.map fun t => Data.text t.display).getD .null)) := by
    cases target
    · exact .null
    · exact .value _
  refine .intro hid htarget (.inl rfl) (.intro [some ("id", _), some ("kind", _),
    some ("source", _), some ("target", _), some ("flags", _)] [] ?_ (by simp) ?_)
  · simp
  · exact (List.perm_append_singleton _ _).symm

/-- A rule of a document stands for the rule that was printed. -/
theorem tells_rawRule {r : Rule} (h : Fits Path.IsText r) : (rawRule r).Tells r where
  id := by
    obtain ⟨id, _, _, _, _⟩ := r
    cases id <;> rfl
  kind := RuleKind.parse_eq_ok_iff.1 (parse_name r.kind)
  source := by
    obtain ⟨s, _, hs⟩ := h.source
    rw [rawRule, hs, Path.display_ofString]
  target := by
    have htarget := h.target
    rw [rawRule]
    -- An empty target would be read as none, but no target is empty.
    cases ht : r.target with
    | none => rfl
    | some t =>
      obtain ⟨s, hs, rfl⟩ := htarget t ht
      simp [Path.display_ofString, Option.filter_some, hs]
  flags := h.flags.symm

theorem printable_ruleData (depth : Nat) (r : Rule) : Json.Printable (depth + 1) (ruleData r) := by
  -- A word is far below the numbers that a double rounds.
  have hword (n : UInt32) : Json.Printable depth (.int n.toNat) := by
    have hrange : n.toNat < Text.exactLimit := Nat.lt_trans n.toNat_lt (by decide)
    cases depth <;> exact ⟨Int.natCast_nonneg _, Int.ofNat_lt.2 hrange⟩
  obtain ⟨id, kind, source, target, flags⟩ := r
  have htext (s : String) : Json.Printable depth (.text s) := by
    cases depth <;> trivial
  have hnull : Json.Printable depth .null := by
    cases depth <;> trivial
  intro e he
  simp only [List.mem_cons, List.not_mem_nil, or_false] at he
  rcases he with rfl | rfl | rfl | rfl | rfl
  · exact hword _
  · cases id
    · exact hnull
    · exact hword _
  · exact htext _
  · exact htext _
  · cases target
    · exact hnull
    · exact htext _

/-- Rules that are printed as JSON are a document that spells their tables. -/
theorem spells_renderJson (rs : List Rule) :
    Json.Spells Json.depthLimit (.list (rs.map ruleData)) (renderJson rs).toList := by
  have hprintable : Json.Printable Json.depthLimit (.list (rs.map ruleData)) := by
    intro d hd
    obtain ⟨r, _, rfl⟩ := List.mem_map.1 hd
    exact printable_ruleData _ r
  rw [renderJson, Json.compact, String.toList_ofList]
  exact Json.spells_compactChars hprintable

/-- Rules that are printed as JSON are written in the text. -/
theorem describes_renderJson {rules : List Rule} (h : ∀ r ∈ rules, Fits Path.IsText r) :
    Describes (renderJson rules).toList rules := by
  have htables : List.Forall₂ RuleTable (rules.map rawRule) (rules.map ruleData) := by
    rw [List.forall₂_map_left_iff, List.forall₂_map_right_iff, List.forall₂_same]
    exact fun r _ => ruleTable_ruleData r
  have hdocument : Document (rules.map rawRule) ([] ++ (renderJson rules).toList ++ []) :=
    .intro (.bare htables) (spells_renderJson rules) (by simp) (by simp)
  rw [List.nil_append, List.append_nil] at hdocument
  refine ⟨_, hdocument, ?_⟩
  rw [List.forall₂_map_left_iff, List.forall₂_same]
  exact fun r hr => tells_rawRule (h r hr)

/-- Rules that are printed as JSON are read back. -/
theorem read_renderJson {rules : List Rule} (h : ∀ r ∈ rules, Fits Path.IsText r) :
    read (renderJson rules) = .ok rules := read_of_describes (describes_renderJson h)

/-! ## Both formats -/

/-- The two formats of a listing tell the same rules. A document in which rules are written is read
as these rules, however it is laid out and spelled, and so is a listing by lines. Rules with known
flags can be written as a document if their paths are texts and not empty, and by lines if the paths
are words that are taken for no attribute. A document in which a word names no kind is refused as a
whole, in line 0, because of the first such word. -/
theorem formats_agree :
    (∀ (text : String) (rules : List Rule), Describes text.toList rules → read text = .ok rules) ∧
    (∀ (text lines : String) (rules : List Rule), Describes text.toList rules →
      Renders lines.toList rules → read text = read lines) ∧
    (∀ rules : List Rule, (∀ r ∈ rules, Fits Path.IsText r) →
      Describes (renderJson rules).toList rules) ∧
    (∀ rules : List Rule, (∀ r ∈ rules, Fits Path.IsWord r) →
      (∀ r ∈ rules, Fits Path.IsText r) ∧ Renders (renderLines rules).toList rules) ∧
    ∀ (text : String) (raws : List RawRule), Document raws text.toList →
      ∀ raw ∈ raws, (∀ k : RuleKind, ¬k.NamedBy raw.kind) →
        ∃ first ∈ raws, (∀ k : RuleKind, ¬k.NamedBy first.kind) ∧
          read text = .error ⟨0, s!"unknown rule kind '{Text.lower first.kind}'"⟩ := by
  refine ⟨fun text rules => read_of_describes, fun text lines rules htext hlines => ?_,
    fun rules => describes_renderJson, fun rules h => ⟨fun r hr => ?_, renders_renderLines h⟩,
    fun text raws hdocument raw hmem hunknown => ?_⟩
  · rw [read_of_describes htext, read_of_renders hlines]
  · obtain ⟨hsource, htarget, hflags⟩ := h r hr
    exact ⟨hsource.isText, fun t ht => (htarget t ht).isText, hflags⟩
  · obtain ⟨first, hfirst, hnone, herror⟩ := mapM_toRule_of_unknown hmem hunknown
    refine ⟨first, hfirst, hnone, ?_⟩
    rw [read_of_document hdocument, herror]
    rfl

/-- Two rules in a table around the list, with their entries from last to first, some of them under
other names and some left out, and the same document with a word that names no kind. -/
theorem formats_agree_of_mixture :
    let rules : List Rule :=
      [{ kind := .hide, source := .ofString "/a" },
        { id := some ⟨7⟩, kind := .add, source := .ofString "/b", target := some (.ofString "/c"),
          flags := ⟨1⟩ }]
    let document (word : String) : Data :=
      .table [("version", .text "1"), ("rules", .list
        [.table [("note", .text "x"), ("dst", .text ""), ("src", .text "/a"),
            ("type", .text "HIDE")],
          .table [("flags", .int 5), ("dest", .text "/c"), ("source", .text "/b"),
            ("kind", .text word), ("id", .int 7)]])]
    let text (word : String) : String := "\n" ++ Json.compact (document word) ++ " "
    Describes (text "redirect").toList rules ∧ read (text "redirect") = .ok rules ∧
      read (text "redirect") = read (renderLines rules) ∧
      read (text "bad") = .error ⟨0, "unknown rule kind 'bad'"⟩ := by
  intro rules document text
  have hfirst : RuleTable ⟨none, "HIDE", "/a", some "", 0⟩ (.table [("note", .text "x"),
      ("dst", .text ""), ("src", .text "/a"), ("type", .text "HIDE")]) :=
    .intro .missing (.value "") (.inr ⟨rfl, rfl⟩)
      (.intro [none, some ("type", .text "HIDE"), some ("src", .text "/a"), some ("dst", .text ""),
        none] [("note", .text "x")] (by simp) (by simp) (List.reverse_perm _).symm)
  have hsecond (word : String) : RuleTable ⟨some 7, word, "/b", some "/c", 5⟩ (.table
      [("flags", .int 5), ("dest", .text "/c"), ("source", .text "/b"), ("kind", .text word),
        ("id", .int 7)]) :=
    .intro (.value 7) (.value "/c") (.inl rfl)
      (.intro [some ("id", .int 7), some ("kind", .text word), some ("source", .text "/b"),
        some ("dest", .text "/c"), some ("flags", .int 5)] [] (by simp) (by simp)
        (List.reverse_perm _).symm)
  have hdocument (word : String) : Document
      [⟨none, "HIDE", "/a", some "", 0⟩, ⟨some 7, word, "/b", some "/c", 5⟩]
      (text word).toList := by
    have htext : (text word).toList = ['\n'] ++ Json.compactChars (document word) ++ [' '] := by
      simp [text, Json.compact]
    rw [htext]
    refine .intro (.wrapped [("version", .text "1")] [] (.cons hfirst (.cons (hsecond word) .nil))
      (by simp)) (Json.spells_compactChars ?_) (List.forall_mem_singleton.2 (by decide))
      (List.forall_mem_singleton.2 (by decide))
    simp [Json.Printable, Json.depthLimit, Text.exactLimit]
  have hdescribes : Describes (text "redirect").toList rules :=
    ⟨_, hdocument "redirect", .cons (toRule_eq_ok_iff.1 rfl) (.cons (toRule_eq_ok_iff.1 rfl) .nil)⟩
  have hword : ∀ r ∈ rules, Fits Path.IsWord r := by
    have hpath {s : String} (habsolute : (Path.ofString s).isAbsolute = true)
        (hblank : s.toList.any Text.isBlank = false) : (Path.ofString s).IsWord :=
      Path.isWord_of_isAbsolute habsolute fun c hc =>
        Bool.eq_false_iff.2 (List.any_eq_false.1 hblank c hc)
    intro r hr
    simp only [rules, List.mem_cons, List.not_mem_nil, or_false] at hr
    rcases hr with rfl | rfl
    · exact ⟨hpath (by decide) (by decide), by simp, rfl⟩
    · refine ⟨hpath (by decide) (by decide), ?_, rfl⟩
      rintro _ ⟨rfl⟩
      exact hpath (by decide) (by decide)
  have hbad : ∀ k : RuleKind, ¬k.NamedBy "bad" := by
    unfold RuleKind.NamedBy
    rintro (_ | _ | _ | _) <;> decide
  obtain ⟨hread, hagree, -, hlines, hrefused⟩ := formats_agree
  refine ⟨hdescribes, hread _ rules hdescribes,
    hagree _ _ rules hdescribes (hlines rules hword).2, ?_⟩
  obtain ⟨first, hmem, hunknown, herror⟩ :=
    hrefused _ _ (hdocument "bad") ⟨some 7, "bad", "/b", some "/c", 5⟩ (by simp) hbad
  rw [herror]
  simp only [List.mem_cons, List.not_mem_nil, or_false] at hmem
  rcases hmem with rfl | rfl
  · exact absurd (by unfold RuleKind.NamedBy; decide) (hunknown .hide)
  · rfl

end Listing

end OverlayControl
