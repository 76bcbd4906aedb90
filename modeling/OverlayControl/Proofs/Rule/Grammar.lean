import Mathlib.Data.List.Forall2
import OverlayControl.Proofs.Rule.Listing

/-!
# The grammar of listings by lines

A line tells a rule in words: one names the kind, and each of the others is an attribute or a path,
in any order. What a listing says is what its lines tell, one after the other; blank lines and
comments say nothing.

* `RuleKind.NamedBy` — the words that name a kind;
* `Listing.Item`, `Listing.Item.Spells` — the words after the kind, with what they say;
* `Listing.Tells`, `Listing.readWords_eq_ok_iff` — the words of a line and the rule that they tell;
* `Listing.Silent`, `Listing.told` — lines that say nothing, and what the others say;
* `Listing.readLinesFrom_eq_ok_iff`, `Listing.exists_readLinesFrom_iff` — the lines of a listing.
-/

namespace OverlayControl

namespace RuleKind

/-- The words for a kind, in small letters. -/
def words : RuleKind → List String
  | .add => ["add", "redirect"]
  | .hide => ["hide"]
  | .inject => ["inject"]
  | .merge => ["merge"]

/-- Whether a word names the kind; it may be written with capitals. -/
def NamedBy (k : RuleKind) (w : String) : Prop := Text.lower w ∈ k.words

theorem parse_eq_ok_iff {w : String} {k : RuleKind} : parse w = .ok k ↔ k.NamedBy w := by
  have hname (k : RuleKind) : ofName (Text.lower w) = some k ↔ Text.lower w = k.name := by
    constructor
    · intro h
      have hfound := List.find?_some (p := fun k : RuleKind => k.name == Text.lower w) h
      exact (beq_iff_eq.1 hfound).symm
    · intro h
      rw [h]
      cases k <;> rfl
  unfold parse NamedBy
  by_cases hredirect : Text.lower w = "redirect"
  · rw [if_pos hredirect, hredirect]
    cases k <;> decide
  · rw [if_neg hredirect]
    have hwords : Text.lower w ∈ k.words ↔ Text.lower w = k.name := by
      cases k <;> simp [words, name, hredirect]
    rw [hwords, ← hname k]
    cases ofName (Text.lower w) <;> simp

/-- Any other word is refused. -/
theorem parse_of_unknown {w : String} (h : ∀ k : RuleKind, ¬k.NamedBy w) :
    parse w = .error s!"unknown rule kind '{Text.lower w}'" := by
  have hrefused : ∀ k, parse w ≠ .ok k := fun k hk => h k (parse_eq_ok_iff.1 hk)
  unfold parse at hrefused ⊢
  dsimp only at hrefused ⊢
  split at hrefused
  · exact absurd rfl (hrefused .add)
  · next hredirect =>
    rw [if_neg hredirect]
    cases hname : ofName (Text.lower w) with
    | none => rfl
    | some k => exact absurd (by rw [hname]) (hrefused k)

/-- A word that names a kind starts with a letter. -/
theorem NamedBy.exists_head? {k : RuleKind} {w : String} (h : k.NamedBy w) :
    ∃ c, w.toList.head? = some c ∧ c ≠ '#' ∧ c ≠ '[' ∧ c ≠ '\x7b' := by
  have hhead : ∃ c ∈ ['a', 'r', 'h', 'i', 'm'], (Text.lower w).toList.head? = some c := by
    unfold NamedBy at h
    generalize Text.lower w = v at h
    cases k <;> simp only [words, List.mem_cons, List.not_mem_nil, or_false] at h
    · rcases h with rfl | rfl
      · exact ⟨'a', by decide, rfl⟩
      · exact ⟨'r', by decide, rfl⟩
    · exact ⟨'h', by decide, h ▸ rfl⟩
    · exact ⟨'i', by decide, h ▸ rfl⟩
    · exact ⟨'m', by decide, h ▸ rfl⟩
  obtain ⟨l, hl, hlower⟩ := hhead
  rw [Text.lower, String.toList_ofList, List.head?_map, Option.map_eq_some_iff] at hlower
  obtain ⟨c, hc, rfl⟩ := hlower
  -- The other three characters have no small letters.
  refine ⟨c, hc, ?_, ?_, ?_⟩ <;> rintro rfl <;> exact absurd hl (by decide)

end RuleKind

/-- The known flags of a word are known. -/
theorem RuleFlags.known_bits_known (bits : UInt32) : known (known bits).bits = known bits := by
  rw [known, known, UInt32.and_assoc, UInt32.and_self]

namespace Listing

/-! ## Words -/

/-- What a word after the kind says. -/
inductive Item
  /-- The number of the rule. -/
  | id (i : RuleId)
  /-- The flags of the rule. -/
  | flags (f : RuleFlags)
  /-- A path, as text. -/
  | path (text : String)

namespace Item

/-- The number, if that is what the word says. -/
def id? : Item → Option RuleId
  | .id i => some i
  | _ => none

/-- The flags, if that is what the word says. -/
def flags? : Item → Option RuleFlags
  | .flags f => some f
  | _ => none

/-- The path, if that is what the word says. -/
def path? : Item → Option String
  | .path text => some text
  | _ => none

/-- How a word says something: `id=` or `flags=` and a 32-bit word, whose unknown bits are no
flags; or a path, which may be any word that starts with neither. -/
inductive Spells : String → Item → Prop
  /-- The number of the rule. -/
  | id {w digits : String} {n : UInt32} (hw : w.toList = "id=".toList ++ digits.toList)
      (hn : Text.Writes digits n.toNat) : Spells w (.id ⟨n⟩)
  /-- The flags of the rule. -/
  | flags {w digits : String} {n : UInt32} (hw : w.toList = "flags=".toList ++ digits.toList)
      (hn : Text.Writes digits n.toNat) : Spells w (.flags (.known n))
  /-- A path. -/
  | path {w : String} (hid : ¬"id=".toList <+: w.toList) (hflags : ¬"flags=".toList <+: w.toList) :
      Spells w (.path w)

end Item

/-- The attributes after one more word. -/
def Attributes.add (a : Attributes) : Item → Attributes
  | .id i => { a with id := some i }
  | .flags f => { a with flags := f }
  | .path text => { a with paths := a.paths ++ [text] }

/-- What the items add up to: the last number and the last flags count, the paths are collected. -/
theorem Attributes.foldl_add (items : List Item) (a : Attributes) :
    items.foldl add a =
      { id := (items.filterMap Item.id?).getLast?.or a.id,
        flags := (items.filterMap Item.flags?).getLast?.getD a.flags,
        paths := a.paths ++ items.filterMap Item.path? } := by
  -- By induction on the items, from any attributes.
  induction items generalizing a with
  | nil => simp
  | cons i items ih =>
    rw [List.foldl_cons, ih]
    cases i with
    | id i =>
      cases h : (items.filterMap Item.id?).getLast? <;>
        simp [add, Item.id?, Item.flags?, Item.path?, List.filterMap_cons, List.getLast?_cons, h]
    | flags f =>
      cases h : (items.filterMap Item.flags?).getLast? <;>
        simp [add, Item.id?, Item.flags?, Item.path?, List.filterMap_cons, List.getLast?_cons, h]
    | path text => simp [add, Item.id?, Item.flags?, Item.path?, List.filterMap_cons]

theorem ofWord_eq_id_iff {w digits : String} :
    Token.ofWord w = .id digits ↔ w.toList = "id=".toList ++ digits.toList := by
  constructor
  · intro h
    unfold Token.ofWord at h
    split at h <;> cases h
    next hw => simp [hw]
  · intro h
    have hw : w.toList = 'i' :: 'd' :: '=' :: digits.toList := h
    rw [Token.ofWord, hw]
    exact congrArg Token.id String.ofList_toList

theorem ofWord_eq_flags_iff {w digits : String} :
    Token.ofWord w = .flags digits ↔ w.toList = "flags=".toList ++ digits.toList := by
  constructor
  · intro h
    unfold Token.ofWord at h
    split at h <;> cases h
    next hw => simp [hw]
  · intro h
    have hw : w.toList = 'f' :: 'l' :: 'a' :: 'g' :: 's' :: '=' :: digits.toList := h
    rw [Token.ofWord, hw]
    exact congrArg Token.flags String.ofList_toList

/-- A word is taken for a path exactly when it starts like no attribute. -/
theorem ofWord_eq_path_iff {w text : String} :
    Token.ofWord w = .path text ↔
      text = w ∧ ¬"id=".toList <+: w.toList ∧ ¬"flags=".toList <+: w.toList := by
  unfold Token.ofWord
  split
  · next hw => simp [hw]
  · next hw => simp [hw]
  · next hid hflags =>
    have hid : ¬"id=".toList <+: w.toList := fun ⟨digits, hw⟩ => hid digits hw.symm
    have hflags : ¬"flags=".toList <+: w.toList := fun ⟨digits, hw⟩ => hflags digits hw.symm
    rw [and_iff_left ⟨hid, hflags⟩, Token.path.injEq]
    exact eq_comm

/-- A path that is a word of a line: non-empty text without blanks that starts like no attribute. -/
theorem isWord_iff {p : Path} :
    p.IsWord ↔ ∃ s : String, p = .ofString s ∧ Text.IsWord s.toList ∧
      ¬"id=".toList <+: s.toList ∧ ¬"flags=".toList <+: s.toList := by
  unfold Path.IsWord
  simp only [ofWord_eq_path_iff, true_and]
  exact exists_congr fun s => by tauto

/-- A word is taken exactly when it says something. -/
theorem take_eq_ok_iff {a b : Attributes} {w : String} :
    a.take w = .ok b ↔ ∃ i, Item.Spells w i ∧ a.add i = b := by
  constructor
  · intro h
    unfold Attributes.take at h
    split at h
    · next digits hword =>
      split at h
      · next n hn =>
        cases h
        exact ⟨_, .id (ofWord_eq_id_iff.1 hword) (Text.readWord_eq_ok_iff.1 hn), rfl⟩
      · cases h
    · next digits hword =>
      split at h
      · next n hn =>
        cases h
        exact ⟨_, .flags (ofWord_eq_flags_iff.1 hword) (Text.readWord_eq_ok_iff.1 hn), rfl⟩
      · cases h
    · next hword =>
      cases h
      obtain ⟨rfl, hid, hflags⟩ := ofWord_eq_path_iff.1 hword
      exact ⟨_, .path hid hflags, rfl⟩
  · rintro ⟨i, hi, rfl⟩
    unfold Attributes.take
    cases hi with
    | id hw hn =>
      rw [ofWord_eq_id_iff.2 hw]
      simp only [Text.readWord_eq_ok_iff.2 hn, Attributes.add]
    | flags hw hn =>
      rw [ofWord_eq_flags_iff.2 hw]
      simp only [Text.readWord_eq_ok_iff.2 hn, Attributes.add]
    | path hid hflags =>
      rw [ofWord_eq_path_iff.2 ⟨rfl, hid, hflags⟩]
      rfl

/-- Words are taken exactly when each of them says something. -/
theorem foldlM_take_eq_ok_iff {a b : Attributes} {ws : List String} :
    ws.foldlM Attributes.take a = .ok b ↔
      ∃ items, List.Forall₂ Item.Spells ws items ∧ items.foldl Attributes.add a = b := by
  induction ws generalizing a with
  | nil =>
    rw [List.foldlM_nil]
    simp [pure, Except.pure]
  | cons w ws ih =>
    rw [List.foldlM_cons]
    cases htake : a.take w with
    | error e =>
      refine iff_of_false (fun h => nomatch h) ?_
      rintro ⟨_, h, _⟩
      cases h with
      | cons hi _ =>
        rw [take_eq_ok_iff.2 ⟨_, hi, rfl⟩] at htake
        cases htake
    | ok a' =>
      show ws.foldlM Attributes.take a' = .ok b ↔ _
      rw [ih]
      constructor
      · rintro ⟨items, hitems, hb⟩
        obtain ⟨i, hi, rfl⟩ := take_eq_ok_iff.1 htake
        exact ⟨i :: items, .cons hi hitems, hb⟩
      · rintro ⟨_, h, hb⟩
        cases h with
        | cons hi hitems =>
          rw [take_eq_ok_iff.2 ⟨_, hi, rfl⟩] at htake
          cases htake
          exact ⟨_, hitems, hb⟩

/-- The words of a line tell a rule: one names the kind, the others say the rest. There is one path
or there are two, the source and the target; the last number counts, and so do the last flags. -/
inductive Tells : List String → Rule → Prop
  /-- The word for the kind, and what the other words say. -/
  | intro {w : String} {ws : List String} {items : List Item} {r : Rule}
      (kind : r.kind.NamedBy w) (spells : List.Forall₂ Item.Spells ws items)
      (paths : (items.filterMap Item.path?).map Path.ofString = r.source :: r.target.toList)
      (id : r.id = (items.filterMap Item.id?).getLast?)
      (flags : r.flags = (items.filterMap Item.flags?).getLast?.getD .none) : Tells (w :: ws) r

/-- What a line is read as, in terms of what its words are taken for. -/
theorem readWords_cons_eq_ok_iff {w : String} {ws : List String} {r : Rule} :
    readWords (w :: ws) = .ok r ↔
      ∃ a, RuleKind.parse w = .ok r.kind ∧ ws.foldlM Attributes.take {} = .ok a ∧
        a.paths.map Path.ofString = r.source :: r.target.toList ∧ r.id = a.id ∧
        r.flags = a.flags := by
  rw [readWords]
  constructor
  · intro h
    cases hkind : RuleKind.parse w with
    | error e =>
      rw [hkind] at h
      cases h
    | ok kind =>
      cases hfold : ws.foldlM Attributes.take {} with
      | error e =>
        rw [hkind, hfold] at h
        cases h
      | ok a =>
        rw [hkind, hfold] at h
        -- There are one or two paths, the source and the target.
        obtain ⟨id, flags, _ | ⟨source, _ | ⟨target, _ | ⟨extra, rest⟩⟩⟩⟩ := a <;> cases h
        · exact ⟨_, rfl, rfl, rfl, rfl, rfl⟩
        · exact ⟨_, rfl, rfl, rfl, rfl, rfl⟩
  · obtain ⟨id, kind, source, target, flags⟩ := r
    rintro ⟨⟨_, _, paths⟩, hkind, hfold, hpaths, rfl, rfl⟩
    rw [hkind, hfold]
    obtain ⟨s, rest, rfl, rfl, hrest⟩ := List.map_eq_cons_iff.1 hpaths
    cases target with
    | none =>
      obtain rfl := List.map_eq_nil_iff.1 hrest
      rfl
    | some t =>
      obtain ⟨t, _, rfl, rfl, hnil⟩ := List.map_eq_cons_iff.1 hrest
      obtain rfl := List.map_eq_nil_iff.1 hnil
      rfl

/-- Words are read as a rule exactly when they tell it. -/
theorem readWords_eq_ok_iff {words : List String} {r : Rule} :
    readWords words = .ok r ↔ Tells words r := by
  cases words with
  | nil => exact iff_of_false (fun h => nomatch h) fun h => nomatch h
  | cons w ws =>
    rw [readWords_cons_eq_ok_iff]
    constructor
    · rintro ⟨a, hkind, hfold, hpaths, hid, hflags⟩
      obtain ⟨items, hitems, rfl⟩ := foldlM_take_eq_ok_iff.1 hfold
      rw [Attributes.foldl_add] at hpaths hid hflags
      exact .intro (RuleKind.parse_eq_ok_iff.1 hkind) hitems (by simpa using hpaths)
        (by simpa using hid) hflags
    · rintro ⟨kind, spells, paths, id, flags⟩
      refine ⟨_, RuleKind.parse_eq_ok_iff.2 kind, foldlM_take_eq_ok_iff.2 ⟨_, spells, rfl⟩, ?_⟩
      rw [Attributes.foldl_add]
      exact ⟨by simpa using paths, by simpa using id, flags⟩

/-! ## Lines -/

/-- A line that says nothing: it has nothing but blanks, or the first other character is a hash. -/
def Silent (line : List Char) : Prop := ∀ c ∈ line.find? fun c => !Text.isBlank c, c = '#'

instance (line : List Char) : Decidable (Silent line) :=
  decidable_of_iff ((line.find? fun c => !Text.isBlank c).all (· == '#') = true)
    (by simp [Silent, Option.all_eq_true])

theorem isSilent_eq_true_iff {line : List Char} : isSilent line = true ↔ Silent line := by
  rw [Silent, ← Text.head?_trimChars, isSilent]
  cases Text.trimChars line <;> simp

/-- The words of a line. -/
def wordsIn (line : List Char) : List String := (Text.wordsOf line).map String.ofList

/-- What lines say: the words of each that says anything, in order. -/
def told (ls : List (List Char)) : List (List String) :=
  (ls.filter fun l => ¬Silent l).map wordsIn

/-- Lines are read as rules exactly when what they say tells these rules, one after the other. -/
theorem readLinesFrom_eq_ok_iff {number : Nat} {ls : List (List Char)} {rules : List Rule} :
    readLinesFrom number ls = .ok rules ↔ List.Forall₂ Tells (told ls) rules := by
  unfold told
  induction ls generalizing number rules with
  | nil => simp [readLinesFrom, eq_comm]
  | cons l ls ih =>
    rw [readLinesFrom]
    by_cases hl : Silent l
    · rw [if_pos (isSilent_eq_true_iff.2 hl), ih, List.filter_cons_of_neg (by simpa using hl)]
    · rw [if_neg (mt isSilent_eq_true_iff.1 hl), List.filter_cons_of_pos (by simpa using hl),
        List.map_cons]
      constructor
      · intro h
        split at h
        · cases h
        · next r hr =>
          cases hrest : readLinesFrom (number + 1) ls with
          | error e =>
            rw [hrest] at h
            cases h
          | ok rest =>
            rw [hrest] at h
            cases h
            exact .cons (readWords_eq_ok_iff.1 hr) (ih.1 hrest)
      · intro h
        cases h with
        | cons hr hrest =>
          rw [← wordsIn, readWords_eq_ok_iff.2 hr, ih.2 hrest]
          rfl

theorem exists_forall₂_iff {α β : Type} {R : α → β → Prop} {as : List α} :
    (∃ bs, List.Forall₂ R as bs) ↔ ∀ a ∈ as, ∃ b, R a b := by
  induction as with
  | nil => simp
  | cons a as ih =>
    rw [List.forall_mem_cons, ← ih]
    constructor
    · rintro ⟨_, h⟩
      cases h with
      | cons ha has => exact ⟨⟨_, ha⟩, _, has⟩
    · rintro ⟨⟨b, ha⟩, bs, has⟩
      exact ⟨b :: bs, .cons ha has⟩

/-- Lines are read exactly when each of those that say anything tells a rule. -/
theorem exists_readLinesFrom_iff {number : Nat} {ls : List (List Char)} :
    (∃ rules, readLinesFrom number ls = .ok rules) ↔
      ∀ l ∈ ls, ¬Silent l → ∃ r, Tells (wordsIn l) r := by
  simp only [readLinesFrom_eq_ok_iff, told, exists_forall₂_iff, List.forall_mem_map, List.mem_filter,
    decide_eq_true_eq, and_imp]

end Listing

end OverlayControl
