import Mathlib.Data.List.Forall2
import OverlayControl.Mount.Order
import OverlayControl.Proofs.Text.Blank
import OverlayControl.Proofs.Text.Decimal

/-!
# Reports on mount tables

What a report tells of a mount table, line by line and number by number. Lines that tell no mount
leave no trace in it: the mount before a mount is the last one that was told.

* `MountLine.Tells`, `MountLine.ofLine_eq_some_iff` — the lines that tell a mount;
* `mountLines_eq_filterMap` — cutting a text at newlines alone leaves the same mounts;
* `mem_duplicatesFrom_iff`, `pairwise_duplicatesFrom` — the numbers of more than one mount;
* `Backwards`, `exists_backwards` — the places where the numbers go backwards;
* `MountReport.isCanonical_ofMounts_iff` — when a table is canonical;
* `MountReport.ofText_tells_table` — the whole report.
-/

namespace OverlayControl

/-! ## Lines -/

/-- The line tells the mount: its first two fields write 32-bit words, the first one the number of
the mount, and its fifth field, if there is one, is the mount point. -/
def MountLine.Tells (line : String) (m : MountLine) : Prop :=
  ∃ number parent rest, Text.words line = number :: parent :: rest ∧
    Text.Writes number m.id.toNat ∧ (∃ p : UInt32, Text.Writes parent p.toNat) ∧
    m.mountPoint = ((Text.words line)[4]?).getD ""

theorem MountLine.ofLine_eq_some_iff {line : String} {m : MountLine} :
    ofLine line = some m ↔ Tells line m := by
  unfold ofLine Tells
  split
  · next number parent rest hwords =>
    have hfifth : (Text.words line)[4]? = rest[2]? := by rw [hwords]; rfl
    rw [hwords] at hfifth ⊢
    rw [hfifth]
    constructor
    · intro h
      split at h
      · next n p hn hp =>
        cases h
        exact ⟨number, parent, rest, rfl, Text.readWord_eq_ok_iff.1 hn,
          ⟨p, Text.readWord_eq_ok_iff.1 hp⟩, rfl⟩
      · cases h
    · rintro ⟨_, _, _, heq, hnumber, ⟨p, hparent⟩, hpoint⟩
      cases heq
      rw [Text.readWord_eq_ok_iff.2 hnumber, Text.readWord_eq_ok_iff.2 hparent]
      dsimp only
      rw [← hpoint]
  · next hwords =>
    refine ⟨nofun, ?_⟩
    rintro ⟨number, parent, rest, heq, -⟩
    exact absurd heq (hwords number parent rest)

namespace Text

theorem splitOn_newline (cs : List Char) : ('\n' :: cs).splitOn '\n' = [] :: cs.splitOn '\n' := by
  rw [List.splitOn, List.splitOnP_cons_eq_if_modifyHead, if_pos (by rfl), List.splitOn]

theorem splitOn_cons_of_ne {c : Char} (h : c ≠ '\n') (cs : List Char) :
    (c :: cs).splitOn '\n' = (cs.splitOn '\n').modifyHead (c :: ·) := by
  rw [List.splitOn, List.splitOnP_cons_eq_if_modifyHead, if_neg (by simpa using h), List.splitOn]

/-- A piece that is a line: a carriage return may end it. -/
theorem exists_pieces_linesOf (cs : List Char) :
    ∃ pieces, (cs.splitOn '\n' = pieces ∨ cs.splitOn '\n' = pieces ++ [[]]) ∧
      List.Forall₂ (fun line piece => piece = line ∨ piece = line ++ ['\r']) (linesOf cs)
        pieces := by
  fun_induction linesOf cs with
  | case1 => exact ⟨[], .inr rfl, .nil⟩
  | case2 cs ih =>
    obtain ⟨pieces, hsplit, hpieces⟩ := ih
    refine ⟨[] :: pieces, ?_, .cons (.inl rfl) hpieces⟩
    rw [splitOn_newline]
    exact hsplit.imp (congrArg ([] :: ·)) (congrArg ([] :: ·))
  | case3 cs ih =>
    obtain ⟨pieces, hsplit, hpieces⟩ := ih
    refine ⟨['\r'] :: pieces, ?_, .cons (.inr rfl) hpieces⟩
    rw [splitOn_cons_of_ne (by decide), splitOn_newline, List.modifyHead_cons]
    exact hsplit.imp (congrArg (['\r'] :: ·)) (congrArg (['\r'] :: ·))
  | case4 c cs hc _ hlines ih =>
    -- Nothing follows the character, or only an empty piece.
    obtain ⟨pieces, hsplit, hpieces⟩ := ih
    rw [hlines, List.forall₂_nil_left_iff] at hpieces
    subst hpieces
    refine ⟨[[c]], .inl ?_, .cons (.inl rfl) .nil⟩
    rw [splitOn_cons_of_ne hc]
    rcases hsplit with hnil | hlast
    · exact absurd hnil (List.splitOn_ne_nil _ _)
    · rw [hlast, List.nil_append, List.modifyHead_cons]
  | case5 c cs hc _ l ls hlines ih =>
    obtain ⟨pieces, hsplit, hpieces⟩ := ih
    rw [hlines] at hpieces
    cases hpieces with
    | @cons _ piece _ pieces hpiece hpieces =>
      refine ⟨(c :: piece) :: pieces, ?_, .cons ?_ hpieces⟩
      · rw [splitOn_cons_of_ne hc]
        rcases hsplit with hall | hlast
        · rw [hall, List.modifyHead_cons]
          exact .inl rfl
        · rw [hlast, List.cons_append, List.modifyHead_cons]
          exact .inr rfl
      · exact hpiece.imp (congrArg (c :: ·)) (congrArg (c :: ·))

end Text

/-- A carriage return at the end of a line does not change the mount that it tells. -/
theorem MountLine.ofLine_concat_return (cs : List Char) :
    ofLine (String.ofList (cs ++ ['\r'])) = ofLine (String.ofList cs) := by
  have hwords : Text.words (String.ofList (cs ++ ['\r'])) = Text.words (String.ofList cs) := by
    rw [Text.words, Text.words, String.toList_ofList, String.toList_ofList,
      Text.wordsOf_concat_of_isBlank (by decide)]
  rw [ofLine, ofLine, hwords]

theorem MountLine.ofLine_nil : ofLine (String.ofList []) = none := by
  rfl

/-- The mounts of a table are what the pieces between its newlines tell. -/
theorem mountLines_eq_filterMap (text : String) :
    mountLines text =
      (text.toList.splitOn '\n').filterMap fun piece => MountLine.ofLine (String.ofList piece) := by
  have hsame {lines pieces : List (List Char)}
      (h : List.Forall₂ (fun line piece => piece = line ∨ piece = line ++ ['\r']) lines pieces) :
      (lines.map String.ofList).filterMap MountLine.ofLine =
        pieces.filterMap fun piece => MountLine.ofLine (String.ofList piece) := by
    induction h with
    | nil => rfl
    | @cons line piece _ _ hpiece _ ih =>
      have hline :
          MountLine.ofLine (String.ofList piece) = MountLine.ofLine (String.ofList line) := by
        rcases hpiece with rfl | rfl
        · rfl
        · exact MountLine.ofLine_concat_return line
      rw [List.map_cons, List.filterMap_cons, List.filterMap_cons, hline, ih]
  obtain ⟨pieces, hsplit, hpieces⟩ := Text.exists_pieces_linesOf text.toList
  rw [mountLines, Text.lines, hsame hpieces]
  rcases hsplit with hall | hlast
  · rw [hall]
  · rw [hlast, List.filterMap_append, List.filterMap_cons, MountLine.ofLine_nil,
      List.filterMap_nil, List.append_nil]

/-! ## Numbers of more than one mount -/

theorem mem_insertNumber_iff {n m : UInt32} {ns : List UInt32} :
    m ∈ insertNumber n ns ↔ m = n ∨ m ∈ ns := by
  induction ns with
  | nil => simp [insertNumber]
  | cons k ns ih =>
    rw [insertNumber]
    split
    · simp
    · split
      · next heq => simp [heq]
      · simp only [List.mem_cons, ih]
        exact or_left_comm

/-- A number is put in its place. -/
theorem pairwise_insertNumber {n : UInt32} {ns : List UInt32} (h : ns.Pairwise (· < ·)) :
    (insertNumber n ns).Pairwise (· < ·) := by
  induction ns with
  | nil => exact List.pairwise_singleton _ _
  | cons k ns ih =>
    obtain ⟨hk, hns⟩ := List.pairwise_cons.1 h
    rw [insertNumber]
    split
    · next hlt =>
      refine List.pairwise_cons.2 ⟨fun m hm => ?_, h⟩
      rcases List.mem_cons.1 hm with rfl | hm
      · exact hlt
      · exact UInt32.lt_trans hlt (hk m hm)
    · split
      · exact h
      · next hnlt hne =>
        have hgt : k < n := UInt32.lt_of_le_of_ne (UInt32.not_lt.1 hnlt) fun heq => hne heq.symm
        refine List.pairwise_cons.2 ⟨fun m hm => ?_, ih hns⟩
        rcases mem_insertNumber_iff.1 hm with rfl | hm
        · exact hgt
        · exact hk m hm

theorem pairwise_duplicatesFrom (seen ns : List UInt32) :
    (duplicatesFrom seen ns).Pairwise (· < ·) := by
  induction ns generalizing seen with
  | nil => exact .nil
  | cons n ns ih =>
    rw [duplicatesFrom]
    split
    · exact pairwise_insertNumber (ih (n :: seen))
    · exact ih (n :: seen)

/-- A number is found again if it was seen before or occurs twice. -/
theorem mem_duplicatesFrom_iff {seen ns : List UInt32} {n : UInt32} :
    n ∈ duplicatesFrom seen ns ↔ (n ∈ seen ∧ n ∈ ns) ∨ 2 ≤ ns.count n := by
  induction ns generalizing seen with
  | nil => simp [duplicatesFrom]
  | cons m ns ih =>
    -- The first number is told if it was seen before; for the rest it has been seen.
    have hfirst : n ∈ duplicatesFrom seen (m :: ns) ↔
        (m ∈ seen ∧ n = m) ∨ n ∈ duplicatesFrom (m :: seen) ns := by
      rw [duplicatesFrom]
      split
      · next hseen => simp [mem_insertNumber_iff, List.contains_iff_mem.1 hseen]
      · next hseen => simp [mt List.contains_iff_mem.2 hseen]
    rw [hfirst, ih]
    by_cases hn : n = m
    · subst hn
      have hcount : 2 ≤ (n :: ns).count n ↔ n ∈ ns := by
        rw [List.count_cons_self, Nat.succ_le_succ_iff, Nat.one_le_iff_ne_zero,
          ← Nat.pos_iff_ne_zero, List.count_pos_iff]
      have htwice : 2 ≤ ns.count n → n ∈ ns := fun h =>
        List.count_pos_iff.1 (Nat.lt_of_lt_of_le Nat.zero_lt_two h)
      rw [hcount]
      simp only [and_true, List.mem_cons_self, true_and]
      tauto
    · rw [List.count_cons_of_ne (Ne.symm hn)]
      simp [hn]

theorem duplicatesFrom_eq_nil_iff {ns : List UInt32} : duplicatesFrom [] ns = [] ↔ ns.Nodup := by
  rw [List.eq_nil_iff_forall_not_mem, List.nodup_iff_count]
  refine forall_congr' fun n => ?_
  simp only [mem_duplicatesFrom_iff, List.not_mem_nil, false_and, false_or]
  exact Nat.not_lt

/-! ## Numbers that go backwards -/

/-- The mounts `a` and `b` stand next to each other in a table, `a` at the place `i`. -/
def Neighbours (ms : List MountLine) (i : Nat) (a b : MountLine) : Prop :=
  ms[i]? = some a ∧ ms[i + 1]? = some b

/-- What is told of the places where the numbers of a table go backwards: one inversion for each
place, in order, with both numbers and the mount point of the second mount. -/
structure Backwards (ms : List MountLine) (places : List Nat) (inversions : List MountInversion) :
    Prop where
  /-- The places are in order, and none occurs twice. -/
  ascending : places.Pairwise (· < ·)
  /-- They are those of a mount that is followed by one with a lower number. -/
  exact : ∀ i, i ∈ places ↔ ∃ a b, Neighbours ms i a b ∧ b.id < a.id
  /-- Each is told as it is. -/
  told : List.Forall₂ (fun i v => ∃ a b, Neighbours ms i a b ∧ v = ⟨a.id, b.id, b.mountPoint⟩)
    places inversions

section Backwards

variable {a b : MountLine} {ms : List MountLine} {places : List Nat}
  {inversions : List MountInversion}

theorem neighbours_cons_cons_zero {c d : MountLine} :
    Neighbours (a :: b :: ms) 0 c d ↔ a = c ∧ b = d := by
  simp [Neighbours]

/-- One more mount before a table moves its places on, and it may be the first one that is followed
by a lower number. -/
theorem Backwards.cons (h : Backwards (b :: ms) places inversions) :
    Backwards (a :: b :: ms)
      (if b.id < a.id then 0 :: places.map (· + 1) else places.map (· + 1))
      (if b.id < a.id then ⟨a.id, b.id, b.mountPoint⟩ :: inversions else inversions) := by
  have hascending : (places.map (· + 1)).Pairwise (· < ·) := by
    rw [List.pairwise_map]
    exact h.ascending.imp Nat.succ_lt_succ
  have hpositive : ∀ i ∈ places.map (· + 1), 0 < i := by
    intro i hi
    obtain ⟨j, -, rfl⟩ := List.mem_map.1 hi
    exact Nat.succ_pos j
  have hsucc (i : Nat) : i + 1 ∈ places.map (· + 1) ↔
      ∃ c d, Neighbours (a :: b :: ms) (i + 1) c d ∧ d.id < c.id := by
    rw [List.mem_map_of_injective (fun _ _ => Nat.succ.inj), h.exact]
    rfl
  have htold : List.Forall₂
      (fun i v => ∃ c d, Neighbours (a :: b :: ms) i c d ∧ v = ⟨c.id, d.id, d.mountPoint⟩)
      (places.map (· + 1)) inversions := by
    rw [List.forall₂_map_left_iff]
    exact h.told
  split
  · next hlower =>
    refine ⟨List.pairwise_cons.2 ⟨hpositive, hascending⟩, fun i => ?_,
      .cons ⟨a, b, neighbours_cons_cons_zero.2 ⟨rfl, rfl⟩, rfl⟩ htold⟩
    cases i with
    | zero => simpa [neighbours_cons_cons_zero] using hlower
    | succ i => rw [List.mem_cons, or_iff_right (Nat.succ_ne_zero i), hsucc]
  · next hnot =>
    refine ⟨hascending, fun i => ?_, htold⟩
    cases i with
    | zero => simpa [neighbours_cons_cons_zero] using hnot
    | succ i => exact hsucc i

end Backwards

/-- Every table has its places where the numbers go backwards, and they are what is told. -/
theorem exists_backwards (ms : List MountLine) :
    ∃ places, Backwards ms places (inversionsOf ms) := by
  induction ms with
  | nil => exact ⟨[], .nil, by simp [Neighbours], .nil⟩
  | cons a ms ih =>
    cases ms with
    | nil => exact ⟨[], .nil, by simp [Neighbours], .nil⟩
    | cons b ms =>
      obtain ⟨places, hplaces⟩ := ih
      exact ⟨_, hplaces.cons⟩

/-- Nothing goes backwards exactly when no number is lower than one before it: neighbours that do
not decrease are enough for that. -/
theorem inversionsOf_eq_nil_iff {ms : List MountLine} :
    inversionsOf ms = [] ↔ (ms.map MountLine.id).Pairwise (· ≤ ·) := by
  induction ms with
  | nil => simp [inversionsOf]
  | cons a ms ih =>
    cases ms with
    | nil => simp [inversionsOf]
    | cons b ms =>
      rw [inversionsOf, List.map_cons, List.pairwise_cons]
      split
      · next hlower =>
        refine ⟨nofun, fun ⟨hfirst, _⟩ => ?_⟩
        exact absurd hlower (UInt32.not_lt.2 (hfirst b.id List.mem_cons_self))
      · next hnot =>
        rw [ih]
        refine ⟨fun htail => ⟨fun n hn => ?_, htail⟩, And.right⟩
        -- The next number is at least this one, and all others are at least the next one.
        have hle : a.id ≤ b.id := UInt32.not_lt.1 hnot
        rw [List.map_cons] at hn htail
        rcases List.mem_cons.1 hn with rfl | hn
        · exact hle
        · exact UInt32.le_trans hle (List.rel_of_pairwise_cons htail hn)

namespace MountReport

/-- A table has neither a number twice nor a number that goes backwards exactly when its numbers
strictly increase. -/
theorem isCanonical_ofMounts_iff (ms : List MountLine) :
    (ofMounts ms).isCanonical = true ↔ (ms.map MountLine.id).Pairwise (· < ·) := by
  rw [isCanonical, Bool.and_eq_true, List.isEmpty_iff, List.isEmpty_iff]
  show duplicatesFrom [] _ = [] ∧ inversionsOf ms = [] ↔ _
  rw [duplicatesFrom_eq_nil_iff, inversionsOf_eq_nil_iff, List.Nodup, ← List.pairwise_and_iff]
  refine List.Pairwise.iff fun n m =>
    ⟨fun ⟨hne, hle⟩ => UInt32.lt_of_le_of_ne hle hne, fun hlt => ?_⟩
  exact ⟨UInt32.ne_of_lt hlt, UInt32.le_of_lt hlt⟩

/-- What a report tells of a mount table. The table is what the pieces of the text between its
newlines tell, and the pieces that tell no mount do not count. The report has the number of its
mounts; the numbers of more than one mount, strictly ascending; each place where a number is lower
than the one just before it, in order; and it is canonical exactly when the numbers strictly
increase. -/
theorem ofText_tells_table (text : String) :
    let table := (text.toList.splitOn '\n').filterMap fun piece =>
      MountLine.ofLine (String.ofList piece)
    let ids := table.map MountLine.id
    let report := ofText text
    (∀ line m, MountLine.ofLine line = some m ↔ MountLine.Tells line m) ∧
    report.mounts = ids.length ∧
    (report.duplicates.Pairwise (· < ·) ∧ ∀ n, n ∈ report.duplicates ↔ 2 ≤ ids.count n) ∧
    (∃ places, Backwards table places report.inversions) ∧
    (report.isCanonical = true ↔ ids.Pairwise (· < ·)) := by
  intro table ids report
  have hreport : report = ofMounts table :=
    congrArg ofMounts (mountLines_eq_filterMap text)
  rw [hreport]
  refine ⟨fun line m => MountLine.ofLine_eq_some_iff, (List.length_map _).symm,
    ⟨pairwise_duplicatesFrom [] ids, fun n => ?_⟩, exists_backwards table,
    isCanonical_ofMounts_iff table⟩
  show n ∈ duplicatesFrom [] ids ↔ _
  rw [mem_duplicatesFrom_iff]
  simp

/-- A line that tells no mount stands between the mounts 3 and 1, and 3 occurs twice. -/
example : ofText "3 0\nnone\n1 0 0:1 / /x rw\n3 0" = ⟨3, [3], [⟨3, 1, "/x"⟩]⟩ := by
  decide +kernel

end MountReport

end OverlayControl
