import OverlayControl.Proofs.Toml.Text

/-!
# Documents in TOML are read back

A document of this program is a run of lines, each a key and a value. A document whose keys are
distinct is read as the table of its keys and values, in the order of the lines (`readChars_lines`),
if each value is read as what it stands for (`Reads`), as truth values and texts are. Keys may be
any texts.
-/

namespace OverlayControl.Toml

/-! ## Values -/

/-- Whether characters that start a line's value are read as data up to the end of the line. -/
def Reads (v : List Char) (d : Data) : Prop :=
  ∀ rest, value? nestingLimit (skipBlanks (v ++ '\n' :: rest)) = some (d, '\n' :: rest)

theorem skipBlanks_cons {c : Char} (hb : c ≠ ' ') (ht : c ≠ '\t') (cs : List Char) :
    skipBlanks (c :: cs) = c :: cs := List.dropWhile_cons_of_neg (by simp [hb, ht])

theorem value?_cons {c : Char} (hl : c ≠ '[') (ht : c ≠ '\x7b') (depth : Nat) (cs : List Char) :
    value? depth (c :: cs) = scalar? (c :: cs) := by
  cases depth with
  | zero => rfl
  | succ depth =>
    exact value?.eq_4 _ depth (fun _ h => hl (List.cons.inj h).1) fun _ h => ht (List.cons.inj h).1

theorem reads_boolValue (b : Bool) : Reads (boolValue b) (.bool b) := by
  intro rest
  cases b <;> rfl

theorem textValue_eq_cons (cs : List Char) :
    ∃ c t, textValue cs = c :: t ∧ (c = '"' ∨ c = '\'') := by
  unfold textValue
  cases spelling cs with
  | basic => exact ⟨_, _, rfl, .inl rfl⟩
  | literal => exact ⟨_, _, rfl, .inr rfl⟩
  | longBasic => exact ⟨_, _, rfl, .inl rfl⟩
  | longLiteral => exact ⟨_, _, rfl, .inr rfl⟩

theorem reads_textValue (cs : List Char) : Reads (textValue cs) (.text (String.ofList cs)) := by
  intro rest
  have htext := text?_textValue cs ('\n' :: rest) (by simp) (by simp)
  obtain ⟨c, t, hv, hc⟩ := textValue_eq_cons cs
  rw [hv, List.cons_append] at htext ⊢
  -- Either quote starts a text and nothing else.
  rcases hc with rfl | rfl
  all_goals
    rw [skipBlanks_cons (by decide) (by decide)]
    rw [value?_cons (by decide) (by decide), scalar?.eq_3 _ (by simp) (by simp), htext]

/-! ## Keys -/

/-- A key starts with a quote or with a character of a bare key. -/
theorem keyText_eq_cons (cs : List Char) :
    ∃ c t, keyText cs = c :: t ∧ (c = '"' ∨ c = '\'' ∨ isBareKeyChar c = true) := by
  unfold keyText
  split
  · next h =>
    cases cs with
    | nil => exact absurd rfl h.1
    | cons c cs =>
      have hall : isBareKeyChar c = true := (List.all_eq_true.1 h.2) c List.mem_cons_self
      exact ⟨c, cs, rfl, .inr (.inr hall)⟩
  · split
    · exact ⟨_, _, rfl, .inl rfl⟩
    · exact ⟨_, _, rfl, .inr (.inl rfl)⟩
    · exact ⟨_, _, rfl, .inl rfl⟩

/-- A key is read back up to the blank after it. -/
theorem keyPart?_keyText (cs rest : List Char) :
    keyPart? (keyText cs ++ ' ' :: rest) = some (cs, ' ' :: rest) := by
  -- A key that is not bare is spelled like a text on one line.
  have hbasic : keyPart? (spelled .basic cs ++ ' ' :: rest) = some (cs, ' ' :: rest) := by
    show basicBody (escapeBody false 0 0 cs ++ ['"'] ++ ' ' :: rest) = _
    rw [List.append_assoc]
    exact basicBody_escapeBody cs (' ' :: rest)
  unfold keyText
  split
  · next h =>
    obtain ⟨hne, hall⟩ := h
    have htake : (cs ++ ' ' :: rest).takeWhile isBareKeyChar = cs := by
      rw [List.takeWhile_append_of_pos (List.all_eq_true.1 hall),
        List.takeWhile_cons_of_neg (by decide), List.append_nil]
    have hdrop : (cs ++ ' ' :: rest).dropWhile isBareKeyChar = ' ' :: rest := by
      rw [List.dropWhile_append_of_pos (List.all_eq_true.1 hall),
        List.dropWhile_cons_of_neg (by decide)]
    cases cs with
    | nil => exact absurd rfl hne
    | cons c cs =>
      have hc : isBareKeyChar c = true := (List.all_eq_true.1 hall) c List.mem_cons_self
      rw [List.cons_append] at htake hdrop ⊢
      rw [keyPart?.eq_3 _ (fun t h => by cases h; simp [isBareKeyChar] at hc)
        (fun t h => by cases h; simp [isBareKeyChar] at hc), htake, hdrop]
  · split
    · exact hbasic
    · next hs =>
      show literalBody (cs ++ ['\''] ++ ' ' :: rest) = _
      rw [List.append_assoc]
      exact literalBody_append (of_spelling_eq_literal hs) (' ' :: rest)
    · exact hbasic

/-- What starts a key starts no other kind of statement, and is neither a blank nor a mark. -/
theorem of_keyText_head {c : Char} (h : c = '"' ∨ c = '\'' ∨ isBareKeyChar c = true) :
    c ≠ ' ' ∧ c ≠ '\t' ∧ c ≠ '\n' ∧ c ≠ '\r' ∧ c ≠ '#' ∧ c ≠ '[' ∧ c ≠ '\uFEFF' := by
  refine ⟨?_, ?_, ?_, ?_, ?_, ?_, ?_⟩ <;> (rintro rfl; revert h; decide)

theorem dottedKey?_keyText (cs rest : List Char) :
    dottedKey? nestingLimit (keyText cs ++ ' ' :: '=' :: rest) =
      some ([String.ofList cs], '=' :: rest) := by
  have hpart := keyPart?_keyText cs ('=' :: rest)
  obtain ⟨c, t, hkey, hc⟩ := keyText_eq_cons cs
  obtain ⟨hb, ht, -⟩ := of_keyText_head hc
  rw [hkey, List.cons_append] at hpart ⊢
  show dottedKey? (78 + 1) _ = _
  rw [dottedKey?, skipBlanks_cons hb ht, hpart]
  rfl

/-! ## Lines -/

/-- A line of a document is read as one pair, which a table without that key takes in at its end. -/
theorem statement?_line (key : List Char) {value : List Char} {d : Data} (hv : Reads value d)
    {es : Entries} (hkey : find? (String.ofList key) es = none) (rest : List Char) :
    statement? ⟨es, []⟩ (line key value ++ rest) =
      some (⟨put (String.ofList key) (.value d) es, []⟩, rest) := by
  have hpair : pair? (value? nestingLimit) (line key value ++ rest) =
      some (([String.ofList key], d), '\n' :: rest) := by
    have hvalue := hv rest
    have hdotted := dottedKey?_keyText key (' ' :: (value ++ '\n' :: rest))
    simp only [line, List.append_assoc, List.cons_append, List.nil_append]
    rw [pair?, hdotted]
    show Option.map _ (value? nestingLimit (skipBlanks (value ++ '\n' :: rest))) = _
    rw [hvalue]
    rfl
  -- The line is a pair, since its first character opens nothing else.
  obtain ⟨c, t, hc, hhead⟩ := keyText_eq_cons key
  obtain ⟨-, -, hn, hr, hh, hbr, -⟩ := of_keyText_head hhead
  have hline : line key value ++ rest = c :: (t ++ [' ', '=', ' '] ++ value ++ ['\n'] ++ rest) := by
    rw [line, hc]
    rfl
  rw [hline] at hpair ⊢
  rw [statement?.eq_6 _ _ (fun _ h => hn (List.cons.inj h).1) (fun _ h => hr (List.cons.inj h).1)
    (fun _ h => hh (List.cons.inj h).1) (fun _ h => hbr (List.cons.inj h).1)
    (fun _ h => hbr (List.cons.inj h).1), hpair]
  show (do
    let rest ← statementEnd? ('\n' :: rest)
    let root ← within (putPair [String.ofList key] d) [] es
    some ((⟨root, []⟩ : Draft), rest)) = _
  -- The key is new to the table, so its value goes to the end.
  have hdefine : within (putPair [String.ofList key] d) [] es =
      some (put (String.ofList key) (.value d) es) := by
    show define (String.ofList key) (.value d) es = _
    rw [define, hkey]
  rw [hdefine]
  rfl

/-! ## Documents -/

/-- A line of a document, with what it stands for. -/
structure Line where
  /-- The key. -/
  key : String
  /-- The value as it is written. -/
  value : List Char
  /-- What the value stands for. -/
  data : Data
  /-- The value is read as what it stands for. -/
  reads : Reads value data

namespace Line

/-- The line of a truth value. -/
def ofBool (key : String) (b : Bool) : Line := ⟨key, boolValue b, .bool b, reads_boolValue b⟩

/-- The line of a text. -/
def ofText (key : String) (cs : List Char) : Line :=
  ⟨key, textValue cs, .text (String.ofList cs), reads_textValue cs⟩

/-- The line as it is written. -/
def text (l : Line) : List Char := line l.key.toList l.value

/-- The key and what stands under it. -/
def entry (l : Line) : String × Data := (l.key, l.data)

/-- The entry while its table may still grow. -/
def item (l : Line) : String × Item := (l.key, .value l.data)

theorem text_eq_cons (l : Line) :
    ∃ c t, l.text = c :: t ∧ (c = '"' ∨ c = '\'' ∨ isBareKeyChar c = true) := by
  obtain ⟨c, t, hkey, hc⟩ := keyText_eq_cons l.key.toList
  exact ⟨c, t ++ [' ', '=', ' '] ++ l.value ++ ['\n'], by rw [text, line, hkey]; rfl, hc⟩

end Line

theorem find?_eq_none_of_not_mem {key : String} {es : Entries} (h : key ∉ es.map Prod.fst) :
    find? key es = none := by
  rw [find?, Option.map_eq_none_iff, List.find?_eq_none]
  intro e he heq
  exact h (List.mem_map.2 ⟨e, he, by simpa using heq⟩)

theorem put_of_not_mem {key : String} {es : Entries} (h : key ∉ es.map Prod.fst) (i : Item) :
    put key i es = es ++ [(key, i)] := by
  induction es with
  | nil => rfl
  | cons e es ih =>
    simp only [List.map_cons, List.mem_cons, not_or] at h
    rw [put, if_neg (Ne.symm h.1), ih h.2, List.cons_append]

/-- Lines with fresh keys are read one after the other, each adding its entry. -/
theorem statements?_lines (ls : List Line) (es : Entries) {fuel : Nat} (hfuel : ls.length ≤ fuel)
    (hkeys : (es.map Prod.fst ++ ls.map Line.key).Nodup) :
    statements? fuel ⟨es, []⟩ (ls.flatMap Line.text) = some ⟨es ++ ls.map Line.item, []⟩ := by
  -- By induction on the lines, with the entries of those before in the table.
  induction ls generalizing es fuel with
  | nil =>
    rw [List.map_nil, List.append_nil]
    cases fuel <;> rfl
  | cons l ls ih =>
    obtain ⟨fuel, rfl⟩ : ∃ n, fuel = n + 1 := ⟨fuel - 1, by simp at hfuel; omega⟩
    -- The key of the first line is not among those in the table.
    have hfresh : l.key ∉ es.map Prod.fst := fun hmem =>
      (List.nodup_append.1 hkeys).2.2 _ hmem _ (List.mem_cons_self ..) rfl
    have hnone : find? (String.ofList l.key.toList) es = none := by
      rw [String.ofList_toList]
      exact find?_eq_none_of_not_mem hfresh
    have hstatement := statement?_line l.key.toList l.reads hnone (ls.flatMap Line.text)
    rw [String.ofList_toList, put_of_not_mem hfresh] at hstatement
    have hfuel' : ls.length ≤ fuel := by simpa using hfuel
    have htail := ih (es ++ [l.item]) hfuel' (by simpa [Line.item] using hkeys)
    obtain ⟨c, t, htext, hc⟩ := l.text_eq_cons
    obtain ⟨hb, ht, -⟩ := of_keyText_head hc
    change statement? ⟨es, []⟩ (l.text ++ _) = _ at hstatement
    rw [htext, List.cons_append] at hstatement
    rw [List.flatMap_cons, htext, List.cons_append, statements?, skipBlanks_cons hb ht]
    dsimp only
    rw [hstatement]
    dsimp only
    rw [show es ++ [(l.key, Item.value l.data)] = es ++ [l.item] from rfl, htail, List.map_cons,
      List.append_assoc, List.singleton_append]

theorem length_le_length_flatMap_text (ls : List Line) :
    ls.length ≤ (ls.flatMap Line.text).length := by
  induction ls with
  | nil => exact Nat.le_refl _
  | cons l ls ih =>
    obtain ⟨c, t, htext, -⟩ := l.text_eq_cons
    rw [List.flatMap_cons, htext, List.length_append, List.length_cons, List.length_cons]
    omega

theorem dropMark_flatMap_text (ls : List Line) :
    dropMark (ls.flatMap Line.text) = ls.flatMap Line.text := by
  cases ls with
  | nil => rfl
  | cons l ls =>
    obtain ⟨c, t, htext, hc⟩ := l.text_eq_cons
    obtain ⟨-, -, -, -, -, -, hmark⟩ := of_keyText_head hc
    rw [List.flatMap_cons, htext, List.cons_append, dropMark, if_neg hmark]

theorem entriesToData_map_item (ls : List Line) :
    entriesToData (ls.map Line.item) = ls.map Line.entry := by
  induction ls with
  | nil => rfl
  | cons l ls ih =>
    rw [List.map_cons, List.map_cons, ← ih]
    rfl

/-- Lines with distinct keys are read as the table of their entries. -/
theorem readChars_lines {ls : List Line} (hkeys : (ls.map Line.key).Nodup) :
    readChars (ls.flatMap Line.text) = some (.table (ls.map Line.entry)) := by
  -- There is fuel for a statement for each character, so for each line.
  rw [readChars, dropMark_flatMap_text,
    statements?_lines ls [] (length_le_length_flatMap_text ls) (by simpa using hkeys)]
  simp [entriesToData_map_item]

end OverlayControl.Toml
