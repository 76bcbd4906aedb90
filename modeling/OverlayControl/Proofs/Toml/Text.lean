import OverlayControl.Toml.Reader

/-!
# Texts in TOML are read back

Every text, in whatever spelling it is written, is read as itself:

* `basicBody_escapeBody`, `longBasicBody_escapeBody` — the spellings with escapes, for every text;
* `literalBody_append`, `longLiteralBody_append` — the spellings without, for the texts that get
  them;
* `text?_textValue` — a text as a value, whatever follows it on its line.

The long spellings are read with up to two quotes in hand: a run of quotes is told from the closing
three only at its end.
-/

namespace OverlayControl.Toml

/-! ## Escapes -/

theorem toNat_lt_of_isControl {c : Char} (h : isControl c = true) : c.toNat < 128 := by
  simp only [isControl, Bool.or_eq_true, Bool.and_eq_true, decide_eq_true_eq, beq_iff_eq] at h
  omega

theorem charOf?_hexPadded :
    ∀ n < 128, charOf? (Text.hexPadded true 4 n) = some (Char.ofNat n) := by
  decide

/-- An escape is one letter after a backslash, or four digits after `\u`; either stands for the
character. -/
theorem escape_cases {c : Char} (h : c.toNat < 128) :
    (∃ x ∈ ['b', 't', 'n', 'f', 'r', '"', '\\'], escape c = ['\\', x] ∧ escaped? x = some c) ∨
      ∃ x y z w, escape c = ['\\', 'u', x, y, z, w] ∧ charOf? [x, y, z, w] = some c := by
  -- The seven characters with a letter of their own, and the others.
  by_cases hshort : c ∈ ['\x08', '\t', '\n', '\x0c', '\r', '"', '\\']
  · left
    simp only [List.mem_cons, List.not_mem_nil, or_false] at hshort
    rcases hshort with rfl | rfl | rfl | rfl | rfl | rfl | rfl
    · exact ⟨'b', by decide, by decide, by decide⟩
    · exact ⟨'t', by decide, by decide, by decide⟩
    · exact ⟨'n', by decide, by decide, by decide⟩
    · exact ⟨'f', by decide, by decide, by decide⟩
    · exact ⟨'r', by decide, by decide, by decide⟩
    · exact ⟨'"', by decide, by decide, by decide⟩
    · exact ⟨'\\', by decide, by decide, by decide⟩
  · right
    have hhex := charOf?_hexPadded c.toNat h
    rw [Char.ofNat_toNat] at hhex
    simp only [List.mem_cons, List.not_mem_nil, or_false, not_or] at hshort
    obtain ⟨hb, ht, hn, hf, hr, hq, hs⟩ := hshort
    refine ⟨_, _, _, _, ?_, hhex⟩
    rw [escape, if_neg hb, if_neg ht, if_neg hn, if_neg hf, if_neg hr, if_neg hq, if_neg hs]
    rfl

theorem basicBody_escape {c : Char} (h : c.toNat < 128) (rest : List Char) :
    basicBody (escape c ++ rest) = push (some c) (basicBody rest) := by
  obtain ⟨x, hx, hesc, hval⟩ | ⟨x, y, z, w, hesc, hval⟩ := escape_cases h
  · rw [hesc, ← hval]
    simp only [List.mem_cons, List.not_mem_nil, or_false] at hx
    rcases hx with rfl | rfl | rfl | rfl | rfl | rfl | rfl <;> rfl
  · rw [hesc, ← hval]
    rfl

theorem basicBody_cons {c : Char} (hq : c ≠ '"') (hs : c ≠ '\\') (hc : isPlain c = true)
    (rest : List Char) : basicBody (c :: rest) = push (some c) (basicBody rest) := by
  rw [basicBody.eq_6 c rest hq (fun _ _ _ _ _ h => absurd h hs)
    (fun _ _ _ _ _ _ _ _ _ h => absurd h hs) (fun _ _ h => absurd h hs), if_pos ⟨hc, hs⟩]

theorem isPlain_of_isControl_eq_false {c : Char} (h : isControl c = false) (hn : c ≠ '\n') :
    isPlain c = true := by
  simp only [isControl, Bool.or_eq_false_iff, Bool.and_eq_false_iff, decide_eq_false_iff_not,
    bne_eq_false_iff_eq, beq_eq_false_iff_ne] at h
  obtain ⟨(hlow | ht) | hn', hdel⟩ := h
  · simp [isPlain, Nat.not_lt.1 hlow, hdel]
  · simp [isPlain, ht]
  · exact absurd hn' hn

/-- A text in quotes is read back. -/
theorem basicBody_escapeBody (cs rest : List Char) :
    basicBody (escapeBody false 0 0 cs ++ '"' :: rest) = some (cs, rest) := by
  induction cs with
  | nil => rfl
  | cons c cs ih =>
    rw [escapeBody]
    -- A quote is escaped, and so is what may not stand for itself.
    split
    · next hq =>
      subst hq
      rw [if_neg (by decide), List.append_assoc, basicBody_escape (by decide), ih]
      rfl
    · next hq =>
      rw [if_neg (by simp)]
      split
      · next hesc =>
        have hlt : c.toNat < 128 := by
          rcases hesc with h | rfl | rfl | rfl
          · exact toNat_lt_of_isControl h
          all_goals decide
        rw [List.append_assoc, basicBody_escape hlt, ih]
        rfl
      · next hesc =>
        have hs : c ≠ '\\' := fun h => hesc (.inr (.inr (.inr h)))
        have hcontrol : isControl c = false := by
          simpa using fun h => hesc (.inl h)
        have hn : c ≠ '\n' := fun h => hesc (.inr (.inr (.inl h)))
        rw [List.cons_append, basicBody_cons hq hs (isPlain_of_isControl_eq_false hcontrol hn), ih]
        rfl

/-! ## Spellings without escapes -/

theorem literalBody_append {cs : List Char} (hcs : ∀ c ∈ cs, c ≠ '\'' ∧ isPlain c = true)
    (rest : List Char) : literalBody (cs ++ '\'' :: rest) = some (cs, rest) := by
  induction cs with
  | nil => rfl
  | cons c cs ih =>
    obtain ⟨hq, hc⟩ := hcs c List.mem_cons_self
    rw [List.cons_append, literalBody.eq_3 c _ hq, if_pos hc,
      ih fun d hd => hcs d (List.mem_cons_of_mem c hd)]
    rfl

/-- Puts characters before the text that is read next. -/
def pushAll (cs : List Char) (next : Option (List Char × List Char)) :
    Option (List Char × List Char) := next.map fun (text, rest) => (cs ++ text, rest)

@[simp]
theorem pushAll_some (cs text rest : List Char) :
    pushAll cs (some (text, rest)) = some (cs ++ text, rest) := rfl

theorem push_eq_pushAll (c : Char) (next : Option (List Char × List Char)) :
    push (some c) next = pushAll [c] next := by
  cases next <;> rfl

theorem pushAll_nil (next : Option (List Char × List Char)) : pushAll [] next = next := by
  cases next <;> rfl

theorem pushAll_pushAll (as bs : List Char) (next : Option (List Char × List Char)) :
    pushAll as (pushAll bs next) = pushAll (as ++ bs) next := by
  cases next <;> simp [pushAll]

theorem replicate_append_cons (n : Nat) (c : Char) (cs : List Char) :
    List.replicate n c ++ c :: cs = List.replicate (n + 1) c ++ cs := by
  simp [List.replicate_succ']

/-- At most two apostrophes before another character belong to the text. -/
theorem longLiteralBody_apostrophes {n : Nat} (hn : n ≤ 2) {c : Char} (hc : c ≠ '\'')
    (cs : List Char) :
    longLiteralBody (List.replicate n '\'' ++ c :: cs) =
      pushAll (List.replicate n '\'') (longLiteralBody (c :: cs)) := by
  -- An apostrophe that is not the first of three or more stands for itself.
  have hstep {d : Char} {ds : List Char} (h : ∀ t, d :: ds ≠ '\'' :: '\'' :: t) :
      longLiteralBody ('\'' :: d :: ds) = pushAll ['\''] (longLiteralBody (d :: ds)) := by
    rw [longLiteralBody.eq_7 _ _ (fun _ _ h' => h _ h') (fun _ _ h' => h _ h')
      (fun _ _ h' => h _ h') (by decide) (by simp), if_pos (by decide), push_eq_pushAll]
  have hcases : n = 0 ∨ n = 1 ∨ n = 2 := by omega
  rcases hcases with rfl | rfl | rfl
  · exact (pushAll_nil _).symm
  · exact hstep (by simp [hc])
  · show longLiteralBody ('\'' :: '\'' :: c :: cs) = _
    rw [hstep (by simp [hc]), hstep (by simp [hc]), pushAll_pushAll]
    rfl

/-- A character that is neither an apostrophe nor a control stands for itself. -/
theorem longLiteralBody_cons {c : Char} (hq : c ≠ '\'') (hc : isControl c = false)
    (rest : List Char) :
    longLiteralBody (c :: rest) = pushAll [c] (longLiteralBody rest) := by
  by_cases hn : c = '\n'
  · subst hn
    rw [longLiteralBody.eq_5, push_eq_pushAll]
  · have hr : c ≠ '\r' := fun h => absurd hc (by rw [h]; decide)
    have hplain : isPlain c = true := isPlain_of_isControl_eq_false hc hn
    rw [longLiteralBody.eq_7 c rest (fun _ h => absurd h hq) (fun _ h => absurd h hq)
      (fun _ h => absurd h hq) hn (fun _ h => absurd h hr), if_pos hplain, push_eq_pushAll]

theorem longest_le_longestRun (q : Char) (run longest : Nat) (cs : List Char) :
    longest ≤ longestRun q run longest cs := by
  induction cs generalizing run longest with
  | nil => exact Nat.le_refl _
  | cons c cs ih =>
    rw [longestRun]
    split
    · exact Nat.le_trans (Nat.le_max_left _ _) (ih _ _)
    · exact ih _ _

/-- A text in triple apostrophes is read back, `n` apostrophes of it being in hand. -/
theorem longLiteralBody_append {n longest : Nat} {cs : List Char} (hn : n ≤ 2)
    (hrun : longestRun '\'' n longest cs ≤ 2) (hcs : ∀ c ∈ cs, isControl c = false)
    {rest : List Char} (hrest : rest.head? ≠ some '\'') :
    longLiteralBody (List.replicate n '\'' ++ (cs ++ '\'' :: '\'' :: '\'' :: rest)) =
      some (List.replicate n '\'' ++ cs, rest) := by
  induction cs generalizing n longest with
  | nil =>
    -- The closing three come after those in hand, and nothing more of the kind follows.
    have hone (tail : List Char) : rest ≠ '\'' :: tail := fun h => hrest (by rw [h]; rfl)
    have hcases : n = 0 ∨ n = 1 ∨ n = 2 := by omega
    rcases hcases with rfl | rfl | rfl
    · exact longLiteralBody.eq_4 rest (fun t h => hone _ h) fun t h => hone _ h
    · exact longLiteralBody.eq_3 rest fun t h => hone _ h
    · exact longLiteralBody.eq_2 rest
  | cons c cs ih =>
    have hcs' : ∀ d ∈ cs, isControl d = false := fun d hd => hcs d (List.mem_cons_of_mem c hd)
    rw [longestRun] at hrun
    -- An apostrophe joins those in hand, which the longest run allows; any other character puts
    -- them all down.
    by_cases hq : c = '\''
    · subst hq
      rw [if_pos rfl] at hrun
      have hn' : n + 1 ≤ 2 :=
        Nat.le_trans (Nat.le_max_right _ _) (Nat.le_trans (longest_le_longestRun _ _ _ _) hrun)
      rw [List.cons_append, replicate_append_cons, ih hn' hrun hcs', ← replicate_append_cons]
    · rw [if_neg hq] at hrun
      have htail := ih (Nat.zero_le 2) hrun hcs'
      rw [List.replicate_zero, List.nil_append, List.nil_append] at htail
      rw [List.cons_append, longLiteralBody_apostrophes hn hq,
        longLiteralBody_cons hq (hcs c List.mem_cons_self), htail]
      simp

/-! ## Triple quotes -/

/-- At most two quotes before another character belong to the text. -/
theorem longBasicBody_quotes {n : Nat} (hn : n ≤ 2) {c : Char} (hc : c ≠ '"') (cs : List Char) :
    longBasicBody (List.replicate n '"' ++ c :: cs) =
      pushAll (List.replicate n '"') (longBasicBody (c :: cs)) := by
  -- A quote that is not the first of three or more stands for itself.
  have hstep {d : Char} {ds : List Char} (h : ∀ t, d :: ds ≠ '"' :: '"' :: t) :
      longBasicBody ('"' :: d :: ds) = pushAll ['"'] (longBasicBody (d :: ds)) := by
    rw [longBasicBody.eq_10 _ _ (fun _ _ h' => h _ h') (fun _ _ h' => h _ h') (fun _ _ h' => h _ h')
      (by decide) (by simp) (by simp) (by simp) (by simp), if_pos (by decide), push_eq_pushAll]
  have hcases : n = 0 ∨ n = 1 ∨ n = 2 := by omega
  rcases hcases with rfl | rfl | rfl
  · exact (pushAll_nil _).symm
  · exact hstep (by simp [hc])
  · show longBasicBody ('"' :: '"' :: c :: cs) = _
    rw [hstep (by simp [hc]), hstep (by simp [hc]), pushAll_pushAll]
    rfl

/-- Nothing is folded after a backslash unless blanks or a newline follow it. -/
theorem fold?_cons_eq_none {c : Char} (hb : c ≠ ' ') (ht : c ≠ '\t') (hn : c ≠ '\n')
    (hr : c ≠ '\r') (cs : List Char) : fold? (c :: cs) = none := by
  have hskip : skipBlanks (c :: cs) = c :: cs := List.dropWhile_cons_of_neg (by simp [hb, ht])
  rw [fold?, hskip, afterNewline?.eq_3 _ (fun _ h => hn (List.cons.inj h).1)
    (fun _ h => hr (List.cons.inj h).1)]
  rfl

theorem longBasicBody_escape {c : Char} (h : c.toNat < 128) (rest : List Char) :
    longBasicBody (escape c ++ rest) = pushAll [c] (longBasicBody rest) := by
  obtain ⟨x, hx, hesc, hval⟩ | ⟨x, y, z, w, hesc, hval⟩ := escape_cases h
  · rw [hesc, ← push_eq_pushAll, ← hval]
    -- No letter of an escape is a blank or a newline, so the backslash folds nothing.
    have hfold : fold? (x :: rest) = none := by
      apply fold?_cons_eq_none <;> (rintro rfl; simp at hx)
    show longBasicBody ('\\' :: x :: rest) = _
    rw [longBasicBody.eq_9 x rest (by rintro _ _ _ _ _ rfl; simp at hx)
      (by rintro _ _ _ _ _ _ _ _ _ rfl; simp at hx), hfold]
  · rw [hesc, ← push_eq_pushAll, ← hval]
    exact longBasicBody.eq_7 x y z w rest

theorem longBasicBody_cons {c : Char} (hq : c ≠ '"') (hs : c ≠ '\\') (hr : c ≠ '\r')
    (hc : c = '\n' ∨ isPlain c = true) (rest : List Char) :
    longBasicBody (c :: rest) = pushAll [c] (longBasicBody rest) := by
  by_cases hn : c = '\n'
  · subst hn
    rw [longBasicBody.eq_5, push_eq_pushAll]
  · rw [longBasicBody.eq_10 c rest (fun _ h => absurd h hq) (fun _ h => absurd h hq)
      (fun _ h => absurd h hq) hn (fun _ h => absurd h hr) (fun _ _ _ _ _ h => absurd h hs)
      (fun _ _ _ _ _ _ _ _ _ h => absurd h hs) (fun _ _ h => absurd h hs),
      if_pos ⟨hc.resolve_left hn, hs⟩, push_eq_pushAll]

theorem escape_eq_cons (c : Char) : ∃ cs, escape c = '\\' :: cs := by
  unfold escape
  repeat' split
  all_goals exact ⟨_, rfl⟩

/-- A text in triple quotes is read back, `n` quotes of it being in hand. -/
theorem longBasicBody_escapeBody {n : Nat} (hn : n ≤ 2) (cs : List Char) {rest : List Char}
    (hrest : rest.head? ≠ some '"') :
    longBasicBody
        (List.replicate n '"' ++ (escapeBody true 2 n cs ++ '"' :: '"' :: '"' :: rest)) =
      some (List.replicate n '"' ++ cs, rest) := by
  induction cs generalizing n with
  | nil =>
    -- The closing three come after those in hand, and nothing more of the kind follows.
    have hone (tail : List Char) : rest ≠ '"' :: tail := fun h => hrest (by rw [h]; rfl)
    have hcases : n = 0 ∨ n = 1 ∨ n = 2 := by omega
    rcases hcases with rfl | rfl | rfl
    · exact longBasicBody.eq_4 rest (fun t h => hone _ h) fun t h => hone _ h
    · exact longBasicBody.eq_3 rest fun t h => hone _ h
    · exact longBasicBody.eq_2 rest
  | cons c cs ih =>
    have htail := ih (Nat.zero_le 2)
    rw [List.replicate_zero, List.nil_append, List.nil_append] at htail
    -- A character with an escape, after the quotes in hand.
    have hescape (hlt : c.toNat < 128) :
        longBasicBody (List.replicate n '"' ++
          (escape c ++ escapeBody true 2 0 cs ++ '"' :: '"' :: '"' :: rest)) =
            some (List.replicate n '"' ++ c :: cs, rest) := by
      obtain ⟨t, ht⟩ := escape_eq_cons c
      rw [ht, List.append_assoc, List.cons_append, longBasicBody_quotes hn (by decide),
        ← List.cons_append, ← ht, longBasicBody_escape hlt, htail]
      simp
    rw [escapeBody]
    -- A third quote in a row is escaped, so that never more than two are in hand.
    split
    · next hq =>
      subst hq
      split
      · next hlt =>
        rw [List.cons_append, replicate_append_cons, ih hlt, ← replicate_append_cons]
      · exact hescape (by decide)
    · next hq =>
      split
      · next hnl =>
        obtain ⟨rfl, -⟩ := hnl
        rw [List.cons_append, longBasicBody_quotes hn hq,
          longBasicBody_cons hq (by decide) (by decide) (.inl rfl), htail]
        simp
      · next hnl =>
        split
        · next hesc =>
          refine hescape ?_
          rcases hesc with h | rfl | rfl | rfl
          · exact toNat_lt_of_isControl h
          all_goals decide
        · next hesc =>
          have hs : c ≠ '\\' := fun h => hesc (.inr (.inr (.inr h)))
          have hn' : c ≠ '\n' := fun h => hesc (.inr (.inr (.inl h)))
          have hcontrol : isControl c = false := by
            simpa using fun h => hesc (.inl h)
          have hr : c ≠ '\r' := fun h => absurd hcontrol (by rw [h]; decide)
          rw [List.cons_append, longBasicBody_quotes hn hq, longBasicBody_cons hq hs hr
            (.inr (isPlain_of_isControl_eq_false hcontrol hn')), htail]
          simp

/-! ## Values -/

theorem longestRun_pos_of_mem {q : Char} {cs : List Char} (h : q ∈ cs) (run longest : Nat) :
    0 < longestRun q run longest cs := by
  induction cs generalizing run longest with
  | nil => cases h
  | cons c cs ih =>
    rw [longestRun]
    split
    · exact Nat.lt_of_lt_of_le (Nat.lt_of_lt_of_le (Nat.succ_pos run) (Nat.le_max_right _ _))
        (longest_le_longestRun _ _ _ _)
    · next hc =>
      exact ih ((List.mem_cons.1 h).resolve_left fun e => hc e.symm) _ _

/-- A text gets the spelling in apostrophes only without apostrophes, newlines and controls. -/
theorem of_spelling_eq_literal {cs : List Char} (h : spelling cs = .literal) :
    ∀ c ∈ cs, c ≠ '\'' ∧ isPlain c = true := by
  unfold spelling at h
  dsimp only at h
  split at h
  · cases h
  split at h
  · next hlit =>
    simp only [Bool.and_eq_true, Bool.not_eq_true', beq_iff_eq, List.any_eq_false] at hlit
    obtain ⟨⟨hcontrol, hn⟩, hrun⟩ := hlit
    intro c hc
    refine ⟨?_, isPlain_of_isControl_eq_false (by simpa using hcontrol c hc) ?_⟩
    · rintro rfl
      exact absurd hrun (Nat.pos_iff_ne_zero.1 (longestRun_pos_of_mem hc 0 0))
    · rintro rfl
      simp [hc] at hn
  · repeat' split at h
    all_goals cases h

/-- A text gets the spelling in triple apostrophes only without controls and with at most two
apostrophes in a row. -/
theorem of_spelling_eq_longLiteral {cs : List Char} (h : spelling cs = .longLiteral) :
    (∀ c ∈ cs, isControl c = false) ∧ longestRun '\'' 0 0 cs ≤ 2 := by
  unfold spelling at h
  dsimp only at h
  split at h
  · cases h
  split at h
  · cases h
  split at h
  · cases h
  split at h
  · next hlong =>
    simp only [Bool.and_eq_true, Bool.not_eq_true', decide_eq_true_eq, List.any_eq_false] at hlong
    exact ⟨fun c hc => by simpa using hlong.1 c hc, hlong.2⟩
  · split at h
    all_goals cases h

/-- The newline after an opening delimiter is dropped, and nothing else is. -/
theorem dropNewline_opening {cs body : List Char}
    (h : '\n' ∉ cs → ∀ t, body ≠ '\n' :: t ∧ body ≠ '\r' :: t) :
    dropNewline (opening cs ++ body) = body := by
  unfold opening
  split
  · rfl
  · next hn =>
    have hn' : '\n' ∉ cs := by simpa using hn
    rw [List.nil_append, dropNewline, afterNewline?.eq_3 _ (fun t => (h hn' t).1)
      (fun t => (h hn' ('\n' :: t)).2)]
    rfl

/-- The first character of a text with escapes is the text's own or a backslash; it is a carriage
return in no case, and a quote only where one is allowed. -/
theorem escapeBody_cons (long : Bool) (allowed quotes : Nat) (c : Char) (cs : List Char) :
    ∃ d t, escapeBody long allowed quotes (c :: cs) = d :: t ∧
      (d = '\\' ∨ (d = c ∧ c ≠ '\r' ∧ (c = '"' → quotes < allowed))) := by
  obtain ⟨e, he⟩ := escape_eq_cons c
  rw [escapeBody]
  split
  · next hq =>
    split
    · next hlt => exact ⟨c, _, rfl, .inr ⟨rfl, by rw [hq]; decide, fun _ => hlt⟩⟩
    · exact ⟨'\\', _, by rw [he]; rfl, .inl rfl⟩
  · next hq =>
    split
    · next hn => exact ⟨c, _, rfl, .inr ⟨rfl, by rw [hn.1]; decide, fun h => absurd h hq⟩⟩
    · split
      · exact ⟨'\\', _, by rw [he]; rfl, .inl rfl⟩
      · next hesc =>
        have hr : c ≠ '\r' := by
          rintro rfl
          exact hesc (.inl (by decide))
        exact ⟨c, _, rfl, .inr ⟨rfl, hr, fun h => absurd h hq⟩⟩

/-- A text as a value is read as that text, unless the quotes after it could be taken for its
own. -/
theorem text?_textValue (cs rest : List Char) (hq : rest.head? ≠ some '"')
    (ha : rest.head? ≠ some '\'') : text? (textValue cs ++ rest) = some (cs, rest) := by
  unfold textValue
  -- Each of the four spellings is told by how it opens.
  cases hs : spelling cs with
  | basic =>
    show text? ('"' :: (escapeBody false 0 0 cs ++ ['"'] ++ rest)) = _
    -- The quote that opens is not the first of three.
    have hopen (t : List Char) : escapeBody false 0 0 cs ++ ['"'] ++ rest ≠ '"' :: '"' :: t := by
      cases cs with
      | nil =>
        intro h
        have hrest : rest = '"' :: t := (List.cons.inj h).2
        exact hq (by rw [hrest]; rfl)
      | cons c cs =>
        obtain ⟨d, e, he, hd⟩ := escapeBody_cons false 0 0 c cs
        rw [he]
        intro h
        obtain rfl : d = '"' := (List.cons.inj h).1
        obtain hd | ⟨hc, -, hlt⟩ := hd
        · exact absurd hd (by decide)
        · exact Nat.not_lt_zero _ (hlt hc.symm)
    rw [text?.eq_2 _ hopen, List.append_assoc, List.singleton_append]
    exact basicBody_escapeBody cs rest
  | literal =>
    have hcs := of_spelling_eq_literal hs
    show text? ('\'' :: (cs ++ ['\''] ++ rest)) = _
    have hopen (t : List Char) : cs ++ ['\''] ++ rest ≠ '\'' :: '\'' :: t := by
      cases cs with
      | nil =>
        intro h
        have hrest : rest = '\'' :: t := (List.cons.inj h).2
        exact ha (by rw [hrest]; rfl)
      | cons c cs =>
        intro h
        exact (hcs c List.mem_cons_self).1 (List.cons.inj h).1
    rw [text?.eq_4 _ hopen, List.append_assoc, List.singleton_append]
    exact literalBody_append hcs rest
  | longBasic =>
    -- The newline after the opening quotes is the one that is dropped, not one of the text.
    have hdrop : dropNewline (opening cs ++ (escapeBody true 2 0 cs ++ '"' :: '"' :: '"' :: rest)) =
        escapeBody true 2 0 cs ++ '"' :: '"' :: '"' :: rest := by
      apply dropNewline_opening
      intro hn t
      cases cs with
      | nil => simp [escapeBody]
      | cons c cs =>
        obtain ⟨d, e, he, hd⟩ := escapeBody_cons true 2 0 c cs
        have hc : c ≠ '\n' := fun e => hn (by simp [e])
        rw [he]
        obtain rfl | ⟨rfl, hr, -⟩ := hd
        · simp
        · simp [hc, hr]
    show text? (['"', '"', '"'] ++ opening cs ++ escapeBody true 2 0 cs ++ ['"', '"', '"'] ++
      rest) = _
    simp only [List.append_assoc, List.cons_append, List.nil_append]
    rw [text?.eq_1, hdrop]
    exact longBasicBody_escapeBody (Nat.zero_le 2) cs hq
  | longLiteral =>
    obtain ⟨hcontrol, hrun⟩ := of_spelling_eq_longLiteral hs
    have hdrop : dropNewline (opening cs ++ (cs ++ '\'' :: '\'' :: '\'' :: rest)) =
        cs ++ '\'' :: '\'' :: '\'' :: rest := by
      apply dropNewline_opening
      intro hn t
      cases cs with
      | nil => simp
      | cons c cs =>
        have hc : c ≠ '\n' := fun e => hn (by simp [e])
        have hr : c ≠ '\r' := by
          rintro rfl
          exact absurd (hcontrol _ List.mem_cons_self) (by decide)
        simp [hc, hr]
    show text? (['\'', '\'', '\''] ++ opening cs ++ cs ++ ['\'', '\'', '\''] ++ rest) = _
    simp only [List.append_assoc, List.cons_append, List.nil_append]
    rw [text?.eq_3, hdrop]
    exact longLiteralBody_append (Nat.zero_le 2) hrun hcontrol ha

end OverlayControl.Toml
