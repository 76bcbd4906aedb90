import OverlayControl.Proofs.FileTree.Growth

/-!
# A file that grows

Bytes are added to the end of one file, which may be new, in a tree that may have grown by
directories before. No other file changes, and nothing else is read under a path, unless it leads to
that file or goes up.

* `FileTree.append_cases` — adding to a file changes nothing, or puts a longer file in its place;
* `FileTree.SameFilesBut`, `FileTree.Grown.sameFilesBut_append` — a tree with the files of another
  one, but for one of them.
-/

namespace OverlayControl.FileTree

variable {t t' made : FileTree} {p q : Path} {at_ : Place} {bytes old : List UInt8} {mode : Nat}

/-- Either the file cannot be opened, or the bytes stand at its end; a file that was not there has
nothing before them. -/
theorem append_cases (p : Path) (bytes : List UInt8) (t : FileTree) :
    (∃ e, t.append p bytes = (.error e, t)) ∨
      ∃ at_ old mode, t.append p bytes = (.ok (), t.put at_ (.file (old ++ bytes) mode)) ∧
        t.landing p = .ok at_ ∧
        (t.find? at_ = some (.file old mode) ∨ (t.find? at_ = none ∧ old = [])) := by
  unfold append
  cases hlanding : t.landing p with
  | error e => exact .inl ⟨e, rfl⟩
  | ok at_ =>
    dsimp only
    cases hfind : t.find? at_ with
    | none => exact .inr ⟨at_, [], 0o644, rfl, rfl, .inr ⟨hfind, rfl⟩⟩
    | some n =>
      cases n with
      | file old mode => exact .inr ⟨at_, old, mode, rfl, rfl, .inl hfind⟩
      | directory => exact .inl ⟨_, rfl⟩
      | socket => exact .inl ⟨_, rfl⟩

/-- A tree with the files of another one, but for the file of one path, to whose end bytes may have
been added. -/
structure SameFilesBut (p : Path) (bytes : List UInt8) (t t' : FileTree) : Prop where
  /-- A file stands where it stood, as it was, unless it is that of the path and has grown. -/
  kept : ∀ at_ old mode, t.find? at_ = some (.file old mode) →
    t'.find? at_ = some (.file old mode) ∨
      (t'.landing p = .ok at_ ∧ t'.find? at_ = some (.file (old ++ bytes) mode))
  /-- No other file stands anywhere, unless it is that of the path and is new. -/
  added : ∀ at_ now mode, t'.find? at_ = some (.file now mode) →
    (∃ old, t.find? at_ = some (.file old mode)) ∨
      (t'.landing p = .ok at_ ∧ t.find? at_ = none ∧ now = bytes)
  /-- What is read under a path that does not go up, nor lead to that file, is the same, be it
  nothing. -/
  contents : t.Closed → ∀ q, Direct q → (∀ at_, t'.locate q = .ok at_ → t'.landing p ≠ .ok at_) →
    storage.contents q t' = storage.contents q t

theorem SameFiles.sameFilesBut (h : t.SameFiles t') (p : Path) (bytes : List UInt8) :
    t.SameFilesBut p bytes t' where
  kept at_ old mode hfind := .inl ((h.files at_ old mode).2 hfind)
  added at_ now mode hfind := .inl ⟨now, (h.files at_ now mode).1 hfind⟩
  contents hclosed q hdirect _ := h.contents hclosed q hdirect

/-- Directories are made, and then bytes are added to a file. -/
theorem Grown.sameFilesBut_append (h : Grown t made) (p : Path) (bytes : List UInt8) :
    t.SameFilesBut p bytes (made.append p bytes).2 := by
  rcases append_cases p bytes made with ⟨e, hrefused⟩ | ⟨at_, old, mode, happend, hlanding, hold⟩
  · rw [hrefused]
    exact h.sameFiles.sameFilesBut p bytes
  · rw [happend]
    have hroot := landing_ne_root hlanding
    have hself : (made.put at_ (.file (old ++ bytes) mode)).find? at_ =
        some (.file (old ++ bytes) mode) := find?_put_self made _ hroot
    have hlanding' : (made.put at_ (.file (old ++ bytes) mode)).landing p = .ok at_ :=
      landing_put hroot (isDirectoryAt_landing hlanding) hlanding
    refine ⟨fun other content own hfind => ?_, fun other now own hfind => ?_,
      fun hclosed q hdirect helsewhere => ?_⟩
    · have hmade := h.kept hfind
      by_cases heq : other = at_
      · subst heq
        -- The file that has grown is the one that stood there.
        rcases hold with hfile | ⟨hnone, -⟩
        · obtain ⟨⟩ := hmade.symm.trans hfile
          exact .inr ⟨hlanding', hself⟩
        · rw [hmade] at hnone
          cases hnone
      · rw [find?_put_of_ne made _ heq]
        exact .inl hmade
    · by_cases heq : other = at_
      · subst heq
        obtain ⟨⟩ := hself.symm.trans hfind
        rcases hold with hfile | ⟨hnone, rfl⟩
        · exact .inl ⟨old, (h.find?_eq_file_iff other old mode).1 hfile⟩
        · refine .inr ⟨hlanding', ?_, rfl⟩
          -- What stood there before would still stand there.
          cases hbefore : t.find? other with
          | none => rfl
          | some n =>
            rw [h.kept hbefore] at hnone
            cases hnone
      · rw [find?_put_of_ne made _ heq] at hfind
        exact .inl ⟨now, (h.find?_eq_file_iff other now own).1 hfind⟩
    · rw [contents_put_of_ne hlanding, h.sameFiles.contents hclosed q hdirect]
      rintro found hlocate rfl
      exact helsewhere found hlocate hlanding'

end OverlayControl.FileTree
