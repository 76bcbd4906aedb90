import OverlayControl.Proofs.FileTree.Storage

/-!
# Replacements that fail

A replacement makes directories before anything else, and may fail after that. What it leaves behind
then is a tree that has grown by directories: every file stands where it stood, no other file stands
anywhere, and what could be read still can.

* `FileTree.Grown`, `FileTree.grown_makeOutward` — a tree that has grown by directories;
* `FileTree.SameFiles`, `FileTree.Grown.sameFiles` — no file of it has changed, nor what is read
  under a path, unless the path goes up;
* `FileTree.refusing` — the tree as a storage whose system may refuse any part of a replacement;
* `FileTree.replaceFile_refusing` — what a replacement leaves behind;
* `FileTree.contents_put_of_ne`, `FileTree.contents_put` — a file that is put somewhere does not
  change what is read elsewhere, so that a path of another name reads what it read;
* `FileTree.Holds` — a file that holds bytes, and goes on to while files of another name are
  replaced.
-/

namespace OverlayControl.FileTree

/-- A tree with more directories than another one, and nothing else that differs. -/
structure Grown (t t' : FileTree) : Prop where
  /-- What stood somewhere still does. -/
  kept : ∀ {at_ : Place} {n : Node}, t.find? at_ = some n → t'.find? at_ = some n
  /-- Where nothing stood there is nothing, or a directory. -/
  added : ∀ {at_ : Place}, t.find? at_ = none →
    t'.find? at_ = none ∨ t'.find? at_ = some .directory

/-- A tree in which everything stands below something. -/
def Closed (t : FileTree) : Prop :=
  ∀ at_ name, (t.find? (at_ ++ [name])).isSome = true → (t.find? at_).isSome = true

/-- A path on which no step goes up. -/
def Direct (p : Path) : Prop := [Path.dot, Path.dot] ∉ Path.splitSlash p.bytes

/-- A tree with the files of another one. A path that goes up from a directory that was missing may
lead to one of them now, since the directory may have been made. -/
structure SameFiles (t t' : FileTree) : Prop where
  /-- The files are the same, place by place. -/
  files : ∀ at_ bytes mode,
    t'.find? at_ = some (.file bytes mode) ↔ t.find? at_ = some (.file bytes mode)
  /-- What was read under a path is read under it. -/
  kept : ∀ p bytes, storage.contents p t = some bytes → storage.contents p t' = some bytes
  /-- Under a path that does not go up what is read is the same, be it nothing. -/
  contents : t.Closed → ∀ p, Direct p → storage.contents p t' = storage.contents p t

theorem contents_eq_some_iff {t : FileTree} {p : Path} {bytes : List UInt8} :
    storage.contents p t = some bytes ↔
      ∃ at_ mode, t.locate p = .ok at_ ∧ t.find? at_ = some (.file bytes mode) := by
  show (read p t).toOption = _ ↔ _
  unfold read
  cases hlocate : t.locate p with
  | error e => simp [bind, Except.bind, Except.toOption]
  | ok at_ =>
    simp only [bind, Except.bind, Except.ok.injEq, exists_and_left, exists_eq_left']
    cases t.find? at_ with
    | none => simp [Except.toOption]
    | some n => cases n <;> simp [Except.toOption]

/-- Above what stands in a closed tree everything stands. -/
theorem Closed.isSome_above {t : FileTree} (h : t.Closed) {above at_ : Place}
    (habove : above <+: at_) (hat : (t.find? at_).isSome = true) :
    (t.find? above).isSome = true := by
  obtain ⟨rest, rfl⟩ := habove
  induction rest generalizing above with
  | nil => rwa [List.append_nil] at hat
  | cons name rest ih =>
    rw [List.append_cons] at hat
    exact h above name (ih hat)

theorem start_above_of_step {t : FileTree} {start finish : Place} {s : Step} (hup : s ≠ .up)
    (hstep : t.step start s = .ok finish) : start <+: finish := by
  cases s with
  | stay =>
    cases hstep
    exact List.prefix_rfl
  | up => exact absurd rfl hup
  | enter name =>
    obtain ⟨_, _, rfl⟩ := step_enter_eq_ok_iff.1 hstep
    exact List.prefix_append ..

/-- A step can be taken in any tree in which something stands where it ends. -/
theorem step_of_isSome {t t' : FileTree} {start finish : Place} {s : Step}
    (hstep : t'.step start s = .ok finish) (hfinish : (t.find? finish).isSome = true) :
    t.step start s = .ok finish := by
  cases s with
  | stay => exact hstep
  | up => exact hstep
  | enter name =>
    obtain ⟨hshort, _, rfl⟩ := step_enter_eq_ok_iff.1 hstep
    exact step_enter_eq_ok_iff.2 ⟨hshort, hfinish, rfl⟩

/-- A way that does not go up ends below where it starts. -/
theorem start_above_of_walk {t : FileTree} {start finish : Place} {ss : List Step}
    (hup : .up ∉ ss) (hwalk : t.walk start ss = .ok finish) : start <+: finish := by
  induction ss generalizing start with
  | nil =>
    cases hwalk
    exact List.prefix_rfl
  | cons s ss ih =>
    rw [List.mem_cons, not_or] at hup
    obtain ⟨_, next, hstep, hrest⟩ := walk_cons_eq_ok_iff.1 hwalk
    exact (start_above_of_step (Ne.symm hup.1) hstep).trans (ih hup.2 hrest)

theorem up_notMem_of_direct {p : Path} (hdirect : Direct p) {steps : List Step}
    (hsteps : Step.ofPath p = .ok steps) : Step.up ∉ steps := by
  rw [Step.eq_filterMap_of_ofPath hsteps]
  intro hup
  obtain ⟨part, hpart, hstep⟩ := List.mem_filterMap.1 hup
  -- Only two dots stand for a step up.
  unfold Step.ofPart? at hstep
  split at hstep
  · cases hstep
  · split at hstep
    · cases hstep
    · split at hstep
      · next hdots => exact hdirect (hdots ▸ hpart)
      · cases hstep

namespace Grown

variable {t t' t'' : FileTree}

theorem refl (t : FileTree) : Grown t t := ⟨id, .inl⟩

theorem trans (h : Grown t t') (h' : Grown t' t'') : Grown t t'' := by
  refine ⟨fun hfind => h'.kept (h.kept hfind), fun hnone => ?_⟩
  rcases h.added hnone with hnone | hdirectory
  · exact h'.added hnone
  · exact .inr (h'.kept hdirectory)

/-- A directory is made where nothing stood. -/
theorem put_directory {at_ : Place} (h : t.find? at_ = none) :
    Grown t (t.put at_ .directory) := by
  have hroot : at_ ≠ [] := by
    rintro rfl
    cases h
  constructor
  · intro other n hfind
    have hne : other ≠ at_ := by
      rintro rfl
      rw [h] at hfind
      cases hfind
    rw [find?_put_of_ne t _ hne]
    exact hfind
  · intro other hnone
    by_cases heq : other = at_
    · rw [heq, find?_put_self t _ hroot]
      exact .inr rfl
    · rw [find?_put_of_ne t _ heq]
      exact .inl hnone

theorem toExtends (h : Grown t t') : Extends t t' where
  directory hdirectory := by
    rw [isDirectoryAt, beq_iff_eq] at hdirectory ⊢
    exact h.kept hdirectory
  present hsome := by
    obtain ⟨n, hn⟩ := Option.isSome_iff_exists.1 hsome
    rw [h.kept hn]
    rfl

/-- A file that stands in the grown tree stood there before. -/
theorem find?_eq_file_iff (h : Grown t t') (at_ : Place) (bytes : List UInt8) (mode : Nat) :
    t'.find? at_ = some (.file bytes mode) ↔ t.find? at_ = some (.file bytes mode) := by
  refine ⟨fun hfind => ?_, h.kept⟩
  cases hold : t.find? at_ with
  | none =>
    -- Only directories were made.
    rcases h.added hold with hnone | hdirectory
    · rw [hfind] at hnone
      cases hnone
    · rw [hfind] at hdirectory
      cases hdirectory
  | some n => rw [← hfind, h.kept hold]

/-- A directory that stood there was one before. -/
theorem isDirectoryAt_of_isSome (h : Grown t t') {at_ : Place}
    (hat : (t.find? at_).isSome = true) (hdir : t'.isDirectoryAt at_ = true) :
    t.isDirectoryAt at_ = true := by
  obtain ⟨n, hn⟩ := Option.isSome_iff_exists.1 hat
  rw [isDirectoryAt, h.kept hn] at hdir
  rwa [isDirectoryAt, hn]

/-- A way that does not go up and ends where something stood could be gone before. -/
theorem walk_of_walk (h : Grown t t') (hclosed : t.Closed) {start finish : Place} {ss : List Step}
    (hup : .up ∉ ss) (hfinish : (t.find? finish).isSome = true)
    (hwalk : t'.walk start ss = .ok finish) : t.walk start ss = .ok finish := by
  -- The way only goes on, so everything on it is above where it ends.
  induction ss generalizing start with
  | nil => exact hwalk
  | cons s ss ih =>
    have hstart := hclosed.isSome_above (start_above_of_walk hup hwalk) hfinish
    rw [List.mem_cons, not_or] at hup
    obtain ⟨hdir, next, hstep, hrest⟩ := walk_cons_eq_ok_iff.1 hwalk
    have hnext := hclosed.isSome_above (start_above_of_walk hup.2 hrest) hfinish
    exact walk_cons_eq_ok_iff.2
      ⟨h.isDirectoryAt_of_isSome hstart hdir, next, step_of_isSome hstep hnext, ih hup.2 hrest⟩

theorem sameFiles (h : Grown t t') : SameFiles t t' := by
  have hkept (p : Path) (bytes : List UInt8) (hcontents : storage.contents p t = some bytes) :
      storage.contents p t' = some bytes := by
    obtain ⟨at_, mode, hlocate, hfind⟩ := contents_eq_some_iff.1 hcontents
    exact contents_eq_some_iff.2 ⟨at_, mode, h.toExtends.locate hlocate, h.kept hfind⟩
  refine ⟨h.find?_eq_file_iff, hkept, fun hclosed p hdirect => ?_⟩
  refine Option.ext fun bytes => ⟨fun hcontents => ?_, hkept p bytes⟩
  obtain ⟨at_, mode, hlocate, hfind'⟩ := contents_eq_some_iff.1 hcontents
  have hfind := (h.find?_eq_file_iff at_ bytes mode).1 hfind'
  obtain ⟨steps, hsteps, hwalk, hdir⟩ := locate_eq_ok_iff.1 hlocate
  refine contents_eq_some_iff.2 ⟨at_, mode, locate_eq_ok_iff.2 ⟨steps, hsteps, ?_, ?_⟩, hfind⟩
  · exact h.walk_of_walk hclosed (up_notMem_of_direct hdirect hsteps)
      (Option.isSome_of_eq_some hfind) hwalk
  · exact fun hasks => h.isDirectoryAt_of_isSome (Option.isSome_of_eq_some hfind) (hdir hasks)

end Grown

/-- Making directories makes nothing else, even when it fails on the way. -/
theorem grown_makeOutward (t : FileTree) (ps : List Path) : Grown t (t.makeOutward ps).2 := by
  have hmade {t : FileTree} {p : Path} {at_ : Place} (hvacancy : t.vacancy p = .ok at_) :
      Grown t (t.put at_ .directory) := by
    obtain ⟨_, _, _, _, hnone, rfl⟩ := vacancy_eq_ok_iff.1 hvacancy
    exact .put_directory hnone
  induction ps generalizing t with
  | nil => exact .refl t
  | cons p outer ih =>
    -- Evaluating opens the head of the list only.
    conv =>
      arg 2
      arg 1
      whnf
    -- The outer directories come first, if they are missing, and then one more at most.
    split
    · cases houter : t.makeOutward outer with
      | mk made t' =>
        have hgrown : Grown t t' := by
          have h := ih t
          rwa [houter] at h
        cases made with
        | error e => exact hgrown
        | ok _ =>
          refine hgrown.trans ?_
          dsimp only
          split
          · next hvacancy => exact hmade hvacancy
          · exact .refl t'
    · dsimp only
      split
      · next hvacancy => exact hmade hvacancy
      · exact .refl t

/-- The tree as a storage whose system may refuse any part of a replacement with a fault of its own:
`refuse` tells how many of the inner directories are not even tried then. A temporary file that was
made before that is gone again. -/
def refusing (refuse : Path → List UInt8 → FileTree → Option (Nat × FileFault)) :
    Storage FileTree where
  readFile := read
  replaceFile p bytes t :=
    match refuse p bytes t with
    | none => replace p bytes t
    | some (n, fault) =>
      match t.makeOutward (p.ancestors.tail.drop n) with
      | (.error e, t) => (.error e, t)
      | (.ok (), t) => (.error fault, t)

/-- A system that refuses nothing. -/
theorem refusing_none : refusing (fun _ _ _ => none) = storage := rfl

/-- A replacement that fails leaves a tree that has grown by directories. One that succeeds has put
the file where it goes in such a tree. -/
theorem replaceFile_refusing (refuse : Path → List UInt8 → FileTree → Option (Nat × FileFault))
    (p : Path) (bytes : List UInt8) (t : FileTree) :
    (∃ e t', (refusing refuse).replaceFile p bytes t = (.error e, t') ∧ Grown t t') ∨
      ∃ t' at_, (refusing refuse).replaceFile p bytes t =
          (.ok (), t'.put at_ (.file bytes 0o600)) ∧
        Grown t t' ∧ t'.landing p = .ok at_ := by
  simp only [refusing]
  cases refuse p bytes t with
  | some refusal =>
    obtain ⟨n, fault⟩ := refusal
    have hgrown := grown_makeOutward t (p.ancestors.tail.drop n)
    cases hmake : t.makeOutward (p.ancestors.tail.drop n) with
    | mk made t' =>
      rw [hmake] at hgrown
      cases made with
      | error e => exact .inl ⟨e, t', by simp only [hmake], hgrown⟩
      | ok _ => exact .inl ⟨fault, t', by simp only [hmake], hgrown⟩
  | none =>
    have hgrown := grown_makeOutward t p.ancestors.tail
    cases hmake : t.makeOutward p.ancestors.tail with
    | mk made t' =>
      rw [hmake] at hgrown
      simp only [replace, hmake]
      -- The tree stays as it is from here on, until the file is put.
      cases made with
      | error e => exact .inl ⟨e, t', rfl, hgrown⟩
      | ok _ =>
        cases hvacancy : t'.vacancy (temporary p) with
        | error e => exact .inl ⟨e, t', by simp only [hvacancy], hgrown⟩
        | ok _ =>
          cases hlanding : t'.landing p with
          | error e => exact .inl ⟨e, t', by simp only [hvacancy, hlanding], hgrown⟩
          | ok at_ => exact .inr ⟨t', at_, by simp only [hvacancy, hlanding], hgrown, hlanding⟩

section Elsewhere

variable {t : FileTree} {p q : Path} {at_ : Place} {front : List (List UInt8)} {last : List UInt8}
  {bytes : List UInt8} {mode : Nat}

/-- A way that does not end where a file was put could be gone before. -/
theorem walk_of_walk_put (hroot : at_ ≠ []) (hat : t.isDirectoryAt at_ = false)
    {start finish : Place} {ss : List Step} (hne : finish ≠ at_)
    (hwalk : (t.put at_ (.file bytes mode)).walk start ss = .ok finish) :
    t.walk start ss = .ok finish := by
  induction ss generalizing start with
  | nil => exact hwalk
  | cons s ss ih =>
    obtain ⟨hdir, next, hstep, hrest⟩ := walk_cons_eq_ok_iff.1 hwalk
    rw [isDirectoryAt_put hroot hat] at hdir
    refine walk_cons_eq_ok_iff.2 ⟨hdir, next, ?_, ih hrest⟩
    -- The way goes on from a directory, or is at its end; neither is the place of the file.
    have hnext : next ≠ at_ := by
      rintro rfl
      cases ss with
      | nil =>
        cases hrest
        exact hne rfl
      | cons _ _ =>
        have hfile := (walk_cons_eq_ok_iff.1 hrest).1
        rw [isDirectoryAt_put hroot hat, hat] at hfile
        cases hfile
    cases s with
    | stay => exact hstep
    | up => exact hstep
    | enter name =>
      obtain ⟨hshort, hpresent, rfl⟩ := step_enter_eq_ok_iff.1 hstep
      rw [find?_put_of_ne t _ hnext] at hpresent
      exact step_enter_eq_ok_iff.2 ⟨hshort, hpresent, rfl⟩

/-- What is read under a path that does not lead to a file that was put somewhere is what was read
before. -/
theorem contents_put_of_ne (hlanding : t.landing p = .ok at_)
    (hne : ∀ found, (t.put at_ (.file bytes mode)).locate q = .ok found → found ≠ at_) :
    storage.contents q (t.put at_ (.file bytes mode)) = storage.contents q t := by
  have hroot := landing_ne_root hlanding
  have hat := isDirectoryAt_landing hlanding
  ext content
  rw [contents_eq_some_iff, contents_eq_some_iff]
  constructor
  · rintro ⟨found, own, hlocate, hfind⟩
    have hfound := hne found hlocate
    rw [find?_put_of_ne t _ hfound] at hfind
    obtain ⟨steps, hsteps, hwalk, hdir⟩ := locate_eq_ok_iff.1 hlocate
    refine ⟨found, own, locate_eq_ok_iff.2 ⟨steps, hsteps, ?_, fun hasks => ?_⟩, hfind⟩
    · exact walk_of_walk_put hroot hat hfound hwalk
    · rw [← isDirectoryAt_put hroot hat]
      exact hdir hasks
  · rintro ⟨found, own, hlocate, hfind⟩
    have hlocate' : (t.put at_ (.file bytes mode)).locate q = .ok found :=
      (extends_put hroot hat).locate hlocate
    refine ⟨found, own, hlocate', ?_⟩
    rwa [find?_put_of_ne t _ (hne found hlocate')]

/-- A path whose last part is a name leads to a place of that name. -/
theorem concat_of_locate (hparts : Path.splitSlash q.bytes = front ++ [last])
    (hlast : Step.ofPart? last = some (.enter last)) (h : t.locate q = .ok at_) :
    ∃ directory, at_ = directory ++ [last] := by
  obtain ⟨steps, hsteps, hwalk, _⟩ := locate_eq_ok_iff.1 h
  rw [Step.eq_filterMap_of_ofPath hsteps, hparts, List.filterMap_append,
    List.filterMap_cons_some hlast, List.filterMap_nil, walk_append] at hwalk
  cases hfront : t.walk [] (front.filterMap Step.ofPart?) with
  | error e =>
    rw [hfront] at hwalk
    cases hwalk
  | ok directory =>
    rw [hfront] at hwalk
    obtain ⟨_, next, hstep, hend⟩ := walk_cons_eq_ok_iff.1 hwalk
    obtain ⟨_, _, rfl⟩ := step_enter_eq_ok_iff.1 hstep
    cases hend
    exact ⟨directory, rfl⟩

/-- What is read under a path that ends in a name does not change when a file of another name is put
somewhere. -/
theorem contents_put (hparts : Path.splitSlash q.bytes = front ++ [last])
    (hlast : Step.ofPart? last = some (.enter last)) (hlanding : t.landing p = .ok at_)
    (hname : q.fileName? ≠ p.fileName?) :
    storage.contents q (t.put at_ (.file bytes mode)) = storage.contents q t := by
  obtain ⟨directory, name, hplace, hp⟩ := fileName?_of_landing hlanding
  have hq : q.fileName? = some last := by
    have hcomponent : Path.component? last = some (.name last) := by
      have hfind : [last].findSome? Step.ofPart? = some (.enter last) := by
        rw [List.findSome?_singleton, hlast]
      have hfind' := findSome?_component_of_enter hfind
      rwa [List.findSome?_singleton] at hfind'
    rw [Path.fileName?, Path.getLast?_components hparts hcomponent]
  -- Wherever the path leads, it does not lead to that file.
  refine contents_put_of_ne hlanding fun found hlocate heq => ?_
  obtain ⟨above, rfl⟩ := concat_of_locate hparts hlast hlocate
  rw [hplace] at heq
  obtain ⟨-, hnames⟩ := List.append_inj' heq rfl
  rw [hq, hp, List.head_eq_of_cons_eq hnames] at hname
  exact hname rfl

end Elsewhere

/-- Bytes stand under a path, where a file may be put under it. -/
def Holds (t : FileTree) (p : Path) (bytes : List UInt8) : Prop :=
  ∃ at_ mode, t.landing p = .ok at_ ∧ t.find? at_ = some (.file bytes mode)

section Holds

variable {t t' : FileTree} {p q : Path} {bytes other : List UInt8} {at_ : Place} {mode : Nat}

theorem Holds.contents (h : t.Holds p bytes) : storage.contents p t = some bytes := by
  obtain ⟨at_, mode, hlanding, hfind⟩ := h
  rw [contents_of_landing hlanding, hfind]

theorem holds_put (h : t.landing p = .ok at_) : (t.put at_ (.file bytes mode)).Holds p bytes :=
  ⟨at_, mode, landing_put (landing_ne_root h) (isDirectoryAt_landing h) h,
    find?_put_self t _ (landing_ne_root h)⟩

/-- A replacement leaves a tree that has grown by directories, or puts the bytes in place. -/
theorem replaceFile_cases (refuse : Path → List UInt8 → FileTree → Option (Nat × FileFault))
    (p : Path) (bytes : List UInt8) (t : FileTree) :
    (∃ e t', (refusing refuse).replaceFile p bytes t = (.error e, t') ∧ Grown t t') ∨
      ∃ t', (refusing refuse).replaceFile p bytes t = (.ok (), t') ∧ t'.Holds p bytes := by
  rcases replaceFile_refusing refuse p bytes t with hfault | ⟨_, _, hput, _, hlanding⟩
  · exact .inl hfault
  · exact .inr ⟨_, hput, holds_put hlanding⟩

theorem Holds.grown (h : t.Holds p bytes) (hgrown : Grown t t') : t'.Holds p bytes := by
  obtain ⟨at_, mode, hlanding, hfind⟩ := h
  refine ⟨at_, mode, hgrown.toExtends.landing hlanding ?_, hgrown.kept hfind⟩
  rw [isDirectoryAt, hgrown.kept hfind]
  rfl

/-- A file of another name is put at another place. -/
theorem Holds.put (h : t.Holds p bytes) (hlanding : t.landing q = .ok at_)
    (hne : q.fileName? ≠ p.fileName?) : (t.put at_ (.file other mode)).Holds p bytes := by
  obtain ⟨own, ownMode, hown, hfind⟩ := h
  have hplace : own ≠ at_ := by
    obtain ⟨_, _, rfl, hname⟩ := fileName?_of_landing hown
    obtain ⟨_, _, rfl, hname'⟩ := fileName?_of_landing hlanding
    intro heq
    obtain ⟨-, hlast⟩ := List.append_inj' heq rfl
    rw [hname, hname', List.head_eq_of_cons_eq hlast] at hne
    exact hne rfl
  refine ⟨own, ownMode, ?_, ?_⟩
  · exact landing_put (landing_ne_root hlanding) (isDirectoryAt_landing hlanding) hown
  · rw [find?_put_of_ne t _ hplace]
    exact hfind

/-- Replacing a file of another name, whether that succeeds or not, changes nothing here. -/
theorem Holds.replaceFile (h : t.Holds p bytes) (hne : q.fileName? ≠ p.fileName?)
    (refuse : Path → List UInt8 → FileTree → Option (Nat × FileFault)) :
    ((refusing refuse).replaceFile q other t).2.Holds p bytes := by
  rcases replaceFile_refusing refuse q other t with ⟨_, _, hreplace, hgrown⟩ |
    ⟨_, _, hreplace, hgrown, hlanding⟩
  · rw [hreplace]
    exact h.grown hgrown
  · rw [hreplace]
    exact (h.grown hgrown).put hlanding hne

end Holds

end OverlayControl.FileTree
