import OverlayControl.FileTree.Storage
import OverlayControl.Proofs.Path
import OverlayControl.Proofs.Storage

/-!
# A file tree keeps files

A file tree keeps the files of a program (`FileTree.storage_keeps`) while all of them are open
(`FileTree.Open`): the directory of each stands, and neither the file nor the temporary file beside
it is in the way of anything. Every replacement of an open file succeeds
(`FileTree.replace_of_open`) and leaves all of them open (`FileTree.Open.put`).
-/

namespace OverlayControl

/-- The steps of a path are those of its parts, whatever was checked before. -/
theorem Step.eq_filterMap_of_ofPath {p : Path} {steps : List Step} (h : ofPath p = .ok steps) :
    steps = (Path.splitSlash p.bytes).filterMap ofPart? := by
  unfold ofPath at h
  split at h
  · cases h
  · split at h
    · cases h
    · split at h <;> cases h
      rfl

namespace FileTree

/-- A path under which a file may be put at a place, by way of a place that none of the program's
own files has. -/
structure Open (own : List Path) (place : Path → Place) (t : FileTree) (p : Path) : Prop where
  /-- The directory of the file stands. -/
  parent : ∀ q ∈ p.ancestors.tail.head?, ∃ a d, t.aim q = .ok a ∧ t.vacancy q = .error .taken ∧
    t.locate q = .ok d ∧ t.isDirectoryAt d = true
  /-- There is room for the temporary file. -/
  spare : ∃ at_, t.vacancy (temporary p) = .ok at_ ∧ ∀ q ∈ own, at_ ≠ place q
  /-- The file may be moved to its place. -/
  landing : t.landing p = .ok (place p)

section Extend

variable {t t' : FileTree}

/-- A tree in which whatever a path leads through stands where it stands in another tree. -/
structure Extends (t t' : FileTree) : Prop where
  /-- Directories stay directories. -/
  directory : ∀ {at_ : Place}, t.isDirectoryAt at_ = true → t'.isDirectoryAt at_ = true
  /-- Where something stood something stands. -/
  present : ∀ {at_ : Place}, (t.find? at_).isSome = true → (t'.find? at_).isSome = true

theorem step_enter_eq_ok_iff {start finish : Place} {name : List UInt8} :
    t.step start (.enter name) = .ok finish ↔
      name.length ≤ nameLimit ∧ (t.find? (start ++ [name])).isSome = true ∧
        finish = start ++ [name] := by
  rw [FileTree.step]
  by_cases hlong : nameLimit < name.length
  · rw [if_pos hlong]
    constructor
    · intro h
      cases h
    · rintro ⟨hshort, _⟩
      omega
  · rw [if_neg hlong]
    cases (t.find? (start ++ [name])).isSome with
    | false => simp
    | true => simp [Nat.le_of_not_lt hlong, eq_comm]

theorem walk_cons_eq_ok_iff {start finish : Place} {s : Step} {ss : List Step} :
    t.walk start (s :: ss) = .ok finish ↔
      t.isDirectoryAt start = true ∧
        ∃ next, t.step start s = .ok next ∧ t.walk next ss = .ok finish := by
  rw [FileTree.walk]
  cases t.isDirectoryAt start with
  | false => simp
  | true => cases t.step start s <;> simp

/-- A step that could be taken can be taken. -/
theorem Extends.step (h : Extends t t') {start finish : Place} {s : Step}
    (hstep : t.step start s = .ok finish) : t'.step start s = .ok finish := by
  -- Only entering a name looks at the tree, and names that were there still are.
  cases s with
  | stay => exact hstep
  | up => exact hstep
  | enter name =>
    obtain ⟨hshort, hsome, rfl⟩ := step_enter_eq_ok_iff.1 hstep
    exact step_enter_eq_ok_iff.2 ⟨hshort, h.present hsome, rfl⟩

/-- A way that could be gone can be gone. -/
theorem Extends.walk (h : Extends t t') {start finish : Place} {ss : List Step}
    (hwalk : t.walk start ss = .ok finish) : t'.walk start ss = .ok finish := by
  induction ss generalizing start with
  | nil => exact hwalk
  | cons s ss ih =>
    obtain ⟨hdir, next, hstep, hrest⟩ := walk_cons_eq_ok_iff.1 hwalk
    exact walk_cons_eq_ok_iff.2 ⟨h.directory hdir, next, h.step hstep, ih hrest⟩

/-- The name that steps end in. -/
def lastName? (ss : List Step) : Option (List UInt8) :=
  match ss.getLast? with
  | some (.enter name) => some name
  | _ => none

theorem aim_eq_ok_iff {p : Path} {directory : Place} {name : Option (List UInt8)} :
    t.aim p = .ok (directory, name) ↔
      ∃ steps, Step.ofPath p = .ok steps ∧ t.walk [] steps.dropLast = .ok directory ∧
        t.isDirectoryAt directory = true ∧ lastName? steps = name := by
  unfold aim lastName?
  cases hsteps : Step.ofPath p with
  | error e => simp [bind, Except.bind]
  | ok steps =>
    simp only [bind, Except.bind, Except.ok.injEq, exists_eq_left']
    cases hwalk : t.walk [] steps.dropLast with
    | error e => simp
    | ok d =>
      cases hdir : t.isDirectoryAt d with
      | false =>
        simp only [hdir, Bool.not_false, if_true, Except.ok.injEq]
        constructor
        · intro h
          cases h
        · rintro ⟨rfl, hd, _⟩
          rw [hdir] at hd
          cases hd
      | true =>
        simp only [hdir, Bool.not_true, Bool.false_eq_true, if_false, Except.ok.injEq]
        -- With the directory at hand only the last step is left to look at.
        rcases steps.getLast? with _ | (_ | _ | last)
        all_goals
          constructor
          · intro h
            cases h
            exact ⟨rfl, hdir, rfl⟩
          · rintro ⟨rfl, _, rfl⟩
            rfl

theorem Extends.aim (h : Extends t t') {p : Path} {a : Place × Option (List UInt8)}
    (haim : t.aim p = .ok a) : t'.aim p = .ok a := by
  obtain ⟨directory, name⟩ := a
  rw [aim_eq_ok_iff] at haim ⊢
  obtain ⟨steps, hsteps, hwalk, hdir, hname⟩ := haim
  exact ⟨steps, hsteps, h.walk hwalk, h.directory hdir, hname⟩

theorem locate_eq_ok_iff {p : Path} {found : Place} :
    t.locate p = .ok found ↔
      ∃ steps, Step.ofPath p = .ok steps ∧ t.walk [] steps = .ok found ∧
        (asksDirectory p = true → t.isDirectoryAt found = true) := by
  unfold locate
  cases hsteps : Step.ofPath p with
  | error e => simp [bind, Except.bind]
  | ok steps =>
    simp only [bind, Except.bind, Except.ok.injEq, exists_eq_left']
    cases hwalk : t.walk [] steps with
    | error e => simp
    | ok d =>
      cases hasks : asksDirectory p with
      | false => simp
      | true =>
        cases hdir : t.isDirectoryAt d with
        | false =>
          simp only [hdir, Bool.not_false, Bool.and_self, if_true]
          constructor
          · intro h
            cases h
          · rintro ⟨heq, hd⟩
            cases heq
            rw [hdir] at hd
            exact absurd (hd trivial) Bool.false_ne_true
        | true =>
          simp only [hdir, Bool.not_true, Bool.and_false, Bool.false_eq_true, if_false,
            Except.ok.injEq]
          constructor
          · rintro rfl
            exact ⟨rfl, fun _ => hdir⟩
          · exact And.left

/-- What a path led to it leads to. -/
theorem Extends.locate (h : Extends t t') {p : Path} {found : Place}
    (hlocate : t.locate p = .ok found) : t'.locate p = .ok found := by
  rw [locate_eq_ok_iff] at hlocate ⊢
  obtain ⟨steps, hsteps, hwalk, hdir⟩ := hlocate
  exact ⟨steps, hsteps, h.walk hwalk, fun hasks => h.directory (hdir hasks)⟩

theorem landing_eq_ok_iff {p : Path} {found : Place} :
    t.landing p = .ok found ↔
      ∃ directory name, t.aim p = .ok (directory, some name) ∧ name.length ≤ nameLimit ∧
        asksDirectory p = false ∧ t.isDirectoryAt (directory ++ [name]) = false ∧
        found = directory ++ [name] := by
  unfold landing
  cases haim : t.aim p with
  | error e => simp [bind, Except.bind]
  | ok a =>
    obtain ⟨directory, name⟩ := a
    cases name with
    | none => simp [bind, Except.bind]
    | some name =>
      simp only [bind, Except.bind]
      -- The three checks, in the order in which they are made.
      by_cases hlong : nameLimit < name.length
      · rw [if_pos hlong]
        constructor
        · intro h
          cases h
        · rintro ⟨_, _, heq, hshort, _⟩
          cases heq
          omega
      · rw [if_neg hlong]
        cases hasks : asksDirectory p with
        | true => simp
        | false =>
          cases hdir : t.isDirectoryAt (directory ++ [name]) with
          | true =>
            simp only [Bool.false_eq_true, if_false, if_true]
            constructor
            · intro h
              cases h
            · rintro ⟨_, _, heq, _, _, hd, _⟩
              cases heq
              rw [hdir] at hd
              cases hd
          | false =>
            simp only [Bool.false_eq_true, if_false, Except.ok.injEq]
            constructor
            · rintro rfl
              exact ⟨directory, name, rfl, Nat.le_of_not_lt hlong, trivial, hdir, rfl⟩
            · rintro ⟨_, _, heq, _, _, _, rfl⟩
              cases heq
              rfl

theorem vacancy_eq_ok_iff {p : Path} {found : Place} :
    t.vacancy p = .ok found ↔
      ∃ directory name, t.aim p = .ok (directory, some name) ∧ name.length ≤ nameLimit ∧
        t.find? (directory ++ [name]) = none ∧ found = directory ++ [name] := by
  unfold vacancy
  cases haim : t.aim p with
  | error e => simp [bind, Except.bind]
  | ok a =>
    obtain ⟨directory, name⟩ := a
    cases name with
    | none => simp [bind, Except.bind]
    | some name =>
      simp only [bind, Except.bind]
      by_cases hlong : nameLimit < name.length
      · rw [if_pos hlong]
        constructor
        · intro h
          cases h
        · rintro ⟨_, _, heq, hshort, _⟩
          cases heq
          omega
      · rw [if_neg hlong]
        cases hfind : t.find? (directory ++ [name]) with
        | some n =>
          simp only [Option.isSome_some, if_true]
          constructor
          · intro h
            cases h
          · rintro ⟨_, _, heq, _, hnone, _⟩
            cases heq
            rw [hfind] at hnone
            cases hnone
        | none =>
          simp only [Option.isSome_none, Bool.false_eq_true, if_false, Except.ok.injEq]
          constructor
          · rintro rfl
            exact ⟨directory, name, rfl, Nat.le_of_not_lt hlong, hfind, rfl⟩
          · rintro ⟨_, _, heq, _, _, rfl⟩
            cases heq
            rfl

/-- A file goes where it went, unless a directory stands there now. -/
theorem Extends.landing (h : Extends t t') {p : Path} {found : Place}
    (hlanding : t.landing p = .ok found) (hdir : t'.isDirectoryAt found = false) :
    t'.landing p = .ok found := by
  rw [landing_eq_ok_iff] at hlanding ⊢
  obtain ⟨directory, name, haim, hshort, hasks, _, rfl⟩ := hlanding
  exact ⟨directory, name, h.aim haim, hshort, hasks, hdir, rfl⟩

end Extend

section Put

variable {t : FileTree} {at_ : Place} {bytes : List UInt8} {mode : Nat}

theorem isDirectoryAt_put (hroot : at_ ≠ []) (h : t.isDirectoryAt at_ = false) (other : Place) :
    (t.put at_ (.file bytes mode)).isDirectoryAt other = t.isDirectoryAt other := by
  by_cases heq : other = at_
  · rw [heq, h, isDirectoryAt, find?_put_self t _ hroot]
    rfl
  · rw [isDirectoryAt, find?_put_of_ne t _ heq, isDirectoryAt]

/-- A file that is put where no directory stands is in nobody's way. -/
theorem extends_put (hroot : at_ ≠ []) (h : t.isDirectoryAt at_ = false) :
    Extends t (t.put at_ (.file bytes mode)) where
  directory hdir := by rwa [isDirectoryAt_put hroot h]
  present {other} hsome := by
    by_cases heq : other = at_
    · rw [heq, find?_put_self t _ hroot]
      rfl
    · rwa [find?_put_of_ne t _ heq]

/-- Every file goes where it went after a file was put somewhere. -/
theorem landing_put (hroot : at_ ≠ []) (h : t.isDirectoryAt at_ = false) {p : Path} {found : Place}
    (hlanding : t.landing p = .ok found) :
    (t.put at_ (.file bytes mode)).landing p = .ok found := by
  refine (extends_put hroot h).landing hlanding ?_
  obtain ⟨directory, name, _, _, _, hdir, rfl⟩ := landing_eq_ok_iff.1 hlanding
  rwa [isDirectoryAt_put hroot h]

end Put

variable {t : FileTree} {own : List Path} {place : Path → Place}

theorem landing_ne_root {p : Path} {at_ : Place} (h : t.landing p = .ok at_) : at_ ≠ [] := by
  obtain ⟨directory, name, _, _, _, _, rfl⟩ := landing_eq_ok_iff.1 h
  simp

theorem isDirectoryAt_landing {p : Path} {at_ : Place} (h : t.landing p = .ok at_) :
    t.isDirectoryAt at_ = false := by
  obtain ⟨directory, name, _, _, _, hdir, rfl⟩ := landing_eq_ok_iff.1 h
  exact hdir

/-- A file directly below the root is open when there is room for it and for its temporary file. -/
theorem Open.of_root {p : Path} (spare : Place) (hparent : p.ancestors.tail = [])
    (hspare : (t.vacancy (temporary p)).toOption = some spare)
    (hfree : ∀ q ∈ own, spare ≠ place q)
    (hlanding : (t.landing p).toOption = some (place p)) : t.Open own place p := by
  have hok {x : Except FileFault Place} {at_ : Place} (h : x.toOption = some at_) :
      x = .ok at_ := by
    cases x with
    | error e => cases h
    | ok found => exact congrArg Except.ok (Option.some.inj h)
  refine ⟨?_, ⟨spare, hok hspare, hfree⟩, hok hlanding⟩
  intro q hq
  rw [hparent] at hq
  cases hq

/-- Putting one open file leaves all of them open. -/
theorem Open.put {p q : Path} (hp : t.Open own place p) (hown : p ∈ own) (hq : t.Open own place q)
    (bytes : List UInt8) (mode : Nat) :
    (t.put (place p) (.file bytes mode)).Open own place q := by
  have hroot := landing_ne_root hp.landing
  have hdir := isDirectoryAt_landing hp.landing
  have hextends : Extends t (t.put (place p) (.file bytes mode)) := extends_put hroot hdir
  refine ⟨?_, ?_, ?_⟩
  · -- The way to the directory is walked as before, and what was taken still is.
    intro parent hparent
    obtain ⟨⟨directory, name⟩, d, haim, htaken, hlocate, hd⟩ := hq.parent parent hparent
    refine ⟨_, d, hextends.aim haim, ?_, hextends.locate hlocate, ?_⟩
    · unfold vacancy at htaken ⊢
      rw [hextends.aim haim]
      rw [haim] at htaken
      cases name with
      | none => exact htaken
      | some name =>
        simp only [bind, Except.bind] at htaken ⊢
        split at htaken
        · cases htaken
        · next hshort =>
          rw [if_neg hshort]
          split at htaken
          · next hsome => rw [if_pos (hextends.present hsome)]
          · cases htaken
    · rw [isDirectoryAt_put hroot hdir]
      exact hd
  · -- The new file is not where the temporary file goes.
    obtain ⟨spare, hspare, hfree⟩ := hq.spare
    refine ⟨spare, ?_, hfree⟩
    rw [vacancy_eq_ok_iff] at hspare ⊢
    obtain ⟨directory, name, haim, hshort, hnone, rfl⟩ := hspare
    refine ⟨directory, name, hextends.aim haim, hshort, ?_, rfl⟩
    rw [find?_put_of_ne t _ (hfree p hown)]
    exact hnone
  · exact landing_put hroot hdir hq.landing

/-- Nothing is made where a directory stands. -/
theorem makeOutward_of_taken {p : Path} {at_ : Place}
    (htaken : t.vacancy p = .error .taken) (hlocate : t.locate p = .ok at_)
    (hd : t.isDirectoryAt at_ = true) (outer : List Path) :
    t.makeOutward (p :: outer) = (.ok (), t) := by
  -- The head of the list is all that is looked at, so evaluating gets there; the recursion over the
  -- outer paths is not reached.
  conv =>
    lhs
    whnf
  simp only [htaken, hlocate, hd, and_self, if_true]
  rfl

/-- An open file can be replaced, and nothing else changes. -/
theorem replace_of_open {p : Path} (h : t.Open own place p) (bytes : List UInt8) :
    replace p bytes t = (.ok (), t.put (place p) (.file bytes 0o600)) := by
  -- The directory stands already, so nothing is made on the way.
  have houtward : t.makeOutward p.ancestors.tail = (.ok (), t) := by
    cases hancestors : p.ancestors.tail with
    | nil => rfl
    | cons parent outer =>
      obtain ⟨_, d, _, htaken, hlocate, hd⟩ := h.parent parent (by rw [hancestors]; rfl)
      exact makeOutward_of_taken htaken hlocate hd outer
  obtain ⟨spare, hspare, _⟩ := h.spare
  rw [replace, houtward]
  simp only [hspare, h.landing]

/-- What is read under a path where a file may be put. -/
theorem contents_of_landing {p : Path} {at_ : Place} (h : t.landing p = .ok at_) :
    storage.contents p t =
      match t.find? at_ with
      | some (.file bytes _) => some bytes
      | _ => none := by
  obtain ⟨directory, name, haim, hshort, hasks, hdir, rfl⟩ := landing_eq_ok_iff.1 h
  obtain ⟨steps, hsteps, hwalk, hstands, hname⟩ := aim_eq_ok_iff.1 haim
  -- The path is read by the same steps by which it was aimed at.
  have hlast : steps = steps.dropLast ++ [.enter name] := by
    unfold lastName? at hname
    cases hlast : steps.getLast? with
    | none =>
      rw [hlast] at hname
      cases hname
    | some s =>
      rw [hlast] at hname
      cases s <;> cases hname
      obtain ⟨front, rfl⟩ := List.getLast?_eq_some_iff.1 hlast
      rw [List.dropLast_concat]
  have hstep : t.step directory (.enter name) =
      if (t.find? (directory ++ [name])).isSome then .ok (directory ++ [name])
      else .error .notFound := by
    rw [step, if_neg (Nat.not_lt.2 hshort)]
  have hlocate : t.locate p =
      if (t.find? (directory ++ [name])).isSome then .ok (directory ++ [name])
      else .error .notFound := by
    unfold locate
    rw [hsteps]
    simp only [bind, Except.bind, hasks, Bool.false_and, Bool.false_eq_true, if_false]
    rw [hlast, walk_append, hwalk, Except.bind, walk, if_pos hstands, hstep]
    cases (t.find? (directory ++ [name])).isSome <;> rfl
  show (read p t).toOption = _
  unfold read
  rw [hlocate]
  cases hfind : t.find? (directory ++ [name]) with
  | none => rfl
  | some n => cases n <;> simp [bind, Except.bind, hfind, Except.toOption]

theorem findSome?_component_of_enter {parts : List (List UInt8)} {name : List UInt8}
    (h : parts.findSome? Step.ofPart? = some (.enter name)) :
    parts.findSome? Path.component? = some (.name name) := by
  induction parts with
  | nil => cases h
  | cons part parts ih =>
    rw [List.findSome?_cons] at h ⊢
    unfold Step.ofPart? at h
    unfold Path.component?
    -- Steps and components pass over the same parts, except that a lone dot is a step.
    by_cases hempty : part = []
    · rw [if_pos hempty] at h
      rw [if_pos (.inl hempty)]
      exact ih h
    · rw [if_neg hempty] at h
      by_cases hdot : part = [Path.dot]
      · rw [if_pos hdot] at h
        cases h
      · rw [if_neg hdot] at h
        by_cases hdots : part = [Path.dot, Path.dot]
        · rw [if_pos hdots] at h
          cases h
        · rw [if_neg hdots] at h
          cases h
          rw [if_neg (not_or.2 ⟨hempty, hdot⟩), if_neg hdots]

/-- A file is put under a path with a file name only, and under that name. -/
theorem fileName?_of_landing {p : Path} {at_ : Place} (h : t.landing p = .ok at_) :
    ∃ directory name, at_ = directory ++ [name] ∧ p.fileName? = some name := by
  obtain ⟨directory, name, haim, _, _, _, rfl⟩ := landing_eq_ok_iff.1 h
  obtain ⟨steps, hsteps, _, _, hname⟩ := aim_eq_ok_iff.1 haim
  have hlast : (Path.splitSlash p.bytes).reverse.findSome? Step.ofPart? = some (.enter name) := by
    unfold lastName? at hname
    rw [Step.eq_filterMap_of_ofPath hsteps, List.getLast?_filterMap] at hname
    split at hname
    · next heq =>
      cases hname
      exact heq
    · cases hname
  have hcomponent := findSome?_component_of_enter hlast
  refine ⟨directory, name, rfl, ?_⟩
  unfold Path.fileName? Path.components
  rw [List.getLast?_append, List.getLast?_filterMap, hcomponent]
  rfl

/-- A file tree keeps files of a program, at places of their own, while all of them are open. -/
theorem storage_keeps (hinjective : ∀ p ∈ own, ∀ q ∈ own, place p = place q → p = q) :
    storage.Keeps (fun t => ∀ p ∈ own, t.Open own place p) own where
  sound_replaceFile bytes hsound hp := by
    intro q hq
    show (replace _ bytes _).2.Open own place q
    rw [replace_of_open (hsound _ hp)]
    exact (hsound _ hp).put hp (hsound q hq) bytes _
  fileName_of_ok {t p bytes} hok := by
    change (replace p bytes t).1 = .ok () at hok
    unfold replace at hok
    split at hok
    · cases hok
    · split at hok
      · cases hok
      · split at hok
        · cases hok
        · next hlanding =>
          obtain ⟨_, _, _, hname⟩ := fileName?_of_landing hlanding
          exact Option.isSome_of_eq_some hname
  contents_self {t p bytes} hsound hp _ := by
    have hopen := hsound p hp
    show storage.contents p (replace p bytes t).2 = some bytes
    rw [replace_of_open hopen, contents_of_landing (hopen.put hp hopen bytes _).landing,
      find?_put_self t _ (landing_ne_root hopen.landing)]
  contents_other {t p q} bytes hsound hp hq hne := by
    have hopen := hsound p hp
    show storage.contents q (replace p bytes t).2 = storage.contents q t
    have hplace : place q ≠ place p := fun heq => hne (hinjective q hq p hp heq)
    rw [replace_of_open hopen, contents_of_landing (hopen.put hp (hsound q hq) bytes _).landing,
      find?_put_of_ne t _ hplace, contents_of_landing (hsound q hq).landing]
  contents_failed {t p q bytes} hsound hp _ hfailed := by
    refine absurd ?_ hfailed
    show (replace p bytes t).1 = .ok ()
    rw [replace_of_open (hsound p hp)]

end FileTree

end OverlayControl
