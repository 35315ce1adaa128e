import MessageContract.Proofs.Disk

/-!
Making directories, seen from a path. What the path led to it leads to afterwards, and
what blocked it blocks it. Where it led to nothing it may lead to something, when it goes
up from a directory that is new, or is too long to be walked to its end. It does not when
the directory was there before, or when it goes straight down a tree.
-/

namespace MessageContract

/-- The parts go down only, and none of them is too long. -/
def Path.Straight (parts : List String) : Prop :=
  ∀ part ∈ parts, part ≠ ".." ∧ (Utf8.encode part).length ≤ Path.nameLimit

namespace Disk

variable {refusal? : List String → Option Refusal}
variable {disk after : Disk} {path : String} {parts names : List String}

theorem isDirectoryAt_iff :
    disk.isDirectoryAt parts = true ↔
      ∃ found, disk.walk [] parts = .ok found ∧ disk.entry? found = some .directory := by
  unfold isDirectoryAt
  cases disk.walk [] parts with
  | ok found => simp
  | error fault => simp

/-! A directory that is there is not made. -/

theorem settleDirectory_of_fault {fault : DiskFault}
    (hmade : disk.makeDirectoryAt parts = .error fault) (hthere : disk.isDirectoryAt parts = true) :
    settleDirectory refusal? parts disk = (.ok (), disk) := by
  rw [settleDirectory, Outcome.run_bind, Outcome.run_get]
  simp only [hmade, hthere, if_true]
  rfl

theorem makeDirectoriesAt_of_isDirectoryAt (hthere : disk.isDirectoryAt parts = true) :
    makeDirectoriesAt refusal? parts.reverse disk = (.ok (), disk) := by
  obtain ⟨found, hwalk, hentry⟩ := isDirectoryAt_iff.mp hthere
  have hmade : disk.makeDirectoryAt parts = .error .alreadyExists := by
    simp only [makeDirectoryAt, hwalk, Outcome.ok_bind, hentry]
    rfl
  cases hparts : parts.reverse with
  | nil => rfl
  | cons part above =>
      have hwhole : (part :: above).reverse = parts := by rw [← hparts, List.reverse_reverse]
      rw [makeDirectoriesAt, Outcome.run_bind, Outcome.run_get]
      simp only [hwhole, hmade]
      exact settleDirectory_of_fault hmade hthere

theorem makeDirectories_of_isDirectoryAt (hnul : Path.hasNul path = false)
    (hthere : disk.isDirectoryAt (Path.parts path) = true) :
    makeDirectoriesUnless refusal? path disk = (.ok (), disk) := by
  rw [makeDirectoriesUnless, hnul, if_neg Bool.false_ne_true]
  exact makeDirectoriesAt_of_isDirectoryAt hthere

theorem withDirectories_of_isDirectoryAt
    (hthere : disk.isDirectoryAt (Path.parts path) = true) :
    disk.withDirectories refusal? path = disk := by
  unfold withDirectories
  cases hnul : Path.hasNul path with
  | true =>
      rw [makeDirectoriesUnless, hnul]
      rfl
  | false => rw [makeDirectories_of_isDirectoryAt hnul hthere]

/-! Directories are made on the way and nowhere else. -/

theorem entry?_makeDirectoryAt (hmade : disk.makeDirectoryAt parts = .ok after)
    (hnames : names ≠ parts.foldl Path.step []) : after.entry? names = disk.entry? names := by
  obtain ⟨found, hwalk, hmade⟩ := Outcome.bind_eq_ok.mp hmade
  obtain rfl := walk_eq_ok hwalk
  split at hmade
  · cases hmade
  · cases hmade
    exact entry?_setEntry_ne _ _ hnames

theorem entry?_settleDirectory (hnames : names ≠ parts.foldl Path.step []) :
    Disk.entry? (settleDirectory refusal? parts disk).2 names = disk.entry? names := by
  rcases settleDirectory_cases parts disk with hmade | hsame
  · exact entry?_makeDirectoryAt hmade hnames
  · rw [hsame]

theorem entry?_makeDirectoriesAt {upward : List String}
    (hnames : ∀ above, above <:+ upward → names ≠ above.reverse.foldl Path.step []) :
    Disk.entry? (makeDirectoriesAt refusal? upward disk).2 names = disk.entry? names :=
  makeDirectoriesAt_keeps (R := fun before after => after.entry? names = before.entry? names)
    (fun _ => rfl) (fun hfirst hsecond => hsecond.trans hfirst)
    (fun above habove _ => entry?_settleDirectory (hnames above habove)) disk

theorem entry?_withDirectories
    (hnames : ∀ above, above <+: Path.parts path → names ≠ above.foldl Path.step []) :
    Disk.entry? (disk.withDirectories refusal? path) names = disk.entry? names := by
  unfold withDirectories makeDirectoriesUnless
  split
  · rfl
  · apply entry?_makeDirectoriesAt
    intro above habove
    apply hnames
    rw [← List.reverse_suffix, List.reverse_reverse]
    exact habove

/-! Going straight down. -/

/-- Every entry stands in a directory. -/
def IsTree (disk : Disk) : Prop :=
  ∀ names, disk.entry? names ≠ none → disk.entry? names.dropLast = some .directory

theorem IsTree.directory_above (htree : disk.IsTree) {below : List String} (hbelow : below ≠ [])
    (hentry : disk.entry? (names ++ below) ≠ none) : disk.entry? names = some .directory := by
  induction below using List.reverseRecOn with
  | nil => exact absurd rfl hbelow
  | append_singleton above last ih =>
      have habove := htree _ hentry
      rw [← List.append_assoc, List.dropLast_concat] at habove
      cases above with
      | nil => rwa [List.append_nil] at habove
      | cons part rest => exact ih (List.cons_ne_nil _ _) (by rw [habove]; simp)

/-- A way straight down leads to its end, or to where nothing or a file is. -/
theorem walk_straight_cases (hstraight : Path.Straight parts) (here : List String) :
    disk.walk here parts = .ok (here ++ parts) ∨
      ∃ above below, below ≠ [] ∧ parts = above ++ below ∧
        (disk.entry? (here ++ above) = none ∧ disk.walk here parts = .error .notFound ∨
          ∃ bytes, disk.entry? (here ++ above) = some (.file bytes) ∧
            disk.walk here parts = .error .notDirectory) := by
  induction parts generalizing here with
  | nil => exact .inl (by rw [walk, List.append_nil])
  | cons part rest ih =>
      obtain ⟨⟨hdown, hshort⟩, hrest⟩ := List.forall_mem_cons.mp hstraight
      rcases hentry : disk.entry? here with _ | _ | bytes
      · refine .inr ⟨[], part :: rest, List.cons_ne_nil _ _, rfl, .inl ⟨?_, ?_⟩⟩
        · rwa [List.append_nil]
        · rw [walk, hentry]
      · have hstep : disk.walk here (part :: rest) = disk.walk (here ++ [part]) rest := by
          rw [walk, hentry]
          dsimp only
          rw [if_neg hdown, if_neg (Nat.not_lt.mpr hshort)]
        rw [hstep]
        rcases ih hrest (here ++ [part]) with hwalk | ⟨above, below, hbelow, rfl, hstop⟩
        · exact .inl (by rw [hwalk, List.append_assoc, List.singleton_append])
        · rw [List.append_assoc, List.singleton_append] at hstop
          exact .inr ⟨part :: above, below, hbelow, rfl, hstop⟩
      · refine .inr ⟨[], part :: rest, List.cons_ne_nil _ _, rfl, .inr ⟨bytes, ?_, ?_⟩⟩
        · rwa [List.append_nil]
        · rw [walk, hentry]

/-- In a tree a way straight down leads to every entry. -/
theorem IsTree.walk_eq_ok (htree : disk.IsTree) (hstraight : Path.Straight parts)
    (hentry : disk.entry? parts ≠ none) : disk.walk [] parts = .ok parts := by
  rcases disk.walk_straight_cases hstraight [] with hwalk | ⟨above, below, hbelow, rfl, hstop⟩
  · exact hwalk
  · rw [List.nil_append] at hstop
    rw [htree.directory_above hbelow hentry] at hstop
    rcases hstop with ⟨hnone, -⟩ | ⟨bytes, hfile, -⟩
    · cases hnone
    · cases hfile

/-- In a tree a file blocks every way straight down that passes it. -/
theorem IsTree.walk_past_file (htree : disk.IsTree) {above below : List String}
    (hstraight : Path.Straight (above ++ below)) (hbelow : below ≠ []) {bytes : List UInt8}
    (hentry : disk.entry? above = some (.file bytes)) :
    disk.walk [] (above ++ below) = .error .notDirectory := by
  have habove := htree.walk_eq_ok (fun part hpart => hstraight part (List.mem_append_left _ hpart))
    (by rw [hentry]; simp)
  obtain ⟨part, rest, rfl⟩ := List.exists_cons_of_ne_nil hbelow
  rw [walk_append, habove, Outcome.ok_bind, walk, hentry]

/-! What is read. -/

theorem Frame.resolve_error (hframe : Frame [] disk after) {fault : DiskFault}
    (hresolve : disk.resolve path = .error fault) (hfault : fault ≠ .notFound) :
    after.resolve path = .error fault := by
  unfold Disk.resolve at hresolve ⊢
  split at hresolve
  case isTrue => exact absurd (Except.error.inj hresolve).symm hfault
  case isFalse hpath =>
    rw [if_neg hpath]
    split at hresolve
    case isTrue hnul => rw [if_pos hnul, hresolve]
    case isFalse hnul => rw [if_neg hnul, hframe.walk_error hresolve hfault]

theorem resolve_eq_walk (hpath : path ≠ "") (hnul : Path.hasNul path = false) (disk : Disk) :
    disk.resolve path = disk.walk [] (Path.parts path) := by
  rw [resolve, if_neg hpath, hnul, if_neg Bool.false_ne_true]

/-- Where nothing was found straight down a tree, nothing is found as long as no file comes
into being and the place itself stays empty. -/
theorem IsTree.read_notFound (htree : disk.IsTree) (hframe : Frame [] disk after)
    (hstraight : Path.Straight (Path.parts path)) (hread : disk.read path = .error .notFound)
    (habsent : disk.entry? (Path.parts path) = none → after.entry? (Path.parts path) = none) :
    after.read path = .error .notFound := by
  by_cases hpath : path = ""
  · subst hpath
    rfl
  cases hnul : Path.hasNul path with
  | true =>
      rw [read, resolve, if_neg hpath, hnul] at hread
      cases hread
  | false =>
      rw [read, resolve_eq_walk hpath hnul] at hread ⊢
      have hnone : disk.entry? (Path.parts path) = none := by
        by_contra hentry
        rw [htree.walk_eq_ok hstraight hentry, Outcome.ok_bind] at hread
        split at hread
        case h_1 hempty => exact hentry hempty
        case h_2 => cases hread
        case h_3 => cases hread
      rcases after.walk_straight_cases hstraight [] with
        hwalk | ⟨above, below, hbelow, hparts, hstop⟩
      · rw [hwalk, Outcome.ok_bind, List.nil_append, habsent hnone]
        rfl
      · rcases hstop with ⟨-, hwalk⟩ | ⟨bytes, hentry, -⟩
        · rw [hwalk]
          rfl
        · -- the file was there before, and the way was blocked, so that something else was found
          have hfile : disk.file? above = some bytes := by
            rw [← hframe.files above List.not_mem_nil]
            exact file?_of_bytes hentry
          rw [hparts] at hread hstraight
          rw [htree.walk_past_file hstraight hbelow (file?_eq_some.mp hfile)] at hread
          cases hread

/-- Making a directory changes what is read of a file in it only if nothing was there. -/
theorem read_withDirectories {directory name : String} (hname : Path.IsName name)
    (hsettled : disk.read (Path.join directory name) = .error .notFound →
      disk.isDirectoryAt (Path.parts directory) = true ∨
        disk.IsTree ∧ Path.Straight (Path.parts (Path.join directory name))) :
    (disk.withDirectories refusal? directory).read (Path.join directory name) =
      disk.read (Path.join directory name) := by
  have hparts : Path.parts (Path.join directory name) = Path.parts directory ++ [name] :=
    Path.parts_join hname.toIsPart
  cases hresolve : disk.resolve (Path.join directory name) with
  | ok found =>
      obtain ⟨-, -, hwalk, -⟩ := resolve_eq_ok hresolve
      rw [hparts, walk_append] at hwalk
      obtain ⟨here, hhere, hlast⟩ := Outcome.bind_eq_ok.mp hwalk
      have hentry := ((walk_singleton hname.notAbove).mp hlast).1
      rw [withDirectories_of_isDirectoryAt (isDirectoryAt_iff.mpr ⟨here, hhere, hentry⟩)]
  | error fault =>
      by_cases hfault : fault = .notFound
      · subst hfault
        have hread : disk.read (Path.join directory name) = .error .notFound := by
          rw [read, hresolve]
          rfl
        rcases hsettled hread with hthere | ⟨htree, hstraight⟩
        · rw [withDirectories_of_isDirectoryAt hthere]
        · rw [hread]
          refine htree.read_notFound (frame_withDirectories disk directory) hstraight hread ?_
          intro hnone
          rw [entry?_withDirectories, hnone]
          intro above habove hnames
          have hnotUp : ∀ part ∈ above, Path.IsName part := by
            intro part hpart
            have hmem := habove.subset hpart
            have hin : part ∈ Path.parts (Path.join directory name) :=
              hparts ▸ List.mem_append_left _ hmem
            exact ⟨Path.isPart_of_mem_parts hmem, (hstraight part hin).1⟩
          rw [Path.foldl_step_of_isName [] hnotUp, List.nil_append, hparts] at hnames
          have hlength := habove.length_le
          rw [← hnames, List.length_append, List.length_singleton] at hlength
          omega
      · have hframe : Frame [] disk (disk.withDirectories refusal? directory) :=
          frame_withDirectories disk directory
        have hafter := hframe.resolve_error hresolve hfault
        rw [read, hafter, read, hresolve]
        rfl

/-- In a directory that is there a file is read alike as long as it is as it was. -/
theorem FileFrame.read {changed : List (List String)} (hframe : FileFrame changed disk after)
    {directory name : String} {here : List String} (hname : Path.IsName name)
    (hwalk : disk.walk [] (Path.parts directory) = .ok here)
    (hentry : disk.entry? here = some .directory)
    (hfile : after.file? (here ++ [name]) = disk.file? (here ++ [name])) :
    after.read (Path.join directory name) = disk.read (Path.join directory name) := by
  have hstep {d : Disk} (hto : d.walk [] (Path.parts directory) = .ok here)
      (hthere : d.entry? here = some .directory) :
      d.resolve (Path.join directory name) =
        if Path.hasNul (Path.join directory name) then .error .nulInPath
        else if Path.nameLimit < (Utf8.encode name).length then .error .nameTooLong
        else .ok (here ++ [name]) := by
    rw [Disk.resolve, if_neg (Path.join_ne_empty hname.nonempty), Path.parts_join hname.toIsPart,
      walk_append, hto, Outcome.ok_bind, Disk.walk, hthere]
    dsimp only
    rw [if_neg hname.notAbove, Disk.walk]
  rw [Disk.read, hstep (hframe.walk hwalk) (hframe.directories here hentry), Disk.read,
    hstep hwalk hentry]
  split
  · rfl
  · split
    · rfl
    · rw [Outcome.ok_bind, Outcome.ok_bind, hframe.entry? hfile]

end Disk

end MessageContract
