import MessageContract.Proofs.Outcome
import MessageContract.Proofs.Path

/-!
What each operation leaves of a file tree. A frame says that two trees have the
same files, up to those with the listed names, and that no directory went away;
every operation has one, and frames of steps make up the frame of a run.
-/

namespace MessageContract.Disk

/-- The bytes of the file with the given names, if there is one. -/
def file? (disk : Disk) (names : List String) : Option (List UInt8) :=
  match disk.entry? names with
  | some (.file bytes) => some bytes
  | _ => none

theorem file?_of_bytes {disk : Disk} {names : List String} {bytes : List UInt8}
    (hentry : disk.entry? names = some (.file bytes)) : disk.file? names = some bytes := by
  rw [file?, hentry]

theorem file?_of_none {disk : Disk} {names : List String} (hentry : disk.entry? names = none) :
    disk.file? names = none := by
  rw [file?, hentry]

theorem file?_of_directory {disk : Disk} {names : List String}
    (hentry : disk.entry? names = some .directory) : disk.file? names = none := by
  rw [file?, hentry]

theorem file?_eq_some {disk : Disk} {names : List String} {bytes : List UInt8} :
    disk.file? names = some bytes ↔ disk.entry? names = some (.file bytes) := by
  unfold file?
  split <;> simp_all

@[simp] theorem entry?_root (disk : Disk) : disk.entry? [] = some .directory := rfl

theorem lookup_filter_ne (entries : List (List String × DiskEntry)) (names other : List String) :
    (entries.filter fun e => e.1 != names).lookup other =
      if other = names then none else entries.lookup other := by
  induction entries with
  | nil => simp
  | cons entry rest ih =>
      obtain ⟨at_, content⟩ := entry
      by_cases hat : at_ = names
      · subst hat
        simp only [List.filter_cons, bne_self_eq_false, Bool.false_eq_true, if_false, ih,
          List.lookup_cons]
        split
        · rfl
        case isFalse hne => rw [beq_false_of_ne hne]
      · rw [List.filter_cons, if_pos (by simpa using hat), List.lookup_cons, List.lookup_cons, ih]
        by_cases hother : other = at_
        · subst hother
          simp only [beq_self_eq_true, if_neg hat]
        · simp only [beq_false_of_ne hother]

theorem entry?_setEntry_self (disk : Disk) {names : List String} (entry : DiskEntry)
    (hnames : names ≠ []) : Disk.entry? (disk.setEntry names entry) names = some entry := by
  simp [ entry?, setEntry, hnames]

theorem entry?_setEntry_ne (disk : Disk) {names other : List String} (entry : DiskEntry)
    (hne : other ≠ names) : Disk.entry? (disk.setEntry names entry) other = disk.entry? other := by
  simp only [ entry?, setEntry, List.lookup_cons, beq_false_of_ne hne, lookup_filter_ne,
    if_neg hne]

theorem entry?_removeEntry_self (disk : Disk) {names : List String} (hnames : names ≠ []) :
    Disk.entry? (disk.removeEntry names) names = none := by
  simp [ entry?, removeEntry, lookup_filter_ne, hnames]

theorem entry?_removeEntry_ne (disk : Disk) {names other : List String} (hne : other ≠ names) :
    Disk.entry? (disk.removeEntry names) other = disk.entry? other := by
  simp only [ entry?, removeEntry, lookup_filter_ne, if_neg hne]

theorem ne_root_of_not_directory {disk : Disk} {names : List String}
    (hentry : disk.entry? names ≠ some .directory) : names ≠ [] := by
  intro hnil
  exact hentry (by rw [hnil, entry?_root])

/-! Where paths lead. -/

theorem walk_eq_ok {disk : Disk} {here parts found : List String}
    (hwalk : disk.walk here parts = .ok found) : found = parts.foldl Path.step here := by
  induction parts generalizing here with
  | nil => exact (Except.ok.inj hwalk).symm
  | cons part rest ih =>
      simp only [walk] at hwalk
      rw [List.foldl_cons, Path.step]
      split at hwalk <;> try contradiction
      split at hwalk
      case isTrue hup => rw [if_pos hup, ih hwalk]
      case isFalse hdown =>
        rw [if_neg hdown]
        split at hwalk
        · contradiction
        · exact ih hwalk

theorem resolve_eq_ok {disk : Disk} {path : String} {found : List String}
    (hresolve : disk.resolve path = .ok found) :
    path ≠ "" ∧ Path.hasNul path = false ∧ disk.walk [] (Path.parts path) = .ok found ∧
      found = Path.names path := by
  unfold resolve at hresolve
  split at hresolve
  · contradiction
  case isFalse hpath =>
    split at hresolve
    · contradiction
    case isFalse hnul =>
      exact ⟨hpath, by simpa using hnul, hresolve, walk_eq_ok hresolve⟩

theorem walk_append (disk : Disk) (here before after : List String) :
    disk.walk here (before ++ after) =
      (disk.walk here before >>= fun found => disk.walk found after) := by
  induction before generalizing here with
  | nil => rfl
  | cons part rest ih =>
      simp only [List.cons_append, walk]
      split
      · rfl
      · rfl
      · split
        · exact ih _
        · split
          · rfl
          · exact ih _

theorem walk_singleton {disk : Disk} {here : List String} {name : String}
    (hname : name ≠ "..") {found : List String} :
    disk.walk here [name] = .ok found ↔
      disk.entry? here = some .directory ∧
        (Utf8.encode name).length ≤ Path.nameLimit ∧ found = here ++ [name] := by
  simp only [walk, if_neg hname]
  split
  case h_1 hentry => simp [hentry]
  case h_2 hentry => simp [hentry]
  case h_3 hentry =>
    rw [hentry]
    split
    · simp; omega
    · simp [eq_comm]; omega

/-- A path to a file leads somewhere if its directory is one and its name is not
too long. -/
theorem resolve_join {disk : Disk} {directory name : String} {found : List String}
    (hname : Path.IsName name) :
    disk.resolve (Path.join directory name) = .ok found ↔
      Path.hasNul directory = false ∧ Path.hasNul name = false ∧
        ∃ here, disk.walk [] (Path.parts directory) = .ok here ∧
          disk.entry? here = some .directory ∧
          (Utf8.encode name).length ≤ Path.nameLimit ∧ found = here ++ [name] := by
  rw [resolve, if_neg (Path.join_ne_empty hname.nonempty), Path.hasNul_join,
    Path.parts_join hname.toIsPart, walk_append]
  cases hdirectory : Path.hasNul directory <;> cases hnul : Path.hasNul name <;>
    simp [Outcome.bind_eq_ok, walk_singleton hname.notAbove]

/-- No directory went away, and every file is as it was, up to those listed. -/
structure Frame (changed : List (List String)) (before after : Disk) : Prop where
  directories : ∀ names, before.entry? names = some .directory →
    after.entry? names = some .directory
  files : ∀ names, names ∉ changed → after.file? names = before.file? names

namespace Frame

variable {changed others : List (List String)} {first second third : Disk}

theorem refl (changed : List (List String)) (disk : Disk) : Frame changed disk disk :=
  ⟨fun _ hentry => hentry, fun _ _ => rfl⟩

theorem trans (hfirst : Frame changed first second) (hsecond : Frame others second third) :
    Frame (changed ++ others) first third := by
  constructor
  case directories =>
    intro names hentry
    exact hsecond.directories names (hfirst.directories names hentry)
  case files =>
    intro names hnames
    rw [List.mem_append, not_or] at hnames
    rw [hsecond.files names hnames.2, hfirst.files names hnames.1]

theorem mono (hframe : Frame changed first second) (hsubset : changed ⊆ others) :
    Frame others first second :=
  ⟨hframe.directories, fun names hnames => hframe.files names (mt (hsubset ·) hnames)⟩

/-- A file that is as it was need not be listed. -/
theorem drop {names : List String} (hframe : Frame (names :: changed) first second)
    (hsame : second.file? names = first.file? names) : Frame changed first second := by
  refine ⟨hframe.directories, ?_⟩
  intro other hother
  by_cases heq : other = names
  · rw [heq, hsame]
  · exact hframe.files other (by simp [heq, hother])

/-- A path still leads where it led. -/
theorem walk (hframe : Frame changed first second) {here parts found : List String}
    (hwalk : first.walk here parts = .ok found) : second.walk here parts = .ok found := by
  induction parts generalizing here with
  | nil => exact hwalk
  | cons part rest ih =>
      simp only [Disk.walk] at hwalk ⊢
      split at hwalk <;> try contradiction
      case h_3 hentry =>
        rw [hframe.directories here hentry]
        split at hwalk
        case isTrue hup => exact (if_pos hup).trans (ih hwalk)
        case isFalse hdown =>
          split at hwalk
          · contradiction
          case isFalse hshort =>
            simpa only [if_neg hdown, if_neg hshort] using ih hwalk

theorem resolve (hframe : Frame changed first second) {path : String} {found : List String}
    (hresolve : first.resolve path = .ok found) : second.resolve path = .ok found := by
  obtain ⟨hpath, hnul, hwalk, -⟩ := resolve_eq_ok hresolve
  rw [Disk.resolve, if_neg hpath, hnul]
  exact hframe.walk hwalk

/-- A path that is blocked stays blocked as long as no file goes away. -/
theorem walk_error (hframe : Frame [] first second) {here parts : List String}
    {fault : DiskFault} (hwalk : first.walk here parts = .error fault)
    (hfault : fault ≠ .notFound) : second.walk here parts = .error fault := by
  induction parts generalizing here with
  | nil => cases hwalk
  | cons part rest ih =>
      simp only [Disk.walk] at hwalk ⊢
      split at hwalk
      case h_1 => exact absurd (Except.error.inj hwalk).symm hfault
      case h_2 bytes hentry =>
        have hfile : second.file? here = some bytes := by
          rw [hframe.files here List.not_mem_nil, file?_of_bytes hentry]
        rw [file?_eq_some.mp hfile]
        exact hwalk
      case h_3 hentry =>
        rw [hframe.directories here hentry]
        split at hwalk
        case isTrue hup => exact (if_pos hup).trans (ih hwalk)
        case isFalse hdown =>
          split at hwalk
          case isTrue hlong => exact (if_neg hdown).trans ((if_pos hlong).trans hwalk)
          case isFalse hshort => exact (if_neg hdown).trans ((if_neg hshort).trans (ih hwalk))

end Frame

/-- Also, no directory was made. -/
structure FileFrame (changed : List (List String)) (before after : Disk) : Prop
    extends Frame changed before after where
  noneMade : ∀ names, after.entry? names = some .directory →
    before.entry? names = some .directory

namespace FileFrame

variable {changed others : List (List String)} {first second third : Disk}

theorem refl (changed : List (List String)) (disk : Disk) : FileFrame changed disk disk :=
  ⟨.refl changed disk, fun _ hentry => hentry⟩

theorem trans (hfirst : FileFrame changed first second) (hsecond : FileFrame others second third) :
    FileFrame (changed ++ others) first third :=
  ⟨hfirst.toFrame.trans hsecond.toFrame,
    fun names hentry => hfirst.noneMade names (hsecond.noneMade names hentry)⟩

theorem mono (hframe : FileFrame changed first second) (hsubset : changed ⊆ others) :
    FileFrame others first second :=
  ⟨hframe.toFrame.mono hsubset, hframe.noneMade⟩

theorem drop {names : List String} (hframe : FileFrame (names :: changed) first second)
    (hsame : second.file? names = first.file? names) : FileFrame changed first second :=
  ⟨hframe.toFrame.drop hsame, hframe.noneMade⟩

/-- Every entry is as it was where the file is. -/
theorem entry? (hframe : FileFrame changed first second) {names : List String}
    (hsame : second.file? names = first.file? names) :
    second.entry? names = first.entry? names := by
  rcases hfirst : first.entry? names with _ | _ | bytes
  · rw [file?_of_none hfirst] at hsame
    rcases hsecond : second.entry? names with _ | _ | bytes
    · rfl
    · rw [hframe.noneMade names hsecond] at hfirst
      cases hfirst
    · rw [file?_of_bytes hsecond] at hsame
      cases hsame
  · exact hframe.directories names hfirst
  · rw [file?_of_bytes hfirst] at hsame
    exact file?_eq_some.mp hsame

end FileFrame

theorem frame_setEntry {disk : Disk} {names : List String}
    (hentry : disk.entry? names ≠ some .directory) (entry : DiskEntry) :
    Frame [names] disk (disk.setEntry names entry) := by
  refine ⟨?_, ?_⟩
  · intro other hother
    rwa [entry?_setEntry_ne]
    rintro rfl
    exact hentry hother
  · intro other hother
    rw [file?, entry?_setEntry_ne _ _ (by simpa using hother), file?]

theorem fileFrame_setEntry {disk : Disk} {names : List String}
    (hentry : disk.entry? names ≠ some .directory) (bytes : List UInt8) :
    FileFrame [names] disk (disk.setEntry names (.file bytes)) := by
  refine ⟨frame_setEntry hentry _, ?_⟩
  intro other hother
  by_cases heq : other = names
  · rw [heq, entry?_setEntry_self _ _ (ne_root_of_not_directory hentry)] at hother
    cases hother
  · rwa [entry?_setEntry_ne _ _ heq] at hother

theorem fileFrame_removeEntry {disk : Disk} {names : List String}
    (hentry : disk.entry? names ≠ some .directory) :
    FileFrame [names] disk (disk.removeEntry names) := by
  refine ⟨⟨?_, ?_⟩, ?_⟩
  · intro other hother
    rwa [entry?_removeEntry_ne]
    rintro rfl
    exact hentry hother
  · intro other hother
    rw [file?, entry?_removeEntry_ne _ (by simpa using hother), file?]
  · intro other hother
    by_cases heq : other = names
    · rw [heq, entry?_removeEntry_self _ (ne_root_of_not_directory hentry)] at hother
      cases hother
    · rwa [entry?_removeEntry_ne _ heq] at hother

/-! The operations. -/

theorem touch_eq_ok {disk after : Disk} {path : String} (htouch : disk.touch path = .ok after) :
    disk.resolve path = .ok (Path.names path) ∧ FileFrame [Path.names path] disk after := by
  obtain ⟨names, hresolve, htouch⟩ := Outcome.bind_eq_ok.mp htouch
  obtain ⟨-, -, -, rfl⟩ := resolve_eq_ok hresolve
  refine ⟨hresolve, ?_⟩
  split at htouch
  case h_1 => cases htouch
  case h_2 =>
    cases htouch
    exact .refl _ _
  case h_3 hentry =>
    cases htouch
    exact fileFrame_setEntry (by simp [hentry]) _

theorem file?_of_touch {disk after : Disk} {path : String} (htouch : disk.touch path = .ok after) :
    ∃ bytes, after.file? (Path.names path) = some bytes := by
  obtain ⟨names, hresolve, htouch⟩ := Outcome.bind_eq_ok.mp htouch
  obtain ⟨-, -, -, rfl⟩ := resolve_eq_ok hresolve
  split at htouch
  case h_1 => cases htouch
  case h_2 hentry =>
    cases htouch
    exact ⟨_, file?_of_bytes hentry⟩
  case h_3 hentry =>
    cases htouch
    have hnone : disk.entry? (Path.names path) ≠ some .directory := by simp [hentry]
    exact ⟨_, file?_of_bytes (entry?_setEntry_self _ _ (ne_root_of_not_directory hnone))⟩

theorem touch_of_file? {disk : Disk} {path : String}
    (hresolve : disk.resolve path = .ok (Path.names path)) {bytes : List UInt8}
    (hfile : disk.file? (Path.names path) = some bytes) : disk.touch path = .ok disk := by
  simp only [touch, hresolve, Outcome.ok_bind, file?_eq_some.mp hfile]
  rfl

theorem isFree_iff {disk : Disk} {path : String} :
    disk.isFree path = true ↔
      disk.resolve path = .ok (Path.names path) ∧ disk.entry? (Path.names path) = none := by
  unfold isFree
  constructor
  · intro hfree
    split at hfree
    case h_1 names hresolve =>
      obtain ⟨-, -, -, rfl⟩ := resolve_eq_ok hresolve
      exact ⟨hresolve, Option.isNone_iff_eq_none.mp hfree⟩
    case h_2 => cases hfree
  · rintro ⟨hresolve, hentry⟩
    simp only [hresolve, hentry, Option.isNone_none]

/-- Of the paths that are tried a free one is taken, if there is one. -/
theorem isFree_temporaryPath {disk : Disk} {directory : String}
    (hspare : ∃ n < Path.temporaryLimit,
      disk.isFree (Path.join directory (Path.temporary n)) = true) :
    disk.isFree (disk.temporaryPath directory) = true := by
  obtain ⟨n, hn, hfree⟩ := hspare
  let isSpare (n : Nat) : Bool := disk.isFree (Path.join directory (Path.temporary n))
  have hsome : ((List.range' 0 Path.temporaryLimit).find? isSpare).isSome = true :=
    List.find?_isSome.mpr ⟨n, List.mem_range'_1.mpr ⟨Nat.zero_le n, by omega⟩, hfree⟩
  obtain ⟨found, hfound⟩ := Option.isSome_iff_exists.mp hsome
  have hspareFound : isSpare found = true := List.find?_some hfound
  rw [temporaryPath, hfound]
  exact hspareFound

/-- Beside the files of the first tree there is a new one at the path, with the bytes. -/
structure Draft (path : String) (bytes : List UInt8) (before after : Disk) : Prop where
  frame : FileFrame [Path.names path] before after
  resolve : after.resolve path = .ok (Path.names path)
  absent : before.file? (Path.names path) = none
  entry : after.entry? (Path.names path) = some (.file bytes)

theorem create_eq_ok {disk after : Disk} {path : String}
    (hcreate : disk.create path = .ok after) : Draft path [] disk after := by
  obtain ⟨names, hresolve, hcreate⟩ := Outcome.bind_eq_ok.mp hcreate
  obtain ⟨-, -, -, rfl⟩ := resolve_eq_ok hresolve
  split at hcreate
  case h_1 => cases hcreate
  case h_2 hentry =>
    cases hcreate
    have hnone : disk.entry? (Path.names path) ≠ some .directory := by simp [hentry]
    have hframe := fileFrame_setEntry hnone []
    exact ⟨hframe, hframe.resolve hresolve, file?_of_none hentry,
      entry?_setEntry_self _ _ (ne_root_of_not_directory hnone)⟩

theorem create_of_isFree {disk : Disk} {path : String} (hfree : disk.isFree path = true) :
    ∃ after, disk.create path = .ok after := by
  obtain ⟨hresolve, hentry⟩ := isFree_iff.mp hfree
  refine ⟨disk.setEntry (Path.names path) (.file []), ?_⟩
  simp only [create, hresolve, Outcome.ok_bind, hentry]
  rfl

theorem rename_eq_ok {disk after : Disk} {source target : String}
    (hrename : disk.rename source target = .ok after) :
    ∃ bytes, disk.resolve target = .ok (Path.names target) ∧
      disk.entry? (Path.names source) = some (.file bytes) ∧
      FileFrame [Path.names source, Path.names target] disk after ∧
      (Path.names source ≠ Path.names target → after.file? (Path.names source) = none) ∧
      after.file? (Path.names target) = some bytes := by
  obtain ⟨old, hold, hrename⟩ := Outcome.bind_eq_ok.mp hrename
  obtain ⟨new, hnew, hrename⟩ := Outcome.bind_eq_ok.mp hrename
  obtain ⟨-, -, -, rfl⟩ := resolve_eq_ok hold
  obtain ⟨-, -, -, rfl⟩ := resolve_eq_ok hnew
  split at hrename <;> try contradiction
  case h_4 bytes hsource htarget =>
    cases hrename
    have hfile : disk.entry? (Path.names source) ≠ some .directory := by simp [hsource]
    have htargetNil := ne_root_of_not_directory htarget
    have hgone := entry?_removeEntry_self disk (ne_root_of_not_directory hfile)
    have htargetLeft : Disk.entry? (disk.removeEntry (Path.names source)) (Path.names target) ≠
        some .directory := by
      by_cases heq : Path.names target = Path.names source
      · rw [heq, hgone]
        simp
      · rwa [entry?_removeEntry_ne _ heq]
    refine ⟨bytes, hnew, hsource,
      (fileFrame_removeEntry hfile).trans (fileFrame_setEntry htargetLeft _), ?_,
      file?_of_bytes (entry?_setEntry_self _ _ htargetNil)⟩
    intro hne
    exact file?_of_none (by rw [entry?_setEntry_ne _ _ hne, hgone])

theorem rename_of_file {disk : Disk} {source target : String} {bytes : List UInt8}
    (hsource : disk.resolve source = .ok (Path.names source))
    (hbytes : disk.entry? (Path.names source) = some (.file bytes))
    (htarget : disk.resolve target = .ok (Path.names target))
    (hfile : disk.entry? (Path.names target) ≠ some .directory) :
    ∃ after, disk.rename source target = .ok after := by
  simp only [rename, hsource, htarget, Outcome.ok_bind, hbytes]
  rcases hentry : disk.entry? (Path.names target) with _ | _ | _
  · exact ⟨_, rfl⟩
  · exact absurd hentry hfile
  · exact ⟨_, rfl⟩

namespace Draft

variable {path : String} {bytes : List UInt8} {first second third : Disk}

theorem file (h : Draft path bytes first second) :
    second.entry? (Path.names path) ≠ some .directory := by
  rw [h.entry]
  simp

/-- A new file can be written on. -/
theorem append (h : Draft path bytes first second) (more : List UInt8) :
    ∃ third, second.append path more = .ok third ∧ Draft path (bytes ++ more) first third := by
  have happend : second.append path more =
      .ok (second.setEntry (Path.names path) (.file (bytes ++ more))) := by
    simp only [Disk.append, h.resolve, Outcome.ok_bind, h.entry]
    rfl
  have hframe := fileFrame_setEntry h.file (bytes ++ more)
  exact ⟨_, happend, (h.frame.trans hframe).mono (by simp), hframe.toFrame.resolve h.resolve,
    h.absent, entry?_setEntry_self _ _ (ne_root_of_not_directory h.file)⟩

/-- Without the new file all is as it was. -/
theorem discard (h : Draft path bytes first second) :
    FileFrame [] first (second.discard path) := by
  have hremove : second.remove path = .ok (second.removeEntry (Path.names path)) := by
    simp only [remove, h.resolve, Outcome.ok_bind, h.entry]
    rfl
  have hgone := entry?_removeEntry_self second (ne_root_of_not_directory h.file)
  rw [Disk.discard, hremove]
  exact ((h.frame.trans (fileFrame_removeEntry h.file)).mono (by simp)).drop
    ((file?_of_none hgone).trans h.absent.symm)

/-- A new file takes the place of another one, which has its bytes from then on. -/
theorem rename (h : Draft path bytes first second) {target : String}
    (hrename : second.rename path target = .ok third) :
    FileFrame [Path.names target] first third ∧
      third.file? (Path.names target) = some bytes := by
  obtain ⟨moved, -, hsource, hframe, hgone, hfile⟩ := rename_eq_ok hrename
  obtain rfl : moved = bytes := by simpa [h.entry] using hsource.symm
  refine ⟨?_, hfile⟩
  have hboth := h.frame.trans hframe
  by_cases heq : Path.names path = Path.names target
  · exact hboth.mono (by simp [heq])
  · have hall : FileFrame [Path.names path, Path.names target] first third :=
      hboth.mono (by simp)
    exact hall.drop ((hgone heq).trans h.absent.symm)

end Draft

/-- A path can be read if it leads to a file, and not if it leads to a directory or nothing. -/
theorem read_cases {disk : Disk} {path : String}
    (hresolve : disk.resolve path = .ok (Path.names path)) :
    disk.read path = .error .notFound ∧ disk.file? (Path.names path) = none ∨
      disk.read path = .error .isDirectory ∧
          disk.entry? (Path.names path) = some .directory ∨
      ∃ bytes, disk.read path = .ok bytes ∧ disk.file? (Path.names path) = some bytes := by
  rw [read, hresolve, Outcome.ok_bind]
  rcases hentry : disk.entry? (Path.names path) with _ | _ | bytes
  · exact .inl ⟨rfl, file?_of_none hentry⟩
  · exact .inr (.inl ⟨rfl, rfl⟩)
  · exact .inr (.inr ⟨bytes, rfl, file?_of_bytes hentry⟩)

theorem read_of_file? {disk : Disk} {path : String}
    (hresolve : disk.resolve path = .ok (Path.names path)) {bytes : List UInt8}
    (hfile : disk.file? (Path.names path) = some bytes) : disk.read path = .ok bytes := by
  simp only [read, hresolve, Outcome.ok_bind, file?_eq_some.mp hfile]
  rfl

theorem canonical_eq_ok {disk : Disk} {path found : String}
    (hcanonical : disk.canonical path = .ok found) :
    disk.resolve path = .ok (Path.names path) ∧ found = Path.canonical path := by
  obtain ⟨names, hresolve, hcanonical⟩ := Outcome.bind_eq_ok.mp hcanonical
  obtain ⟨-, -, -, rfl⟩ := resolve_eq_ok hresolve
  split at hcanonical
  · cases hcanonical
  · exact ⟨hresolve, (Except.ok.inj hcanonical).symm⟩

theorem canonical_of_entry? {disk : Disk} {path : String} {entry : DiskEntry}
    (hresolve : disk.resolve path = .ok (Path.names path))
    (hentry : disk.entry? (Path.names path) = some entry) :
    disk.canonical path = .ok (Path.canonical path) := by
  simp only [canonical, hresolve, Outcome.ok_bind, hentry]
  rfl

/-! Directories are made where nothing was. -/

theorem frame_makeDirectoryAt {disk after : Disk} {parts : List String}
    (hmade : disk.makeDirectoryAt parts = .ok after) : Frame [] disk after := by
  obtain ⟨names, -, hmade⟩ := Outcome.bind_eq_ok.mp hmade
  split at hmade
  · cases hmade
  case h_2 hentry =>
    cases hmade
    have hnone : disk.entry? names ≠ some .directory := by simp [hentry]
    apply (frame_setEntry hnone _).drop
    rw [file?_of_none hentry, file?_of_directory
      (entry?_setEntry_self _ _ (ne_root_of_not_directory hnone))]

variable {refusal? : List String → Option Refusal}

/-- Settling a directory makes it or changes nothing. -/
theorem settleDirectory_cases (parts : List String) (disk : Disk) :
    disk.makeDirectoryAt parts = .ok (settleDirectory refusal? parts disk).2 ∨
      (settleDirectory refusal? parts disk).2 = disk := by
  rw [settleDirectory, Outcome.run_bind, Outcome.run_get]
  dsimp only
  cases hmade : disk.makeDirectoryAt parts with
  | ok made =>
      cases refusal? parts with
      | some refusal => exact .inr rfl
      | none => exact .inl rfl
  | error fault => dsimp only; split <;> exact .inr rfl

theorem frame_settleDirectory (parts : List String) (disk : Disk) :
    Frame [] disk (settleDirectory refusal? parts disk).2 := by
  rcases settleDirectory_cases parts disk with hmade | hsame
  · exact frame_makeDirectoryAt hmade
  · rw [hsame]
    exact .refl _ _

/-- What settling one directory keeps, settling those above it before it keeps, too. -/
theorem makeDirectoriesAt_keeps {R : Disk → Disk → Prop} (hrefl : ∀ disk, R disk disk)
    (htrans : ∀ {first second third}, R first second → R second third → R first third)
    {upward : List String}
    (hsettle : ∀ above, above <:+ upward → ∀ disk,
      R disk (settleDirectory refusal? above.reverse disk).2)
    (disk : Disk) : R disk (makeDirectoriesAt refusal? upward disk).2 := by
  induction upward generalizing disk with
  | nil => exact hrefl disk
  | cons part above ih =>
      have hhere := hsettle _ List.suffix_rfl
      have habove := ih (fun other hother =>
        hsettle other (hother.trans (List.suffix_cons part above))) disk
      rw [makeDirectoriesAt, Outcome.run_bind, Outcome.run_get]
      dsimp only
      cases hmade : disk.makeDirectoryAt (part :: above).reverse with
      | ok made => exact hhere disk
      | error fault =>
          cases fault with
          | notFound =>
              dsimp only
              rw [Outcome.run_bind]
              rcases hrun : makeDirectoriesAt refusal? above disk with ⟨_ | _, made⟩
              · rwa [hrun] at habove
              · rw [hrun] at habove
                exact htrans habove (hhere made)
          | _ => exact hhere disk

theorem frame_makeDirectoriesAt (upward : List String) (disk : Disk) :
    Frame [] disk (makeDirectoriesAt refusal? upward disk).2 :=
  makeDirectoriesAt_keeps (.refl []) (fun hfirst hsecond => hfirst.trans hsecond)
    (fun above _ => frame_settleDirectory above.reverse) disk

/-- The tree once the directories of a path have been made, as far as they can be. -/
def withDirectories (refusal? : List String → Option Refusal) (disk : Disk) (path : String) :
    Disk :=
  (makeDirectoriesUnless refusal? path disk).2

theorem frame_withDirectories (disk : Disk) (path : String) :
    Frame [] disk (disk.withDirectories refusal? path) := by
  unfold withDirectories makeDirectoriesUnless
  split
  · exact .refl _ _
  · exact frame_makeDirectoriesAt _ _

end MessageContract.Disk
