import Mathlib.Tactic
import MessageContract.Disk

/-!
Where a path leads when nothing stands in its way. The parts of a path that was
put together are the parts that went into it, so a file within a directory is
found under the names of the directory and its own.
-/

namespace MessageContract.Path

theorem splitChars_ne_nil (separator : Char) (chars : List Char) :
    splitChars separator chars ≠ [] := by
  cases chars with
  | nil => simp [splitChars]
  | cons c rest =>
      simp only [splitChars]
      split
      · split <;> simp
      · simp

theorem splitChars_of_not_mem {separator : Char} {chars : List Char}
    (habsent : separator ∉ chars) : splitChars separator chars = [chars] := by
  induction chars with
  | nil => rfl
  | cons c rest ih =>
      rw [List.mem_cons, not_or] at habsent
      have hne : (c == separator) = false := by simpa using Ne.symm habsent.1
      simp only [splitChars, ih habsent.2, hne, Bool.false_eq_true, if_false]

theorem splitChars_append (separator : Char) (before after : List Char) :
    splitChars separator (before ++ separator :: after) =
      splitChars separator before ++ splitChars separator after := by
  induction before with
  | nil =>
      obtain ⟨part, parts, hafter⟩ := List.exists_cons_of_ne_nil
        (splitChars_ne_nil separator after)
      simp [splitChars, hafter]
  | cons c rest ih =>
      obtain ⟨part, parts, hrest⟩ := List.exists_cons_of_ne_nil
        (splitChars_ne_nil separator rest)
      simp only [List.cons_append, splitChars, ih, hrest]
      split <;> rfl

theorem not_mem_of_mem_splitChars {separator : Char} {chars part : List Char}
    (hpart : part ∈ splitChars separator chars) : separator ∉ part := by
  induction chars generalizing part with
  | nil => simp_all [splitChars]
  | cons c rest ih =>
      obtain ⟨first, others, hrest⟩ := List.exists_cons_of_ne_nil
        (splitChars_ne_nil separator rest)
      rw [hrest] at ih
      simp only [splitChars, hrest] at hpart
      split at hpart
      · rcases List.mem_cons.mp hpart with rfl | hother
        · exact List.not_mem_nil
        · exact ih hother
      case isFalse hne =>
        rcases List.mem_cons.mp hpart with rfl | hother
        · have hfirst : separator ∉ first := ih List.mem_cons_self
          have hc : separator ≠ c := fun heq => hne (by rw [heq, beq_self_eq_true])
          exact List.not_mem_cons_of_ne_of_not_mem hc hfirst
        · exact ih (List.mem_cons_of_mem _ hother)

/-- A part of a path that is walked: it stands between slashes and does not stay. -/
structure IsPart (part : String) : Prop where
  noSlash : '/' ∉ part.toList
  nonempty : part ≠ ""
  notHere : part ≠ "."

/-- A part that names an entry. -/
structure IsName (name : String) : Prop extends IsPart name where
  notAbove : name ≠ ".."

/-- A text of some length that has no slash is a name. -/
theorem isName_of_length {name : String} (hslash : '/' ∉ name.toList)
    (hlength : 2 < name.toList.length) : IsName name where
  noSlash := hslash
  nonempty := by rintro rfl; simp at hlength
  notHere := by rintro rfl; simp at hlength
  notAbove := by rintro rfl; simp at hlength

theorem isPart_of_mem_parts {path part : String} (hpart : part ∈ parts path) : IsPart part := by
  obtain ⟨hsplit, hkept⟩ := List.mem_filter.mp hpart
  obtain ⟨chars, hchars, rfl⟩ := List.mem_map.mp hsplit
  rw [Bool.and_eq_true, bne_iff_ne, bne_iff_ne] at hkept
  refine ⟨?_, hkept.1, hkept.2⟩
  rw [String.toList_ofList]
  exact not_mem_of_mem_splitChars hchars

theorem parts_of_isPart {part : String} (hpart : IsPart part) : parts part = [part] := by
  simp [parts, splitChars_of_not_mem hpart.noSlash, hpart.nonempty, hpart.notHere]

theorem parts_empty : parts "" = [] := by
  simp [parts, splitChars]

/-- The parts of a text with a slash in it are those before and those after. -/
theorem parts_append (before after : String) :
    parts (before ++ "/" ++ after) = parts before ++ parts after := by
  have hchars : (before ++ "/" ++ after).toList = before.toList ++ '/' :: after.toList := by
    simp [String.toList_append]
  simp only [parts, hchars, splitChars_append, List.map_append, List.filter_append]

/-- The slash at the beginning is no part. -/
theorem parts_root_append (path rest : String) : parts (root path ++ rest) = parts rest := by
  unfold root
  split
  · have happend := parts_append "" rest
    rwa [parts_empty, List.nil_append, String.empty_append] at happend
  · rw [String.empty_append]

theorem parts_join {directory name : String} (hname : IsPart name) :
    parts (join directory name) = parts directory ++ [name] := by
  unfold join
  split
  case h_1 hempty =>
    have hdirectory : directory = "" := by simpa using hempty
    rw [hdirectory, parts_empty, parts_of_isPart hname, List.nil_append]
  case h_2 hslash =>
    obtain ⟨chars, hchars⟩ := List.getLast?_eq_some_iff.mp hslash
    have hdirectory : directory = String.ofList chars ++ "/" := by
      rw [← String.toList_inj, hchars]
      simp
    have hparts : parts directory = parts (String.ofList chars) := by
      have happend := parts_append (String.ofList chars) ""
      rwa [String.append_empty, ← hdirectory, parts_empty, List.append_nil] at happend
    calc
      parts (directory ++ name) = parts (String.ofList chars ++ "/" ++ name) := by
        rw [← hdirectory]
      _ = parts directory ++ [name] := by
        rw [parts_append, ← hparts, parts_of_isPart hname]
  case h_3 =>
    rw [parts_append, parts_of_isPart hname]

theorem parts_intercalate {names : List String} (hnames : ∀ name ∈ names, IsPart name) :
    parts ("/".intercalate names) = names := by
  induction names with
  | nil => rw [String.intercalate_nil, parts_empty]
  | cons name rest ih =>
      have hname : IsPart name := hnames name List.mem_cons_self
      have hrest := ih fun other hother => hnames other (List.mem_cons_of_mem _ hother)
      cases rest with
      | nil => rw [String.intercalate_singleton, parts_of_isPart hname]
      | cons second others =>
          rw [String.intercalate_cons_cons, parts_append, parts_of_isPart hname, hrest,
            List.singleton_append]

/-- One step of a path: up for two dots, and otherwise down. -/
def step (here : List String) (part : String) : List String :=
  if part = ".." then here.dropLast else here ++ [part]

/-- The names that a path leads to, whatever the tree looks like. -/
def names (path : String) : List String :=
  (parts path).foldl step []

theorem foldl_step_of_isName {names : List String} (here : List String)
    (hnames : ∀ name ∈ names, IsName name) : names.foldl step here = here ++ names := by
  induction names generalizing here with
  | nil => rw [List.foldl_nil, List.append_nil]
  | cons name rest ih =>
      have hname : step here name = here ++ [name] :=
        if_neg (hnames name List.mem_cons_self).notAbove
      rw [List.foldl_cons, hname, ih _ fun other hother => hnames other
        (List.mem_cons_of_mem _ hother), List.append_assoc, List.singleton_append]

theorem isName_of_mem_foldl_step {parts here : List String} {name : String}
    (hparts : ∀ part ∈ parts, IsPart part) (hhere : ∀ name ∈ here, IsName name)
    (hname : name ∈ parts.foldl step here) : IsName name := by
  induction parts generalizing here with
  | nil => exact hhere name hname
  | cons part rest ih =>
      have hrest : ∀ other ∈ rest, IsPart other := by
        intro other hother
        exact hparts other (List.mem_cons_of_mem _ hother)
      refine ih hrest ?_ hname
      intro other hother
      unfold step at hother
      split at hother
      · exact hhere other (List.mem_of_mem_dropLast hother)
      case isFalse hdown =>
        rcases List.mem_append.mp hother with hold | hnew
        · exact hhere other hold
        · rw [List.mem_singleton.mp hnew]
          exact ⟨hparts part List.mem_cons_self, hdown⟩

theorem isName_of_mem_names {path name : String} (hname : name ∈ names path) : IsName name :=
  isName_of_mem_foldl_step (fun _ => isPart_of_mem_parts) (by simp) hname

theorem names_join {directory name : String} (hname : IsName name) :
    names (join directory name) = names directory ++ [name] := by
  rw [names, parts_join hname.toIsPart, List.foldl_append, List.foldl_cons, List.foldl_nil,
    step, if_neg hname.notAbove, names]

/-- The path without detours. -/
def canonical (path : String) : String :=
  root path ++ "/".intercalate (names path)

/-- Without detours a path leads where it led. -/
theorem names_canonical (path : String) : names (canonical path) = names path := by
  have hnames : ∀ name ∈ names path, IsName name := fun _ => isName_of_mem_names
  rw [names, canonical, parts_root_append,
    parts_intercalate fun name hname => (hnames name hname).toIsPart,
    foldl_step_of_isName [] hnames, List.nil_append]

theorem temporary_toList (n : Nat) :
    (temporary n).toList = '.' :: 't' :: 'm' :: 'p' :: Nat.toDigits 10 n := by
  simp [temporary, String.toList_append]

theorem isName_temporary (n : Nat) : IsName (temporary n) := by
  rw [← String.ofList_toList (s := temporary n), temporary_toList]
  apply isName_of_length
  · rw [String.toList_ofList]
    intro hslash
    have hdigit : '/' ∈ Nat.toDigits 10 n := by simpa using hslash
    exact absurd (Nat.isDigit_of_mem_toDigits (by decide) (by decide) hdigit) (by decide)
  · simp

/-- The last character of the name of a temporary file is a digit. -/
theorem getLast?_temporary (n : Nat) :
    ∃ digit, (temporary n).toList.getLast? = some digit ∧ digit.isDigit = true := by
  have hne : Nat.toDigits 10 n ≠ [] := Nat.toDigits_ne_nil
  refine ⟨(Nat.toDigits 10 n).getLast hne, ?_,
    Nat.isDigit_of_mem_toDigits (by decide) (by decide) (List.getLast_mem hne)⟩
  have hchars : (temporary n).toList = ['.', 't', 'm', 'p'] ++ Nat.toDigits 10 n :=
    temporary_toList n
  rw [hchars, List.getLast?_append, List.getLast?_eq_getLast_of_ne_nil hne]
  rfl

theorem join_append (directory name ending : String) :
    join directory name ++ ending = join directory (name ++ ending) := by
  unfold join
  split <;> simp [String.append_assoc]

theorem hasNul_append (a b : String) :
    hasNul (a ++ b) = (hasNul a || hasNul b) := by
  simp [hasNul, String.toList_append]

theorem hasNul_join (directory name : String) :
    hasNul (join directory name) = (hasNul directory || hasNul name) := by
  unfold join
  split
  case h_1 hempty =>
    have hdirectory : directory.toList = [] := by simpa using hempty
    simp [hasNul, hdirectory]
  case h_2 => rw [hasNul_append]
  case h_3 =>
    have hslash : hasNul "/" = false := by decide
    rw [hasNul_append, hasNul_append, hslash, Bool.or_false]

theorem join_ne_empty {directory name : String} (hname : name ≠ "") :
    join directory name ≠ "" := by
  unfold join
  split <;> simp [hname]

end MessageContract.Path
