import MessageContract.Proofs.Contract.Merge
import MessageContract.Proofs.Fields

/-!
Merging in place. The contract that takes in another one is changed entry by entry
while it is asked what it holds, and its metadata comes last. It is not touched
before it is clear that the two belong together; then all that it held stays where
it was, and what it did not hold comes after that.
-/

namespace MessageContract

namespace Entry

/-- What is fresh stands where nothing like it is known and nothing like it came
earlier. -/
theorem fresh_eq_filter (known entries : List Entry) :
    fresh known entries =
      (entries.zipIdx.filter fun place =>
        (known ++ entries.take place.2).all fun earlier => !earlier.alike place.1).map
          Prod.fst := by
  induction entries using List.reverseRecOn with
  | nil => rfl
  | append_singleton entries last ih =>
      have hbefore : (entries.zipIdx.filter fun place =>
          (known ++ (entries ++ [last]).take place.2).all fun earlier =>
            !earlier.alike place.1) =
          entries.zipIdx.filter fun place =>
            (known ++ entries.take place.2).all fun earlier => !earlier.alike place.1 := by
        apply List.filter_congr
        intro place hmem
        have hplace : place.2 ≤ entries.length := Nat.le_of_lt (List.snd_lt_of_mem_zipIdx hmem)
        rw [List.take_append_of_le_length hplace]
      have hlast : ((known ++ entries).all fun earlier => !earlier.alike last) =
          !isKnown (known ++ fresh known entries) last := by
        have hsame : isKnown (known ++ fresh known entries) last =
            isKnown (known ++ entries) last := by
          rw [Bool.eq_iff_iff, isKnown_iff, isKnown_iff, mem_core_append_fresh, List.map_append,
            List.mem_append]
        rw [hsame, isKnown, List.not_any_eq_all_not]
      rw [fresh_append, List.zipIdx_append, List.filter_append, List.map_append, hbefore, ← ih]
      congr 1
      simp only [List.zipIdx_singleton, List.filter_singleton, Nat.zero_add, List.take_left',
        hlast, fresh]
      cases isKnown (known ++ fresh known entries) last <;> rfl

end Entry

namespace Contract

/-- What works on a contract in place and may fail. -/
abbrev Merging := ExceptT MergeFault (StateM Contract)

/-- Adds entries one after the other and counts those that were new. -/
def takeIn : List Entry → Nat → Merging Nat
  | [], added => return added
  | entry :: rest, added => do
      let (after, isNew) := (← get).addEntry entry
      set after
      takeIn rest (if isNew then added + 1 else added)

/-- Merges another contract into the one that is worked on. -/
def mergeIn (theirs : Contract) : Merging Nat := do
  match (← get).mergeFault? theirs with
  | some fault => throw fault
  | none =>
      let added ← takeIn theirs.entries 0
      modify fun ours =>
        { ours with metadata := { ours.metadata with
            extra := ours.metadata.extra.overlay theirs.metadata.extra } }
      return added

theorem takeIn_run (entries : List Entry) (added : Nat) (ours : Contract) :
    takeIn entries added ours =
      (.ok (added + (Entry.fresh ours.entries entries).length),
        { ours with entries := ours.entries ++ Entry.fresh ours.entries entries }) := by
  induction entries generalizing added ours with
  | nil =>
      rw [Entry.fresh, List.append_nil]
      rfl
  | cons entry rest ih =>
      have hstep : takeIn (entry :: rest) added ours =
          takeIn rest (if (ours.addEntry entry).2 then added + 1 else added)
            (ours.addEntry entry).1 := rfl
      rw [hstep, addEntry_eq, Entry.fresh]
      split
      case isTrue => exact ih added ours
      case isFalse =>
        rw [ih, if_pos rfl, List.length_cons, Nat.add_right_comm, Nat.add_assoc]
        simp [append]

/-- Merging in place fails with the contract untouched, or leaves what becomes of the
two contracts. -/
theorem mergeIn_run (theirs ours : Contract) :
    mergeIn theirs ours =
      match ours.merge theirs with
      | .ok (after, added) => (.ok added, after)
      | .error fault => (.error fault, ours) := by
  rw [mergeIn, Outcome.run_bind, Outcome.run_get, merge]
  dsimp only
  cases hfault : ours.mergeFault? theirs with
  | some fault => rfl
  | none =>
      dsimp only
      rw [Outcome.run_bind, takeIn_run, addEntries_eq, Nat.zero_add]
      rfl

/-- Merging fails because of another pair or another version of the format, and then
nothing has changed. Otherwise all entries stay and those follow that nothing was
like, neither here nor earlier over there, as they are over there; the number of
them is told. Names and version stay, and the members of the metadata are laid over
those that were there. -/
theorem mergeIn_extends (ours theirs : Contract) (hextra : Fields.Sorted theirs.metadata.extra) :
    if theirs.consumer ≠ ours.consumer ∨ theirs.provider ≠ ours.provider ∨
        theirs.metadata.specification ≠ ours.metadata.specification then
      ∃ fault, ours.merge theirs = .error fault ∧ mergeIn theirs ours = (.error fault, ours)
    else
      ∃ after appended, ours.merge theirs = .ok (after, appended.length) ∧
        mergeIn theirs ours = (.ok appended.length, after) ∧
        after.entries = ours.entries ++ appended ∧
        appended = (theirs.entries.zipIdx.filter fun place =>
          (ours.entries ++ theirs.entries.take place.2).all fun earlier =>
            !earlier.alike place.1).map Prod.fst ∧
        after.consumer = ours.consumer ∧ after.provider = ours.provider ∧
        after.metadata.specification = ours.metadata.specification ∧
        ∀ key, after.metadata.extra.get? key =
          (theirs.metadata.extra.get? key).or (ours.metadata.extra.get? key) := by
  split
  case isTrue hdiffer =>
    have hfits : ¬ours.Compatible theirs := by
      rintro ⟨hconsumer, hprovider, hspecification⟩
      simp [hconsumer, hprovider, hspecification] at hdiffer
    obtain ⟨fault, hfault⟩ := merge_of_not_compatible hfits
    refine ⟨fault, hfault, ?_⟩
    rw [mergeIn_run, hfault]
  case isFalse hsame =>
    have hfits : ours.Compatible theirs := by simpa [Compatible, not_or] using hsame
    have hmerge := merge_of_compatible hfits
    refine ⟨ours.merged theirs, Entry.fresh ours.entries theirs.entries, hmerge, ?_, rfl,
      Entry.fresh_eq_filter _ _, rfl, rfl, rfl, ?_⟩
    · rw [mergeIn_run, hmerge]
    · intro key
      exact Fields.get?_overlay (Fields.countP_le_one hextra key)

/-- A contract that holds a message twice takes in one that holds it as well, as
another tool has marked it, and a message of its own twice over. -/
theorem mergeIn_extends_repeated :
    let message (description : String) (extra : Fields Json) : Entry :=
      .message { description, contents := .bytes "text/plain" [0x35], extra }
    let marked : Fields Json := [("key", .string "1f")]
    let contract (entries : List Entry) (tool : String) : Contract :=
      { consumer := "shop", provider := "stock", entries,
        metadata := { specification := "4.0", extra := [("tool", .string tool)] } }
    let ours := contract [message "a count" [], message "a count" []] "first"
    let theirs := contract
      [message "a count" marked, message "a price" marked, message "a price" []] "second"
    Fields.Sorted theirs.metadata.extra ∧
    ∃ after, mergeIn theirs ours = (.ok 1, after) ∧
      after.entries = ours.entries ++ [message "a price" marked] ∧
      after.metadata.extra.get? "tool" = some (.string "second") := by
  intro message marked contract ours theirs
  have hextra : Fields.Sorted theirs.metadata.extra := List.pairwise_singleton _ _
  have hmerge := mergeIn_extends ours theirs hextra
  rw [if_neg (by decide)] at hmerge
  obtain ⟨after, appended, -, hrun, hentries, happended, -, -, -, hmembers⟩ := hmerge
  have hnew : appended = [message "a price" marked] := happended
  subst hnew
  exact ⟨hextra, after, hrun, hentries, hmembers "tool"⟩

end Contract

end MessageContract
