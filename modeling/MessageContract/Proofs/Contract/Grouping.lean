import MessageContract.Proofs.Contract.Merge
import MessageContract.Proofs.Fields

/-!
Several contracts of one pair become the same contract however their merging is
grouped. An entry that is kept is the first of its like in the order of the
contracts, and a member of the metadata is the last of its key.
-/

namespace MessageContract

namespace Entry

/-- Fresh entries are found in any grouping. -/
theorem fresh_assoc (first second third : List Entry) :
    fresh first (second ++ fresh second third) =
      fresh first second ++ fresh (first ++ fresh first second) third := by
  have hknown : ∀ c ∈ second.map core, c ∈ (first ++ fresh first second).map core := by
    intro c hc
    exact (mem_core_append_fresh first second c).mpr (.inr hc)
  rw [fresh_append, fresh_fresh third hknown]

end Entry

namespace Contract

variable {a b c : Contract}

theorem Compatible.trans (hab : a.Compatible b) (hbc : b.Compatible c) : a.Compatible c :=
  ⟨hbc.1.trans hab.1, hbc.2.1.trans hab.2.1, hbc.2.2.trans hab.2.2⟩

theorem merged_assoc (hextra : Fields.Sorted b.metadata.extra) :
    (a.merged b).merged c = a.merged (b.merged c) := by
  simp only [merged, Entry.fresh_assoc, List.append_assoc,
    Fields.overlay_assoc _ _ c.metadata.extra hextra]

/-- Three contracts of one pair and one version of the format can be merged in both
groupings, into the same contract. Whatever is counted as added in either of them
makes up the entries that were not there before. -/
theorem merge_assoc (hab : a.Compatible b) (hbc : b.Compatible c)
    (hextra : Fields.Sorted b.metadata.extra) :
    ∃ ab bc abc : Contract, ∃ addedToA addedToAB addedToB addedAtOnce : Nat,
      a.merge b = .ok (ab, addedToA) ∧ ab.merge c = .ok (abc, addedToAB) ∧
      b.merge c = .ok (bc, addedToB) ∧ a.merge bc = .ok (abc, addedAtOnce) ∧
      bc.entries.length = b.entries.length + addedToB ∧
      abc.entries.length = a.entries.length + addedToA + addedToAB ∧
      abc.entries.length = a.entries.length + addedAtOnce := by
  have hac : (a.merged b).Compatible c := hab.trans hbc
  have habc : a.Compatible (b.merged c) := hab
  have hassoc : (a.merged b).merged c = a.merged (b.merged c) := merged_assoc hextra
  have hatOnce := merge_of_compatible habc
  rw [← hassoc] at hatOnce
  refine ⟨a.merged b, b.merged c, (a.merged b).merged c, _, _, _, _, merge_of_compatible hab,
    merge_of_compatible hac, merge_of_compatible hbc, hatOnce, length_merged b c, ?_, ?_⟩
  · rw [length_merged, length_merged]
  · rw [hassoc, length_merged]

/-- Contracts that share a message, which another tool has marked in one of them,
and that say different things about themselves. The mark stays, the last thing said
counts, and the two fresh entries are counted one by one or both at once. -/
theorem merge_assoc_shared_message :
    let message (description : String) (extra : Fields Json) : Entry :=
      .message { description, extra }
    let marked := message "an event" [("key", .string "1f")]
    let request : Entry := .other (.object [("type", .string "Synchronous/HTTP")])
    let contract (entries : List Entry) (tool : String) : Contract :=
      { consumer := "shop", provider := "stock", entries,
        metadata := { specification := "4.0", extra := [("tool", .string tool)] } }
    let a := contract [request] "first"
    let b := contract [marked, request] "second"
    let c := contract [message "an event" [], message "another event" []] "third"
    let ab := contract [request, marked] "second"
    let bc := contract [marked, request, message "another event" []] "third"
    let abc := contract [request, marked, message "another event" []] "third"
    a.Compatible b ∧ b.Compatible c ∧ Fields.Sorted b.metadata.extra ∧
    a.merge b = .ok (ab, 1) ∧ ab.merge c = .ok (abc, 1) ∧
    b.merge c = .ok (bc, 1) ∧ a.merge bc = .ok (abc, 2) := by
  intro message marked request contract a b c ab bc abc
  have hab : a.Compatible b := ⟨rfl, rfl, rfl⟩
  have hbc : b.Compatible c := ⟨rfl, rfl, rfl⟩
  have hextra : Fields.Sorted b.metadata.extra := List.pairwise_singleton _ _
  have hfirst : a.merge b = .ok (ab, 1) := rfl
  have hthen : ab.merge c = .ok (abc, 1) := rfl
  have hlast : b.merge c = .ok (bc, 1) := rfl
  obtain ⟨_, _, _, _, _, _, addedAtOnce, hfirst', hthen', hlast', hatOnce, -, -, hlength⟩ :=
    merge_assoc hab hbc hextra
  obtain ⟨rfl, -⟩ := Prod.mk.inj (Except.ok.inj (hfirst.symm.trans hfirst'))
  obtain ⟨rfl, -⟩ := Prod.mk.inj (Except.ok.inj (hthen.symm.trans hthen'))
  obtain ⟨rfl, -⟩ := Prod.mk.inj (Except.ok.inj (hlast.symm.trans hlast'))
  obtain rfl : 2 = addedAtOnce := Nat.add_left_cancel (n := 1) hlength
  exact ⟨hab, hbc, hextra, hfirst, hthen, hlast, hatOnce⟩

end Contract

end MessageContract
