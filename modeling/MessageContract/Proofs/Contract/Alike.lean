import MessageContract.Proofs.Contract.Merge

/-!
Likeness and merging. Likeness is an equivalence of messages and of entries; it is coarser than
sameness, and what other tools have written into a message plays no part in it. Merging adds an
entry unless a like one is there, although it looks for messages and for other entries in
different ways; so which one of several like entries is merged makes no difference to whether
it is added.
-/

namespace MessageContract

namespace Interaction

theorem alike_equivalence : Equivalence fun a b : Interaction => a.alike b = true := by
  simp only [alike_iff_core]
  exact eq_equivalence.comap core

theorem alike_of_same {a b : Interaction} (h : a.same b = true) : a.alike b = true := by
  rw [same, Bool.and_eq_true] at h
  exact h.1

end Interaction

namespace Entry

theorem alike_equivalence : Equivalence fun a b : Entry => a.alike b = true := by
  simp only [alike_iff_core]
  exact eq_equivalence.comap core

theorem alike_of_same {a b : Entry} (h : a.same b = true) : a.alike b = true :=
  (alike_iff_core a b).mpr (core_eq_of_plain_eq ((same_iff_plain a b).mp h))

end Entry

namespace Contract

/-- How many entries are added when one is merged. -/
theorem merge_single {ours theirs : Contract} {entry : Entry}
    (hcompatible : ours.Compatible theirs) (hsingle : theirs.entries = [entry]) :
    ours.merge theirs =
      .ok (ours.merged theirs, if Entry.isKnown ours.entries entry then 0 else 1) := by
  rw [merge_of_compatible hcompatible, hsingle, Entry.fresh_single]
  split <;> rfl

/-- Likeness is an equivalence that is coarser than sameness and blind to what other tools
have written. Merging a single entry works, and adds nothing if and only if an entry is there
that is like it; with a like entry in its place just as many are added. -/
theorem merge_agrees_with_alike :
    (Equivalence fun a b : Interaction => a.alike b = true) ∧
    (Equivalence fun a b : Entry => a.alike b = true) ∧
    (∀ a b : Interaction, a.same b = true → a.alike b = true) ∧
    (∀ a b : Entry, a.same b = true → a.alike b = true) ∧
    (∀ (a b : Interaction) (extra other : Fields Json),
      { a with extra := extra }.alike { b with extra := other } = a.alike b ∧
      (Entry.message { a with extra := extra }).alike (.message { b with extra := other }) =
        a.alike b) ∧
    ∀ (ours theirs : Contract) (entry : Entry),
      ours.Compatible theirs → theirs.entries = [entry] →
      ∃ merged added, ours.merge theirs = .ok (merged, added) ∧
        (added = 0 ↔ ∃ existing ∈ ours.entries, existing.alike entry = true) ∧
        merged.entries = ours.entries ++ (if added = 0 then [] else [entry]) ∧
        ∀ (others : Contract) (other : Entry), entry.alike other = true →
          ours.Compatible others → others.entries = [other] →
          ∃ merged, ours.merge others = .ok (merged, added) := by
  refine ⟨Interaction.alike_equivalence, Entry.alike_equivalence,
    fun _ _ => Interaction.alike_of_same, fun _ _ => Entry.alike_of_same,
    fun _ _ _ _ => ⟨rfl, rfl⟩, ?_⟩
  intro ours theirs entry hcompatible hsingle
  refine ⟨_, _, merge_single hcompatible hsingle, ?_, ?_, ?_⟩
  · rw [← List.any_eq_true]
    change _ ↔ Entry.isKnown ours.entries entry = true
    split
    case isTrue hknown => exact iff_of_true rfl hknown
    case isFalse hnew => exact iff_of_false Nat.one_ne_zero hnew
  · rw [merged, hsingle, Entry.fresh_single]
    split <;> rfl
  · intro others other halike hcompatible hsingle
    exact ⟨_, by rw [merge_single hcompatible hsingle, Entry.isKnown_congr halike]⟩

/-- A message is there with a member that another tool has written. The message without the
member is not the same, but like it, and is not added. -/
theorem merge_agrees_with_alike_noted :
    let noted : Interaction := { description := "an event", extra := [("key", .string "1f")] }
    let bare : Interaction := { description := "an event" }
    let ours := (Contract.new "shop" "stock").append (.message noted)
    let theirs := (Contract.new "shop" "stock").append (.message bare)
    noted.same bare = false ∧ ours.Compatible theirs ∧ theirs.entries = [.message bare] ∧
      (Entry.message noted).alike (.message bare) = true ∧
      ∃ merged, ours.merge theirs = .ok (merged, 0) ∧ merged.entries = ours.entries := by
  intro noted bare ours theirs
  have hcompatible : ours.Compatible theirs := ⟨rfl, rfl, rfl⟩
  have halike : (Entry.message noted).alike (.message bare) = true := by decide
  obtain ⟨-, -, -, -, -, hmerge⟩ := merge_agrees_with_alike
  obtain ⟨merged, added, hmerged, hnone, hentries, -⟩ := hmerge ours theirs _ hcompatible rfl
  obtain rfl : added = 0 := hnone.mpr ⟨_, List.mem_singleton_self _, halike⟩
  refine ⟨by decide, hcompatible, rfl, halike, merged, hmerged, ?_⟩
  rw [hentries, if_pos rfl, List.append_nil]

end Contract

end MessageContract
