import MessageContract.Proofs.Contract.Grouping

/-!
Contracts over their whole history. However messages were added and contracts
merged, the entries are the first of each of several like entries of all that was
offered, and each of them was counted once when it came.
-/

namespace MessageContract

namespace Entry

theorem alike_comm (a b : Entry) : a.alike b = b.alike a := by
  rw [Bool.eq_iff_iff, alike_iff_core, alike_iff_core, eq_comm]

/-- What is fresh is what is left of the entries that are not known when only the
first of each of several like entries is kept. -/
theorem fresh_eq_eraseDupsBy (known entries : List Entry) :
    fresh known entries =
      (entries.filter fun entry => !isKnown known entry).eraseDupsBy alike := by
  induction entries generalizing known with
  | nil => rfl
  | cons entry rest ih =>
      rw [fresh]
      split
      case isTrue hknown =>
        rw [List.filter_cons_of_neg (by simp [hknown]), ih]
      case isFalse hknown =>
        -- once an entry is known, so are those like it
        have hnext (other : Entry) : (!isKnown (known ++ [entry]) other) =
            (decide (other.alike entry = false) && !isKnown known other) := by
          rw [alike_comm]
          simp [isKnown, Bool.and_comm, Bool.not_or]
        rw [List.filter_cons_of_pos (by simpa using hknown), List.eraseDupsBy_cons,
          List.filter_filter, ih]
        simp only [hnext]

/-- No two fresh entries are alike, and none is like a known one. -/
theorem pairwise_append_fresh {known : List Entry} (entries : List Entry)
    (hknown : known.Pairwise fun a b => a.alike b = false) :
    (known ++ fresh known entries).Pairwise fun a b => a.alike b = false := by
  induction entries generalizing known with
  | nil => simpa [fresh] using hknown
  | cons entry rest ih =>
      rw [fresh]
      split
      case isTrue => exact ih hknown
      case isFalse hentry =>
        have hnext : (known ++ [entry]).Pairwise fun a b => a.alike b = false := by
          rw [List.pairwise_append]
          refine ⟨hknown, List.pairwise_singleton _ _, ?_⟩
          simpa [isKnown] using hentry
        simpa using ih hnext

end Entry

namespace Contract

theorem Compatible.symm {a b : Contract} (h : a.Compatible b) : b.Compatible a :=
  ⟨h.1.symm, h.2.1.symm, h.2.2.symm⟩

/-- What makes a contract grow. -/
inductive Change where
  | add (i : Interaction)
  | merge (theirs : Contract)

namespace Change

/-- The entries that a change brings. -/
def offered : Change → List Entry
  | .add i => [.message i]
  | .merge theirs => theirs.entries

/-- Whatever is merged belongs to the pair and the format of the contract. -/
def Fits (c : Contract) : Change → Prop
  | .add _ => True
  | .merge theirs => c.Compatible theirs

/-- Makes a change and tells how many entries were new: an added message counts as
one if it was not there. -/
def apply (c : Contract) : Change → Except MergeFault (Contract × Nat)
  | .add i => .ok ((c.add i).1, (c.add i).2.toNat)
  | .merge theirs => c.merge theirs

theorem Fits.trans {a b : Contract} {change : Change} (hfits : change.Fits a)
    (hab : a.Compatible b) : change.Fits b := by
  cases change with
  | add i => trivial
  | merge theirs => exact hab.symm.trans hfits

/-- A change appends what is fresh of what it brings, and counts it. -/
theorem apply_of_fits {c : Contract} {change : Change} (hfits : change.Fits c) :
    ∃ after, change.apply c = .ok (after, (Entry.fresh c.entries change.offered).length) ∧
      after.entries = c.entries ++ Entry.fresh c.entries change.offered ∧
      c.Compatible after := by
  cases change with
  | add i =>
      have hcount : (c.add i).2.toNat = (Entry.fresh c.entries [.message i]).length := by
        rw [Contract.add, contains_eq_isKnown, Entry.fresh_single]
        split <;> rfl
      refine ⟨(c.add i).1, ?_, ?_, ?_⟩
      · rw [apply, hcount, offered]
      · rw [add_fst, offered]
      · rw [add_fst]
        exact ⟨rfl, rfl, rfl⟩
  | merge theirs =>
      exact ⟨c.merged theirs, merge_of_compatible hfits, rfl, rfl, rfl, rfl⟩

end Change

/-- Makes change after change and counts the entries that were new. -/
def applyAll (c : Contract) : List Change → Except MergeFault (Contract × Nat)
  | [] => .ok (c, 0)
  | change :: rest => do
      let (next, added) ← change.apply c
      let (last, addedLater) ← next.applyAll rest
      return (last, added + addedLater)

/-- Change after change appends what is fresh of all that they bring. -/
theorem applyAll_of_fits {c : Contract} {changes : List Change}
    (hfits : ∀ change ∈ changes, change.Fits c) :
    ∃ after, c.applyAll changes =
        .ok (after, (Entry.fresh c.entries (changes.flatMap Change.offered)).length) ∧
      after.entries = c.entries ++ Entry.fresh c.entries (changes.flatMap Change.offered) := by
  induction changes generalizing c with
  | nil => exact ⟨c, rfl, (List.append_nil _).symm⟩
  | cons change rest ih =>
      obtain ⟨next, hnext, hentries, hpair⟩ :=
        Change.apply_of_fits (hfits change List.mem_cons_self)
      have hrest : ∀ later ∈ rest, later.Fits next := by
        intro later hlater
        exact (hfits later (List.mem_cons_of_mem _ hlater)).trans hpair
      obtain ⟨last, hlast, hlastEntries⟩ := ih hrest
      refine ⟨last, ?_, ?_⟩
      · simp only [applyAll, hnext, hlast, Outcome.ok_bind]
        rw [List.flatMap_cons, Entry.fresh_append, List.length_append, hentries]
        rfl
      · rw [hlastEntries, hentries, List.flatMap_cons, Entry.fresh_append, List.append_assoc]

/-- Whatever was done to a contract since it was started, its entries are what was
offered, in order and without those that are like an earlier one. So no two of them
are alike, and each was counted once. -/
theorem applyAll_new {consumer provider : String} {changes : List Change}
    (hfits : ∀ change ∈ changes, change.Fits (new consumer provider)) :
    ∃ c added, (new consumer provider).applyAll changes = .ok (c, added) ∧
      c.entries = (changes.flatMap Change.offered).eraseDupsBy Entry.alike ∧
      c.entries.Pairwise (fun a b => a.alike b = false) ∧
      added = c.entries.length := by
  obtain ⟨c, hrun, hentries⟩ := applyAll_of_fits hfits
  have hnone : (new consumer provider).entries = [] := rfl
  rw [hnone, List.nil_append] at hentries
  have hfirst : c.entries = (changes.flatMap Change.offered).eraseDupsBy Entry.alike := by
    rw [hentries, Entry.fresh_eq_eraseDupsBy]
    simp [Entry.isKnown]
  have hapart : c.entries.Pairwise fun a b => a.alike b = false := by
    rw [hentries]
    exact Entry.pairwise_append_fresh _ List.Pairwise.nil
  refine ⟨c, _, hrun, hfirst, hapart, ?_⟩
  rw [hnone, hentries]

/-- A message is added twice, and a contract that says it once more, twice over and
beside a request of another tool, is merged in between. Of six entries two are kept. -/
theorem applyAll_new_repeated :
    let count (extra : Fields Json) : Interaction :=
      { description := "a count", contents := .json "text/plain" (.number (.integer 5)), extra }
    let request : Entry := .other (.object [("type", .string "Synchronous/HTTP")])
    let theirs : Contract :=
      { new "shop" "stock" with
        entries := [request, .message (count [("key", .string "1f")]), request,
          .message (count [])] }
    let changes : List Change := [.add (count []), .merge theirs, .add (count [])]
    (∀ change ∈ changes, change.Fits (new "shop" "stock")) ∧
    (changes.flatMap Change.offered).length = 6 ∧
    ∃ c, (new "shop" "stock").applyAll changes = .ok (c, 2) ∧
      c.entries = [.message (count []), request] ∧
      c.entries.Pairwise (fun a b => a.alike b = false) := by
  intro count request theirs changes
  have hfits : ∀ change ∈ changes, change.Fits (new "shop" "stock") := by
    simp [changes, Change.Fits, Compatible, theirs, new]
  obtain ⟨c, added, hrun, hentries, hapart, hadded⟩ := applyAll_new hfits
  have hkept : c.entries = [.message (count []), request] := by
    rw [hentries]
    with_unfolding_all rfl
  obtain rfl : added = 2 := hadded.trans (congrArg List.length hkept)
  exact ⟨hfits, rfl, c, hrun, hkept, hapart⟩

end Contract

end MessageContract
