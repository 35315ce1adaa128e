import MessageContract.Proofs.Contract.Plain
import MessageContract.Proofs.Outcome

/-!
Adding entries to a contract. What is added are the fresh entries: those that are
like no entry that is there and like no earlier one of those offered. They come
after the entries that are there, in the order in which they are offered.
-/

namespace MessageContract

namespace Entry

/-- A like entry is among the given ones. -/
def isKnown (known : List Entry) (entry : Entry) : Bool :=
  known.any fun existing => existing.alike entry

theorem isKnown_iff {known : List Entry} {entry : Entry} :
    isKnown known entry = true ↔ entry.core ∈ known.map core := by
  simp [isKnown, alike_iff_core]

/-- A known entry is known by any entry that is like it. -/
theorem isKnown_congr {known : List Entry} {first second : Entry}
    (halike : first.alike second = true) : isKnown known first = isKnown known second := by
  rw [Bool.eq_iff_iff, isKnown_iff, isKnown_iff, (alike_iff_core first second).mp halike]

/-- The first of each of several like entries, of those that are like none of
the known ones. -/
def fresh (known : List Entry) : List Entry → List Entry
  | [] => []
  | entry :: rest =>
      if isKnown known entry then fresh known rest
      else entry :: fresh (known ++ [entry]) rest

theorem fresh_single (known : List Entry) (entry : Entry) :
    fresh known [entry] = if isKnown known entry then [] else [entry] := rfl

theorem fresh_append (known first second : List Entry) :
    fresh known (first ++ second) =
      fresh known first ++ fresh (known ++ fresh known first) second := by
  induction first generalizing known with
  | nil => simp [fresh]
  | cons entry rest ih =>
      simp only [List.cons_append, fresh]
      split
      · exact ih known
      · rw [ih, List.cons_append, List.append_assoc, List.singleton_append]

/-- What is fresh depends on the known entries only as far as likeness goes. -/
theorem fresh_congr {known known' : List Entry} (entries : List Entry)
    (hknown : ∀ c, c ∈ known.map core ↔ c ∈ known'.map core) :
    fresh known entries = fresh known' entries := by
  induction entries generalizing known known' with
  | nil => rfl
  | cons entry rest ih =>
      have hsame : isKnown known entry = isKnown known' entry := by
        rw [Bool.eq_iff_iff, isKnown_iff, isKnown_iff, hknown]
      simp only [fresh, hsame]
      split
      · exact ih hknown
      · congr 1
        apply ih
        intro c
        rw [List.map_append, List.map_append, List.mem_append, List.mem_append, hknown]

theorem fresh_of_forall_known {known entries : List Entry}
    (hknown : ∀ entry ∈ entries, entry.core ∈ known.map core) : fresh known entries = [] := by
  induction entries with
  | nil => rfl
  | cons entry rest ih =>
      have hentry : isKnown known entry = true :=
        isKnown_iff.mpr (hknown entry List.mem_cons_self)
      rw [fresh, if_pos hentry]
      apply ih
      intro other hother
      exact hknown other (List.mem_cons_of_mem _ hother)

/-- The known and the fresh entries are like all that was known or offered. -/
theorem mem_core_append_fresh (known entries : List Entry) (c : Entry) :
    c ∈ (known ++ fresh known entries).map core ↔
      c ∈ known.map core ∨ c ∈ entries.map core := by
  induction entries generalizing known with
  | nil => simp [fresh]
  | cons entry rest ih =>
      unfold fresh
      split
      case isTrue hentry =>
        rw [ih, List.map_cons, List.mem_cons]
        have hmem := isKnown_iff.mp hentry
        constructor
        · rintro (hc | hc)
          · exact .inl hc
          · exact .inr (.inr hc)
        · rintro (hc | rfl | hc)
          · exact .inl hc
          · exact .inl hmem
          · exact .inr hc
      case isFalse hentry =>
        have hassoc : known ++ entry :: fresh (known ++ [entry]) rest =
            (known ++ [entry]) ++ fresh (known ++ [entry]) rest := by simp
        rw [hassoc, ih]
        simp only [List.map_append, List.mem_append, List.map_cons, List.map_nil, List.mem_cons]
        tauto

/-- Those that are first of several like entries are looked at alone. -/
theorem fresh_fresh {known fewer : List Entry} (entries : List Entry)
    (hknown : ∀ c ∈ fewer.map core, c ∈ known.map core) :
    fresh known (fresh fewer entries) = fresh known entries := by
  induction entries generalizing known fewer with
  | nil => rfl
  | cons entry rest ih =>
      cases hfewer : isKnown fewer entry with
      | true =>
          have hentry : isKnown known entry = true :=
            isKnown_iff.mpr (hknown _ (isKnown_iff.mp hfewer))
          simp only [fresh, hfewer, hentry, if_true]
          exact ih hknown
      | false =>
          simp only [fresh, hfewer, Bool.false_eq_true, if_false]
          cases hentry : isKnown known entry with
          | true =>
              rw [if_pos rfl, if_pos rfl]
              apply ih
              intro c hc
              rw [List.map_append, List.mem_append, List.map_singleton, List.mem_singleton] at hc
              rcases hc with hc | rfl
              · exact hknown c hc
              · exact isKnown_iff.mp hentry
          | false =>
              rw [if_neg Bool.false_ne_true, if_neg Bool.false_ne_true]
              congr 1
              apply ih
              intro c hc
              rw [List.map_append, List.mem_append] at hc ⊢
              exact hc.imp_left (hknown c)

theorem fresh_subset (known entries : List Entry) : fresh known entries ⊆ entries := by
  induction entries generalizing known with
  | nil => simp [fresh]
  | cons entry rest ih =>
      unfold fresh
      split
      · exact List.subset_cons_of_subset _ (ih known)
      · exact List.cons_subset_cons _ (ih _)

end Entry

namespace Contract

theorem contains_eq_isKnown (c : Contract) (i : Interaction) :
    c.contains i = Entry.isKnown c.entries (.message i) := by
  unfold contains messages Entry.isKnown
  induction c.entries with
  | nil => rfl
  | cons entry rest ih =>
      rw [List.any_cons, ← ih]
      cases entry <;> simp [Entry.message?, Entry.alike]

/-- Messages and other entries are added alike. -/
theorem addEntry_eq (c : Contract) (entry : Entry) :
    c.addEntry entry =
      if Entry.isKnown c.entries entry then (c, false) else (c.append entry, true) := by
  cases entry with
  | message i => simp only [addEntry, add, contains_eq_isKnown]
  | other value =>
      have hany : (c.entries.any fun existing => existing.same (.other value)) =
          Entry.isKnown c.entries (.other value) := by
        unfold Entry.isKnown
        congr 1
        funext existing
        cases existing <;> rfl
      simp only [addEntry, hany]

theorem add_fst (c : Contract) (i : Interaction) :
    (c.add i).1 = { c with entries := c.entries ++ Entry.fresh c.entries [.message i] } := by
  have hadd : c.add i = c.addEntry (.message i) := rfl
  rw [hadd, addEntry_eq]
  rw [Entry.fresh_single]
  split <;> simp [append]

theorem contains_iff {c : Contract} {i : Interaction} :
    c.contains i = true ↔ (Entry.message i).core ∈ c.entries.map Entry.core := by
  rw [contains_eq_isKnown, Entry.isKnown_iff]

theorem mem_messages {c : Contract} {i : Interaction} :
    i ∈ c.messages ↔ .message i ∈ c.entries := by
  rw [messages, List.mem_filterMap]
  constructor
  · rintro ⟨entry, hentry, hmessage⟩
    cases entry with
    | message j => rwa [← Option.some.inj hmessage]
    | other => cases hmessage
  · exact fun hi => ⟨_, hi, rfl⟩

theorem contains_of_mem_messages {c : Contract} {i : Interaction} (hi : i ∈ c.messages) :
    c.contains i = true :=
  contains_iff.mpr (List.mem_map_of_mem (mem_messages.mp hi))

theorem contains_add (c : Contract) (i : Interaction) : (c.add i).1.contains i = true := by
  rw [contains_iff, add_fst]
  exact (Entry.mem_core_append_fresh _ _ _).mpr (.inr List.mem_cons_self)

/-- Adding entry after entry adds what is fresh. -/
theorem foldl_add_eq {step : Contract × Nat → Entry → Contract × Nat}
    (hstep : ∀ c added entry, step (c, added) entry =
      if Entry.isKnown c.entries entry then (c, added) else (c.append entry, added + 1))
    (entries : List Entry) (c : Contract) (added : Nat) :
    entries.foldl step (c, added) =
      ({ c with entries := c.entries ++ Entry.fresh c.entries entries },
        added + (Entry.fresh c.entries entries).length) := by
  induction entries generalizing c added with
  | nil => simp [Entry.fresh]
  | cons entry rest ih =>
      rw [List.foldl_cons, hstep, Entry.fresh]
      split
      · exact ih c added
      · rw [ih]
        simp [append]
        omega

theorem addEntries_eq (c : Contract) (entries : List Entry) :
    c.addEntries entries =
      ({ c with entries := c.entries ++ Entry.fresh c.entries entries },
        (Entry.fresh c.entries entries).length) := by
  rw [addEntries, foldl_add_eq, Nat.zero_add]
  intro c added entry
  dsimp only
  rw [addEntry_eq]
  split <;> rfl

/-- Two contracts can become one. -/
def Compatible (ours theirs : Contract) : Prop :=
  theirs.consumer = ours.consumer ∧ theirs.provider = ours.provider ∧
    theirs.metadata.specification = ours.metadata.specification

theorem mergeFault?_eq_none {ours theirs : Contract} :
    ours.mergeFault? theirs = none ↔ ours.Compatible theirs := by
  unfold mergeFault? Compatible
  split
  · grind
  · split <;> grind

/-- What becomes of two contracts. -/
def merged (ours theirs : Contract) : Contract :=
  { ours with
    entries := ours.entries ++ Entry.fresh ours.entries theirs.entries
    metadata := { ours.metadata with
      extra := ours.metadata.extra.overlay theirs.metadata.extra } }

theorem length_merged (ours theirs : Contract) :
    (ours.merged theirs).entries.length =
      ours.entries.length + (Entry.fresh ours.entries theirs.entries).length :=
  List.length_append

theorem merge_of_compatible {ours theirs : Contract} (h : ours.Compatible theirs) :
    ours.merge theirs =
      .ok (ours.merged theirs, (Entry.fresh ours.entries theirs.entries).length) := by
  simp only [merge, mergeFault?_eq_none.mpr h, addEntries_eq, merged]

theorem merge_of_not_compatible {ours theirs : Contract} (h : ¬ ours.Compatible theirs) :
    ∃ fault, ours.merge theirs = .error fault := by
  obtain ⟨fault, hfault⟩ := Option.ne_none_iff_exists'.mp (mergeFault?_eq_none.not.mpr h)
  exact ⟨fault, by simp only [merge, hfault]⟩

end Contract

end MessageContract
