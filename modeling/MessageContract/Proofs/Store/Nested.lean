import MessageContract.Proofs.Store.Kept

/-!
What other tools have put into the parts of a message. A message keeps members of other
tools beside its own, but its contents and its preconditions are records of their own that
keep none. So these are lost as soon as the file is written anew, whatever it is written for.
-/

namespace MessageContract.Store

variable {store : Store} {c existing : Contract} {disk after : Disk} {written : Written}

/-! A message with a note in its contents and a date in its precondition, of another tool. -/

def notedEvent : Json :=
  .object
    [("contents", .object [("content", .string "sold out"), ("note", .string "draft")]),
      ("description", .string "an event"),
      ("providerStates", .array [.object [("name", .string "a shelf"), ("since", .string "May")]]),
      ("type", .string "Asynchronous/Messages")]

/-- What is read of the message. -/
def notedMessage : Interaction :=
  { description := "an event", states := [{ name := "a shelf" }]
    contents := .json MediaType.json (.string "sold out") }

def notedContract : Contract :=
  { consumer := "shop", provider := "stock", entries := [.other notedEvent]
    metadata := { specification := "4.0", extra := [] } }

def notedDisk : Disk :=
  stockDisk notedContract.toBytes

theorem load_notedDisk :
    load notedDisk ⟨"pacts"⟩ "shop" "stock" =
      .ok (some { notedContract with entries := [.message notedMessage] }) :=
  load_stockDisk rfl

/-- Another message is merged into the file. -/
theorem exists_write_notedDisk :
    ∃ written after,
      write ⟨"pacts"⟩ ((Contract.new "shop" "stock").add { description := "another event" }).1 false
        notedDisk = (.ok written, after) ∧ written.event ≠ none :=
  write_of_differs (ready_stockDisk _) load_notedDisk ⟨rfl, rfl, rfl⟩ (by decide +kernel)
    (replaceable_stockDisk _)

/-- After a write that merges into a file, either nothing was to be written and the file is
the one it was, or within the contents and the preconditions of each message in the file
there is nothing left of other tools. -/
theorem write_drops_nested
    (hload : store.load disk c.consumer c.provider = .ok (some existing))
    (hrun : store.write c false disk = (.ok written, after)) {i : Nat} {m : Interaction}
    (hentry : existing.entries[i]? = some (.message m)) :
    (written.event = none →
      after.file? (store.fileNames c.consumer c.provider) =
        disk.file? (store.fileNames c.consumer c.provider)) ∧
    (written.event ≠ none →
      ∃ bytes, after.file? (store.fileNames c.consumer c.provider) = some bytes ∧
        ((∃ loaded, Contract.ofBytes bytes = .ok loaded) →
          ∃ value, Contract.entryValue? bytes i = some value) ∧
        ∀ value, Contract.entryValue? bytes i = some value → Interaction.Bare value) := by
  obtain ⟨-, before, hbefore, hparse, hwritten⟩ := file_of_write hload hrun
  have hexisting := Contract.loaded_of_ofBytes hparse
  constructor
  · intro hnone
    obtain ⟨-, hfile⟩ := hwritten.resolve_right fun hsome => hsome.1 hnone
    rw [hfile, hbefore]
  intro hsome
  obtain ⟨-, hfile⟩ := hwritten.resolve_left fun hnone => hsome hnone.1
  refine ⟨_, hfile, ?_, ?_⟩
  · rintro ⟨loaded, hloaded⟩
    have hread := (Contract.ofBytes_toBytes _ loaded).mp hloaded
    obtain ⟨items, extra, hrereads, -⟩ := Contract.reread?_eq_some.mp hread
    exact ⟨_, hexisting.entryValue?_message hentry hrereads⟩
  · intro value hvalue
    obtain ⟨items, extra, hrereads⟩ := Contract.exists_rereads hvalue
    obtain rfl := Option.some.inj
      ((hexisting.entryValue?_message hentry hrereads).symm.trans hvalue)
    obtain ⟨read, -, hread⟩ := hexisting.entries _ (List.mem_of_getElem? hentry)
    have hsound := Interaction.sound_of_ofJson? (Entry.ofJson_eq_message.mp hread)
    exact (hsound.mapFloats Binary64.reread).bare

/-- Neither the note nor the date is left in the file that another message has been merged
into. -/
theorem write_drops_nested_noted :
    let store : Store := ⟨"pacts"⟩
    let c : Contract := ((Contract.new "shop" "stock").add { description := "another event" }).1
    ∃ written after bytes value, store.write c false notedDisk = (.ok written, after) ∧
      after.file? (store.fileNames "shop" "stock") = some bytes ∧
      Contract.entryValue? bytes 0 = some value ∧ Interaction.Bare value := by
  intro store c
  obtain ⟨written, after, hrun, hevent⟩ := exists_write_notedDisk
  obtain ⟨-, _, _, _, hwritten⟩ := file_of_write (c := c) load_notedDisk hrun
  obtain ⟨-, hmerged⟩ := hwritten.resolve_left fun hnone => hevent hnone.1
  obtain ⟨-, hdrops⟩ := write_drops_nested (c := c) (i := 0) load_notedDisk hrun rfl
  obtain ⟨bytes, hfile, hreads, hbare⟩ := hdrops hevent
  obtain rfl := Option.some.inj (hmerged.symm.trans hfile)
  obtain ⟨value, hvalue⟩ := hreads ⟨_, (Contract.ofBytes_toBytes _ _).mpr rfl⟩
  exact ⟨written, after, _, value, hrun, hfile, hvalue, hbare value hvalue⟩

/-- The note and the date are in the file, whose one interaction is read as a message, and
not in the file that another message has been merged into. -/
theorem write_loses_note :
    let store : Store := ⟨"pacts"⟩
    let c : Contract := ((Contract.new "shop" "stock").add { description := "another event" }).1
    let note? (value : Json) : Option Json := do (← value.member? "contents").member? "note"
    let since? (value : Json) : Option Json := do
      (← (← (← value.member? "providerStates").items?)[0]?).member? "since"
    ∃ existing written after bytes old new,
      store.load notedDisk "shop" "stock" = .ok (some existing) ∧
      existing.entries = [.message notedMessage] ∧
      store.write c false notedDisk = (.ok written, after) ∧
      after.file? (store.fileNames "shop" "stock") = some bytes ∧
      Contract.entryValue? notedContract.toBytes 0 = some old ∧
      note? old = some (.string "draft") ∧ since? old = some (.string "May") ∧
      Contract.entryValue? bytes 0 = some new ∧ note? new = none ∧ since? new = none := by
  intro store c note? since?
  obtain ⟨written, after, hrun, hevent⟩ := exists_write_notedDisk
  obtain ⟨-, _, _, hparse, hwritten⟩ := file_of_write (c := c) load_notedDisk hrun
  obtain ⟨-, hfile⟩ := hwritten.resolve_left fun hnone => hevent hnone.1
  let existing : Contract := { notedContract with entries := [.message notedMessage] }
  have hread : notedContract.reread? = some existing := rfl
  have hreadMerged : (existing.merged c).reread? = some (existing.merged c) := rfl
  obtain ⟨_, _, hbefore, -⟩ := Contract.reread?_eq_some.mp hread
  obtain ⟨_, _, hnow, -⟩ := Contract.reread?_eq_some.mp hreadMerged
  have hmessage := (Contract.loaded_of_ofBytes hparse).entryValue?_message (i := 0) rfl hnow
  exact ⟨_, written, after, _, notedEvent, _, load_notedDisk, rfl, hrun, hfile,
    hbefore.entryValue? 0, rfl, rfl, hmessage, rfl, rfl⟩

end MessageContract.Store
