import MessageContract.Contract.Basic
import MessageContract.Proofs.Node.Plain

/-!
Sameness of contracts as equality of plain forms, and likeness of entries as
equality of their cores: a core is the plain form without the members of other
tools. So both are equivalences, and likeness is the coarser one.
-/

namespace MessageContract

namespace ProviderState

def plain (state : ProviderState) : ProviderState :=
  { state with params := state.params.mapValues Json.plain }

theorem same_iff_plain (a b : ProviderState) : a.same b = true ↔ a.plain = b.plain := by
  simp [same, plain, Fields.sameWith_iff_mapValues Json.same_iff_plain]

theorem sameAll_iff_plain (as bs : List ProviderState) :
    sameAll as bs = true ↔ as.map plain = bs.map plain := by
  induction as generalizing bs with
  | nil => cases bs <;> simp [sameAll]
  | cons a as ih =>
      cases bs with
      | nil => simp [sameAll]
      | cons b bs => simp [sameAll, same_iff_plain, ih]

end ProviderState

namespace Contents

def plain : Contents → Contents
  | .json contentType body => .json contentType body.plain
  | other => other

theorem same_iff_plain (a b : Contents) : a.same b = true ↔ a.plain = b.plain := by
  cases a <;> cases b <;> simp [same, plain, Node.same_iff_plain]

end Contents

namespace Interaction

def plain (i : Interaction) : Interaction :=
  { i with
    states := i.states.map ProviderState.plain
    contents := i.contents.plain
    extra := i.extra.mapValues Json.plain }

/-- What likeness looks at. -/
def core (i : Interaction) : Interaction :=
  { i.plain with extra := [] }

theorem alike_iff_core (a b : Interaction) : a.alike b = true ↔ a.core = b.core := by
  simp [alike, core, plain, ProviderState.sameAll_iff_plain, Contents.same_iff_plain, and_assoc]

theorem same_iff_plain (a b : Interaction) : a.same b = true ↔ a.plain = b.plain := by
  simp [same, alike, plain, ProviderState.sameAll_iff_plain, Contents.same_iff_plain,
    Fields.sameWith_iff_mapValues Json.same_iff_plain, and_assoc]

end Interaction

namespace Entry

def plain : Entry → Entry
  | .message i => .message i.plain
  | .other value => .other value.plain

def core : Entry → Entry
  | .message i => .message i.core
  | .other value => .other value.plain

theorem same_iff_plain (a b : Entry) : a.same b = true ↔ a.plain = b.plain := by
  cases a <;> cases b <;> simp [same, plain, Interaction.same_iff_plain, Json.same_iff_plain]

theorem alike_iff_core (a b : Entry) : a.alike b = true ↔ a.core = b.core := by
  cases a <;> cases b <;> simp [alike, core, Interaction.alike_iff_core, Json.same_iff_plain]

/-- Likeness does not look at more than sameness does. -/
theorem core_eq_of_plain_eq {a b : Entry} (h : a.plain = b.plain) : a.core = b.core := by
  cases a <;> cases b <;> simp_all [plain, core, Interaction.core]

theorem map_core_of_map_plain {as bs : List Entry} (h : as.map plain = bs.map plain) :
    as.map core = bs.map core := by
  induction as generalizing bs with
  | nil =>
      obtain rfl := List.map_eq_nil_iff.mp h.symm
      rfl
  | cons a as ih =>
      obtain ⟨b, bs, rfl, hb, hbs⟩ := List.map_eq_cons_iff.mp h.symm
      rw [List.map_cons, List.map_cons, ih hbs.symm, core_eq_of_plain_eq hb]

end Entry

namespace Contract

def Metadata.plain (m : Metadata) : Metadata :=
  { m with extra := m.extra.mapValues Json.plain }

theorem Metadata.same_iff_plain (a b : Metadata) : a.same b = true ↔ a.plain = b.plain := by
  simp [Metadata.same, Metadata.plain, Fields.sameWith_iff_mapValues Json.same_iff_plain]

def plain (c : Contract) : Contract :=
  { c with entries := c.entries.map Entry.plain, metadata := c.metadata.plain }

theorem sameEntries_iff_plain (as bs : List Entry) :
    sameEntries as bs = true ↔ as.map Entry.plain = bs.map Entry.plain := by
  induction as generalizing bs with
  | nil => cases bs <;> simp [sameEntries]
  | cons a as ih =>
      cases bs with
      | nil => simp [sameEntries]
      | cons b bs => simp [sameEntries, Entry.same_iff_plain, ih]

theorem same_iff_plain (a b : Contract) : a.same b = true ↔ a.plain = b.plain := by
  simp [same, plain, sameEntries_iff_plain, Metadata.same_iff_plain, and_assoc]

end Contract

end MessageContract
