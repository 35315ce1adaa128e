import MessageContract.Contents.Basic
import MessageContract.Proofs.Json.Value
import MessageContract.Proofs.Node.Codec

/-!
Which values are content. Reading leads through items, members and examples, and not
into the attributes of a matched node; a value is content if each object with the
matcher key that it leads to tells its kind in a string, has a string for its generator
hint if it has one, and has the attributes that its kind reads as that kind needs them.
-/

namespace MessageContract

namespace Json

/-- A field of which null is as good as none. -/
def unlessNull : Option Json → Option Json
  | some .null => none
  | field => field

theorem unlessNull_eq_some {field : Option Json} {value : Json} :
    unlessNull field = some value ↔ field = some value ∧ value ≠ .null := by
  rcases field with _ | found
  · simp [unlessNull]
  · cases found <;> cases value <;> simp [unlessNull]

/-- What a field may hold is nothing, null, or what can be written for something. -/
theorem exists_unlessNull_eq_map {α : Type} {f : α → Json} (hnull : ∀ a, f a ≠ .null)
    {field : Option Json} :
    (∃ a : Option α, unlessNull field = a.map f) ↔
      ∀ value, field = some value → value = .null ∨ ∃ a, value = f a := by
  constructor
  · rintro ⟨a, ha⟩ value rfl
    cases value with
    | null => exact .inl rfl
    | _ =>
        obtain ⟨a, rfl, hvalue⟩ := Option.map_eq_some_iff.mp ha.symm
        exact .inr ⟨a, hvalue.symm⟩
  · intro h
    cases field with
    | none => exact ⟨none, rfl⟩
    | some value =>
        rcases h value rfl with rfl | ⟨a, rfl⟩
        · exact ⟨none, rfl⟩
        · refine ⟨some a, ?_⟩
          have ha := hnull a
          cases hvalue : f a <;> simp_all [unlessNull]

end Json

namespace Rule

/-- The kinds of rules that have a date pattern. -/
def datedKinds : List String := ["timestamp", "datetime", "date", "time"]

/-- The attributes that a kind reads are there as it needs them. -/
structure Fits (kind : String) (attributes : Fields Json) : Prop where
  pattern : kind = "regex" → ∃ text, Fields.get? "regex" attributes = some (.string text)
  bounds : kind = "type" → ∀ key ∈ ["min", "max"], ∀ value,
    Fields.get? key attributes = some value →
      value = .null ∨ ∃ n : Nat, n < UInt64.size ∧ value = .int n
  format : kind ∈ datedKinds → ∀ value,
    Fields.get? "format" attributes = some value → value = .null ∨ ∃ text, value = .string text

/-- A text is taken out that is written for none or for itself. -/
theorem stringAttribute_eq_ok_iff {key : String} {attributes rest : Fields Json}
    {text : Option String} :
    stringAttribute key attributes = .ok (text, rest) ↔
      Json.unlessNull (Fields.get? key attributes) = text.map .string ∧
        rest = Fields.erase key attributes := by
  unfold stringAttribute
  split
  case h_1 hget => cases text <;> simp [hget, Json.unlessNull, eq_comm]
  case h_2 hget => cases text <;> simp [hget, Json.unlessNull, eq_comm]
  case h_3 found hget => cases text <;> simp [hget, Json.unlessNull, eq_comm]
  case h_4 found hnull hstring hnone hget =>
    cases text <;> cases found <;> simp_all [Json.unlessNull]

/-- The numbers that are counts are those that are written for counts. -/
theorem unsigned?_eq_some {n : Number} {count : UInt64} :
    n.unsigned? = some count ↔ n = .integer count.toNat := by
  constructor
  · intro hcount
    cases n with
    | float x => cases hcount
    | integer n =>
        simp only [Number.unsigned?] at hcount
        split at hcount
        case isTrue hrange =>
          obtain rfl := Option.some.inj hcount
          have hsize : n.toNat < UInt64.size := by omega
          rw [UInt64.toNat_ofNat_of_lt' hsize, Int.toNat_of_nonneg hrange.1]
        case isFalse => cases hcount
  · rintro rfl
    exact unsigned?_toNat count

/-- A count is taken out that is written for none or for itself. -/
theorem countAttribute_eq_ok_iff {key : String} {attributes rest : Fields Json}
    {count : Option UInt64} :
    countAttribute key attributes = .ok (count, rest) ↔
      Json.unlessNull (Fields.get? key attributes) = count.map countJson ∧
        rest = Fields.erase key attributes := by
  unfold countAttribute
  split
  case h_1 hget => cases count <;> simp [hget, Json.unlessNull, eq_comm]
  case h_2 hget => cases count <;> simp [hget, Json.unlessNull, eq_comm]
  case h_3 n hget =>
    have hwritten (count : UInt64) : Json.number n = countJson count ↔
        n.unsigned? = some count := by
      rw [unsigned?_eq_some, countJson, Json.int, Json.number.injEq]
    cases hn : n.unsigned? with
    | none => cases count <;> simp [hget, Json.unlessNull, hwritten, hn]
    | some read => cases count <;> simp [hget, Json.unlessNull, hwritten, hn, eq_comm]
  case h_4 found hnull hnumber hget hnone =>
    cases count <;> cases found <;> simp_all [Json.unlessNull, countJson, Json.int]

/-- Written counts are the integers from zero that fit 64 bits. -/
theorem exists_countJson {value : Json} :
    (∃ count, value = countJson count) ↔ ∃ n : Nat, n < UInt64.size ∧ value = .int n := by
  constructor
  · rintro ⟨count, rfl⟩
    exact ⟨count.toNat, count.toNat_lt, rfl⟩
  · rintro ⟨n, hn, rfl⟩
    refine ⟨UInt64.ofNat n, ?_⟩
    rw [countJson, UInt64.toNat_ofNat_of_lt' hn]

theorem countAttribute_isOk_iff {key : String} {attributes : Fields Json} :
    (∃ read, countAttribute key attributes = .ok read) ↔
      ∀ value, Fields.get? key attributes = some value →
        value = .null ∨ ∃ n : Nat, n < UInt64.size ∧ value = .int n := by
  simp only [Prod.exists, countAttribute_eq_ok_iff, exists_and_left, exists_eq, and_true,
    ← exists_countJson]
  exact Json.exists_unlessNull_eq_map fun count => by simp [countJson, Json.int]

theorem stringAttribute_isOk_iff {key : String} {attributes : Fields Json} :
    (∃ read, stringAttribute key attributes = .ok read) ↔
      ∀ value, Fields.get? key attributes = some value →
        value = .null ∨ ∃ text, value = .string text := by
  simp only [Prod.exists, stringAttribute_eq_ok_iff, exists_and_left, exists_eq, and_true]
  exact Json.exists_unlessNull_eq_map fun text => by simp

/-! Each kind reads its own attributes and no others. -/

theorem Fits.congr {kind : String} {first second : Fields Json}
    (hsame : ∀ key ∈ ["regex", "min", "max", "format"],
      Fields.get? key first = Fields.get? key second) (h : Fits kind first) :
    Fits kind second where
  pattern hkind := by
    rw [← hsame "regex" (by simp)]
    exact h.pattern hkind
  bounds hkind key hkey := by
    have hread : key ∈ ["regex", "min", "max", "format"] := by
      simp only [List.mem_cons, List.not_mem_nil, or_false] at hkey ⊢
      exact .inr (hkey.imp_right .inl)
    rw [← hsame key hread]
    exact h.bounds hkind key hkey
  format hkind := by
    rw [← hsame "format" (by simp)]
    exact h.format hkind

theorem fits_of_not_mem {kind : String} (attributes : Fields Json)
    (hkind : kind ∉ ["type", "regex"] ++ datedKinds) : Fits kind attributes := by
  simp only [List.mem_append, List.mem_cons, List.not_mem_nil, or_false, not_or] at hkind
  exact {
    pattern := fun h => absurd h hkind.1.2
    bounds := fun h => absurd h hkind.1.1
    format := fun h => absurd h hkind.2 }

theorem fits_regex {attributes : Fields Json} :
    Fits "regex" attributes ↔ ∃ text, Fields.get? "regex" attributes = some (.string text) := by
  constructor
  · exact fun h => h.pattern rfl
  · exact fun h => {
      pattern := fun _ => h
      bounds := fun hkind => absurd hkind (by decide)
      format := fun hkind => absurd hkind (by decide) }

theorem fits_type {attributes : Fields Json} :
    Fits "type" attributes ↔ (∃ read, countAttribute "min" attributes = .ok read) ∧
      ∃ read, countAttribute "max" attributes = .ok read := by
  rw [countAttribute_isOk_iff, countAttribute_isOk_iff]
  constructor
  · exact fun h => ⟨h.bounds rfl "min" (by simp), h.bounds rfl "max" (by simp)⟩
  · exact fun h => {
      pattern := fun hkind => absurd hkind (by decide)
      bounds := fun _ => by simpa using h
      format := fun hkind => absurd hkind (by decide) }

theorem fits_dated {kind : String} {attributes : Fields Json} (hkind : kind ∈ datedKinds) :
    Fits kind attributes ↔ ∃ read, stringAttribute "format" attributes = .ok read := by
  rw [stringAttribute_isOk_iff]
  constructor
  · exact fun h => h.format hkind
  · refine fun h => { pattern := ?_, bounds := ?_, format := fun _ => h }
    · rintro rfl
      exact absurd hkind (by decide)
    · rintro rfl
      exact absurd hkind (by decide)

/-- A rule is read if the attributes fit its kind. -/
theorem read_isOk_iff {kind : String} {attributes : Fields Json} :
    (∃ read, Rule.read kind attributes = .ok read) ↔ Fits kind attributes := by
  unfold read
  split
  case h_2 =>
    -- taking out one bound does not touch the other
    have hmax : Fields.get? "max" (Fields.erase "min" attributes) =
        Fields.get? "max" attributes := Fields.get?_erase_ne (by decide) _
    have hleft {min : Option UInt64} {left : Fields Json}
        (hmin : countAttribute "min" attributes = .ok (min, left)) :
        (∃ read, countAttribute "max" left = .ok read) ↔
          ∃ read, countAttribute "max" attributes = .ok read := by
      rw [countAttribute_isOk_iff, countAttribute_isOk_iff, countAttribute_eq_ok hmin, hmax]
    rw [fits_type]
    simp only [Outcome.bind_isOk, Outcome.pure_isOk, and_true]
    constructor
    · rintro ⟨lower, hmin, hupper⟩
      exact ⟨⟨lower, hmin⟩, (hleft hmin).mp hupper⟩
    · rintro ⟨⟨lower, hmin⟩, hupper⟩
      exact ⟨lower, hmin, (hleft hmin).mpr hupper⟩
  case h_3 =>
    rw [fits_regex]
    constructor
    · rintro ⟨_, h⟩
      obtain ⟨⟨pattern, left⟩, hpattern, h⟩ := Outcome.bind_eq_ok.mp h
      cases pattern with
      | none => cases h
      | some text =>
          have hfound := (stringAttribute_eq_ok_iff.mp hpattern).1
          exact ⟨text, (Json.unlessNull_eq_some.mp hfound).1⟩
    · rintro ⟨text, htext⟩
      have hpattern : stringAttribute "regex" attributes =
          .ok (some text, Fields.erase "regex" attributes) := stringAttribute_of_get? htext
      exact ⟨_, Outcome.bind_eq_ok.mpr ⟨_, hpattern, rfl⟩⟩
  case h_10 | h_11 | h_12 | h_13 =>
    rw [fits_dated (by decide)]
    simp only [Outcome.bind_isOk, Outcome.pure_isOk, and_true]
  case h_15 =>
    refine iff_of_true ⟨_, rfl⟩ (fits_of_not_mem attributes ?_)
    simp_all [datedKinds]
  all_goals exact iff_of_true ⟨_, rfl⟩ (fits_of_not_mem attributes (by decide))

end Rule

namespace Json

/-- Reading content leads from one value to another. -/
inductive LeadsTo : Json → Json → Prop
  | refl (value : Json) : LeadsTo value value
  | item {items : List Json} {item found : Json} (hitem : item ∈ items)
      (h : LeadsTo item found) : LeadsTo (.array items) found
  | member {members : Fields Json} {member : String × Json} {found : Json}
      (hplain : Fields.get? matcherKey members = none) (hmember : member ∈ members)
      (h : LeadsTo member.2 found) : LeadsTo (.object members) found
  | sample {members : Fields Json} {kind sample found : Json}
      (hkind : Fields.get? matcherKey members = some kind)
      (hsample : Fields.get? sampleKey members = some sample) (h : LeadsTo sample found) :
      LeadsTo (.object members) found

/-- The members of a matched node, whatever its example is. -/
structure AreMatched (members : Fields Json) : Prop where
  kind : ∃ kind, Fields.get? matcherKey members = some (.string kind) ∧ Rule.Fits kind members
  generator : ∀ hint, Fields.get? generatorKey members = some hint → ∃ text, hint = .string text

/-- Each object with the matcher key that reading leads to can be read as a matched
node. -/
def IsContent (value : Json) : Prop :=
  ∀ members kind, value.LeadsTo (.object members) →
    Fields.get? matcherKey members = some kind → AreMatched members

end Json

namespace Node

open Json (AreMatched LeadsTo IsContent)

theorem ofItems_isOk_iff {items : List Json} :
    (∃ nodes, ofItems items = .ok nodes) ↔ ∀ item ∈ items, ∃ node, ofJson item = .ok node := by
  induction items with
  | nil => exact iff_of_true ⟨_, rfl⟩ (by simp)
  | cons item rest ih =>
      rw [List.forall_mem_cons, ← ih, ofItems]
      simp only [Outcome.bind_isOk, Outcome.pure_isOk, and_true, exists_and_right]

theorem ofMembers_isOk_iff {members : Fields Json} :
    (∃ nodes, ofMembers members = .ok nodes) ↔
      ∀ member ∈ members, ∃ node, ofJson member.2 = .ok node := by
  induction members with
  | nil => exact iff_of_true ⟨_, rfl⟩ (by simp)
  | cons member rest ih =>
      rw [List.forall_mem_cons, ← ih, ofMembers]
      simp only [Outcome.bind_isOk, Outcome.pure_isOk, and_true, exists_and_right]

theorem sampleOf_isOk_iff {members : Fields Json} :
    (∃ sample, sampleOf members = .ok sample) ↔
      ∀ value, Fields.get? sampleKey members = some value → ∃ node, ofJson value = .ok node := by
  rw [sampleOf_eq]
  cases Fields.get? sampleKey members with
  | none => simp
  | some value => cases hread : ofJson value <;> simp [Except.map, hread]

theorem takeGenerator_isOk_iff {members : Fields Json} :
    (∃ read, takeGenerator members = .ok read) ↔
      ∀ hint, Fields.get? generatorKey members = some hint → ∃ text, hint = .string text := by
  unfold takeGenerator
  split
  case h_1 hget => simp [hget]
  case h_2 hget => simp [hget]
  case h_3 found hstring hget => cases found <;> simp_all

theorem ofJson_array_isOk_iff {items : List Json} :
    (∃ node, ofJson (.array items) = .ok node) ↔
      ∀ item ∈ items, ∃ node, ofJson item = .ok node := by
  simp only [ofJson, Outcome.bind_isOk, Outcome.pure_isOk, and_true, ofItems_isOk_iff]

theorem ofJson_plain_isOk_iff {members : Fields Json}
    (hplain : Fields.get? matcherKey members = none) :
    (∃ node, ofJson (.object members) = .ok node) ↔
      ∀ member ∈ members, ∃ node, ofJson member.2 = .ok node := by
  simp only [ofJson, hplain, Outcome.bind_isOk, Outcome.pure_isOk, and_true, ofMembers_isOk_iff]

theorem get?_erase_reserved {key : String} (hkey : key ∉ reservedKeys) (members : Fields Json) :
    Fields.get? key (Fields.erase generatorKey
      (Fields.erase sampleKey (Fields.erase matcherKey members))) = Fields.get? key members := by
  simp only [reservedKeys, List.mem_cons, List.not_mem_nil, or_false, not_or] at hkey
  rw [Fields.get?_erase_ne hkey.2.2, Fields.get?_erase_ne hkey.2.1, Fields.get?_erase_ne hkey.1]

/-- What is left for the rule is all but the kind, the example and the hint. -/
theorem get?_rest {members rest : Fields Json} {hint : Option String} {key : String}
    (hrest : takeGenerator (Fields.erase sampleKey (Fields.erase matcherKey members)) =
      .ok (hint, rest)) (hkey : key ∉ reservedKeys) :
    Fields.get? key rest = Fields.get? key members := by
  rw [(takeGenerator_eq_ok_iff.mp hrest).2, get?_erase_reserved hkey]

theorem fits_rest {kind : String} {members rest : Fields Json} {hint : Option String}
    (hrest : takeGenerator (Fields.erase sampleKey (Fields.erase matcherKey members)) =
      .ok (hint, rest)) :
    Rule.Fits kind rest ↔ Rule.Fits kind members := by
  have hsame : ∀ key ∈ ["regex", "min", "max", "format"],
      Fields.get? key rest = Fields.get? key members := by
    intro key hkey
    apply get?_rest hrest
    revert key
    decide
  exact ⟨.congr hsame, .congr fun key hkey => (hsame key hkey).symm⟩

/-- A matched node is read if its object can be and its example is read. -/
theorem ofJson_matched_isOk_iff {members : Fields Json} {kind : Json}
    (hkind : Fields.get? matcherKey members = some kind) :
    (∃ node, ofJson (.object members) = .ok node) ↔
      AreMatched members ∧ ∀ sample, Fields.get? sampleKey members = some sample →
        ∃ node, ofJson sample = .ok node := by
  have hgenerator :
      (∃ read, takeGenerator (Fields.erase sampleKey (Fields.erase matcherKey members)) =
        .ok read) ↔
          ∀ hint, Fields.get? generatorKey members = some hint → ∃ text, hint = .string text := by
    rw [takeGenerator_isOk_iff, Fields.get?_erase_ne (by decide),
      Fields.get?_erase_ne (by decide)]
  cases kind with
  | string kind =>
      simp only [ofJson, hkind, Outcome.bind_isOk, Outcome.pure_isOk, and_true,
        ← sampleOf_isOk_iff]
      constructor
      · rintro ⟨sample, hsample, ⟨hint, rest⟩, hrest, hrule⟩
        have hfits := (fits_rest hrest).mp (Rule.read_isOk_iff.mp hrule)
        exact ⟨⟨⟨kind, hkind, hfits⟩, hgenerator.mp ⟨_, hrest⟩⟩, ⟨sample, hsample⟩⟩
      · rintro ⟨⟨⟨found, hfound, hfits⟩, hhints⟩, ⟨sample, hsample⟩⟩
        obtain rfl : kind = found := by simpa [hkind] using hfound
        obtain ⟨⟨hint, rest⟩, hrest⟩ := hgenerator.mpr hhints
        exact ⟨sample, hsample, ⟨hint, rest⟩, hrest,
          Rule.read_isOk_iff.mpr ((fits_rest hrest).mpr hfits)⟩
  | _ =>
      apply iff_of_false
      · simp [ofJson, hkind]
      · rintro ⟨⟨⟨found, hfound, -⟩, -⟩, -⟩
        simp [hkind] at hfound

/-- What is read leads to what is read. -/
theorem isOk_of_leadsTo {value found : Json} (h : value.LeadsTo found) :
    (∃ node, ofJson value = .ok node) → ∃ node, ofJson found = .ok node := by
  induction h with
  | refl => exact id
  | item hitem _ ih => exact fun hread => ih (ofJson_array_isOk_iff.mp hread _ hitem)
  | member hplain hmember _ ih =>
      exact fun hread => ih ((ofJson_plain_isOk_iff hplain).mp hread _ hmember)
  | sample hkind hsample _ ih =>
      exact fun hread => ih (((ofJson_matched_isOk_iff hkind).mp hread).2 _ hsample)

theorem isOk_of_isContent {value : Json} (h : value.IsContent) :
    ∃ node, ofJson value = .ok node := by
  induction value using Json.induction with
  | null | bool | number | string => exact ⟨_, rfl⟩
  | array items ih =>
      apply ofJson_array_isOk_iff.mpr
      intro item hitem
      exact ih item hitem fun members kind hfound => h members kind (.item hitem hfound)
  | object members ih =>
      cases hkind : Fields.get? matcherKey members with
      | none =>
          apply (ofJson_plain_isOk_iff hkind).mpr
          intro member hmember
          exact ih member hmember fun found kind hfound =>
            h found kind (.member hkind hmember hfound)
      | some kind =>
          apply (ofJson_matched_isOk_iff hkind).mpr
          refine ⟨h members kind (.refl _) hkind, ?_⟩
          intro sample hsample
          exact ih _ (Fields.mem_of_get? hsample) fun found kind hfound =>
            h found kind (.sample hkind hsample hfound)

theorem ofJson_isOk_iff {value : Json} : (∃ node, ofJson value = .ok node) ↔ value.IsContent := by
  constructor
  · intro hread members kind hfound hkind
    exact ((ofJson_matched_isOk_iff hkind).mp (isOk_of_leadsTo hfound hread)).1
  · exact isOk_of_isContent

/-- A value is read if and only if it is content, and otherwise the matcher is
invalid. -/
theorem ofJson_isOk_iff_isContent (value : Json) :
    ((∃ node, Contents.liftMatcher (ofJson value) = .ok node) ↔ value.IsContent) ∧
    ((∃ fault, Contents.liftMatcher (ofJson value) = .error (.invalidMatcher fault)) ↔
      ¬value.IsContent) := by
  rw [← ofJson_isOk_iff]
  cases ofJson value <;> simp [Contents.liftMatcher]

end Node

end MessageContract
