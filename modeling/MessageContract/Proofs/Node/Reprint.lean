import MessageContract.Proofs.Node.Grammar
import MessageContract.Proofs.Node.Value

/-!
Content that was read and is written again. It is the value that was read but for null
bounds and null date patterns of the kinds that have them, which are as good as none and
are left out.
-/

namespace MessageContract

namespace Rule

/-- The attributes of a kind that may be null instead of absent. -/
def nullableKeys (kind : String) : List String :=
  if kind = "type" then ["min", "max"] else if kind ∈ datedKinds then ["format"] else []

/-- What a kind writes in the place of an attribute. -/
def kept (kind key : String) (field : Option Json) : Option Json :=
  if key ∈ nullableKeys kind then Json.unlessNull field else field

end Rule

namespace Json

def isNull : Json → Bool
  | .null => true
  | _ => false

mutual

/-- The value without the null attributes of the matched nodes that reading leads to. -/
def withoutNulls : Json → Json
  | .array items => .array (itemsWithoutNulls items)
  | .object members =>
      match Fields.get? matcherKey members with
      | none => .object (membersWithoutNulls members)
      | some (.string kind) => .object (matchedWithoutNulls kind members)
      | some _ => .object members
  | leaf => leaf

def itemsWithoutNulls : List Json → List Json
  | [] => []
  | item :: rest => withoutNulls item :: itemsWithoutNulls rest

def membersWithoutNulls : List (String × Json) → List (String × Json)
  | [] => []
  | (key, value) :: rest => (key, withoutNulls value) :: membersWithoutNulls rest

/-- Of a matched node the example is content, and all else is kept unless it is null
and of no use. -/
def matchedWithoutNulls (kind : String) : List (String × Json) → List (String × Json)
  | [] => []
  | (key, value) :: rest =>
      if key = sampleKey then (key, withoutNulls value) :: matchedWithoutNulls kind rest
      else if key ∈ Rule.nullableKeys kind ∧ value.isNull then matchedWithoutNulls kind rest
      else (key, value) :: matchedWithoutNulls kind rest

end

theorem itemsWithoutNulls_eq (items : List Json) :
    itemsWithoutNulls items = items.map withoutNulls := by
  induction items with
  | nil => rfl
  | cons item rest ih => rw [itemsWithoutNulls, ih, List.map_cons]

theorem membersWithoutNulls_eq (members : Fields Json) :
    membersWithoutNulls members = members.mapValues withoutNulls := by
  induction members with
  | nil => rfl
  | cons member rest ih =>
      rw [membersWithoutNulls, ih]
      rfl

theorem withoutNulls_plain {members : Fields Json}
    (hplain : Fields.get? matcherKey members = none) :
    (Json.object members).withoutNulls = .object (members.mapValues withoutNulls) := by
  rw [withoutNulls, hplain]
  exact congrArg Json.object (membersWithoutNulls_eq members)

theorem withoutNulls_matched {members : Fields Json} {kind : String}
    (hkind : Fields.get? matcherKey members = some (.string kind)) :
    (Json.object members).withoutNulls = .object (matchedWithoutNulls kind members) := by
  rw [withoutNulls, hkind]

/-- What a matched node of a kind is written with in the place of a field. -/
def writtenField (kind key : String) (field : Option Json) : Option Json :=
  if key = sampleKey then field.map withoutNulls else Rule.kept kind key field

theorem writtenField_none (kind key : String) : writtenField kind key none = none := by
  simp [writtenField, Rule.kept, unlessNull]

/-- Each field is written for itself, or is left out. -/
theorem matchedWithoutNulls_cons (kind : String) (member : String × Json) (rest : Fields Json) :
    matchedWithoutNulls kind (member :: rest) =
      match writtenField kind member.1 (some member.2) with
      | none => matchedWithoutNulls kind rest
      | some value => (member.1, value) :: matchedWithoutNulls kind rest := by
  obtain ⟨key, value⟩ := member
  rw [matchedWithoutNulls, writtenField]
  by_cases hsample : key = sampleKey
  · simp [hsample]
  · by_cases hkey : key ∈ Rule.nullableKeys kind
    · cases value <;> simp [hsample, hkey, isNull, Rule.kept, unlessNull]
    · simp [hsample, hkey, Rule.kept]

theorem get?_matchedWithoutNulls {members : Fields Json} (hsorted : Fields.Sorted members)
    (kind key : String) :
    Fields.get? key (matchedWithoutNulls kind members) =
      writtenField kind key (Fields.get? key members) := by
  induction members with
  | nil => rw [matchedWithoutNulls, Fields.get?, writtenField_none]
  | cons member rest ih =>
      obtain ⟨hlater, hrest⟩ := List.pairwise_cons.mp hsorted
      rw [matchedWithoutNulls_cons]
      by_cases hkey : member.1 = key
      · -- a field that is left out does not come again
        have habsent : Fields.get? key rest = none := by
          rw [Fields.get?_eq_none_iff, ← hkey]
          exact fun field hfield => (String.ne_of_lt (hlater field hfield)).symm
        have hrest : Fields.get? key (matchedWithoutNulls kind rest) = none := by
          rw [ih hrest, habsent, writtenField_none]
        rw [hkey]
        cases hwritten : writtenField kind key (some member.2) <;>
          simp [Fields.get?, hkey, hrest, hwritten]
      · cases writtenField kind member.1 (some member.2) <;>
          simp [Fields.get?, hkey, ih hrest]

theorem sorted_matchedWithoutNulls {members : Fields Json} (hsorted : Fields.Sorted members)
    (kind : String) : Fields.Sorted (matchedWithoutNulls kind members) := by
  have hkeys : ((matchedWithoutNulls kind members).map Prod.fst).Sublist
      (members.map Prod.fst) := by
    clear hsorted
    induction members with
    | nil => exact List.Sublist.refl _
    | cons member rest ih =>
        rw [matchedWithoutNulls_cons]
        split
        · exact ih.cons _
        · exact ih.cons_cons _
  rw [Fields.sorted_iff_keys] at hsorted ⊢
  exact hsorted.sublist hkeys

end Json

namespace Rule

theorem not_nullable_of_reserved {key : String} (hkey : key ∈ reservedKeys) (kind : String) :
    key ∉ nullableKeys kind := by
  simp only [reservedKeys, matcherKey, sampleKey, generatorKey, List.mem_cons, List.not_mem_nil,
    or_false] at hkey
  unfold nullableKeys
  rcases hkey with rfl | rfl | rfl <;> split_ifs <;> decide

theorem nullableKeys_of_dated {kind : String} (hkind : kind ∈ datedKinds) :
    nullableKeys kind = ["format"] := by
  have htype : kind ≠ "type" := by
    rintro rfl
    exact absurd hkind (by decide)
  rw [nullableKeys, if_neg htype, if_pos hkind]

theorem kept_of_nil {kind : String} (hkind : nullableKeys kind = []) (key : String)
    (field : Option Json) : kept kind key field = field := by
  rw [kept, hkind, if_neg List.not_mem_nil]

section Attributes

variable {attributes : Fields Json}

theorem get?_write_sameType {min max : Option UInt64}
    (hmin : Json.unlessNull (Fields.get? "min" attributes) = min.map countJson)
    (hmax : Json.unlessNull (Fields.get? "max" attributes) = max.map countJson) (key : String) :
    Fields.get? key
        ((sameType min max).write (Fields.erase "max" (Fields.erase "min" attributes))) =
      kept "type" key (Fields.get? key attributes) := by
  have hne : ("max" : String) ≠ "min" := by decide
  have hkeys : nullableKeys "type" = ["min", "max"] := rfl
  rw [kept, hkeys, write]
  by_cases hmaxKey : key = "max"
  · have habsent : Fields.get? "max" (Fields.insert? "min" (min.map countJson)
        (Fields.erase "max" (Fields.erase "min" attributes))) = none := by
      rw [Fields.get?_insert?_ne hne, Fields.get?_erase_self]
    rw [hmaxKey, Fields.get?_insert?_self _ habsent, ← hmax]
    simp
  · rw [Fields.get?_insert?_ne hmaxKey, Fields.erase_comm, Fields.get?_insert?_erase,
      Fields.get?_erase_ne hmaxKey, ← hmin]
    by_cases hminKey : key = "min" <;> simp [hminKey, hmaxKey]

theorem get?_write_regex {text : String}
    (hpattern : Fields.get? "regex" attributes = some (.string text)) (key : String) :
    Fields.get? key ((regex text).write (Fields.erase "regex" attributes)) =
      Fields.get? key attributes := by
  change Fields.get? key (Fields.insert? "regex" (some (Json.string text)) _) = _
  rw [Fields.get?_insert?_erase, ← hpattern]
  by_cases hkey : key = "regex" <;> simp [hkey]

theorem get?_insert?_format {kind : String} (hkind : kind ∈ datedKinds) {format : Option String}
    (hformat : Json.unlessNull (Fields.get? "format" attributes) = format.map .string)
    (key : String) :
    Fields.get? key
        (Fields.insert? "format" (format.map .string) (Fields.erase "format" attributes)) =
      kept kind key (Fields.get? key attributes) := by
  rw [kept, nullableKeys_of_dated hkind, Fields.get?_insert?_erase, ← hformat]
  by_cases hkey : key = "format" <;> simp [hkey]

/-- What a rule writes beside the attributes that it left is what it was read from,
but for what was null. -/
theorem get?_write_of_read {kind : String} {rest : Fields Json} {rule : Rule}
    (h : read kind attributes = .ok (rule, rest)) (key : String) :
    Fields.get? key (rule.write rest) = kept kind key (Fields.get? key attributes) := by
  unfold read at h
  split at h
  case h_2 =>
    obtain ⟨⟨min, afterMin⟩, hmin, h⟩ := Outcome.bind_eq_ok.mp h
    obtain ⟨⟨max, afterMax⟩, hmax, h⟩ := Outcome.bind_eq_ok.mp h
    cases h
    obtain ⟨hlower, rfl⟩ := countAttribute_eq_ok_iff.mp hmin
    obtain ⟨hupper, rfl⟩ := countAttribute_eq_ok_iff.mp hmax
    rw [Fields.get?_erase_ne (by decide)] at hupper
    exact get?_write_sameType hlower hupper key
  case h_3 =>
    obtain ⟨⟨pattern, left⟩, hpattern, h⟩ := Outcome.bind_eq_ok.mp h
    cases pattern with
    | none => cases h
    | some text =>
        cases h
        obtain ⟨hfound, rfl⟩ := stringAttribute_eq_ok_iff.mp hpattern
        rw [kept_of_nil rfl]
        exact get?_write_regex (Json.unlessNull_eq_some.mp hfound).1 key
  case h_10 | h_11 | h_12 | h_13 =>
    obtain ⟨⟨format, left⟩, hformat, h⟩ := Outcome.bind_eq_ok.mp h
    cases h
    obtain ⟨hfound, rfl⟩ := stringAttribute_eq_ok_iff.mp hformat
    exact get?_insert?_format (by decide) hfound key
  case h_15 =>
    cases h
    rw [kept_of_nil (by simp_all [nullableKeys, datedKinds])]
    rfl
  all_goals
    cases h
    rw [kept_of_nil rfl]
    rfl

end Attributes

end Rule

theorem Json.LeadsTo.isValue {value found : Json} (h : value.LeadsTo found)
    (hvalue : value.IsValue) : found.IsValue := by
  induction h with
  | refl => exact hvalue
  | item hitem _ ih => exact ih (Json.isValue_array.mp hvalue _ hitem)
  | member _ hmember _ ih => exact ih ((Json.isValue_object.mp hvalue).2 _ hmember)
  | sample _ hsample _ ih =>
      exact ih ((Json.isValue_object.mp hvalue).2 _ (Fields.mem_of_get? hsample))

namespace Node

open Json (writtenField)

/-- The object of a matched node that was read has what is written for each field. -/
theorem get?_matchedJson_of_read {members : Fields Json} {kind : String} {rule : Rule}
    {sample : Option Node} {generator : Option String} {attributes rest : Fields Json}
    (hkind : Fields.get? matcherKey members = some (.string kind))
    (hgenerator : takeGenerator (Fields.erase sampleKey (Fields.erase matcherKey members)) =
      .ok (generator, rest))
    (hrule : Rule.read kind rest = .ok (rule, attributes))
    (hsample : sampleJson sample = (Fields.get? sampleKey members).map Json.withoutNulls) :
    ∃ written, matchedJson rule (sampleJson sample) generator attributes = .object written ∧
      ∀ key, Fields.get? key written = writtenField kind key (Fields.get? key members) := by
  obtain ⟨-, hapart⟩ := attributesApart_of_read hgenerator hrule
  obtain ⟨-, hsameKind, -⟩ := Rule.read_eq_ok hrule
  obtain ⟨written, hwritten, hkindWritten, hsampleWritten, hhintWritten, hothers⟩ :=
    matchedJson_eq_object (sampleJson sample) generator hapart
  refine ⟨written, hwritten, ?_⟩
  intro key
  by_cases hkey : key ∈ reservedKeys
  · have hnotNull := Rule.not_nullable_of_reserved hkey kind
    simp only [reservedKeys, List.mem_cons, List.not_mem_nil, or_false] at hkey
    rcases hkey with rfl | rfl | rfl
    · rw [hkindWritten, hsameKind, hkind, writtenField, if_neg (by decide), Rule.kept,
        if_neg hnotNull]
    · rw [hsampleWritten, hsample, writtenField, if_pos rfl]
    · have hhint := (takeGenerator_eq_ok_iff.mp hgenerator).1
      rw [Fields.get?_erase_ne (by decide), Fields.get?_erase_ne (by decide)] at hhint
      rw [hhintWritten, hhint, writtenField, if_neg (by decide), Rule.kept, if_neg hnotNull]
  · have hne : key ≠ sampleKey := by
      rintro rfl
      exact hkey (by simp [reservedKeys])
    rw [← get?_erase_reserved hkey, hothers, Rule.get?_write_of_read hrule,
      get?_rest hgenerator hkey, writtenField, if_neg hne]

/-- Content that was read is written without the nulls that are as good as none. -/
theorem toJson_of_ofJson {value : Json} {node : Node} (hvalue : value.IsValue)
    (h : ofJson value = .ok node) : node.toJson = value.withoutNulls := by
  induction value using Json.induction generalizing node with
  | null | bool | number | string =>
      cases h
      rfl
  | array items ih =>
      have hvalues := Json.isValue_array.mp hvalue
      obtain ⟨nodes, rfl, hitems⟩ := ofJson_array_eq_ok h
      rw [toJson, itemsJson_eq, Json.withoutNulls, Json.itemsWithoutNulls_eq]
      apply congrArg Json.array
      apply Outcome.map_eq_map_of_forall₂ hitems
      exact fun item hitem _ => ih item hitem (hvalues item hitem)
  | object members ih =>
      obtain ⟨hsorted, hvalues⟩ := Json.isValue_object.mp hvalue
      obtain ⟨hplain, nodes, rfl, hmembers⟩ |
        ⟨kind, rule, sample, generator, attributes, rest, hkind, rfl, hsample, hgenerator, hrule⟩ :=
        ofJson_object_eq_ok h
      · rw [toJson, membersJson_eq, Json.withoutNulls_plain hplain]
        apply congrArg Json.object
        apply Outcome.map_eq_map_of_forall₂ hmembers
        rintro member hmember node ⟨hkey, hread⟩
        rw [hkey, ih member hmember (hvalues member hmember) hread]
      · have hwrittenValue := isValue_of_ofJson _ hvalue h
        have hsampleWritten :
            sampleJson sample = (Fields.get? sampleKey members).map Json.withoutNulls := by
          obtain ⟨hget, rfl⟩ | ⟨value, node, hget, hread, rfl⟩ := sampleOf_eq_ok hsample
          · rw [hget, sampleJson, Option.map_none]
          · have hmember := Fields.mem_of_get? hget
            rw [hget, sampleJson, ih _ hmember (hvalues _ hmember) hread, Option.map_some]
        obtain ⟨written, hwritten, hfields⟩ :=
          get?_matchedJson_of_read hkind hgenerator hrule hsampleWritten
        rw [toJson, hwritten] at hwrittenValue ⊢
        rw [Json.withoutNulls_matched hkind]
        apply congrArg Json.object
        apply Fields.ext_get? (Json.isValue_object.mp hwrittenValue).1
          (Json.sorted_matchedWithoutNulls hsorted kind)
        intro key
        rw [hfields, Json.get?_matchedWithoutNulls hsorted]

/-- What reading leads to is written where reading what is written leads. -/
theorem leadsTo_withoutNulls {value found : Json} (hfound : value.LeadsTo found)
    (hvalue : value.IsValue) (hread : ∃ node, ofJson value = .ok node) :
    value.withoutNulls.LeadsTo found.withoutNulls := by
  induction hfound with
  | refl => exact .refl _
  | item hitem _ ih =>
      rw [Json.withoutNulls, Json.itemsWithoutNulls_eq]
      exact .item (List.mem_map_of_mem hitem)
        (ih (Json.isValue_array.mp hvalue _ hitem) (ofJson_array_isOk_iff.mp hread _ hitem))
  | @member members member _ hplain hmember _ ih =>
      rw [Json.withoutNulls_plain hplain]
      have hwritten : (member.1, member.2.withoutNulls) ∈
          Fields.mapValues Json.withoutNulls members := List.mem_map_of_mem hmember
      refine .member (by rw [Fields.get?_mapValues, hplain, Option.map_none]) hwritten ?_
      exact ih ((Json.isValue_object.mp hvalue).2 _ hmember)
        ((ofJson_plain_isOk_iff hplain).mp hread _ hmember)
  | @sample members _ sample _ hmatched hsample _ ih =>
      obtain ⟨hsorted, hvalues⟩ := Json.isValue_object.mp hvalue
      obtain ⟨hmembers, hsampleRead⟩ := (ofJson_matched_isOk_iff hmatched).mp hread
      obtain ⟨kind, hkind, -⟩ := hmembers.kind
      have hkindWritten : Fields.get? matcherKey (Json.matchedWithoutNulls kind members) =
          some (.string kind) := by
        rw [Json.get?_matchedWithoutNulls hsorted, hkind, writtenField, if_neg (by decide),
          Rule.kept, if_neg (Rule.not_nullable_of_reserved (by simp [reservedKeys]) kind)]
      have hsampleWritten : Fields.get? sampleKey (Json.matchedWithoutNulls kind members) =
          some sample.withoutNulls := by
        rw [Json.get?_matchedWithoutNulls hsorted, hsample, writtenField, if_pos rfl,
          Option.map_some]
      rw [Json.withoutNulls_matched hkind]
      exact .sample hkindWritten hsampleWritten
        (ih (hvalues _ (Fields.mem_of_get? hsample)) (hsampleRead _ hsample))

/-- Content that was read is written as the value that it was read of, without the nulls
of a matched node's kind. Each matched node that was reached is written with its kind, its
hint and all attributes as they were, but for null bounds of a type and the null pattern
of a date or a time. -/
theorem reprint_loses_only_nulls {value : Json} {node : Node} (hvalue : value.IsValue)
    (h : ofJson value = .ok node) :
    node.toJson = value.withoutNulls ∧
    ∀ members kind, value.LeadsTo (.object members) →
      Fields.get? matcherKey members = some (.string kind) →
      ∃ written, (Json.object members).withoutNulls = .object written ∧
        node.toJson.LeadsTo (.object written) ∧
        ∀ key, Fields.get? key written =
          if key = sampleKey then (Fields.get? key members).map Json.withoutNulls
          else if key ∈ Rule.nullableKeys kind then Json.unlessNull (Fields.get? key members)
          else Fields.get? key members := by
  have hwritten := toJson_of_ofJson hvalue h
  refine ⟨hwritten, ?_⟩
  intro members kind hfound hkind
  have hleads := leadsTo_withoutNulls hfound hvalue ⟨node, h⟩
  have hsorted := (Json.isValue_object.mp (hfound.isValue hvalue)).1
  rw [Json.withoutNulls_matched hkind] at hleads ⊢
  refine ⟨_, rfl, hwritten ▸ hleads, ?_⟩
  intro key
  exact Json.get?_matchedWithoutNulls hsorted kind key

/-- A null bound of a type is not written; under a kind that is not understood, which may
stand in an example, it is. -/
theorem reprint_loses_only_nulls_nested :
    let unknown : Json := .object [("min", .null), (generatorKey, .string "Paint"),
      (matcherKey, .string "colour"), (sampleKey, .string "red")]
    let value : Json := .array [.object [("format", .null), ("max", .null), ("min", .null),
      (matcherKey, .string "type"), (sampleKey, unknown)]]
    value.IsValue ∧ ∃ node, ofJson value = .ok node ∧
      node.toJson = .array [.object [("format", .null), (matcherKey, .string "type"),
        (sampleKey, unknown)]] ∧
      node.toJson.LeadsTo unknown := by
  intro unknown value
  have hunknown : unknown.IsValue := by
    refine Json.isValue_object.mpr ⟨Fields.sorted_iff_keys.mpr (by decide), ?_⟩
    simp only [List.forall_mem_cons]
    exact ⟨rfl, rfl, rfl, rfl, by simp⟩
  have hvalue : value.IsValue := by
    rw [Json.isValue_array, List.forall_mem_singleton]
    refine Json.isValue_object.mpr ⟨Fields.sorted_iff_keys.mpr (by decide), ?_⟩
    simp only [List.forall_mem_cons]
    exact ⟨rfl, rfl, rfl, rfl, hunknown, by simp⟩
  have hfound : value.LeadsTo unknown := .item List.mem_cons_self (.sample rfl rfl (.refl _))
  obtain ⟨hwritten, hreached⟩ := reprint_loses_only_nulls hvalue rfl
  obtain ⟨_, hsame, hleads, -⟩ := hreached _ "colour" hfound rfl
  rw [← hsame] at hleads
  exact ⟨hvalue, _, rfl, hwritten, hleads⟩

end Node

end MessageContract
