import MessageContract.Node.Wire
import MessageContract.Proofs.Json.Floats
import MessageContract.Proofs.Node.Plain
import MessageContract.Proofs.Outcome

/-!
Content trees are written and read without a look at the floats in them. A fault may name
a value that was found, so that only what succeeds is compared.
-/

namespace MessageContract

variable {f : Binary64 → Binary64}

namespace Rule

theorem write_mapFloats (rule : Rule) (attributes : Fields Json) :
    rule.write (attributes.mapValues (Json.mapFloats f)) =
      Fields.mapValues (Json.mapFloats f) (rule.write attributes) := by
  have hcount (count : Option UInt64) :
      (count.map countJson).map (Json.mapFloats f) = count.map countJson := by
    cases count <;> rfl
  have htext (text : Option String) :
      (text.map Json.string).map (Json.mapFloats f) = text.map Json.string := by
    cases text <;> rfl
  cases rule with
  | sameType min max =>
      rw [write, write, ← Fields.insert?_mapValues, ← Fields.insert?_mapValues, hcount, hcount]
  | regex pattern =>
      exact Fields.insert_mapValues (Json.mapFloats f) "regex" (.string pattern) attributes
  | timestamp format word => rw [write, write, ← Fields.insert?_mapValues, htext]
  | date format => rw [write, write, ← Fields.insert?_mapValues, htext]
  | time format => rw [write, write, ← Fields.insert?_mapValues, htext]
  | _ => rfl

/-- What is taken out of attributes, and what is left with other floats. -/
def restMapped (f : Binary64 → Binary64) {α : Type} (taken : α × Fields Json) : α × Fields Json :=
  (taken.1, taken.2.mapValues (Json.mapFloats f))

theorem stringAttribute_mapFloats (key : String) (attributes : Fields Json) :
    (stringAttribute key (attributes.mapValues (Json.mapFloats f))).toOption =
      (stringAttribute key attributes).toOption.map (restMapped f) := by
  rw [stringAttribute, stringAttribute, Fields.get?_mapValues, Fields.erase_mapValues]
  cases attributes.get? key with
  | none => rfl
  | some value => cases value <;> rfl

theorem countAttribute_mapFloats (key : String) (attributes : Fields Json) :
    (countAttribute key (attributes.mapValues (Json.mapFloats f))).toOption =
      (countAttribute key attributes).toOption.map (restMapped f) := by
  rw [countAttribute, countAttribute, Fields.get?_mapValues, Fields.erase_mapValues]
  cases attributes.get? key with
  | none => rfl
  | some value =>
      cases value with
      | number n =>
          simp only [Option.map_some, Json.mapFloats, Number.unsigned?_mapFloat]
          cases n.unsigned? <;> rfl
      | _ => rfl

/-- Taking something out and going on with what is left. -/
theorem bind_mapFloats {α β : Type} {taken takenMapped : Except MatcherFault (α × Fields Json)}
    {next : α × Fields Json → Except MatcherFault (β × Fields Json)}
    (htaken : takenMapped.toOption = taken.toOption.map (restMapped f))
    (hnext : ∀ t, (next (restMapped f t)).toOption = (next t).toOption.map (restMapped f)) :
    (takenMapped >>= next).toOption = (taken >>= next).toOption.map (restMapped f) := by
  rw [Outcome.toOption_bind, Outcome.toOption_bind, htaken]
  cases taken.toOption with
  | none => rfl
  | some t => exact hnext t

theorem read_mapFloats (kind : String) (attributes : Fields Json) :
    (read kind (attributes.mapValues (Json.mapFloats f))).toOption =
      (read kind attributes).toOption.map (restMapped f) := by
  unfold read
  split
  case h_2 =>
    apply bind_mapFloats (countAttribute_mapFloats "min" attributes)
    rintro ⟨min, rest⟩
    exact bind_mapFloats (countAttribute_mapFloats "max" rest) fun _ => rfl
  case h_3 =>
    apply bind_mapFloats (stringAttribute_mapFloats "regex" attributes)
    rintro ⟨pattern, rest⟩
    cases pattern <;> rfl
  case h_10 | h_11 | h_12 | h_13 =>
    exact bind_mapFloats (stringAttribute_mapFloats "format" attributes) fun _ => rfl
  all_goals rfl

end Rule

namespace Node

mutual

/-- The tree with each float replaced, in its attributes too. -/
def mapFloats (f : Binary64 → Binary64) : Node → Node
  | .number n => .number (n.mapFloat f)
  | .array items => .array (mapFloatsItems f items)
  | .object members => .object (mapFloatsMembers f members)
  | .matched rule sample generator attributes =>
      .matched rule (mapFloatsSample f sample) generator
        (Fields.mapValues (Json.mapFloats f) attributes)
  | leaf => leaf

def mapFloatsSample (f : Binary64 → Binary64) : Option Node → Option Node
  | none => none
  | some sample => some (mapFloats f sample)

def mapFloatsItems (f : Binary64 → Binary64) : List Node → List Node
  | [] => []
  | item :: rest => mapFloats f item :: mapFloatsItems f rest

def mapFloatsMembers (f : Binary64 → Binary64) : List (String × Node) → List (String × Node)
  | [] => []
  | (key, value) :: rest => (key, mapFloats f value) :: mapFloatsMembers f rest

end

mutual

theorem plain_eq_mapFloats : ∀ node : Node, node.plain = node.mapFloats Binary64.plain
  | .null => rfl
  | .bool _ => rfl
  | .string _ => rfl
  | .number n => congrArg number n.plain_eq_mapFloat
  | .array items => by rw [plain, mapFloats, plainItems_eq_mapFloats items]
  | .object members => by rw [plain, mapFloats, plainMembers_eq_mapFloats members]
  | .matched rule sample generator attributes => by
      have hattributes : Json.plain = Json.mapFloats Binary64.plain :=
        funext Json.plain_eq_mapFloats
      rw [plain, mapFloats, plainSample_eq_mapFloats sample, hattributes]

theorem plainSample_eq_mapFloats : ∀ sample : Option Node,
    plainSample sample = mapFloatsSample Binary64.plain sample
  | none => rfl
  | some sample => congrArg some (plain_eq_mapFloats sample)

theorem plainItems_eq_mapFloats : ∀ items : List Node,
    plainItems items = mapFloatsItems Binary64.plain items
  | [] => rfl
  | item :: rest => by
      rw [plainItems, mapFloatsItems, plain_eq_mapFloats item, plainItems_eq_mapFloats rest]

theorem plainMembers_eq_mapFloats : ∀ members : List (String × Node),
    plainMembers members = mapFloatsMembers Binary64.plain members
  | [] => rfl
  | (key, value) :: rest => by
      rw [plainMembers, mapFloatsMembers, plain_eq_mapFloats value,
        plainMembers_eq_mapFloats rest]

end

theorem takeGenerator_mapFloats (members : Fields Json) :
    (takeGenerator (members.mapValues (Json.mapFloats f))).toOption =
      (takeGenerator members).toOption.map (Rule.restMapped f) := by
  rw [takeGenerator, takeGenerator, Fields.get?_mapValues, Fields.erase_mapValues]
  cases members.get? generatorKey with
  | none => rfl
  | some value => cases value <;> rfl

theorem matchedJson_mapFloats (rule : Rule) (sample : Option Json) (generator : Option String)
    (attributes : Fields Json) :
    matchedJson rule (sample.map (Json.mapFloats f)) generator
        (attributes.mapValues (Json.mapFloats f)) =
      (matchedJson rule sample generator attributes).mapFloats f := by
  have hgenerator :
      (generator.map Json.string).map (Json.mapFloats f) = generator.map Json.string := by
    cases generator <;> rfl
  have hkind : (Json.string rule.kind).mapFloats f = .string rule.kind := rfl
  rw [matchedJson, matchedJson, Json.mapFloats_object, Rule.write_mapFloats, ← hkind,
    Fields.insert_mapValues, Fields.insert?_mapValues, ← hgenerator, Fields.insert?_mapValues,
    hkind, hgenerator]

mutual

theorem toJson_mapFloats : ∀ node : Node, (node.mapFloats f).toJson = node.toJson.mapFloats f
  | .null => rfl
  | .bool _ => rfl
  | .number _ => rfl
  | .string _ => rfl
  | .array items => by rw [mapFloats, toJson, toJson, Json.mapFloats, itemsJson_mapFloats items]
  | .object members => by
      rw [mapFloats, toJson, toJson, Json.mapFloats, membersJson_mapFloats members]
  | .matched rule sample generator attributes => by
      rw [mapFloats, toJson, toJson, sampleJson_mapFloats sample, matchedJson_mapFloats]

theorem itemsJson_mapFloats : ∀ items : List Node,
    itemsJson (mapFloatsItems f items) = Json.mapFloatsItems f (itemsJson items)
  | [] => rfl
  | item :: rest => by
      rw [mapFloatsItems, itemsJson, itemsJson, Json.mapFloatsItems, toJson_mapFloats item,
        itemsJson_mapFloats rest]

theorem membersJson_mapFloats : ∀ members : List (String × Node),
    membersJson (mapFloatsMembers f members) = Json.mapFloatsMembers f (membersJson members)
  | [] => rfl
  | (key, value) :: rest => by
      rw [mapFloatsMembers, membersJson, membersJson, Json.mapFloatsMembers, toJson_mapFloats value,
        membersJson_mapFloats rest]

theorem sampleJson_mapFloats : ∀ sample : Option Node,
    sampleJson (mapFloatsSample f sample) = (sampleJson sample).map (Json.mapFloats f)
  | none => rfl
  | some sample => congrArg some (toJson_mapFloats sample)

end

mutual

theorem ofJson_mapFloats : ∀ value : Json,
    (ofJson (value.mapFloats f)).toOption = (ofJson value).toOption.map (mapFloats f)
  | .null => rfl
  | .bool _ => rfl
  | .number _ => rfl
  | .string _ => rfl
  | .array items => by
      have hitems := ofItems_mapFloats items
      rw [Json.mapFloats, ofJson, ofJson, Outcome.toOption_bind, Outcome.toOption_bind, hitems]
      cases (ofItems items).toOption <;> rfl
  | .object members => by
      have hmembers := ofMembers_mapFloats members
      have hsample := sampleOf_mapFloats members
      rw [Json.mapFloatsMembers_eq] at hmembers hsample
      rw [Json.mapFloats_object, ofJson, ofJson, Fields.get?_mapValues, Fields.erase_mapValues,
        Fields.erase_mapValues]
      cases Fields.get? matcherKey members with
      | none =>
          simp only [Option.map_none, Outcome.toOption_bind, hmembers]
          cases (ofMembers members).toOption <;> rfl
      | some value =>
          cases value with
          | string kind =>
              simp only [Option.map_some, Json.mapFloats, Outcome.toOption_bind, hsample,
                takeGenerator_mapFloats]
              cases (sampleOf members).toOption with
              | none => rfl
              | some sample =>
                  simp only [Option.map_some, Option.bind_some]
                  cases (takeGenerator (Fields.erase sampleKey
                    (Fields.erase matcherKey members))).toOption with
                  | none => rfl
                  | some taken =>
                      simp only [Option.map_some, Option.bind_some, Rule.restMapped,
                        Rule.read_mapFloats]
                      cases (Rule.read kind taken.2).toOption <;> rfl
          | _ => rfl

theorem ofItems_mapFloats : ∀ items : List Json,
    (ofItems (Json.mapFloatsItems f items)).toOption =
      (ofItems items).toOption.map (mapFloatsItems f)
  | [] => rfl
  | item :: rest => by
      rw [Json.mapFloatsItems, ofItems, ofItems, Outcome.toOption_bind, Outcome.toOption_bind,
        ofJson_mapFloats item]
      cases (ofJson item).toOption with
      | none => rfl
      | some node =>
          simp only [Option.map_some, Option.bind_some, Outcome.toOption_bind,
            ofItems_mapFloats rest]
          cases (ofItems rest).toOption <;> rfl

theorem ofMembers_mapFloats : ∀ members : List (String × Json),
    (ofMembers (Json.mapFloatsMembers f members)).toOption =
      (ofMembers members).toOption.map (mapFloatsMembers f)
  | [] => rfl
  | (key, value) :: rest => by
      rw [Json.mapFloatsMembers, ofMembers, ofMembers, Outcome.toOption_bind, Outcome.toOption_bind,
        ofJson_mapFloats value]
      cases (ofJson value).toOption with
      | none => rfl
      | some node =>
          simp only [Option.map_some, Option.bind_some, Outcome.toOption_bind,
            ofMembers_mapFloats rest]
          cases (ofMembers rest).toOption <;> rfl

theorem sampleOf_mapFloats : ∀ members : List (String × Json),
    (sampleOf (Json.mapFloatsMembers f members)).toOption =
      (sampleOf members).toOption.map (mapFloatsSample f)
  | [] => rfl
  | (key, value) :: rest => by
      rw [Json.mapFloatsMembers, sampleOf, sampleOf]
      split
      · rw [Outcome.toOption_bind, Outcome.toOption_bind, ofJson_mapFloats value]
        cases (ofJson value).toOption <;> rfl
      · exact sampleOf_mapFloats rest

end

end Node

end MessageContract
