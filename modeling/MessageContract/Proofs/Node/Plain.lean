import MessageContract.Node.Basic
import MessageContract.Proofs.Json.Plain

/-!
Sameness of content trees as equality of plain forms.
-/

namespace MessageContract.Node

mutual

/-- The tree with plain numbers, in its attributes too. -/
def plain : Node → Node
  | .number n => .number n.plain
  | .array items => .array (plainItems items)
  | .object members => .object (plainMembers members)
  | .matched rule sample generator attributes =>
      .matched rule (plainSample sample) generator (Fields.mapValues Json.plain attributes)
  | leaf => leaf

def plainSample : Option Node → Option Node
  | none => none
  | some sample => some (plain sample)

def plainItems : List Node → List Node
  | [] => []
  | item :: rest => plain item :: plainItems rest

def plainMembers : List (String × Node) → List (String × Node)
  | [] => []
  | (key, value) :: rest => (key, plain value) :: plainMembers rest

end

mutual

theorem same_iff_plain : ∀ a b : Node, a.same b = true ↔ a.plain = b.plain
  | .null, b => by cases b <;> simp [same, plain]
  | .bool _, b => by cases b <;> simp [same, plain]
  | .number _, b => by cases b <;> simp [same, plain, Number.same_iff_plain]
  | .string _, b => by cases b <;> simp [same, plain]
  | .array as, b => by
      cases b with
      | array bs => simp [same, plain, sameItems_iff_plain as bs]
      | _ => simp [same, plain]
  | .object as, b => by
      cases b with
      | object bs => simp [same, plain, sameMembers_iff_plain as bs]
      | _ => simp [same, plain]
  | .matched rule sample generator attributes, b => by
      cases b with
      | matched rule' sample' generator' attributes' =>
          simp [same, plain, sameSample_iff_plain sample sample', attributesSame,
            Fields.sameWith_iff_mapValues Json.same_iff_plain, and_assoc]
      | _ => simp [same, plain]

theorem sameSample_iff_plain : ∀ a b : Option Node,
    sameSample a b = true ↔ plainSample a = plainSample b
  | none, b => by cases b <;> simp [sameSample, plainSample]
  | some a, b => by
      cases b with
      | none => simp [sameSample, plainSample]
      | some b => simp [sameSample, plainSample, same_iff_plain a b]

theorem sameItems_iff_plain : ∀ as bs : List Node,
    sameItems as bs = true ↔ plainItems as = plainItems bs
  | [], bs => by cases bs <;> simp [sameItems, plainItems]
  | a :: as, bs => by
      cases bs with
      | nil => simp [sameItems, plainItems]
      | cons b bs =>
          simp [sameItems, plainItems, same_iff_plain a b, sameItems_iff_plain as bs]

theorem sameMembers_iff_plain : ∀ as bs : List (String × Node),
    sameMembers as bs = true ↔ plainMembers as = plainMembers bs
  | [], bs => by cases bs <;> simp [sameMembers, plainMembers]
  | (k, a) :: as, bs => by
      cases bs with
      | nil => simp [sameMembers, plainMembers]
      | cons b bs =>
          obtain ⟨l, b⟩ := b
          simp [sameMembers, plainMembers, same_iff_plain a b, sameMembers_iff_plain as bs,
            and_assoc]

end

end MessageContract.Node
