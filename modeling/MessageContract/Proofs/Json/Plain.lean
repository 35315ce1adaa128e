import Mathlib.Tactic
import MessageContract.Json.Basic

/-!
Sameness of values as equality of plain forms. The two float zeros are the same
number, and no other two numbers are; so the plain form of a value, in which no
float zero has a sign, tells all there is to sameness. That sameness is an
equivalence follows for every type that is compared part by part.
-/

namespace MessageContract

namespace Binary64

/-- The number without the sign of a zero. -/
def plain (x : Binary64) : Binary64 :=
  if x.magnitude = 0 then zero else x

theorem same_iff_plain (x y : Binary64) : x.same y = true ↔ x.plain = y.plain := by
  have hzero (z : Binary64) (hz : z.magnitude ≠ 0) : z ≠ zero := fun h => hz (congrArg magnitude h)
  unfold same plain
  by_cases hx : x.magnitude = 0 <;> by_cases hy : y.magnitude = 0
  · simp [hx, hy]
  · have hne : x ≠ y := fun h => hy (h ▸ hx)
    simp [hx, hy, hne, (hzero y hy).symm]
  · have hne : x ≠ y := fun h => hx (h ▸ hy)
    simp [hx, hy, hne, hzero x hx]
  · simp [hx, hy]

end Binary64

namespace Number

def plain : Number → Number
  | .integer n => .integer n
  | .float x => .float x.plain

theorem same_iff_plain (a b : Number) : a.same b = true ↔ a.plain = b.plain := by
  cases a <;> cases b <;> simp [same, plain, Binary64.same_iff_plain]

end Number

namespace Fields

variable {α β : Type}

theorem sameWith_iff_mapValues {same : α → α → Bool} {plain : α → β}
    (h : ∀ a b, same a b = true ↔ plain a = plain b) (as bs : Fields α) :
    sameWith same as bs = true ↔ mapValues plain as = mapValues plain bs := by
  induction as generalizing bs with
  | nil => cases bs <;> simp [sameWith, mapValues]
  | cons a as ih =>
      cases bs with
      | nil => simp [sameWith, mapValues]
      | cons b bs =>
          have hrest := ih bs
          simp only [mapValues] at hrest
          simp [sameWith, mapValues, h, hrest, and_assoc]

end Fields

namespace Json

mutual

/-- The value with plain numbers. -/
def plain : Json → Json
  | .number n => .number n.plain
  | .array items => .array (plainItems items)
  | .object members => .object (plainMembers members)
  | leaf => leaf

def plainItems : List Json → List Json
  | [] => []
  | item :: rest => plain item :: plainItems rest

def plainMembers : List (String × Json) → List (String × Json)
  | [] => []
  | (key, value) :: rest => (key, plain value) :: plainMembers rest

end

mutual

theorem same_iff_plain : ∀ a b : Json, a.same b = true ↔ a.plain = b.plain
  | .null, b => by cases b <;> simp [same, plain]
  | .bool _, b => by cases b <;> simp [same, plain]
  | .number _, b => by cases b <;> simp [same, plain, Number.same_iff_plain]
  | .string _, b => by cases b <;> simp [same, plain]
  | .array as, b => by
      cases b with
      | array bs => simp [same, plain, sameItems_iff_plain as bs]
      | _ => simp [same, plain]
  | .object as, b => by
      cases b with
      | object bs => simp [same, plain, sameMembers_iff_plain as bs]
      | _ => simp [same, plain]

theorem sameItems_iff_plain : ∀ as bs : List Json,
    sameItems as bs = true ↔ plainItems as = plainItems bs
  | [], bs => by cases bs <;> simp [sameItems, plainItems]
  | a :: as, bs => by
      cases bs with
      | nil => simp [sameItems, plainItems]
      | cons b bs =>
          simp [sameItems, plainItems, same_iff_plain a b, sameItems_iff_plain as bs]

theorem sameMembers_iff_plain : ∀ as bs : List (String × Json),
    sameMembers as bs = true ↔ plainMembers as = plainMembers bs
  | [], bs => by cases bs <;> simp [sameMembers, plainMembers]
  | (k, a) :: as, bs => by
      cases bs with
      | nil => simp [sameMembers, plainMembers]
      | cons b bs =>
          simp [sameMembers, plainMembers, same_iff_plain a b.2, sameMembers_iff_plain as bs,
            and_assoc]

end

end Json

end MessageContract
