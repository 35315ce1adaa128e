import MessageContract.Proofs.Json.Floats
import MessageContract.Proofs.Json.Reread

/-!
Reading does not look at the signs of float zeros: what is read of a plain value
is the plain form of what is read of the value. So like values are read to like
ones, and it takes one lemma for each reader to see that.
-/

namespace MessageContract

theorem Number.reread?_plain (n : Number) : n.plain.reread?.map plain = n.reread?.map plain := by
  cases n with
  | integer n => rfl
  | float x =>
      by_cases hzero : x.magnitude = 0
      · obtain ⟨negative, magnitude, hfinite⟩ := x
        obtain rfl : magnitude = 0 := hzero
        cases negative with
        | true =>
            change ((Number.float .zero).reread?).map plain =
              ((Number.float Binary64.zero.neg).reread?).map plain
            decide +kernel
        | false => rfl
      · have hplain : x.plain = x := by rw [Binary64.plain, if_neg hzero]
        rw [plain, hplain]

namespace Json

mutual

theorem reread?_plain : ∀ (value : Json) (room : Nat),
    (reread? room value.plain).map plain = (reread? room value).map plain
  | .null, room => rfl
  | .bool _, room => rfl
  | .string _, room => rfl
  | .number n, room => by
      have hnumber := congrArg (Option.map Json.number) n.reread?_plain
      simpa [reread?, plain, Function.comp_def] using hnumber
  | .array items, 0 => rfl
  | .array items, room + 1 => by
      have hitems := congrArg (Option.map Json.array) (rereadItems_plain items room)
      simpa [reread?, plain, Function.comp_def] using hitems
  | .object members, 0 => rfl
  | .object members, room + 1 => by
      have hmembers := congrArg (Option.map Json.object) (rereadMembers_plain members room)
      simpa [reread?, plain, Function.comp_def] using hmembers

theorem rereadItems_plain : ∀ (items : List Json) (room : Nat),
    (rereadItems room (plainItems items)).map plainItems = (rereadItems room items).map plainItems
  | [], room => rfl
  | item :: rest, room => by
      have hitem := reread?_plain item room
      have hrest := rereadItems_plain rest room
      rw [plainItems, rereadItems, rereadItems]
      cases hread : reread? room item <;> cases hreadPlain : reread? room item.plain <;>
        cases hothers : rereadItems room rest <;>
        cases hothersPlain : rereadItems room (plainItems rest) <;>
        simp_all [plainItems]

theorem rereadMembers_plain : ∀ (members : List (String × Json)) (room : Nat),
    (rereadMembers room (plainMembers members)).map plainMembers =
      (rereadMembers room members).map plainMembers
  | [], room => rfl
  | (key, value) :: rest, room => by
      have hvalue := reread?_plain value room
      have hrest := rereadMembers_plain rest room
      rw [plainMembers, rereadMembers, rereadMembers]
      cases hread : reread? room value <;> cases hreadPlain : reread? room value.plain <;>
        cases hothers : rereadMembers room rest <;>
        cases hothersPlain : rereadMembers room (plainMembers rest) <;>
        simp_all [plainMembers]

end

theorem normalize_plain (value : Json) : value.plain.normalize = value.normalize.plain := by
  rw [plain_eq_mapFloats, plain_eq_mapFloats, normalize_mapFloats]

end Json

end MessageContract
