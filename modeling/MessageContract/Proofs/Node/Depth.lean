import MessageContract.Proofs.Json.Depth
import MessageContract.Proofs.Node.Value

/-!
A content tree that was read of a value is written no deeper than it was read: what a
matched node is written with has stood in its object before, or is a text or a count.
-/

namespace MessageContract.Node

open Json (Within)

theorem within_matchedJson {room : Nat} {rule : Rule} {sample : Option Json}
    {generator : Option String} {attributes : Fields Json} (hsample : ∀ v ∈ sample, v.Within room)
    (hattributes : ∀ member ∈ attributes, member.2.Within room) :
    (matchedJson rule sample generator attributes).Within (room + 1) := by
  have hcount (n : UInt64) : (Rule.countJson n).Within room := by
    have hlt := n.toNat_lt
    exact Json.within_number ⟨by omega, by omega⟩
  have hinsert (key : String) (value : Json) (fields : Fields Json) (hvalue : value.Within room)
      (hfields : ∀ member ∈ fields, member.2.Within room) :
      ∀ member ∈ Fields.insert key value fields, member.2.Within room := by
    intro member hmember
    rcases Fields.mem_insert hmember with rfl | hbefore
    · exact hvalue
    · exact hfields member hbefore
  obtain ⟨members, hmembers, hwithin⟩ := matchedJson_keeps hinsert
    (fun _ => Json.within_string _) hcount rule generator hsample hattributes
  rw [hmembers]
  exact Json.within_object.mpr ⟨room, rfl, hwithin⟩

/-- The tree needs no more room than the value that it was read of. -/
theorem within_of_ofJson {room : Nat} {value : Json} {node : Node} (hvalue : value.Within room)
    (h : ofJson value = .ok node) : node.toJson.Within room := by
  induction value using Json.induction generalizing room node with
  | null | bool | number | string =>
      cases h
      exact hvalue
  | array items ih =>
      obtain ⟨inner, rfl, hwithin⟩ := Json.within_array.mp hvalue
      obtain ⟨nodes, rfl, hitems⟩ := ofJson_array_eq_ok h
      rw [toJson, itemsJson_eq]
      refine Json.within_array.mpr ⟨inner, rfl, List.forall_mem_map.mpr ?_⟩
      intro node hnode
      obtain ⟨item, hitem, hread⟩ := Outcome.exists_of_forall₂ hitems.flip node hnode
      exact ih item hitem (hwithin item hitem) hread
  | object members ih =>
      obtain ⟨inner, rfl, hwithin⟩ := Json.within_object.mp hvalue
      obtain ⟨-, nodes, rfl, hmembers⟩ |
        ⟨kind, rule, sample, generator, attributes, rest, -, rfl, hsample, hgenerator, hrule⟩ :=
        ofJson_object_eq_ok h
      · rw [toJson, membersJson_eq]
        refine Json.within_object.mpr ⟨inner, rfl, List.forall_mem_map.mpr ?_⟩
        intro node hnode
        obtain ⟨member, hmember, -, hread⟩ := Outcome.exists_of_forall₂ hmembers.flip node hnode
        exact ih member hmember (hwithin member hmember) hread
      · have hattributes := (attributes_sublist hgenerator hrule).subset
        refine within_matchedJson ?_ fun member hmember => hwithin member (hattributes hmember)
        obtain ⟨-, rfl⟩ | ⟨value, node, hget, hread, rfl⟩ := sampleOf_eq_ok hsample
        · exact fun v hv => absurd hv (Option.not_mem_none v)
        · have hmember := Fields.mem_of_get? hget
          rintro v ⟨⟩
          exact ih _ hmember (hwithin _ hmember) hread

end MessageContract.Node
