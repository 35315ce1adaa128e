import MessageContract.Proofs.Contract.Floats
import MessageContract.Proofs.Contract.Reread
import MessageContract.Proofs.Json.PlainReread

/-!
Whether an entry can be read back from a file is the same for all entries that are the
same, since what is written and read of it is up to the signs of float zeros.
-/

namespace MessageContract.Entry

theorem toJson_plain (entry : Entry) : entry.plain.toJson = entry.toJson.plain := by
  rw [plain_eq_mapFloats, Json.plain_eq_mapFloats, toJson_mapFloats]

theorem ofJson_plain (value : Json) : ofJson value.plain = (ofJson value).plain := by
  rw [plain_eq_mapFloats, Json.plain_eq_mapFloats, ofJson_mapFloats]

/-- What an entry is reread to depends on its plain form alone. -/
theorem reread?_plain (entry : Entry) :
    entry.plain.reread?.map plain = entry.reread?.map plain := by
  have hread (v : Json) : ((v.reread? partRoom).map ofJson).map plain =
      ((v.reread? partRoom).map Json.plain).map ofJson := by
    rw [Option.map_map, Option.map_map]
    congr 1
    funext read
    exact (ofJson_plain read).symm
  rw [reread?, reread?, hread, hread, toJson_plain, Json.reread?_plain]

end MessageContract.Entry
