import MessageContract.Proofs.Contract.Plain
import MessageContract.Proofs.Node.Floats

/-!
The entries of a contract are written and read without a look at the floats in them: with
other floats in the value, the entry that is read is the same one with these floats.
-/

namespace MessageContract

variable {f : Binary64 → Binary64}

namespace WireContents

def mapFloats (f : Binary64 → Binary64) (wire : WireContents) : WireContents :=
  { wire with content := wire.content.map (Json.mapFloats f) }

theorem toJson_mapFloats (wire : WireContents) :
    (wire.mapFloats f).toJson = wire.toJson.mapFloats f := by
  obtain ⟨content, contentType, encoding⟩ := wire
  cases content <;> cases contentType <;> cases encoding <;> rfl

theorem ofJson?_mapFloats (value : Json) :
    ofJson? (value.mapFloats f) = (ofJson? value).map (mapFloats f) := by
  unfold ofJson?
  rw [Json.fieldsOf?_mapFloats]
  cases Json.fieldsOf? fieldNames value with
  | none => rfl
  | some known =>
      rcases known with _ | ⟨content, _ | ⟨contentType, _ | ⟨encoded, _ | ⟨_, _⟩⟩⟩⟩
      case cons.cons.cons.nil =>
        have hvalue := Json.orNull_mapFloats (f := f) (fun v => some v.normalize)
          (g := Json.mapFloats f) fun v => congrArg some v.normalize_mapFloats
        have hcontent := Json.orDefault_mapFloats none _ (g := Option.map (Json.mapFloats f)) rfl
          hvalue content
        have hcontentType := Json.orDefault_floatless (f := f) none (Json.orNull Json.string?)
          (fun v => by cases v <;> rfl) contentType
        have hencoding := Json.orDefault_floatless (f := f) (.flag false) Encoding.ofJson?
          (fun v => by cases v <;> rfl) encoded
        simp only [Option.map_some, List.map_cons, List.map_nil, Option.bind_eq_bind,
          Option.bind_some, hcontent, hcontentType, hencoding]
        cases Json.orDefault none (Json.orNull fun v => some v.normalize) content <;>
          cases Json.orDefault none (Json.orNull Json.string?) contentType <;>
          cases Json.orDefault (.flag false) Encoding.ofJson? encoded <;> rfl
      all_goals rfl

end WireContents

namespace Contents

def mapFloats (f : Binary64 → Binary64) : Contents → Contents
  | .json contentType body => .json contentType (body.mapFloats f)
  | other => other

theorem plain_eq_mapFloats (contents : Contents) :
    contents.plain = contents.mapFloats Binary64.plain := by
  cases contents with
  | json contentType body => exact congrArg (json contentType) body.plain_eq_mapFloats
  | _ => rfl

theorem toWire_mapFloats (contents : Contents) :
    (contents.mapFloats f).toWire = contents.toWire.mapFloats f := by
  cases contents with
  | empty => rfl
  | json contentType body =>
      simp only [mapFloats, toWire, WireContents.mapFloats, Node.toJson_mapFloats, Option.map_some]
  | bytes contentType data =>
      rw [mapFloats, toWire]
      · cases plainText? contentType data <;> rfl
      · simp

theorem toJson_mapFloats (contents : Contents) :
    (contents.mapFloats f).toJson = contents.toJson.mapFloats f := by
  rw [toJson, toJson, toWire_mapFloats, WireContents.toJson_mapFloats]

theorem toOption_liftMatcher {α : Type} (x : Except MatcherFault α) :
    (liftMatcher x).toOption = x.toOption := by
  cases x <;> rfl

/-- JSON content that is read as a tree. -/
theorem jsonOf_mapFloats (v : Json) (t : String) :
    (do return Contents.json t (← liftMatcher (Node.ofJson (v.mapFloats f))) :
      Except Error Contents).toOption =
    (do return Contents.json t (← liftMatcher (Node.ofJson v)) :
      Except Error Contents).toOption.map (mapFloats f) := by
  rw [Outcome.toOption_bind, Outcome.toOption_bind, toOption_liftMatcher, toOption_liftMatcher,
    Node.ofJson_mapFloats]
  cases (Node.ofJson v).toOption <;> rfl

/-- Opaque content that is decoded from a text. -/
theorem bytesOf_mapFloats (v : Json) (t : String) :
    (do return Contents.bytes t (← decodeContent (some (v.mapFloats f))) :
      Except Error Contents).toOption =
    (do return Contents.bytes t (← decodeContent (some v)) :
      Except Error Contents).toOption.map (mapFloats f) := by
  cases v with
  | string text =>
      have hsame : (Json.string text).mapFloats f = .string text := rfl
      rw [hsame]
      cases decodeContent (some (.string text)) <;> rfl
  | _ => rfl

theorem ofWire_mapFloats (wire : WireContents) :
    (ofWire (wire.mapFloats f)).toOption = (ofWire wire).toOption.map (mapFloats f) := by
  obtain ⟨content, contentType, encoding⟩ := wire
  unfold ofWire
  rw [WireContents.mapFloats, Outcome.toOption_bind, Outcome.toOption_bind]
  cases encoding.isBase64.toOption with
  | none => rfl
  | some base64 =>
      simp only [Option.bind_some]
      cases base64 with
      | true =>
          rcases content with _ | v <;> rcases contentType with _ | t
          · rfl
          · rfl
          · exact bytesOf_mapFloats v _
          · exact bytesOf_mapFloats v _
      | false =>
          rcases content with _ | v <;> rcases contentType with _ | t
          · rfl
          · simp only [Option.map_none, Bool.false_eq_true, if_false]
            split <;> rfl
          · cases v with
            | string text => exact jsonOf_mapFloats (.string text) MediaType.json
            | _ => exact jsonOf_mapFloats _ _
          · cases v with
            | string text =>
                simp only [Option.map_some, Json.mapFloats, Bool.false_eq_true, if_false]
                split <;> rfl
            | _ => exact jsonOf_mapFloats _ _

theorem ofJson?_mapFloats (value : Json) :
    ofJson? (value.mapFloats f) = (ofJson? value).map (mapFloats f) := by
  unfold ofJson?
  rw [WireContents.ofJson?_mapFloats]
  cases WireContents.ofJson? value with
  | none => rfl
  | some wire => exact ofWire_mapFloats wire

end Contents

namespace ProviderState

def mapFloats (f : Binary64 → Binary64) (state : ProviderState) : ProviderState :=
  { state with params := state.params.mapValues (Json.mapFloats f) }

theorem plain_eq_mapFloats (state : ProviderState) :
    state.plain = state.mapFloats Binary64.plain := by
  have hparams : Json.plain = Json.mapFloats Binary64.plain := funext Json.plain_eq_mapFloats
  rw [plain, mapFloats, hparams]

theorem toJson_mapFloats (state : ProviderState) :
    (state.mapFloats f).toJson = state.toJson.mapFloats f := by
  obtain ⟨name, params⟩ := state
  cases params with
  | nil => rfl
  | cons head rest =>
      simp [toJson, mapFloats, Json.mapFloats, Json.mapFloatsMembers, Json.mapFloatsMembers_eq,
        Fields.mapValues]

theorem ofJson?_mapFloats (value : Json) :
    ofJson? (value.mapFloats f) = (ofJson? value).map (mapFloats f) := by
  unfold ofJson?
  rw [Json.fieldsOf?_mapFloats]
  cases Json.fieldsOf? ["name", "params"] value with
  | none => rfl
  | some known =>
      rcases known with _ | ⟨name, _ | ⟨params, _ | ⟨_, _⟩⟩⟩
      case cons.cons.nil =>
        cases name with
        | none => rfl
        | some name =>
            have hparams := Json.orDefault_mapFloats (f := f) [] Json.fields?
              (g := Fields.mapValues (Json.mapFloats f)) rfl Json.fields?_mapFloats params
            simp only [Option.map_some, List.map_cons, List.map_nil, Option.bind_eq_bind,
              Option.bind_some, hparams, Json.string?_mapFloats]
            cases name.string? <;> cases Json.orDefault [] Json.fields? params <;> rfl
      case nil => rfl
      all_goals cases name <;> rfl

end ProviderState

namespace Interaction

def mapFloats (f : Binary64 → Binary64) (i : Interaction) : Interaction :=
  { i with
    states := i.states.map (ProviderState.mapFloats f)
    contents := i.contents.mapFloats f
    extra := i.extra.mapValues (Json.mapFloats f) }

theorem plain_eq_mapFloats (i : Interaction) : i.plain = i.mapFloats Binary64.plain := by
  have hstates : ProviderState.plain = ProviderState.mapFloats Binary64.plain :=
    funext ProviderState.plain_eq_mapFloats
  have hextra : Json.plain = Json.mapFloats Binary64.plain := funext Json.plain_eq_mapFloats
  rw [plain, mapFloats, hstates, hextra, Contents.plain_eq_mapFloats]

theorem toJson_mapFloats (i : Interaction) : (i.mapFloats f).toJson = i.toJson.mapFloats f := by
  obtain ⟨description, states, contents, metadata, extra⟩ := i
  have hstates : states.map (fun state => (state.mapFloats f).toJson) =
      states.map fun state => state.toJson.mapFloats f :=
    List.map_congr_left fun state _ => state.toJson_mapFloats
  have hmetadata : (Json.object (metadata.mapValues .string)).mapFloats f =
      .object (metadata.mapValues .string) := by
    rw [Json.mapFloats_object, Fields.mapValues, Fields.mapValues, List.map_map]
    rfl
  have hcontents : (contents.mapFloats f).isEmpty = contents.isEmpty := by cases contents <;> rfl
  have happend (a b : Fields Json) : Fields.mapValues (Json.mapFloats f) (a ++ b) =
      Fields.mapValues (Json.mapFloats f) a ++ Fields.mapValues (Json.mapFloats f) b :=
    List.map_append
  have hpart (empty : Bool) (key : String) (v : Json) :
      Fields.mapValues (Json.mapFloats f) (if empty then [] else [(key, v)]) =
        if empty then [] else [(key, v.mapFloats f)] := by
    cases empty <;> rfl
  simp only [toJson, mapFloats, hcontents, Contents.toJson_mapFloats, List.isEmpty_map,
    List.map_map, Function.comp_def, hstates, Json.mapFloats_object, happend, hpart,
    Json.mapFloats_array, hmetadata]
  rfl

theorem isTag_mapFloats (value : Json) : isTag (value.mapFloats f) = isTag value := by
  cases value with
  | object members =>
      rcases members with _ | ⟨⟨name, value⟩, _ | _⟩
      · rfl
      · cases value <;> rfl
      · cases value <;> rfl
  | _ => rfl

/-- The reading of a list of preconditions. -/
theorem statesOf_mapFloats (value : Json) :
    (do (← (value.mapFloats f).items?).mapM ProviderState.ofJson?) =
      (do (← value.items?).mapM ProviderState.ofJson?).map
        (List.map (ProviderState.mapFloats f)) := by
  have hitems (items : List Json) :
      (items.map (Json.mapFloats f)).mapM ProviderState.ofJson? =
        (items.mapM ProviderState.ofJson?).map (List.map (ProviderState.mapFloats f)) := by
    induction items with
    | nil => rfl
    | cons item rest ih =>
        rw [List.map_cons, List.mapM_cons, List.mapM_cons, ih, ProviderState.ofJson?_mapFloats]
        cases ProviderState.ofJson? item <;> cases rest.mapM ProviderState.ofJson? <;> rfl
  rw [Json.items?_mapFloats]
  cases value.items? with
  | none => rfl
  | some items => exact hitems items

theorem ofJson?_mapFloats (value : Json) :
    ofJson? (value.mapFloats f) = (ofJson? value).map (mapFloats f) := by
  unfold ofJson?
  rw [Json.openFieldsOf?_mapFloats]
  cases Json.openFieldsOf? fieldNames value with
  | none => rfl
  | some found =>
      obtain ⟨known, extra⟩ := found
      rcases known with _ | ⟨kind, _ | ⟨description, _ | ⟨states, _ | ⟨contents, _ |
        ⟨metadata, _ | _⟩⟩⟩⟩⟩
      case cons.cons.cons.cons.cons.nil =>
        have hdescription := Json.orDefault_floatless (f := f) "" Json.string?
          Json.string?_mapFloats description
        have hstates := Json.orDefault_mapFloats (f := f) []
          (fun v => do (← v.items?).mapM ProviderState.ofJson?)
          (g := List.map (ProviderState.mapFloats f)) rfl statesOf_mapFloats states
        have hcontents := Json.orDefault_mapFloats (f := f) .empty Contents.ofJson?
          (g := Contents.mapFloats f) rfl Contents.ofJson?_mapFloats contents
        have hmetadata := Json.orDefault_floatless (f := f) [] Json.stringFields?
          Json.stringFields?_mapFloats metadata
        have hkind : (kind.map (Json.mapFloats f)).map isTag = kind.map isTag := by
          cases kind with
          | none => rfl
          | some kind => exact congrArg some (isTag_mapFloats kind)
        simp only [Option.bind_eq_bind] at hstates
        simp only [Option.map_some, List.map_cons, List.map_nil, Option.bind_eq_bind,
          Option.bind_some, hdescription, hstates, hcontents, hmetadata, hkind]
        cases (kind.map isTag).getD true with
        | false => rfl
        | true =>
            simp only [if_true]
            cases Json.orDefault "" Json.string? description <;>
              cases Json.orDefault []
                (fun v => v.items?.bind fun items => items.mapM ProviderState.ofJson?) states <;>
              cases Json.orDefault .empty Contents.ofJson? contents <;>
              cases Json.orDefault [] Json.stringFields? metadata <;> rfl
      all_goals rfl

end Interaction

namespace Entry

def mapFloats (f : Binary64 → Binary64) : Entry → Entry
  | .message i => .message (i.mapFloats f)
  | .other value => .other (value.mapFloats f)

theorem plain_eq_mapFloats (entry : Entry) : entry.plain = entry.mapFloats Binary64.plain := by
  cases entry with
  | message i => exact congrArg message i.plain_eq_mapFloats
  | other value => exact congrArg other value.plain_eq_mapFloats

theorem toJson_mapFloats (entry : Entry) :
    (entry.mapFloats f).toJson = entry.toJson.mapFloats f := by
  cases entry with
  | message i => exact i.toJson_mapFloats
  | other value => rfl

theorem ofJson_mapFloats (value : Json) :
    ofJson (value.mapFloats f) = (ofJson value).mapFloats f := by
  rw [ofJson, ofJson, Interaction.ofJson?_mapFloats]
  cases Interaction.ofJson? value with
  | none => exact congrArg Entry.other value.normalize_mapFloats
  | some i => rfl

end Entry

end MessageContract
