import MessageContract.Node.Build
import MessageContract.Session

/-!
A sample: an order service that publishes order events and a billing service
that consumes them.
-/

namespace MessageContract.Sample

def consumer : String := "billing-service"

def provider : String := "order-service"

/-- One line of an order. -/
structure Line where
  sku : String
  quantity : Int
deriving DecidableEq, Repr

/-- An order event as the consumer decodes it. -/
structure Order where
  orderId : String
  customerId : Int
  items : List Line
  total : Binary64
  createdAt : String
deriving DecidableEq

namespace Line

structure Draft where
  sku : Option String := none
  quantity : Option Int := none

def arity : Nat := 2

def typeName : String := "SampleLineItem"

open Decode in
def decode : Json → Except Json.Error Line :=
  record typeName arity
    (fun items => do
      let sku ← item typeName arity 0 items string
      let quantity ← item typeName arity 1 items int64
      return { sku, quantity })
    (fun members => do
      let draft ← members.foldlM
        (fun (draft : Draft) (key, v) =>
          match key with
          | "sku" => do return { draft with sku := some (← string v) }
          | "quantity" => do return { draft with quantity := some (← int64 v) }
          | _ => return draft)
        {}
      let sku ← required "sku" draft.sku
      let quantity ← required "quantity" draft.quantity
      return { sku, quantity })

def toJson (line : Line) : Json :=
  .object [("sku", .string line.sku), ("quantity", .int line.quantity)]

end Line

namespace Order

structure Draft where
  orderId : Option String := none
  customerId : Option Int := none
  items : Option (List Line) := none
  total : Option Binary64 := none
  createdAt : Option String := none

def arity : Nat := 5

def typeName : String := "SampleOrderEvent"

open Decode in
def decode : Json → Except Json.Error Order :=
  record typeName arity
    (fun values => do
      let orderId ← item typeName arity 0 values string
      let customerId ← item typeName arity 1 values int64
      let items ← item typeName arity 2 values (list Line.decode)
      let total ← item typeName arity 3 values float
      let createdAt ← item typeName arity 4 values string
      return { orderId, customerId, items, total, createdAt })
    (fun members => do
      let draft ← members.foldlM
        (fun (draft : Draft) (key, v) =>
          match key with
          | "orderId" => do return { draft with orderId := some (← string v) }
          | "customerId" => do return { draft with customerId := some (← int64 v) }
          | "items" => do return { draft with items := some (← list Line.decode v) }
          | "total" => do return { draft with total := some (← float v) }
          | "createdAt" => do return { draft with createdAt := some (← string v) }
          | _ => return draft)
        {}
      let orderId ← required "orderId" draft.orderId
      let customerId ← required "customerId" draft.customerId
      let items ← required "items" draft.items
      let total ← required "total" draft.total
      let createdAt ← required "createdAt" draft.createdAt
      return { orderId, customerId, items, total, createdAt })

def toJson (o : Order) : Json :=
  .object [("orderId", .string o.orderId), ("customerId", .int o.customerId),
    ("items", .array (o.items.map Line.toJson)), ("total", .number (.float o.total)),
    ("createdAt", .string o.createdAt)]

end Order

/-- The total of the sample order, 19.5. -/
def total : Option Binary64 :=
  Binary64.ofDecimal? false 195 (-1)

/-- The content of an order created event with its rules. -/
def orderContent : Node :=
  let line := Node.object [("quantity", .integer 2), ("sku", .like (.string "A-1"))]
  .object
    [("createdAt", .timestamp "yyyy-MM-dd'T'HH:mm:ss" "2024-05-01T10:00:00"),
      ("customerId", .integer 42), ("items", .eachLike line 1),
      ("orderId", .regex "abc123" "^[a-z0-9]+$"), ("total", .decimal total)]

/-- An order event with the given description. -/
def interaction (description : String) : Interaction where
  description := description
  states := [{ name := "an order exists", params := [("orderId", .string "abc123")] }]
  contents := .json MediaType.json orderContent
  metadata := [("topic", "orders")]

/-- A contract of the sample pair over order events. -/
def contract (descriptions : List String) : Contract :=
  descriptions.foldl (fun c description => (c.add (interaction description)).1)
    (.new consumer provider)

/-- Starts a session of the sample pair. -/
def session {σ : Type} (settings : Settings) (directory : String) : BenchOp σ Error Session :=
  Session.start ({ settings with consumer, provider }.withDirectory directory)

/-- Verifies one order event in a session of its own. -/
def verifyOrder {σ : Type} (engine : PatternEngine) (settings : Settings)
    (directory description : String) : BenchOp σ Error Unit := do
  let s ← session settings directory
  let m : Message σ Json := ((s.message (anyTarget "value")).given { name := "an order exists" })
  s.verify engine ((m.expects description).setJsonBody (.ok orderContent.toJson)) fun _ => pure ()

/-- Why the descriptions of a file could not be read. -/
inductive ReadFault where
  | disk (fault : DiskFault)
  | json (error : Json.Error)
deriving DecidableEq

def ReadFault.message : ReadFault → String
  | .disk fault => fault.message
  | .json error => error.message

/-- The descriptions of the interactions in a file's value. -/
def descriptionsOf (file : Json) : List String :=
  match file.member? "interactions" with
  | some (.array items) =>
      items.filterMap fun item => do (← item.member? "description").string?
  | _ => []

/-- The descriptions in the sample pair's file, in the order of the file. -/
def fileDescriptions (disk : Disk) (directory : String) :
    Except ReadFault (List String) :=
  match disk.read (Path.join directory (contractFileName consumer provider)) with
  | .error fault => .error (.disk fault)
  | .ok bytes =>
      match Json.ofBytes bytes with
      | .error e => .error (.json e)
      | .ok file => .ok (descriptionsOf file)

end MessageContract.Sample
