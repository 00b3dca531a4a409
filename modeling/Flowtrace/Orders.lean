import Flowtrace.Api.App

/-! A worked example: the processing of orders. An order is validated, a large one is reviewed, it
is paid, and shipped or cancelled. The steps are native functions over payloads. -/

namespace Flowtrace.Orders

def typeName : Value → String
  | .null => "NoneType"
  | .bool _ => "bool"
  | .int _ => "int"
  | .float _ => "float"
  | .text _ => "str"
  | .bytes _ => "bytes"
  | .list _ => "list"
  | .tuple _ => "tuple"
  | .set _ => "set"
  | .dict _ => "dict"
  | .object _ => "object"
  | .caught .. => "CaughtError"
  | .failure _ => "Failure"
  | .success _ => "Success"
  | .fault kind _ => kind.className

/-- Null, zero and everything empty count as false. -/
def isTruthy : Value → Bool
  | .null => false
  | .bool value => value
  | .int value => value != 0
  | .float value => !value.isZero
  | .text value => value != ""
  | .bytes value => !value.isEmpty
  | .list items | .tuple items | .set items => !items.isEmpty
  | .dict entries => !entries.isEmpty
  | _ => true

/-- The entries of an order. Only a dictionary is one. -/
def entriesOf (order : Value) : Except Fault Context :=
  match order with
  | .dict entries => .ok entries
  | other => .error (.exception "AttributeError"
      ("'" ++ typeName other ++ "' object has no attribute 'get'"))

def isAbove (amount : Value) (bound : Nat) : Except Fault Bool :=
  match amount with
  | .bool value => .ok (decide (bound < (if value then 1 else 0)))
  | .int value => .ok (decide ((bound : Int) < value))
  | .float value => .ok (value.exceeds bound)
  | other => .error (.typeError
      ("'>' not supported between instances of '" ++ typeName other ++ "' and 'int'"))

def settle (context : Context) : Except Fault Value → Behaviour
  | .ok value => ⟨.returned value, context, []⟩
  | .error fault => ⟨.raised fault, context, []⟩

def entry (entries : Context) (key : String) : Value := (Context.get? entries key).getD .null

def validate (order : Value) (context : Context) : Behaviour :=
  match entriesOf order with
  | .error fault => settle context (.error fault)
  | .ok entries =>
    if isTruthy (entry entries "order_id") && isTruthy (entry entries "items") then
      settle (context.set "order_id" (entry entries "order_id")) (.ok order)
    else settle context (.error (.exception "ValueError" "InvalidOrder"))

def amountOf (entries : Context) : Value := (Context.get? entries "amount").getD (.int 0)

/-- Large orders are reviewed before they are paid. -/
def chooseByAmount (order : Value) (context : Context) : Behaviour :=
  settle context do
    let entries ← entriesOf order
    let large ← isAbove (amountOf entries) 1000
    return .text (if large then "review" else "pay")

def review (order : Value) (context : Context) : Behaviour :=
  settle (context.set "reviewed" (.bool true)) (.ok order)

def isDeclined : Value → Bool
  | .text card => card == "declined"
  | _ => false

/-- A declined card is a failure that nothing raises. -/
def pay (order : Value) (context : Context) : Behaviour :=
  match entriesOf order with
  | .error fault => settle context (.error fault)
  | .ok entries =>
    if isDeclined (entry entries "card") then
      settle context (.ok (.failure (.text "PaymentDeclined")))
    else
      settle (context.set "paid" (amountOf entries)) (.ok (.dict
        [(.text "order_id", entry entries "order_id"), (.text "paid", .bool true)]))

def fulfil (payment : Value) (context : Context) : Behaviour :=
  settle context do
    let entries ← entriesOf payment
    return .dict [(.text "order_id", entry entries "order_id"), (.text "status", .text "shipped")]

def reasonOf : Value → Value
  | .caught _ error => .text error.plain
  | other => .text other.plain

def cancel (caught : Value) (context : Context) : Behaviour :=
  settle context (.ok (.dict
    [(.text "order_id", entry context "order_id"), (.text "status", .text "cancelled"),
      (.text "reason", reasonOf caught)]))

def awaited (act : Value → Context → Behaviour) : Step := ⟨.awaited, act⟩

def network : Network Step :=
  let builders := Network.empty
    |>.add "validate_order" (awaited validate) false false
    |>.add "route_by_amount" (awaited chooseByAmount) false true
    |>.add "process_payment" (awaited pay) false false
    |>.add "review_order" (awaited review) false false
    |>.add "fulfill_order" (awaited fulfil) false false
    |>.add "cancel_order" (awaited cancel) false false
  builders
    |>.connect 0 (.next (some 1))
    |>.connect 0 (.caught "InvalidOrder" none)
    |>.connect 1 (.branch "review" (some 3))
    |>.connect 1 (.branch "pay" (some 2))
    |>.connect 3 (.next (some 2))
    |>.connect 2 (.next (some 4))
    |>.connect 2 (.caught "Payment*" (some 5))

def workflow : Workflow Step :=
  .make network 0 (some "order_processing") "Validate, pay and ship an order"

def app : Api.App Step := Api.Setup.app ⟨.standard, none, none, [workflow]⟩

/-- The application answers the requests of the interface, and tells that it is alive. -/
inductive Request where
  | health
  | workflows (request : Api.Request)

def respond (turns : Nat) : Request → Api.Response
  | .health => .ok (.obj [("status", .str "healthy")])
  | .workflows request => (app.respond id turns request).1

end Flowtrace.Orders
