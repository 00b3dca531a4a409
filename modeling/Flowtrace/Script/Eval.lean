import Flowtrace.Fault
import Flowtrace.Script

/-! The value of a script's expression. Operands are evaluated from left to right, and the first
fault is the result. A fault that is merely made, not raised, is a value like any other. -/

namespace Flowtrace.Expr

def lookUp (container : Value) (key : String) : Except Fault Value :=
  match container with
  | .dict entries =>
    match Entries.lookup Value.sameKey (.text key) entries with
    | some value => .ok value
    | none => .error (.exception "KeyError" key)
  | _ => .error (.typeError "get: not a dict")

/-- The sum of two whole numbers, or two texts joined. Truth values are not numbers here. -/
def sum : Value → Value → Except Fault Value
  | .int left, .int right => .ok (.int (left + right))
  | .text left, .text right => .ok (.text (left ++ right))
  | _, _ => .error (.typeError "add: bad operands")

def isLess : Value → Value → Except Fault Value
  | .int left, .int right => .ok (.bool (decide (left < right)))
  | _, _ => .error (.typeError "lt: bad operands")

/-- Values of different types are never equal. -/
def isEqual : Value → Value → Bool
  | .null, .null => true
  | .bool left, .bool right => left == right
  | .int left, .int right => left == right
  | .text left, .text right => left == right
  | _, _ => false

def isTrue : Value → Bool
  | .bool true => true
  | _ => false

def patternOf : Value → Except Fault Value
  | .caught pattern _ => .ok (.text pattern)
  | _ => .error (.typeError "key: not a caught error")

def errorOf : Value → Except Fault Value
  | .caught _ error => .ok error
  | _ => .error (.typeError "error: not a caught error")

def zeroIfNull : Value → Value
  | .null => .int 0
  | value => value

mutual

def eval (input : Value) (context : Context) : Expr → Except Fault Value
  | .const value => .ok value
  | .payload => .ok input
  | .context key => .ok ((context.get? key).getD .null)
  | .wholeContext => .ok (.dict context)
  | .entry container key => do
    let container ← eval input context container
    lookUp container key
  | .add left right => do
    let left ← eval input context left
    let right ← eval input context right
    sum left right
  | .less left right => do
    let left ← eval input context left
    let right ← eval input context right
    isLess left right
  | .equal left right => do
    let left ← eval input context left
    let right ← eval input context right
    return .bool (isEqual left right)
  | .orZero value => do
    let value ← eval input context value
    return zeroIfNull value
  | .caughtPattern caught => do
    let caught ← eval input context caught
    patternOf caught
  | .caughtError caught => do
    let caught ← eval input context caught
    errorOf caught
  | .text value => do
    let value ← eval input context value
    return .text value.plain
  | .list items => do
    let items ← evalItems input context items
    return .list items
  | .dict entries => do
    let entries ← evalEntries input context entries
    return .dict (Entries.collect Value.sameKey entries)
  | .failure error => do
    let error ← eval input context error
    return .failure error
  | .success value => do
    let value ← eval input context value
    return .success value
  | .branch condition onTrue otherwise => do
    let condition ← eval input context condition
    if isTrue condition then eval input context onTrue else eval input context otherwise
  | .fault className arguments => do
    let arguments ← evalItems input context arguments
    return (Fault.ofClass className arguments).toValue

def evalItems (input : Value) (context : Context) : List Expr → Except Fault (List Value)
  | [] => .ok []
  | item :: items => do
    let item ← eval input context item
    let items ← evalItems input context items
    return item :: items

def evalEntries (input : Value) (context : Context) :
    List (String × Expr) → Except Fault (List (Value × Value))
  | [] => .ok []
  | (key, item) :: entries => do
    let item ← eval input context item
    let entries ← evalEntries input context entries
    return (.text key, item) :: entries

end

end Flowtrace.Expr
