import Flowtrace.Decimal.Text
import Flowtrace.Text.Quoted
import Flowtrace.Value

/-! The two texts of a value. The plain text is the one that messages and choice keys use; the
quoted text is the one that shows what the value is, and containers show their elements by it. -/

namespace Flowtrace

structure Rendering where
  plain : String
  quoted : String

def Rendering.same (text : String) : Rendering := ⟨text, text⟩

def quotedList (items : List Rendering) : String := ", ".intercalate (items.map (·.quoted))

namespace FaultKind

/-- The text of the arguments a fault was raised with. A missing key is shown quoted, so that
the empty key can be seen. Of the classes that put their arguments into words of their own, such
as an `OSError` with two, a fault is represented by its message. -/
def argumentsText (className : String) : List Rendering → String
  | [] => ""
  | [argument] => if className = "KeyError" then argument.quoted else argument.plain
  | arguments => "(" ++ quotedList arguments ++ ")"

/-- The kinds that are shown with their arguments, which the others put into their message. -/
def showsArguments (kind : FaultKind) : Bool :=
  match kind.root with
  | .exception _ | .abort | .workflows => true
  | _ => false

def message (kind : FaultKind) (details : List Rendering) : String :=
  match kind.root with
  | .workflowNotFound workflow => "Workflow '" ++ workflow ++ "' not found"
  | .execution message | .structural message => message
  | .startTaskNotFound => "No start task found"
  | .taskNotFound task => "Task with name '" ++ task ++ "' not found"
  | .unmappedChoice choice key => "Choice '" ++ choice ++ "' has no branch for '" ++ key ++ "'"
  | .stepExecution step reason =>
    let cause := match details with
      | cause :: _ => ": " ++ cause.plain
      | [] => ""
    let remark := match reason with
      | some reason => if reason = "" then "" else " (" ++ reason ++ ")"
      | none => ""
    "Step '" ++ step ++ "' failed" ++ cause ++ remark
  | plain => argumentsText plain.className details

/-- A fault is shown as it was made, and a fault of this library by its message. -/
def rendering (kind : FaultKind) (details : List Rendering) : Rendering where
  plain := kind.message details
  quoted := kind.className ++ "(" ++
    (if kind.showsArguments then quotedList details else Text.quoted (kind.message details)) ++ ")"

end FaultKind

namespace Value

mutual

def rendering : Value → Rendering
  | .null => .same "None"
  | .bool true => .same "True"
  | .bool false => .same "False"
  | .int value => .same (toString value)
  | .float value => .same value.text
  | .text value => ⟨value, Text.quoted value⟩
  | .bytes value => .same (Text.quotedBytes value)
  | .list items => .same ("[" ++ quotedList (renderings items) ++ "]")
  | .tuple [item] => .same ("(" ++ item.rendering.quoted ++ ",)")
  | .tuple items => .same ("(" ++ quotedList (renderings items) ++ ")")
  | .set [] => .same "set()"
  | .set items => .same ("\x7b" ++ quotedList (renderings items) ++ "\x7d")
  | .dict entries => .same ("\x7b" ++ ", ".intercalate (entryTexts entries) ++ "\x7d")
  | .object shown => .same shown
  | .caught pattern error =>
    .same ("CaughtError(key=" ++ Text.quoted pattern ++ ", error=" ++ error.rendering.quoted ++ ")")
  | .failure error => ⟨error.rendering.plain, "Failure(error=" ++ error.rendering.quoted ++ ")"⟩
  | .success value => .same ("Success(value=" ++ value.rendering.quoted ++ ")")
  | .fault kind details => kind.rendering (renderings details)

def renderings : List Value → List Rendering
  | [] => []
  | item :: items => item.rendering :: renderings items

def entryTexts : List (Value × Value) → List String
  | [] => []
  | (key, value) :: entries =>
    (key.rendering.quoted ++ ": " ++ value.rendering.quoted) :: entryTexts entries

end

def plain (value : Value) : String := value.rendering.plain

def quoted (value : Value) : String := value.rendering.quoted

end Value

namespace Fault

def className (fault : Fault) : String := fault.kind.className

def message (fault : Fault) : String := fault.toValue.plain

end Fault

end Flowtrace
