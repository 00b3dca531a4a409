import Flowtrace.Diagram
import Flowtrace.Json.Printer
import Flowtrace.Text.Base64

/-! Addresses that show a flowchart: an image, and an editor. Both carry the chart itself, as a
JSON document in base64. -/

namespace Flowtrace.Diagram

/-- What the two services are told: the chart, for the editor also its theme, and the settings
that never vary. -/
def state (chart : String) (theme : Option String) : Json String :=
  .obj ([("code", .str chart)] ++
    (match theme with
      | some theme => [("mermaid", .str (Json.print .compact (.obj [("theme", .str theme)])))]
      | none => []) ++
    [("autoSync", .bool true), ("rough", .bool false), ("updateDiagram", .bool true)])

def encodedState (chart : String) (theme : Option String) : String :=
  String.ofList (Text.Base64.encodeAscii ((state chart theme).chars .compact))

def imageUrl (chart : String) : String :=
  "https://mermaid.ink/img/base64:" ++ encodedState chart none ++ "?type=png"

def editorUrl (chart : String) : String :=
  "https://mermaid.live/edit#base64:" ++ encodedState chart (some "dark")

end Flowtrace.Diagram
