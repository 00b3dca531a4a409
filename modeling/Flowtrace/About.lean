import Flowtrace.Graph.Task

/-! What the library says about itself. -/

namespace Flowtrace.About

def project : String := "activity-workflows"

def version : String := "0.1.0"

def taskTypes : List String :=
  [Routing.kindText (.activity none none), Routing.kindText (.choice .empty)]

end Flowtrace.About
