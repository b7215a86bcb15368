import ActionBridge.NameMap
import ActionBridge.Tree.Basic

namespace ActionBridge

structure Request where
  method : String
  url : String
  headers : NameMap String
  body : Option Tree

def Request.toTree (r : Request) : Tree :=
  .mapping
    ([("method", .text r.method), ("url", .text r.url),
      ("headers", .mapping (r.headers.entries.map fun (name, value) => (name, .text value)))] ++
      (r.body.map fun body => ("body", body)).toList)

end ActionBridge
