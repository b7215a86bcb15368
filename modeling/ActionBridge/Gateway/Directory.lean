import ActionBridge.Gateway.Registry
import ActionBridge.Tree.Reader
import ActionBridge.Text.Pieces

namespace ActionBridge

abbrev FileContent := Except String String

inductive Place where
  | nothing
  | file (content : FileContent)
  | directory (files : List (String × FileContent))

namespace Place

def isDirectory : Place → Bool
  | directory _ => true
  | _ => false

end Place

namespace Directory

def join (directory name : String) : String :=
  if directory.isEmpty || directory.toList.getLast? = some '/' then directory ++ name
  else directory ++ "/" ++ name

def settingsFile : String := "gateway.json"

/-- The action that a file is named for: its name without the extension, which must not be all of
it. -/
def actionName? (file : String) : Option String :=
  if file = settingsFile then none
  else
    match Text.beforeEnd? ".json".toList file.toList with
    | none => none
    | some [] => none
    | some cs => some (String.ofList cs)

def actionFiles (files : List (String × FileContent)) : NameMap (String × FileContent) :=
  files.foldl
    (fun found (file, content) =>
      match actionName? file with
      | some name => found.insert file (name, content)
      | none => found)
    .empty

def insertFile (path name : String) (content : FileContent) (registry : Registry) :
    Except GatewayError Registry := do
  let text ← content.mapError .unreadable
  match Tree.read? text with
  | none => .error (.fileMalformed path)
  | some document => (registry.insert name document).mapError (.fileRefused path)

def insertFiles (directory : String) :
    List (String × String × FileContent) → Registry → Except GatewayError Registry
  | [], registry => .ok registry
  | (file, name, content) :: files, registry => do
    insertFiles directory files (← insertFile (join directory file) name content registry)

def load (directory : String) (files : List (String × FileContent)) :
    Except GatewayError Registry :=
  insertFiles directory (actionFiles files).entries .empty

def loadAt (path : String) : Place → Except GatewayError Registry
  | .directory files => load path files
  | _ => .ok .empty

def choose (explicit fromVariable : Option String) (localRules : Bool) (home : Option String) :
    String :=
  match explicit, fromVariable with
  | some path, _ => path
  | none, some path => path
  | none, none =>
    if localRules then ".actions" else home.getD "." ++ "/.action-mapper/rules"

end Directory

end ActionBridge
