import ActionBridge.Rule.Error
import ActionBridge.Rule.Selector
import ActionBridge.Tree.Template

namespace ActionBridge.Rule

/-- The location of a leaf, such as `body.items.0.name`. -/
def locationText (section_ : String) (location : List String) : String :=
  Text.joinTexts "." (section_ :: location)

def refuse {α : Type} (fault : RuleFault) : Except MappingError α :=
  .error (.malformedRuleSet fault)

def selectorOf (raw location : String) : Except MappingError Selector :=
  match Selector.ofText raw with
  | .ok s => .ok s
  | .error e => refuse (.selector location e)

def checkLeaf (section_ : String) (location : List String) (leaf : Tree) :
    Except MappingError (Option Tree) :=
  match Selector.ofLeaf leaf with
  | .ok _ => .ok none
  | .error e => refuse (.selector (locationText section_ location) e)

def checkTemplate (section_ : String) (template : Tree) : Except MappingError Unit :=
  (template.tryDeepMap (checkLeaf section_)).map fun _ => ()

def present (key : String) (entries : Entries) : Option Tree :=
  match entries.lookup key with
  | some .null => none
  | found => found

end ActionBridge.Rule
