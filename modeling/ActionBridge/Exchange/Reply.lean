import ActionBridge.Number.Numeral
import ActionBridge.Text.Blank
import ActionBridge.Tree.Record
import ActionBridge.Tree.Schema

namespace ActionBridge

structure Reply where
  headers : Entries
  body : Tree
deriving Repr

namespace Reply

def statusKey : String := ":status"

def ofStatus (status : Nat) (headers : Entries) (body : Tree) : Reply :=
  ⟨headers.put statusKey (.int status), body⟩

def maxStatus : Nat := Nat.pow 2 16 - 1

/-- A natural number of 16 bits, as a number or as text with blanks around it. -/
def statusOf? : Tree → Option Nat
  | .number n => n.toUnsigned?.filter (· ≤ maxStatus)
  | .text s => Number.naturalUpTo? maxStatus (Text.trim s.toList)
  | _ => none

def status? (r : Reply) : Option Nat :=
  (r.headers.lookup statusKey).bind statusOf?

/-- A reply without a status counts as a success. -/
def isSuccess (r : Reply) : Bool :=
  match r.status? with
  | some s => 200 ≤ s && s ≤ 299
  | none => true

def schema : Schema :=
  .record [] [("headers", .mapping), ("body", .any)]

def headersOf? : Option Tree → Option Entries
  | none => some []
  | some (.mapping entries) => some entries
  | some _ => none

def ofTree? (t : Tree) : Option Reply :=
  t.readRecord? ["headers", "body"] fun field =>
    (headersOf? (field "headers")).map fun headers => ⟨headers, (field "body").getD .null⟩

def toTree (r : Reply) : Tree :=
  .mapping [("headers", .mapping r.headers), ("body", r.body)]

end Reply

end ActionBridge
