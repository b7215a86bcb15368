import ActionBridge.Path.Basic
import ActionBridge.Text.Letter
import ActionBridge.Text.Quoted

namespace ActionBridge.Expression

inductive Token where
  | text (s : String)
  | number (n : Number)
  | word (name : String)
  | selector (path : Option Path)
  | open_
  | close
  | comma
  | plus
deriving DecidableEq, Repr

def describePath (p : Path) : String :=
  let parts := p.segments.map fun s => "Segment(" ++ Text.quoted s ++ ")"
  "Path \x7b segments: [" ++ Text.joinTexts ", " parts ++ "] \x7d"

def Token.describe : Token → String
  | text s => "Str(" ++ Text.quoted s ++ ")"
  | number n => "Number(Number(" ++ String.ofList n.toText ++ "))"
  | word name => "Ident(" ++ Text.quoted name ++ ")"
  | selector none => "Selector(None)"
  | selector (some p) => "Selector(Some(" ++ describePath p ++ "))"
  | open_ => "LParen"
  | close => "RParen"
  | comma => "Comma"
  | plus => "Plus"

def describeMet : Option Token → String
  | some t => t.describe
  | none => "Eof"

end ActionBridge.Expression
