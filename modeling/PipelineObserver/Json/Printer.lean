import PipelineObserver.Double.Shortest
import PipelineObserver.Json.Value
import PipelineObserver.Text.Digit
/-!
The texts of JSON values: compact, without any blank, and indented by two spaces a level.
-/
namespace PipelineObserver.Json

/-- A character inside a string. Quotes, backslashes and control characters are escaped, and nothing
else is. -/
def quoteChar (c : Char) : List Char :=
  match c with
  | '"' => ['\\', '"']
  | '\\' => ['\\', '\\']
  | '\x08' => ['\\', 'b']
  | '\x0c' => ['\\', 'f']
  | '\n' => ['\\', 'n']
  | '\r' => ['\\', 'r']
  | '\t' => ['\\', 't']
  | c =>
    if c.toNat < 0x20 then
      ['\\', 'u', '0', '0', Text.lowerHexDigit (c.toNat / 16), Text.lowerHexDigit (c.toNat % 16)]
    else [c]

def quote (s : String) : String := "\"" ++ String.ofList (s.toList.flatMap quoteChar) ++ "\""

def Number.render : Number → String
  | .integer n => toString n
  | .double x => x.text

mutual

def render : Json → String
  | .null => "null"
  | .bool b => if b then "true" else "false"
  | .number n => n.render
  | .text s => quote s
  | .array elements => "[" ++ ",".intercalate (renderElements elements) ++ "]"
  | .object members => "\x7b" ++ ",".intercalate (renderMembers members) ++ "\x7d"

def renderElements : List Json → List String
  | [] => []
  | v :: rest => v.render :: renderElements rest

def renderMembers : List (String × Json) → List String
  | [] => []
  | (key, v) :: rest => (quote key ++ ":" ++ v.render) :: renderMembers rest

end

/-- Puts items between brackets, each on a line of its own; empty brackets stay together. -/
def enclose (margin opening closing : String) : List String → String
  | [] => opening ++ closing
  | items =>
    opening ++ "\n" ++ ",\n".intercalate (items.map fun item => margin ++ "  " ++ item)
      ++ "\n" ++ margin ++ closing

mutual

/-- The indented text of a value whose first line stands after `margin`. -/
def renderIndented (margin : String) : Json → String
  | .null => "null"
  | .bool b => if b then "true" else "false"
  | .number n => n.render
  | .text s => quote s
  | .array elements => enclose margin "[" "]" (indentElements (margin ++ "  ") elements)
  | .object members => enclose margin "\x7b" "\x7d" (indentMembers (margin ++ "  ") members)

def indentElements (margin : String) : List Json → List String
  | [] => []
  | v :: rest => v.renderIndented margin :: indentElements margin rest

def indentMembers (margin : String) : List (String × Json) → List String
  | [] => []
  | (key, v) :: rest =>
    (quote key ++ ": " ++ v.renderIndented margin) :: indentMembers margin rest

end

def pretty (v : Json) : String := v.renderIndented ""

end PipelineObserver.Json
