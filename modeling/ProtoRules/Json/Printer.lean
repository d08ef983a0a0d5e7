import ProtoRules.Json.Basic
import ProtoRules.Number.Shortest
import ProtoRules.Text.Enclosures

/-!
Writing JSON text, without white space. Quotes, backslashes and control characters are escaped,
those that have a letter of their own by it; all other characters stand for themselves. Floats
keep a point, so that they are told from integers, and numbers that are not finite are written as
null.
-/

namespace ProtoRules.Json

def hexDigits (n : Nat) : List Char :=
  [Nat.digitChar (n / 16), Nat.digitChar (n % 16)]

def escape (c : Char) : List Char :=
  match c with
  | '"' => ['\\', '"']
  | '\\' => ['\\', '\\']
  | '\x08' => ['\\', 'b']
  | '\x0c' => ['\\', 'f']
  | '\n' => ['\\', 'n']
  | '\r' => ['\\', 'r']
  | '\t' => ['\\', 't']
  | c => if c.toNat < 0x20 then ['\\', 'u', '0', '0'] ++ hexDigits c.toNat else [c]

def quote (s : String) : String :=
  String.ofList ('"' :: s.toList.flatMap escape ++ ['"'])

def floatText (x : Binary .double) : String :=
  let text := x.text
  if text.toList.contains '.' then text else text ++ ".0"

mutual

def render : Json → String
  | null => "null"
  | bool b => if b then "true" else "false"
  | int n => toString n
  | float x => if x.isFinite then floatText x else "null"
  | str s => quote s
  | arr items => "[" ++ ",".intercalate (renderItems items) ++ "]"
  | obj members => braced (",".intercalate (renderMembers members))
  | unreadable => "null"

def renderItems : List Json → List String
  | [] => []
  | j :: js => j.render :: renderItems js

def renderMembers : List Member → List String
  | [] => []
  | (k, j) :: ms => (quote k ++ ":" ++ j.render) :: renderMembers ms

end

end ProtoRules.Json
