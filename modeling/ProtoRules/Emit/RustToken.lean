import ProtoRules.Text.Enclosures

/-!
Tokens of Rust source text. Text is written from tokens alone: they are set apart by one space each,
and bracketed groups are trees.
-/

namespace ProtoRules.Rust

inductive Bracket
  | paren
  | square
  | brace
deriving DecidableEq, Repr

inductive Token
  | word (text : String)
  | op (text : String)
  | literal (text : String)
  | group (bracket : Bracket) (body : List Token)
deriving Repr

abbrev Tokens := List Token

namespace Token

/-- A group between its brackets; only braces keep a space inside. -/
def enclose : Bracket → String → String
  | .paren, body => "(" ++ body ++ ")"
  | .square, body => "[" ++ body ++ "]"
  | .brace, body => braced (if body.isEmpty then " " else " " ++ body ++ " ")

mutual

def text : Token → String
  | word text => text
  | op text => text
  | literal text => text
  | group bracket body => enclose bracket (textAll body)

def textAll : List Token → String
  | [] => ""
  | [t] => text t
  | t :: ts => text t ++ " " ++ textAll ts

end

end Token

def parens (body : Tokens) : Token :=
  .group .paren body

def squares (body : Tokens) : Token :=
  .group .square body

def braces (body : Tokens) : Token :=
  .group .brace body

def commas (items : List Tokens) : Tokens :=
  [Token.op ","].intercalate items

def rooted (segments : List String) : Tokens :=
  segments.flatMap fun segment => [.op "::", .word segment]

def method (name : String) (arguments : Tokens) : Tokens :=
  [.op ".", .word name, parens arguments]

def member (name : String) : Tokens :=
  [.op ".", .word name]

def optionSome : Tokens := rooted ["core", "option", "Option", "Some"]
def optionNone : Tokens := rooted ["core", "option", "Option", "None"]

def arm (pattern body : Tokens) : Tokens :=
  pattern ++ [.op "=>", braces body]

def matchOption (subject : Tokens) (name : String) (present missing : Tokens) : Tokens :=
  [.word "match"] ++ subject ++
    [braces (arm (optionSome ++ [parens [.word name]]) present ++ arm optionNone missing)]

end ProtoRules.Rust
