/-!
Texts between marks: names that are quoted, groups in braces, and the lines that open and close a
block.
-/

namespace ProtoRules

def quoted (name : String) : String :=
  "`" ++ name ++ "`"

def braced (text : String) : String :=
  "\x7b" ++ text ++ "\x7d"

/-- A line with a brace at its end. -/
def opens (line : String) : String :=
  line ++ " \x7b"

/-- A line with a brace before all else. -/
def closes (rest : String) : String :=
  "\x7d" ++ rest

end ProtoRules
