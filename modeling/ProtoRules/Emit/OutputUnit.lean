import ProtoRules.Descriptor.File

/-!
Output units: the messages that one generated file covers, and where the file goes.
-/

namespace ProtoRules

structure OutputUnit where
  file : File
  messages : List Message
  name : String
  path : String

namespace OutputUnit

def directory (package : String) : String :=
  String.join (((Text.splitOn '.' package).filter (!·.isEmpty)).map (· ++ "/"))

def validated : List Message → Except SchemaError (List Message)
  | [] => .ok []
  | m :: ms => do
    let ignored ← m.isIgnored
    let rest ← validated ms
    return if ignored then rest else m :: rest

end OutputUnit

end ProtoRules
