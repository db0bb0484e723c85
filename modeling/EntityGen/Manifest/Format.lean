import EntityGen.Json.Reader
import EntityGen.Manifest.Shape
import EntityGen.Text.Blank
import EntityGen.Yaml.Reader

/-!
Manifests read from text, in either of their two formats. The format is told by the extension of a file,
or else by the first character of the text that is not blank. -/
namespace EntityGen.Manifest

inductive Format where
  | json
  | yaml
  deriving DecidableEq, Repr

/-- Why a text is no manifest. -/
inductive TextFault where
  | json (fault : Json.Fault)
  | yaml (fault : Yaml.Fault)
  deriving Repr

def TextFault.message : TextFault → String
  | json fault => "invalid JSON manifest: " ++ fault.message
  | yaml fault => "invalid YAML manifest: " ++ fault.message

namespace Format

/-- A text whose first character after blanks is an opening brace is JSON. -/
def sniff (text : String) : Format :=
  if (Text.trimStart text.toList).head? == some '\x7b' then json else yaml

/-- The last part of a path that is not empty or a single dot, if it is not two dots. -/
def fileName? (path : String) : Option (List Char) :=
  let parts := (path.toList.splitOn '/').filter fun part => part != [] && part != ['.']
  parts.getLast?.filter (· != ['.', '.'])

/-- What follows the last dot of a file name. A dot that starts the name does not count. -/
def extension? (name : List Char) : Option (List Char) :=
  let after := (name.reverse.takeWhile (· != '.')).reverse
  if after.length + 1 < name.length then some after else none

/-- The format of a file with that path, if its extension tells. -/
def ofPath? (path : String) : Option Format :=
  match ((fileName? path).bind extension?).map String.ofList with
  | some "json" => some json
  | some "yaml" => some yaml
  | some "yml" => some yaml
  | _ => none

end Format

/-- A text in that format as a manifest. -/
def parse (format : Format) (text : String) : Except TextFault Manifest :=
  match format with
  | .json =>
    (Json.readDocument (Json.reader.record (Manifest.shape Json.reader)) text).mapError .json
  | .yaml =>
    (Yaml.readDocument (fun reader => reader.record (Manifest.shape reader)) text).mapError .yaml

end EntityGen.Manifest
