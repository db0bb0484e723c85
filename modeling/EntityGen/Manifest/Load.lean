import EntityGen.Manifest.Format
import EntityGen.Surroundings

/-!
Manifests read from files. The extension of a file tells the format; where it does not, the text does. -/
namespace EntityGen.Manifest

/-- Why a file gives no manifest. -/
inductive LoadFault where
  | file (fault : FileFault)
  | text (fault : TextFault)
  deriving Repr

/-- The message about the file with that path, and behind it the cause. -/
def LoadFault.message (path : String) : LoadFault → String
  | file fault => "failed to read " ++ path ++ ": " ++ fault.cause ++ ": " ++ fault.cause
  | text fault => fault.message

/-- The format of a text in the file with that path. -/
def Format.ofFile (path text : String) : Format := (ofPath? path).getD (sniff text)

/-- The manifest in the file with that path, from what reading the file gives. -/
def ofFile (path : String) (content : Except FileFault String) : Except LoadFault Manifest :=
  match content with
  | .error fault => .error (.file fault)
  | .ok text => (parse (Format.ofFile path text) text).mapError .text

/-- The manifest in a file. -/
def load {m : Type → Type} [Monad m] (s : Surroundings m) (path : String) :
    m (Except LoadFault Manifest) := do
  return ofFile path (← s.read path)

end EntityGen.Manifest
