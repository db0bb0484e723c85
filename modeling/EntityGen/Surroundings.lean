/-!
What a run asks of its surroundings: files by their paths, and the text that is fed to it. Every answer
is a text or the cause why there is none. The surroundings are answered in any monad, so that one run
serves a tree that is a value as well as the file system. -/
namespace EntityGen

/-- Why a file could not be read or written. -/
inductive FileFault where
  | notFound
  | isDirectory
  /-- The path goes on below a file. -/
  | notDirectory
  /-- The bytes are not UTF-8. -/
  | notText
  /-- Any other cause, in the words of the system. -/
  | other (cause : String)
  deriving DecidableEq, Repr

def FileFault.cause : FileFault → String
  | notFound => "No such file or directory (os error 2)"
  | isDirectory => "Is a directory (os error 21)"
  | notDirectory => "Not a directory (os error 20)"
  | notText => "stream did not contain valid UTF-8"
  | other cause => cause

structure Surroundings (m : Type → Type) where
  /-- The text of a file. -/
  read : String → m (Except FileFault String)
  /-- Makes a text the whole content of a file, which need not be there. -/
  write : String → String → m (Except FileFault Unit)
  /-- All text that is fed to the run. -/
  input : m (Except FileFault String)
  /-- The file with the user's settings for all projects. -/
  userSettings : Option String

/-- Bytes as text. -/
def decode (bytes : ByteArray) : Except FileFault String :=
  match String.fromUTF8? bytes with
  | some text => .ok text
  | none => .error .notText

end EntityGen
