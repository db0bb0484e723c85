import EntityGen.Command.Arguments

/-!
What is told about the use of the command: the help, and what is wrong with a command line. -/
namespace EntityGen.Command

/-- The name and the version of the command. -/
def versionText : String := "entitygen 0.2.0"

def helpText : String :=
"Writes the models of a manifest as declarations in other languages

Usage: entitygen [OPTIONS] --apps <APPS>... <MANIFEST>

Arguments:
  <MANIFEST>  Model manifest (JSON or YAML), - for stdin

Options:
  -a, --apps <APPS>...   Labels of the apps to convert
  -l, --lang <LANG>...   Languages to write: go (gorm, golang), kotlin (kt, java, jpa)
      --no-orm           Omit storage tags in Go
      --no-validation    Omit validation tags in Go
  -o, --output <OUTPUT>  File to write (stdout if there is none)
  -v, --verbose          Tell about every step on stderr
  -h, --help             Print help
  -V, --version          Print version"

def Flag.name (flag : Flag) : String :=
  match longNames.find? (·.2 == flag) with
  | some (name, _) => "--" ++ name
  | none => ""

def UsageError.message : UsageError → String
  | help => helpText
  | version => versionText
  | missing => "the manifest and --apps are required"
  | withoutValue flag => "a value is required for " ++ flag.name
  | invalidLanguage word => "there is no language called '" ++ word ++ "'"
  | emptyPath => "a path is empty"
  | unknown word => "unexpected argument '" ++ word ++ "'"
  | repeated flag => flag.name ++ " is given more than once"
  | unwantedValue flag value => "unexpected value '" ++ value ++ "' for " ++ flag.name

end EntityGen.Command
