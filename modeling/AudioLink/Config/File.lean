import AudioLink.Config.Text

/-!
# Configuration files

A configuration file lies in the user's configuration directory. A missing file stands for the
standard configuration.
-/

namespace AudioLink

/-- What is found at the path of a file. -/
inductive FileContent where
  | missing
  | directory
  | bytes (content : Bytes)
  deriving DecidableEq

namespace Config

def ofFile (path : String) : FileContent → Except ConfigError Config
  | .missing => .ok standard
  | .directory => .error (.unreadable path "Is a directory (os error 21)")
  | .bytes content =>
    match String.fromUTF8? ⟨content.toArray⟩ with
    | none => .error (.unreadable path "stream did not contain valid UTF-8")
    | some text => parse text

def joinPath (directory name : String) : String :=
  if directory.isEmpty || directory.endsWith "/" then directory ++ name
  else directory ++ "/" ++ name

/-- The path of the configuration file, given the home directory and the configuration directory
that the environment names and the home directory of the user's account. A configuration directory
counts only if its path is absolute, an empty home directory does not count. -/
def defaultPath (home directory account : Option String) : Option String :=
  ((home.filter fun path => !path.isEmpty).orElse fun _ => account).map fun home =>
    let directory := (directory.filter fun path => path.startsWith "/").getD
      (joinPath home ".config")
    joinPath (joinPath directory "reac-link") "config.toml"

end Config

end AudioLink
