import InputReplay.Config.Basic

/-! Loading configuration from a file. -/

namespace InputReplay

inductive ReadError
  | nulInName
  | notFound
  | notDirectory
  | isDirectory
  | nameTooLong
  | notText
  deriving DecidableEq

def ReadError.message : ReadError → String
  | nulInName => "file name contained an unexpected NUL byte"
  | notFound => "No such file or directory (os error 2)"
  | notDirectory => "Not a directory (os error 20)"
  | isDirectory => "Is a directory (os error 21)"
  | nameTooLong => "File name too long (os error 36)"
  | notText => "stream did not contain valid UTF-8"

/-- The directories and files of a host, each by its names from the root, and the directory that
relative paths start from. -/
structure Files where
  working : List String
  directories : List (List String)
  files : List (List String × ByteArray)

namespace Files

/-- Follows names from a directory. A name of more than 255 bytes is too long. -/
def follow (fs : Files) (directory : List String) : List String → Except ReadError ByteArray
  | [] => .error .isDirectory
  | name :: names =>
    if name = "" || name = "." then fs.follow directory names
    else if name = ".." then fs.follow directory.dropLast names
    else if 255 < name.utf8ByteSize then .error .nameTooLong
    else
      let place := directory ++ [name]
      match fs.files.lookup place with
      | some bytes => if names.isEmpty then .ok bytes else .error .notDirectory
      | none =>
        if fs.directories.contains place then fs.follow place names else .error .notFound

/-- The bytes of the file at a path. A path of 4096 bytes or more is too long. -/
def open? (fs : Files) (path : String) : Except ReadError ByteArray :=
  if path.contains '\x00' then .error .nulInName
  else if path = "" then .error .notFound
  else if 4096 ≤ path.utf8ByteSize then .error .nameTooLong
  else fs.follow (if path.front = '/' then [] else fs.working) (path.splitOn "/")

def readText (fs : Files) (path : String) : Except ReadError String :=
  match fs.open? path with
  | .error e => .error e
  | .ok bytes =>
    match String.fromUTF8? bytes with
    | some text => .ok text
    | none => .error .notText

end Files

inductive LoadError
  | unreadable (path : String) (cause : ReadError)
  | parse (cause : ParseError)

def LoadError.message? : LoadError → Option String
  | unreadable path cause =>
    some ("I/O error reading config at " ++ path ++ ": " ++ cause.message)
  | parse cause => cause.message?

/-- The configuration in the file at a path. -/
def Config.load (fs : Files) (path : String) : Except LoadError Config :=
  match fs.readText path with
  | .error e => .error (.unreadable path e)
  | .ok text => (Config.ofToml text).mapError .parse

end InputReplay
