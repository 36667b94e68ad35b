import InputDeck.Entries
import InputDeck.Text.Utf8

/-!
# Working directories

A run leaves its reports as files in a working directory. A directory holds entries with
distinct names, each a file or a directory of its own. Names are bytes, and so is the content of
a file; a name that is no text is never searched. What is searched may be a directory, nothing
at all, or a file in the place of a directory.
-/

namespace InputDeck

/-- What stands under a name in a directory. -/
inductive Entry where
  | file (content : List UInt8)
  | directory
deriving DecidableEq

/-- The entries of a directory with their names. -/
abbrev Directory := Entries (List UInt8) Entry

/-- What is found where the reports of a run are looked for. -/
inductive Workdir where
  | present (directory : Directory)
  | missing
  | notDirectory

namespace Workdir

/-- What stands under a name in a directory. The directories inside it are empty. -/
def below (directory : Directory) (name : List UInt8) : Workdir :=
  match directory.find? name with
  | none => missing
  | some .directory => present Entries.empty
  | some (.file _) => notDirectory

end Workdir

/-- The files of a directory whose names are texts, with those texts. -/
def Directory.textFiles (directory : Directory) : List (Text × List UInt8) :=
  directory.pairs.filterMap fun (name, entry) =>
    match Text.ofBytes? name, entry with
    | some name, .file content => some (name, content)
    | _, _ => none

/-- Whether a text stands before another or is equal to it in the order of code points, which is
also the order of their bytes. -/
def Text.atMost : Text → Text → Bool
  | [], _ => true
  | _ :: _, [] => false
  | c :: s, d :: t => c < d || (c == d && Text.atMost s t)

end InputDeck
