import EngineFit.Files.Tree
import EngineFit.Text.Utf8

/-!
# Text files

A text file is read as UTF-8, and its line ends are read as line feeds (`Text.unifyNewlines`),
as programs read text files. Reading fails when the file cannot be read or its bytes are not
UTF-8.
-/

namespace EngineFit

/-- Why a file's text could not be read. -/
inductive TextFault where
  | os (e : OsError)
  | encoding (e : Text.Utf8Error)
deriving DecidableEq, Repr

/-- The wording of a text fault about a path. -/
def TextFault.message (path : String) : TextFault → String
  | .os e => e.message path
  | .encoding e => e.message

/-- The text of a file: its bytes as UTF-8, with unified line ends. -/
def FileTree.readText (t : FileTree) (p : PathName) : Except TextFault String :=
  match t.read p with
  | .error e => .error (.os e)
  | .ok bytes =>
    match Text.decodeUtf8 bytes with
    | .ok s => .ok (Text.unifyNewlines s)
    | .error e => .error (.encoding e)

end EngineFit
