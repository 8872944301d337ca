import Backtick.Disk.Basic
import Backtick.Settings
import Backtick.Settings.Merge
import Backtick.Settings.Overlay
import Backtick.Yaml

/-!
# Loading settings

Settings come from two documents of a directory, of which the local one is merged over the shared
one, and from the environment, which overrides both. A document that is missing or has no content
counts as an empty map.
-/

namespace Backtick

namespace Settings

/-- The variable that names the directory of the documents. -/
def directoryVariable : Text := "TSXLINT_CONFIG_DIR"

/-- The directory of the documents. -/
def directory (env : Environment) : Path := .ofText ((env.get? directoryVariable).getD "config")

/-- The name of the shared document. -/
def sharedName : Text := "settings.yaml"

/-- The name of the local document. -/
def localName : Text := "local.yaml"

/-- A text whose line breaks are line feeds. -/
def unifyLineBreaks : Text → Text
  | [] => []
  | c :: rest =>
    if c.val = 0x0D then
      match rest with
      | d :: rest' =>
        if d.val = 0x0A then d :: unifyLineBreaks rest'
        else .ofNat 0x0A :: unifyLineBreaks (d :: rest')
      | [] => [.ofNat 0x0A]
    else c :: unifyLineBreaks rest

/-- The number of bytes that are decoded at a time, less one. -/
def blockSize : Nat := 8191

/-- The text of a document. -/
def documentText (b : Bytes) : Except Fault Text :=
  ((Utf8.decodeBlocks blockSize [] b).mapError .decoding).map unifyLineBreaks

/-- The value of a document, or an empty map if it has no content. -/
def documentValue (t : Text) : Except Fault Linked :=
  (Yaml.read t).map fun v => if v.value.isFalsy then .map 0 [] else v

/-- The value of a document on a disk, or an empty map if there is none. -/
def readDocument (d : Disk) (p : Path) : Except Fault Linked := do
  if ← d.has p then documentValue (← documentText (← d.read p)) else return .map 0 []

/-- The local document merged over the shared one. The two have no map in common. -/
def mergeDocuments (shared own : Linked) : Except Fault Linked :=
  shared.merge (own.shift shared.fresh)

/-- The configuration that the documents of a directory make up. -/
def documents (d : Disk) (directory : Path) : Except Fault Linked := do
  let shared ← readDocument d (directory.join sharedName)
  let own ← readDocument d (directory.join localName)
  mergeDocuments shared own

/-- The value that the documents of a directory make up. -/
def readDirectory (d : Disk) (directory : Path) : Except Fault Value :=
  (documents d directory).map (·.value)

/-- The settings that a configuration and the environment make up. -/
def combine (config : Linked) (env : Environment) : Except Fault Settings := do
  Settings.ofValue (← Overlay.applyTo env config).value

/-- The settings of a disk and an environment. -/
def load (d : Disk) (env : Environment) : Except Fault Settings := do
  combine (← documents d (directory env)) env

end Settings

end Backtick
