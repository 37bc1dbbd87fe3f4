import CodeAudit.Audit
import CodeAudit.Files.Tree
import CodeAudit.Settings.Basic
import CodeAudit.Settings.Example
import CodeAudit.Settings.Toml.Reader

/-!
# Loading settings

Settings come from a file that the user names, or else from the user's own file in the settings
directory, which extends the defaults. If the directory has no example yet, one is written there.
-/

namespace CodeAudit

namespace Settings

/-- The settings that a text holds. What it does not mention has its default. -/
def ofToml? (text : String) : Option Settings := (Toml.read? text).bind Setting.read?

/-- The settings in the content of a file. -/
def ofContent (content : ByteArray) : Except AuditError Settings :=
  match Utf8.decode content with
  | .error _ => .error .unreadable
  | .ok text =>
    match ofToml? (String.ofList text.toList) with
    | some settings => .ok settings
    | none => .error .malformedSettings

/-- The name of the user's own file. -/
def userFile : String := "astguard.local"

/-- The name of the example. -/
def exampleFile : String := "astguard.conf"

/-- Writes the example into a directory, unless it is there. -/
def writeExample (files : FileTree) (dir : Route) : FileTree :=
  match files.resolve? dir exampleFile with
  | some _ => files
  | none => files.put (.file exampleSettings.toUTF8) (dir ++ [exampleFile])

/-- The settings of the user, where there are any. -/
def userSettings? (files : FileTree) (dir : Route) : Except AuditError (Option Settings) :=
  match files.resolve? dir userFile with
  | none => .ok none
  | some route =>
    match files.contentAt? route with
    | some content => (ofContent content).map some
    | none => .error .unreadable

end Settings

end CodeAudit
