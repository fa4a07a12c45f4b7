import BatchRunner.Batch
import BatchRunner.Configuration
import BatchRunner.Files.Workspace
import BatchRunner.Toml.Reader
import BatchRunner.Toml.Writer

/-!
# Stores

A store keeps documents as files of one directory. Configurations and batches are the documents.
-/

namespace BatchRunner

/-- A type whose values are kept as documents. -/
class Stored (α : Type) where
  decode : Decode.Decoder α
  toToml : α → Toml.Value
  /-- The value taken for a document that cannot be loaded. -/
  absent : α

instance : Stored Configuration := ⟨Configuration.decode, Configuration.toToml, .unset⟩

instance : Stored Batch := ⟨Batch.decode, Batch.toToml, {}⟩

/-- Loads a document from a path. -/
def loadPath {α : Type} [Stored α] (space : Workspace) (path : String) : Except Error α :=
  match Files.readText space.tree space.cwd path with
  | .error fault => .error (.config (.unreadable path fault))
  | .ok text => match Toml.read Stored.decode text with
    | .error cause => .error (.config (.unparsable path cause))
    | .ok value => .ok value

/-- A directory of documents. -/
structure Store where
  base : String
  deriving DecidableEq, Repr, Inhabited

namespace Store

/-- The store of a project in a directory. -/
def project (root : String) : Store := ⟨Files.join root ".sluice"⟩

/-- The store of the user, below the directory for configurations. -/
def global (configDirectory : String) : Store := ⟨Files.join configDirectory "sluice"⟩

/-- The path of a document. -/
def filePath (store : Store) (file : String) : String := Files.join store.base file

/-- Whether a document is there. -/
def contains (store : Store) (space : Workspace) (file : String) : Bool :=
  Files.pathExists space.tree space.cwd (store.filePath file)

/-- Loads a document. -/
def load {α : Type} [Stored α] (store : Store) (space : Workspace) (file : String) : Except Error α :=
  loadPath space (store.filePath file)

/-- Loads a document, or gives a default in its place if that fails for whatever reason. -/
def loadOrDefault {α : Type} [Stored α] (store : Store) (space : Workspace) (file : String) : α :=
  match store.load space file with
  | .ok value => value
  | .error _ => Stored.absent

/-- Loads a document that need not be there. -/
def loadOptional {α : Type} [Stored α] (store : Store) (space : Workspace) (file : String) :
    Except Error (Option α) :=
  if store.contains space file then some <$> store.load space file else .ok none

/-- Makes the directory of a store if nothing is there. -/
def ensureDirectory (store : Store) (space : Workspace) : Except Error Workspace :=
  if Files.pathExists space.tree space.cwd store.base then .ok space
  else match Files.createDirectories space.tree space.cwd store.base with
    | .ok tree => .ok { space with tree }
    | .error fault => .error (.config (.noDirectory fault))

/-- Saves a document. The directory is made first and stays even if the document cannot be written; a value
that has no document leaves the file as it was. -/
def save {α : Type} [Stored α] (store : Store) (space : Workspace) (file : String) (value : α) :
    Except Error Unit × Workspace :=
  match store.ensureDirectory space with
  | .error error => (.error error, space)
  | .ok space => match Toml.write? (Stored.toToml value) with
    | none => (.error (.config .outOfRange), space)
    | some text =>
      match Files.writeText space.tree space.cwd (store.filePath file) text with
      | .error fault => (.error (.config (.unwritable (store.filePath file) fault)), space)
      | .ok tree => (.ok (), { space with tree })

end Store

namespace Batch

/-- Reads and checks the batch that a text describes. -/
def parse (text : String) : Except Error Batch :=
  match Toml.read Batch.decode text with
  | .error cause => .error (.config (.unparsable "batch" cause))
  | .ok batch => do
    batch.validate
    return batch

/-- Loads and checks the batch in a file. -/
def load (space : Workspace) (path : String) : Except Error Batch := do
  let batch : Batch ← loadPath space path
  batch.validate
  return batch

end Batch

namespace Configuration

/-- The name of the configuration file of a store. -/
def fileName : String := "config.toml"

/-- Puts the configuration of a store, if there is one, over a configuration. -/
def mergeFrom (config : Configuration) (store : Store) (space : Workspace) : Except Error Configuration := do
  match ← store.loadOptional space fileName with
  | some upper => return config.merge upper
  | none => return config

/-- The configuration that applies in a working directory: that of the user, if there is a directory for it,
and that of the project over it. -/
def load (space : Workspace) (configDirectory : Option String) : Except Error Configuration := do
  let config ← match configDirectory with
    | some directory => unset.mergeFrom (.global directory) space
    | none => pure unset
  config.mergeFrom (.project (Files.render space.cwd)) space

/-- Saves a configuration as that of the project in the working directory. -/
def saveProject (config : Configuration) (space : Workspace) : Except Error Unit × Workspace :=
  (Store.project (Files.render space.cwd)).save space fileName config

end Configuration

end BatchRunner
