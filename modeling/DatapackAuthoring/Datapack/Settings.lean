import DatapackAuthoring.Fault
import DatapackAuthoring.Naming.Context
import DatapackAuthoring.Text.Blank
/-!
Settings of a datapack. A library of its own collects them: from values that are given outright,
from variables of the environment, from a file, and from the defaults. Here is what it is told
about each field, and what becomes of the texts that it comes back with. How it finds, chooses and
checks them is a parameter.
-/
namespace DatapackAuthoring

structure Settings where
  defaultNs : String
  defaultDirectory : String
deriving DecidableEq

inductive SettingField where
  | defaultNamespace
  | defaultDirectory
deriving DecidableEq

namespace SettingField

def name : SettingField → String
  | defaultNamespace => "default_namespace"
  | defaultDirectory => "default_directory"

def variableName (field : SettingField) : String := "PACKSMITH_" ++ field.name

def default : SettingField → String
  | defaultNamespace => hostNamespace
  | defaultDirectory => ""

end SettingField

structure Sources where
  given : List (String × Value)
  environment : List (String × String)
  /-- The text of the file, if there is one. -/
  file : Option String

structure Candidates where
  given : Option Value
  environment : Option String
  file : Option String
  default : String

/-- The functions of the library. Each of the first three looks for a name in one source; the last
    one comes back with the texts of all fields, or with those fields that have none. -/
structure Loader where
  fromGiven : List (String × Value) → String → Option Value
  fromEnvironment : List (String × String) → String → Option String
  fromFile : String → String → Option String
  chosen : Candidates → Value
  validated : (SettingField → Value) → Except (List SettingField) (SettingField → String)

namespace Loader

def candidates (loader : Loader) (sources : Sources) (field : SettingField) : Candidates :=
  { given := loader.fromGiven sources.given field.name
    environment := loader.fromEnvironment sources.environment field.variableName
    file := sources.file.bind fun text => loader.fromFile text field.variableName
    default := field.default }

def texts (loader : Loader) (sources : Sources) :
    Except (List SettingField) (SettingField → String) :=
  loader.validated fun field => loader.chosen (loader.candidates sources field)

end Loader

def withoutOuterSlashes (directory : String) : String :=
  String.ofList (Text.strip (· == '/') directory.toList)

namespace Settings

def load (loader : Loader) (sources : Sources) : Except Fault Settings :=
  match loader.texts sources with
  | .ok texts => .ok ⟨texts .defaultNamespace, withoutOuterSlashes (texts .defaultDirectory)⟩
  | .error fields => .error (.settingsNotText (fields.map SettingField.name))

theorem load_of_texts {loader : Loader} {sources : Sources} {texts : SettingField → String}
    (collected : loader.texts sources = .ok texts) :
    load loader sources =
      .ok ⟨texts .defaultNamespace, withoutOuterSlashes (texts .defaultDirectory)⟩ := by
  rw [load, collected]

end Settings

end DatapackAuthoring
