-- SUMMARY: Loading the settings: the environment over a file over the defaults.
import WebhookRelay.Settings.Environment
import WebhookRelay.Settings.File
import WebhookRelay.Settings.Sections

/-!
# Loading settings

The defaults are overlaid with the file, if one is given, and with the
environment. What comes out is read section by section and checked.
-/

namespace WebhookRelay.Settings

/-- The scope of the relay's variables. -/
def defaultScope : String := "RELAY"

/-- Reads and checks the settings of a tree. -/
def ofLayers (layers : List (List (String × Json))) : Except SettingsError Settings := do
  let s ← ofTree (layers.foldl overlay (toTree {}))
  s.validate
  return s

/-- Loads the settings from the variables of a scope. -/
def load (scope : String) (environment : List (String × String)) : Except SettingsError Settings :=
  ofLayers [environmentLayer scope environment]

/-- Loads the settings from a file and from the relay's variables. -/
def loadFile (files : FileTree) (path : String) (environment : List (String × String)) :
    Except SettingsError Settings := do
  ofLayers [← fileLayer files path, environmentLayer defaultScope environment]

end WebhookRelay.Settings
