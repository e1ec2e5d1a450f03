import VehicleDamage.Config
import VehicleDamage.Directory
import VehicleDamage.Note
import VehicleDamage.Template.Reference
import VehicleDamage.Text.Quoted

/-!
Settings and templates from files. What reading a file gave, its text or a fault, is an argument, so whoever
loads decides where files lie.
-/

namespace VehicleDamage

open Text

inductive ConfigFault where
  | parse (error : Json.Error)
  | read (path : String) (fault : PathFault)
deriving DecidableEq

def ConfigFault.message : ConfigFault → String
  | parse error => "failed to parse damage zone config: " ++ error.message
  | read path fault => s!"failed to read damage zone config from {quoted path}: {fault.message}"

namespace Config

def ofText (text : String) : Except ConfigFault Config :=
  match parse text with
  | .ok config => .ok config
  | .error error => .error (.parse error)

def ofFile (path : String) (content : Except PathFault String) : Except ConfigFault Config :=
  match content with
  | .ok text => ofText text
  | .error fault => .error (.read path fault)

/-- The settings of a file, with the path when they come from it. When they cannot be had the standard ones
stand in. -/
def load (path : String) (content : Except PathFault String) : Config × Option String × List Note :=
  match ofFile path content with
  | .ok config => (config, some path, [.configLoaded path])
  | .error fault => (.standard, none, [.configFailed path fault.message, .configBuiltin])

end Config

inductive CatalogFault where
  | template (fault : TemplateFault)
  | read (path : String) (fault : PathFault)
deriving DecidableEq

def CatalogFault.message : CatalogFault → String
  | template fault => fault.message
  | read path fault => s!"failed to read template from {quoted path}: {fault.message}"

namespace Catalog

def ofText (markers : Markers) (text : String) : Except CatalogFault Catalog :=
  match load markers text with
  | .ok catalog => .ok catalog
  | .error fault => .error (.template fault)

def ofFile (markers : Markers) (path : String) (content : Except PathFault String) :
    Except CatalogFault Catalog :=
  match content with
  | .ok text => ofText markers text
  | .error fault => .error (.read path fault)

/-- The catalog of the configured template, or of the reference template. -/
def ofConfig (config : Config) (read : String → Except PathFault String) : Except CatalogFault Catalog :=
  match config.templatePath with
  | some path => ofFile config.markers path (read path)
  | none => ofText config.markers referenceTemplate

end Catalog

end VehicleDamage
