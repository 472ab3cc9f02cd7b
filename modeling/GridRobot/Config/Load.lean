import GridRobot.FileSystem
import GridRobot.Wire.Document

/-! # Loading configurations

A configuration is read from a text, or from a file, and must make sense. -/

namespace GridRobot
namespace Config

def parse (text : String) : Except Fault Config :=
  match Document.parse? Config text with
  | none =>
    .error ((({ kind := .serializationFailed, message := "robot config is not valid JSON" } :
      Fault).during "config::from_json").causedBy .unreadable)
  | some config => do
    config.validate
    return config

/-- The configuration in the file at a path. Every fault says which path. -/
def load (files : FileSystem) (path : String) : Except Fault Config :=
  match files path with
  | .error e => .error (((Fault.ofIo e).during "config::load").noting "path" path)
  | .ok text => (parse text).mapError fun f => f.noting "path" path

end Config
end GridRobot
