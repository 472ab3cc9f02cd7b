import GridRobot.Fault

/-! # Configurations

The values that robots are made with: the fuel in the tank, the ceiling of a boost, and whether the
steps of a robot are recorded. A boost is asked for by one digit, so a ceiling above nine is
refused. -/

namespace GridRobot

def defaultFuel : UInt32 := 30

def defaultMaxBoost : UInt32 := 5

/-- The greatest magnitude that a digit can ask for. -/
def greatestDigit : UInt32 := 9

structure Config where
  initialFuel : UInt32 := defaultFuel
  maxBoost : UInt32 := defaultMaxBoost
  recordTrace : Bool := false
  deriving DecidableEq, Repr, Inhabited

namespace Config

def withTrace (config : Config) (recordTrace : Bool) : Config :=
  { config with recordTrace }

/-- The fault of a field whose value makes no sense. -/
def invalid (field reason : String) : Fault :=
  (({ kind := .configInvalid, message := reason } : Fault).during "config::validate").noting
    "field" field

/-- The fault of a boost ceiling that no digit can reach. -/
def unreachableBoost (maxBoost : UInt32) : Fault :=
  invalid "max_boost"
    ("max_boost " ++ maxBoost.toNat.repr ++ " can never be reached by a single digit (max "
      ++ greatestDigit.toNat.repr ++ ")")

/-- Refuses a boost ceiling that no digit can reach. -/
def validate (config : Config) : Except Fault Unit :=
  if greatestDigit < config.maxBoost then .error (unreachableBoost config.maxBoost) else .ok ()

def display (config : Config) : String :=
  "RobotConfig \x7b initial_fuel: " ++ config.initialFuel.toNat.repr
    ++ ", max_boost: " ++ config.maxBoost.toNat.repr
    ++ ", record_trace: " ++ (if config.recordTrace then "true" else "false") ++ " \x7d"

end Config
end GridRobot
