import GridRobot.Fault.Io

/-! # File systems

Seen from a program that only reads, a file system is a function. -/

namespace GridRobot

/-- What reading the file at a path comes to: its text, or an error. -/
abbrev FileSystem := String → Except IoError String

end GridRobot
