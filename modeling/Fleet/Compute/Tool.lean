import Fleet.Fault

/-! The command-line tool of Compute Engine: what it prints and how it fails. -/

namespace Fleet.Compute

/-- The tool: what it prints for accounts and for the project, which of its commands fail, with
their status or without being found, and which one the user breaks off. -/
structure Tool where
  account : String := ""
  project : String := ""
  failures : List (String × Option Int) := []
  interrupted : Option String := none
deriving DecidableEq

namespace Tool

/-- The name that the tool is called by. -/
def name : String := "gcloud"

/-- What the tool prints for the command that its first argument names. -/
def output (tool : Tool) (command : String) : String :=
  if command == "auth" then tool.account
  else if command == "config" then tool.project
  else ""

/-- Runs the tool with arguments. -/
def run (tool : Tool) (arguments : List String) : Except Problem String :=
  let command := arguments.headD ""
  if tool.interrupted == some command then .error .interrupted
  else match tool.failures.lookup command with
    | some (some status) => .error (.commandFailed (name :: arguments) status)
    | some none => .error (.commandMissing name)
    | none => .ok (tool.output command)

end Tool

end Fleet.Compute
