import Fleet.Compute.Instance
import Fleet.Options

/-! Events: what was done to the outside. -/

namespace Fleet

/-- What a provider in memory was asked to do. -/
inductive Request where
  | cleanSsh
  | configSsh
  | list
  | account
  | create (names : List String) (options : CreateOptions)
  | delete (names : List String)
  | extend (names : List String) (lifetime : Duration)
deriving DecidableEq

/-- The name of the operation that is asked for. -/
def Request.operation : Request → String
  | cleanSsh => "clean_ssh"
  | configSsh => "config_ssh"
  | list => "list"
  | account => "find_active_account"
  | create _ _ => "create"
  | delete _ => "delete"
  | extend _ _ => "extend"

/-- Something done to the outside. -/
inductive Event where
  /-- A command was run. -/
  | command (words : List String)
  /-- A client for Compute Engine was built. -/
  | clientBuilt
  /-- Instances of a project were listed. -/
  | listed (project filter : String)
  /-- An instance was asked for. -/
  | inserted (project zone : String) (request : Compute.InstanceRequest)
  /-- An instance was to be deleted. -/
  | deleted (project zone name : String)
  /-- An instance was looked up. -/
  | fetched (project zone name : String)
  /-- The labels of an instance were to be replaced. -/
  | relabelled (project zone name : String) (labels : Compute.Labels) (fingerprint : String)
  /-- Some seconds were waited. -/
  | waited (seconds : Nat)
  /-- A provider in memory was asked to do something. -/
  | asked (provider : String) (request : Request)
  /-- An action ran on a provider, with the names of virtual machines if it was given any. -/
  | acted (provider : String) (names : Option (List String))
deriving DecidableEq

end Fleet
