import Fleet.Duration.Basic

/-! The options that every provider takes when it creates virtual machines. -/

namespace Fleet

/-- How virtual machines are created, whatever the provider. -/
structure CreateOptions where
  localSsd : Bool := false
  lifetime : Duration := .twelveHours
  spread : Bool := false
  providers : List String := []
deriving DecidableEq

namespace CreateOptions

/-- The providers to create on: those that were asked for as they stand, or else all that may be
used, in order. -/
def eligible (options : CreateOptions) (all : List String) : List String :=
  if options.providers.isEmpty then all.mergeSort (fun a b => a ≤ b) else options.providers

end CreateOptions

end Fleet
