import Fleet.Label

/-! Zones: where a virtual machine runs, and the region that the name of a zone begins with. -/

namespace Fleet.Zone

/-- The zone of virtual machines that are the machine at hand. -/
def localZone : String := "local"

/-- The region in a zone's name that is given backwards: what is left of the letter at the end and
of one hyphen before it. It has a character other than a hyphen at its end and no line break
before that. -/
def regionBackwards : List Char → Option (List Char)
  | letter :: rest =>
    let region := match rest with
      | '-' :: more => more
      | other => other
    match region with
    | last :: before =>
      if Label.isLetter letter && last != '-' && !before.contains '\n' then some region else none
    | [] => none
  | [] => none

/-- The region of a zone, if its name has one. One line break that closes the name is not looked
at. -/
def region? (zone : String) : Option String :=
  (regionBackwards (Text.dropFinalBreak zone.toList).reverse).map fun region =>
    String.ofList region.reverse

end Fleet.Zone
