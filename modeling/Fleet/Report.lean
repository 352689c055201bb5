import Fleet.Duration.Period
import Fleet.Duration.Spoken
import Fleet.Moment.Written
import Fleet.Roster
import Fleet.Text.Document

/-! Reports: what a command shows when it has succeeded. -/

namespace Fleet

/-- A line of text, with the colour that it is shown in. -/
structure Line where
  colour : Option String
  text : String
deriving DecidableEq

/-- A line in no colour of its own. -/
def Line.plain (text : String) : Line := ⟨none, text⟩

/-- The line with marks for its colour. -/
def Line.marked (line : Line) : String :=
  match line.colour with
  | some colour => s!"[{colour}]{line.text}[/{colour}]"
  | none => line.text

/-- A side of a column. -/
inductive Side where
  | left
  | right
deriving DecidableEq

/-- The word for the side. -/
def Side.name : Side → String
  | left => "left"
  | right => "right"

/-- A column of a table: its heading, its style and the side that its cells keep to. -/
structure Column where
  heading : String
  style : String := ""
  side : Side := .left
deriving DecidableEq

/-- A table with a title. -/
structure Table where
  title : String
  columns : List Column
  rows : List (List Line)
deriving DecidableEq

/-- What a command shows. -/
inductive Report where
  /-- Nothing at all. -/
  | silent
  /-- One line. -/
  | line (line : Line)
  /-- A table. -/
  | table (table : Table)
  /-- A document for other programs. -/
  | document (text : String)
deriving DecidableEq

namespace Report

/-- What the report writes for other programs. -/
def output : Report → String
  | .document text => text ++ "\n"
  | .silent | .line _ | .table _ => ""

end Report

namespace Vm

/-- The words for the flaws of a virtual machine, in order. -/
def flawTexts (vm : Vm) : List String :=
  vm.flaws.map VmFlaw.text

/-- The lifetime in a document: a period, or an empty list when there is none. -/
def documentLifetime (vm : Vm) : Text.Document.Item :=
  match vm.lifetime with
  | some lifetime => .text lifetime.period
  | none => .texts []

/-- The fields of a virtual machine in a document, in a fixed order. -/
def documentFields (vm : Vm) : List (String × Text.Document.Item) :=
  [("name", .text vm.name), ("provider", .text vm.provider),
   ("created_at", .text vm.createdAt.zuluText), ("lifetime", vm.documentLifetime),
   ("dns", .text vm.dns), ("private_ip", .text vm.privateIp), ("public_ip", .text vm.publicIp),
   ("zone", .text vm.zone), ("errors", .texts vm.flawTexts)]

/-- A virtual machine as an item of a document. -/
def document (depth : Nat) (vm : Vm) : String :=
  Text.Document.ofFields depth (vm.documentFields.map fun (name, item) =>
    (name, item.written (depth + 1)))

/-- Region and zone, or the zone alone when it has no region. -/
def shownLocality (vm : Vm) : String :=
  match vm.locality with
  | .ok locality => locality
  | .error _ => s!"zone={vm.zone}"

/-- How long the virtual machine still has, in words. -/
def shownRemainder (vm : Vm) (now : Moment) : Except MomentError Line := do
  let remainder ← (← vm.expiresAt).since now
  if remainder ≤ 0 then return ⟨some "red", "expired"⟩
  else return .plain (Duration.spoken (remainder.toNat / microsPerSecond))

/-- A text, or a dash in place of an empty one. -/
def orDash (text : String) : String :=
  if text.isEmpty then "-" else text

/-- The cells of a virtual machine's row. -/
def row (vm : Vm) (now : Moment) : Except MomentError (List Line) := do
  let remainder ← if vm.neverExpires then .ok ⟨some "dim", "N/A"⟩ else vm.shownRemainder now
  return [.plain vm.name, .plain vm.provider, .plain vm.shownLocality,
    .plain (orDash vm.privateIp), .plain (orDash vm.publicIp), remainder,
    .plain (", ".intercalate vm.flawTexts)]

end Vm

namespace Roster

/-- The columns of a table of virtual machines. -/
def columns : List Column :=
  [⟨"Name", "bold green", .left⟩, ⟨"Provider", "cyan", .left⟩, ⟨"Locality", "dim", .left⟩,
   ⟨"Private IP", "", .left⟩, ⟨"Public IP", "", .left⟩, ⟨"Expires In", "", .right⟩,
   ⟨"Errors", "red", .left⟩]

/-- The virtual machines as a document. -/
def document (roster : Roster) : String :=
  Text.Document.ofList 0 (roster.map (Vm.document 1))

/-- The virtual machines as a table, or a line that there are none. -/
def table (roster : Roster) (now : Except MomentError Moment) : Except MomentError Report := do
  if roster.isEmpty then return .line ⟨some "yellow", "No VMs found."⟩
  let now ← now
  let rows ← roster.mapM fun vm => vm.row now
  return .table ⟨s!"VMs ({roster.length})", columns, rows⟩

/-- The virtual machines as a document or as a table. -/
def report (roster : Roster) (asDocument : Bool) (now : Except MomentError Moment) :
    Except MomentError Report :=
  if asDocument then .ok (.document roster.document) else roster.table now

end Roster

end Fleet
