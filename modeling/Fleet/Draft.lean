import Fleet.Moment.Written
import Fleet.Options
import Fleet.Vm

/-! Drafts: descriptions whose fields may be missing or of the wrong type, and what is wrong with
them. -/

namespace Fleet

/-- A value that has not been looked at. -/
inductive Loose where
  | absent
  | null
  | flag (value : Bool)
  | number (value : Int)
  | text (value : String)
  | list (items : List Loose)
  | other
deriving Inhabited

/-- A checked field: its value, or everything that is wrong with it. -/
abbrev Checked (α : Type) := Except (List FieldError) α

namespace Checked

/-- Everything that is wrong with the field. -/
def issues {α : Type} : Checked α → List FieldError
  | .ok _ => []
  | .error errors => errors

/-- A field with one thing wrong. -/
def wrong {α : Type} (path : String) (issue : FieldIssue) : Checked α :=
  .error [⟨path, issue⟩]

/-- All values of a list, or everything that is wrong with any of them. -/
def all {α : Type} (fields : List (Checked α)) : Checked (List α) :=
  match fields.mapM fun field => field.toOption with
  | some values => .ok values
  | none => .error (fields.flatMap issues)

end Checked

namespace Loose

/-- A text that has to be there. -/
def requiredText (path : String) : Loose → Checked String
  | absent => .wrong path .missing
  | text value => .ok value
  | _ => .wrong path .notText

/-- A text that may be left out. -/
def optionalText (path : String) (standard : String) : Loose → Checked String
  | absent => .ok standard
  | text value => .ok value
  | _ => .wrong path .notText

/-- A moment that has to be there. -/
def requiredMoment (path : String) : Loose → Checked Moment
  | absent => .wrong path .missing
  | text value =>
    match Moment.ofText value with
    | .ok moment => .ok moment
    | .error .malformed => .wrong path .malformedMoment
    | .error .yearZero => .wrong path .yearZero
  | _ => .wrong path .notMoment

/-- The words for yes. -/
def yesWords : List String := ["1", "t", "y", "on", "yes", "true"]

/-- The words for no. -/
def noWords : List String := ["0", "f", "n", "no", "off", "false"]

/-- The least number beyond those that can stand for a flag, right or wrong. -/
def numberLimit : Int := 9223372036854775808

/-- A flag that may be left out. Words and the numbers 0 and 1 are taken for flags too. -/
def optionalFlag (path : String) (standard : Bool) : Loose → Checked Bool
  | absent => .ok standard
  | flag value => .ok value
  | number 0 => .ok false
  | number 1 => .ok true
  | number value =>
    if value < -numberLimit || numberLimit ≤ value then .wrong path .notFlag
    else .wrong path .malformedFlag
  | text value =>
    if yesWords.contains value.toLower then .ok true
    else if noWords.contains value.toLower then .ok false
    else .wrong path .malformedFlag
  | _ => .wrong path .notFlag

/-- A list that may be left out, each item checked under its own path. -/
def optionalList {α : Type} (path : String) (item : String → Loose → Checked α) :
    Loose → Checked (List α)
  | absent => .ok []
  | list items => .all (items.zipIdx.map fun (value, place) => item s!"{path}.{place}" value)
  | _ => .wrong path .notList

/-- A flaw, given by its name or in words. -/
def flaw (path : String) : Loose → Checked VmFlaw
  | text value =>
    match VmFlaw.all.find? fun flaw => flaw.name == value || flaw.text == value with
    | some flaw => .ok flaw
    | none => .wrong path .notMember
  | _ => .wrong path .notMember

end Loose

/-- A virtual machine whose fields have not been looked at. -/
structure VmDraft where
  name : Loose
  provider : Loose
  createdAt : Loose
  lifetime : Duration
  dns : Loose
  privateIp : Loose
  publicIp : Loose
  zone : Loose
  flaws : Loose

/-- When the virtual machine of the draft was created: now, unless the draft says when. The clock is
not looked at without need. -/
def VmDraft.creation (draft : VmDraft) (now : Except MomentError Moment) :
    Except Fault (Checked Moment) :=
  match draft.createdAt, now with
  | .absent, .ok now => .ok (.ok now)
  | .absent, .error error => .error (.problem (.moment error))
  | given, _ => .ok (given.requiredMoment "created_at")

/-- A virtual machine of the draft, created now unless the draft says when. All that is wrong is
told, in the order of the fields. -/
def VmDraft.check (draft : VmDraft) (now : Except MomentError Moment) : Except Fault Vm := do
  let createdAt ← draft.creation now
  let name := draft.name.requiredText "name"
  let provider := draft.provider.requiredText "provider"
  let dns := draft.dns.optionalText "dns" ""
  let privateIp := draft.privateIp.optionalText "private_ip" ""
  let publicIp := draft.publicIp.optionalText "public_ip" ""
  let zone := draft.zone.optionalText "zone" ""
  let flaws := draft.flaws.optionalList "errors" Loose.flaw
  let vm : Checked Vm := do
    return ⟨← name, ← provider, ← createdAt, some draft.lifetime, ← dns, ← privateIp, ← publicIp,
      ← zone, ← flaws⟩
  match vm with
  | .ok vm => .ok vm
  -- The check ends at the first flaw, so all of them are collected here.
  | .error _ => .error (.problem (.invalid (name.issues ++ provider.issues ++ createdAt.issues ++
      dns.issues ++ privateIp.issues ++ publicIp.issues ++ zone.issues ++ flaws.issues)))

/-- Options whose fields have not been looked at. -/
structure OptionsDraft where
  localSsd : Loose
  lifetime : Duration
  spread : Loose
  providers : Loose

/-- The options of the draft. All that is wrong is told, in the order of the fields. -/
def OptionsDraft.check (draft : OptionsDraft) : Except Fault CreateOptions :=
  let localSsd := draft.localSsd.optionalFlag "use_local_ssd" false
  let spread := draft.spread.optionalFlag "geo_distributed" false
  let providers := draft.providers.optionalList "vm_providers" fun path value =>
    match value with
    | .text name => .ok name
    | _ => .wrong path .notText
  let options : Checked CreateOptions := do
    return ⟨← localSsd, draft.lifetime, ← spread, ← providers⟩
  match options with
  | .ok options => .ok options
  | .error _ => .error (.problem (.invalid (localSsd.issues ++ spread.issues ++
      providers.issues)))

end Fleet
