/-! Assignments: a name, and a value after an equals sign. -/

namespace Fleet.Text

/-- What stands before the first equals sign and, if there is one, what stands after it. -/
def splitAtSign : List Char → List Char × Option (List Char)
  | [] => ([], none)
  | '=' :: value => ([], some value)
  | c :: rest =>
    let (stem, value) := splitAtSign rest
    (c :: stem, value)

end Fleet.Text
