import Fleet.Text.Cells.Tables
import Fleet.Text.Marks
import Fleet.Text.Ranges

/-! Cells: the places that texts take where all letters have one width. Some characters are shown
as one with those before them, and such a cluster is never divided. -/

namespace Fleet.Text

/-- The number of places that a character takes by itself. -/
def charCells (c : Char) : Nat :=
  if inRanges flatRanges c.toNat then 0 else if inRanges broadRanges c.toNat then 2 else 1

/-- The number of places that a colour mark adds to the last character that takes some. -/
def widening (last : Option Char) : Nat :=
  if last.any fun c => inRanges widenedRanges c.toNat then 1 else 0

/-- The number of places that the rest of a text takes, after the last character that takes some and
that no colour mark has met. A character that is joined to the one before it takes none. -/
def cellsAfter (last : Option Char) (joined : Bool) : List Char → Nat
  | [] => 0
  | c :: rest =>
    if joined then cellsAfter last false rest
    else if c == joiner then cellsAfter last true rest
    else if c == colourMark then widening last + cellsAfter none false rest
    else match charCells c with
      | 0 => cellsAfter last false rest
      | places => places + cellsAfter (some c) false rest

/-- The number of places that a text takes. -/
def cells (text : List Char) : Nat := cellsAfter none false text

/-- Characters that are shown as one, and the number of places that they take. -/
structure Cluster where
  chars : List Char
  places : Nat
deriving DecidableEq

/-- The cluster with one more character, which adds some places. -/
def Cluster.push (cluster : Cluster) (c : Char) (places : Nat) : Cluster :=
  ⟨cluster.chars ++ [c], cluster.places + places⟩

/-- The clusters of the rest of a text, after one that has been begun and the last character that
takes places and that no colour mark has met. -/
def clustersAfter (begun : Cluster) (last : Option Char) (joined : Bool) :
    List Char → List Cluster
  | [] => [begun]
  | c :: rest =>
    if joined then clustersAfter (begun.push c 0) last false rest
    else if c == joiner then clustersAfter (begun.push c 0) last true rest
    else if c == colourMark then clustersAfter (begun.push c (widening last)) none false rest
    else match charCells c with
      | 0 => clustersAfter (begun.push c 0) last false rest
      | places => begun :: clustersAfter ⟨[c], places⟩ (some c) false rest

/-- The clusters of a text. Its first character is never joined to others. -/
def clusters : List Char → List Cluster
  | [] => []
  | c :: rest =>
    let places := charCells c
    clustersAfter ⟨[c], places⟩ (if places == 0 then none else some c) false rest

/-- Why a text cannot be cut off at a width. Its clusters may take fewer places than the text does,
when it begins with joiners. -/
inductive CutFlaw where
  /-- The clusters take fewer places than the width. -/
  | tooFew
  /-- The clusters take no places. -/
  | noPlaces
deriving DecidableEq

/-- What is wrong, in words. -/
def CutFlaw.message : CutFlaw → String
  | tooFew => "list index out of range"
  | noPlaces => "division by zero"

/-- As many clusters as fill a width, and a blank where only half of one fits. -/
def fill : Nat → List Cluster → Except CutFlaw (List Char)
  | 0, _ => .ok []
  | _, [] => .error .tooFew
  | width, cluster :: rest =>
    if cluster.places ≤ width then do
      let filled ← fill (width - cluster.places) rest
      return cluster.chars ++ filled
    else .ok [' ']

/-- A text cut off at a width. -/
def fit (width : Nat) (text : List Char) : Except CutFlaw (List Char) :=
  let clusters := clusters text
  if cells text ≤ width then .ok text
  else if 0 < width && clusters.all fun cluster => cluster.places == 0 then .error .noPlaces
  else fill width clusters

/-- The parts of some clusters that each fit a width, after one that has been begun and the places
that it takes. What takes no place at the end is left out. -/
def chopAfter (width used : Nat) (begun : List Char) : List Cluster → List (List Char)
  | [] => if used == 0 then [] else [begun]
  | cluster :: rest =>
    if width < used + cluster.places then
      begun :: chopAfter width cluster.places cluster.chars rest
    else chopAfter width (used + cluster.places) (begun ++ cluster.chars) rest

/-- The parts of a text that each fit a width. -/
def chop (width : Nat) (text : List Char) : List (List Char) :=
  chopAfter width 0 [] (clusters text)

end Fleet.Text
