import TexFlat.Encoding.Stepwise
import TexFlat.Source

/-!
# Disks

A disk holds files, directories and symbolic links by place. `locate` walks a path to its place,
following links: every step on the way must be a directory, and a walk follows at most forty links.
-/

namespace TexFlat

namespace Disk

/-- The names from a place up to the root, which is the empty list. -/
abbrev Place := List Text

inductive Entry
  | file (bytes : Bytes)
  | directory
  | link (target : Text)
deriving DecidableEq, Repr

end Disk

structure Disk where
  entries : List (Disk.Place × Disk.Entry) := []

namespace Disk

/-- What is at a place: the root is a directory of every disk. -/
def get? (disk : Disk) (place : Place) : Option Entry :=
  if place = [] then some .directory
  else (disk.entries.find? fun entry => entry.1 == place).map (·.2)

/-- The disk with an entry at a place, in the stead of one that was there. -/
def set (disk : Disk) (place : Place) (entry : Entry) : Disk :=
  ⟨(place, entry) :: disk.entries.filter fun old => old.1 != place⟩

/-- The disk with an entry at a place and with directories at all places above it. -/
def put (disk : Disk) (entry : Entry) : Place → Disk
  | [] => disk
  | name :: above =>
    (if (disk.get? above).isSome then disk else disk.put .directory above).set (name :: above) entry

theorem get?_set_self (disk : Disk) {place : Place} (entry : Entry) (below : place ≠ []) :
    (disk.set place entry).get? place = some entry := by
  simp [get?, set, below]

theorem get?_set_of_ne (disk : Disk) {place other : Place} (entry : Entry)
    (differs : other ≠ place) :
    (disk.set place entry).get? other = disk.get? other := by
  have kept : (disk.entries.filter fun old => old.1 != place).find? (fun old => old.1 == other) =
      disk.entries.find? fun old => old.1 == other := by
    rw [List.find?_filter]
    congr 1
    funext old
    by_cases same : old.1 = other
    · simp [same, differs]
    · simp [same]
  simp [get?, set, Ne.symm differs, kept]

/-- The steps that a path takes, and the place where it takes the first one. -/
def route (start : Place) (path : Text) : Place × List Text :=
  (if path.head? = some '/' then [] else start, Text.pieces '/' path)

/-- What a walk is for: a file to be created may be absent, and its path names no directory. -/
inductive Purpose
  | find
  | create
deriving DecidableEq, Repr

/-- A walk along `steps` that goes on as `follow` says after a link. -/
def walkWith (disk : Disk) (purpose : Purpose) (follow : Place → List Text → Except Fault Place)
    (place : Place) : (steps : List Text) → Except Fault Place
  | [] => .ok place
  | step :: steps =>
    if disk.get? place ≠ some .directory then .error .notDirectory
    else if step = [] ∨ step = ['.'] then walkWith disk purpose follow place steps
    else if step = ['.', '.'] then walkWith disk purpose follow place.tail steps
    else if purpose = .create ∧ steps ≠ [] ∧ steps.all (· = []) then .error .isDirectory
    else if 255 < Text.utf8Length step then .error .nameTooLong
    else
      match disk.get? (step :: place) with
      | none => if steps = [] then .ok (step :: place) else .error .missing
      | some (.link target) =>
        let (start, onward) := route place target
        follow start (onward ++ steps)
      | some _ => walkWith disk purpose follow (step :: place) steps

/-- A walk that follows at most `links` links. -/
def walk (disk : Disk) (purpose : Purpose) :
    (links : Nat) → Place → (steps : List Text) → Except Fault Place
  | 0 => walkWith disk purpose fun _ _ => .error .tooManyLinks
  | links + 1 => walkWith disk purpose (walk disk purpose links)

/-- The place of a path, seen from `start`. -/
def locate (disk : Disk) (purpose : Purpose) (start : Place) (path : Path) : Except Fault Place :=
  if '\x00' ∈ path.text then .error .nulInPath
  else if path.text = [] then .error .missing
  else
    let (start, steps) := route start path.text
    disk.walk purpose 40 start steps

/-- The place of a path that is handed to the disk as a whole, and so has a limit. -/
def locateShort (disk : Disk) (purpose : Purpose) (start : Place) (path : Path) :
    Except Fault Place :=
  if '\x00' ∉ path.text ∧ 4096 ≤ Text.utf8Length path.text then .error .nameTooLong
  else disk.locate purpose start path

/-- The absolute path of a place. -/
def pathOf (place : Place) : Path := ⟨'/' :: Text.join '/' place.reverse⟩

def present (disk : Disk) (start : Place) (path : Path) : Bool :=
  match disk.locateShort .find start path with
  | .ok place => (disk.get? place).isSome
  | .error _ => false

def canonical (disk : Disk) (start : Place) (path : Path) : Except Fault Path := do
  let place ← disk.locate .find start path
  match disk.get? place with
  | some _ => .ok (pathOf place)
  | none => .error .missing

def bytesAt (disk : Disk) (start : Place) (path : Path) : Except Fault Bytes := do
  let place ← disk.locateShort .find start path
  match disk.get? place with
  | some (.file bytes) => .ok bytes
  | some _ => .error .isDirectory
  | none => .error .missing

/-- The disk with a file at a path, new or in the place of an old one. -/
def write (disk : Disk) (start : Place) (path : Path) (bytes : Bytes) : Except Fault Disk := do
  let place ← disk.locateShort .create start path
  match disk.get? place with
  | some .directory => .error .isDirectory
  | _ => .ok (disk.set place (.file bytes))

end Disk
end TexFlat
