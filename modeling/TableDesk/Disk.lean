import TableDesk.Path

/-!
Documents and folders as a value. An operation that cannot be carried out says so and leaves the
disk as it is. A place can be protected, so that nothing can be made or written there.
-/

namespace TableDesk

/-- What is found at a place: a folder, a document with a text, or a document whose bytes are no
text. -/
inductive Node where
  | folder
  | text (content : String)
  | bytes (content : List UInt8)
  deriving DecidableEq, Repr, Inhabited

/-- The documents and the explicitly made folders by place, and the protected places. -/
structure Disk where
  nodes : List (Place × Node)
  protectedPlaces : List Place
  deriving Repr

namespace Disk

def empty : Disk := ⟨[], []⟩

def put (disk : Disk) (place : Place) (node : Node) : Disk :=
  { disk with nodes := (place, node) :: disk.nodes.filter (fun entry => entry.1 ≠ place) }

/-- What is explicitly found at a place. -/
def node? (disk : Disk) (place : Place) : Option Node :=
  (disk.nodes.find? fun entry => entry.1 = place).map (·.2)

/-- Whether a place is a folder: made as one, leading to something, or the start of every way. -/
def isFolder (disk : Disk) (place : Place) : Bool :=
  place = ["/"] || place.all (· = "..") || disk.node? place = some .folder ||
    disk.nodes.any fun entry => place.isPrefixOf entry.1 && entry.1 ≠ place

def isDocument (disk : Disk) (place : Place) : Bool :=
  match disk.node? place with
  | some (.text _) | some (.bytes _) => true
  | _ => false

/-- The place one step further, where the step begins in a folder. -/
def follow? (disk : Disk) (place : Place) (step : String) : Except String Place :=
  if disk.isDocument place then .error "Not a directory"
  else if !disk.isFolder place then .error "No such file or directory"
  else if !Path.isShort step then .error "File name too long"
  else .ok (Path.follow place step)

/-- The place that a path leads to. Every step begins in a folder, also one that leads back. -/
def locate (disk : Disk) (path : Path) : Except String Place :=
  if path.isPossible then path.steps.foldlM disk.follow? path.start
  else .error "Invalid path"

/-- A step leads on from a folder that is no document, if its name is short enough. -/
theorem follow?_eq_ok_iff {disk : Disk} {place next : Place} {step : String} :
    disk.follow? place step = .ok next ↔
      disk.isDocument place = false ∧ disk.isFolder place = true ∧ Path.isShort step = true ∧
        Path.follow place step = next := by
  unfold follow?
  cases disk.isDocument place <;> cases disk.isFolder place <;> cases Path.isShort step <;> simp

theorem foldlM_follow?_cons {disk : Disk} {step : String} {rest : List String} {place last : Place}
    (h : (step :: rest).foldlM disk.follow? place = .ok last) :
    disk.follow? place step = .ok (Path.follow place step) ∧
      rest.foldlM disk.follow? (Path.follow place step) = .ok last := by
  rw [List.foldlM_cons] at h
  cases hs : disk.follow? place step with
  | error e => simp [hs, bind, Except.bind] at h
  | ok next =>
    obtain rfl := (follow?_eq_ok_iff.1 hs).2.2.2
    exact ⟨rfl, by simpa [hs, bind, Except.bind] using h⟩

/-- A way that every step of begins in a folder leads where its names say. -/
theorem foldlM_follow? {disk : Disk} {steps : List String} {place last : Place}
    (h : steps.foldlM disk.follow? place = .ok last) : last = steps.foldl Path.follow place := by
  induction steps generalizing place with
  | nil => simpa [pure, Except.pure] using h.symm
  | cons step rest ih =>
    rw [List.foldl_cons]
    exact ih (foldlM_follow?_cons h).2

/-- A path that leads somewhere leads to the place that it names. -/
theorem place_of_locate {disk : Disk} {path : Path} {place : Place}
    (h : disk.locate path = .ok place) : place = path.place := by
  simp only [locate] at h
  split at h
  · exact foldlM_follow? h
  · contradiction

/-- Whether there is anything at a path. The empty path leads nowhere, and one that ends as a folder
leads to no document. -/
def contains (disk : Disk) (path : Path) : Bool :=
  match disk.locate path with
  | .ok place =>
    path ≠ "" && (disk.isFolder place || !path.endsAsFolder && disk.isDocument place)
  | .error _ => false

def read (disk : Disk) (path : Path) : Except String String := do
  let place ← disk.locate path
  match disk.node? place with
  | some (.text content) =>
    if path.endsAsFolder then .error "Not a directory" else .ok content
  | some (.bytes _) => .error "stream did not contain valid UTF-8"
  | some .folder => .error "Is a directory"
  | none =>
    if disk.isFolder place then .error "Is a directory"
    else .error "No such file or directory"

/-- Makes the folders along some steps from a folder on. Those that are made before a step fails
remain. -/
def makeAlong (disk : Disk) (place : Place) : List String → Except String Unit × Disk
  | [] => (.ok (), disk)
  | step :: rest =>
    let next := Path.follow place step
    if disk.isFolder next then makeAlong disk next rest
    else if disk.isDocument next then (.error "Not a directory", disk)
    else if !Path.isShort step then (.error "File name too long", disk)
    else if next ∈ disk.protectedPlaces then (.error "Permission denied", disk)
    else makeAlong (disk.put next .folder) next rest

def makeFolders (disk : Disk) (path : Path) : Except String Unit × Disk :=
  if path.isPossible then disk.makeAlong path.start path.steps
  else (.error "Invalid path", disk)

def makeParent (disk : Disk) (path : Path) : Except String Unit × Disk :=
  match path.parent? with
  | some folder => disk.makeFolders folder
  | none => (.ok (), disk)

/-- Writes a document in a folder that exists. -/
def write (disk : Disk) (path : Path) (content : String) : Except String Disk := do
  let place ← disk.locate path
  if path.endsAsFolder || disk.isFolder place then .error "Is a directory"
  else if place ∈ disk.protectedPlaces then .error "Permission denied"
  else .ok (disk.put place (.text content))

theorem node?_put (disk : Disk) (place other : Place) (node : Node) :
    (disk.put place node).node? other = if place = other then some node else disk.node? other := by
  by_cases h : place = other
  · simp [put, node?, h]
  · simp only [put, node?, h, if_false]
    rw [List.find?_cons_of_neg (by simpa using h), List.find?_filter]
    congr 2
    funext entry
    by_cases he : entry.1 = other
    · simp [he, Ne.symm h]
    · simp [he]

end Disk

end TableDesk
