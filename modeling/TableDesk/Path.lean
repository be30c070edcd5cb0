/-!
Paths as they are written, and the places they name. Two spellings of one path, with doubled or
trailing slashes or single dots, name one place.
-/

namespace TableDesk

/-- A path as it is written. -/
abbrev Path := String

/-- The names on the way to a place. The first one is `/` when the way begins at the root. -/
abbrev Place := List String

namespace Path

/-- The place one step further. A double dot leads one step back: at the root nowhere, and at the
start of a relative way out of the folder where it starts. -/
def follow (place : Place) (step : String) : Place :=
  if step ≠ ".." then place ++ [step]
  else if place = ["/"] then place
  else if place.all (· = "..") then place ++ [".."]
  else place.dropLast

def start (path : Path) : Place := if path.toList.head? = some '/' then ["/"] else []

def split : List Char → List (List Char)
  | [] => [[]]
  | c :: rest => if c = '/' then [] :: split rest else (split rest).modifyHead (c :: ·)

/-- Whether something between slashes is a step. Single dots and nothing at all are none. -/
def isStep (name : List Char) : Bool := name ≠ [] && name ≠ ['.']

def steps (path : Path) : List String :=
  ((split path.toList).filter isStep).map String.ofList

/-- The place that a path names by its steps alone. -/
def place (path : Path) : Place := path.steps.foldl follow path.start

/-- Whether a system takes a path: not too long, and without the character of number zero. -/
def isPossible (path : Path) : Bool :=
  path.utf8ByteSize < 4096 && '\x00' ∉ path.toList

/-- Whether a step is short enough for the name of a file. -/
def isShort (step : String) : Bool := step.utf8ByteSize ≤ 255

/-- The path of a name inside a folder. An absolute name stands for itself. -/
def join (folder name : Path) : Path :=
  if name.toList.head? = some '/' ∨ folder = "" then name
  else if folder.toList.getLast? = some '/' then folder ++ name
  else folder ++ "/" ++ name

/-- Whether a path can only name a folder: nothing, a dot or a double dot follows its last slash. -/
def endsAsFolder (path : Path) : Bool :=
  match (split path.toList).getLast? with
  | some last => last = [] || last = ['.'] || last = ['.', '.']
  | none => true

/-- A path read from its end, without the slashes there and without single dots behind them. -/
def dropTail : List Char → List Char
  | '/' :: rest => dropTail rest
  | '.' :: '/' :: rest => dropTail ('/' :: rest)
  | path => path

def dropSlashes (path : List Char) : List Char := (dropTail path.reverse).reverse

def upToSlash (path : List Char) : List Char := (path.reverse.dropWhile (· ≠ '/')).reverse

/-- The folder that holds what a path names, `none` where there is nothing above. -/
def parent? (path : Path) : Option Path :=
  let chars := dropSlashes path.toList
  if chars = [] then none
  else
    let above := upToSlash chars
    if above = [] then some ""
    else if dropSlashes above = [] then some "/"
    else some (String.ofList (dropSlashes above))

def ofPlace : Place → Path
  | "/" :: rest => "/" ++ "/".intercalate rest
  | place => "/".intercalate place

end Path

end TableDesk
