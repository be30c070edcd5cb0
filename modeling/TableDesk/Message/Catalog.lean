import TableDesk.Fault
import TableDesk.Json.Reader
import TableDesk.Message.Entry
import TableDesk.Message.Key
import TableDesk.Text.Template

/-!
Catalogs of message templates and the lookup of messages in them. A catalog holds at most one
template per name: a later definition replaces an earlier one.
-/

namespace TableDesk.Message

structure Catalog where
  entries : List Entry
  deriving Repr

namespace Catalog

def empty : Catalog := ⟨[]⟩

/-- Sets the template of a name: in its place if the name is known, at the end otherwise. -/
def setEntry (entry : Entry) : List Entry → List Entry
  | [] => [entry]
  | e :: rest => if e.key = entry.key then entry :: rest else e :: setEntry entry rest

def insert (catalog : Catalog) (entry : Entry) : Catalog :=
  ⟨setEntry entry catalog.entries⟩

/-- The catalog of some entries; of two entries with one name the later one counts. -/
def ofEntries (entries : List Entry) : Catalog :=
  entries.foldl insert empty

/-- The catalog with the templates of another one laid over it. -/
def merge (catalog other : Catalog) : Catalog :=
  other.entries.foldl insert catalog

def get? (catalog : Catalog) (key : String) : Option String :=
  (catalog.entries.find? (·.key == key)).map (·.template)

def contains (catalog : Catalog) (key : String) : Bool :=
  (catalog.get? key).isSome

def size (catalog : Catalog) : Nat := catalog.entries.length

/-- Whether two catalogs give every name the same template. -/
def agrees (a b : Catalog) : Bool :=
  a.size == b.size && a.entries.all fun entry => b.get? entry.key == some entry.template

def entryOfMember? : Json.Text × Json.Value → Option Entry
  | (some key, .string (some template)) => some ⟨key, template⟩
  | _ => none

/-- The catalog that a value describes: an object whose members are all texts. -/
def ofValue? : Json.Value → Option Catalog
  | .object members => (members.mapM entryOfMember?).map ofEntries
  | _ => none

def ofJson (json : String) : Except Fault Catalog :=
  match (Json.parse? json).bind ofValue? with
  | some catalog => .ok catalog
  | none => .error (.serialization "expected an object of texts")

def resolve (catalog : Catalog) (key : String) (args : List String) : Except Fault String :=
  match catalog.get? key with
  | some template => .ok (Text.formatMessage template args)
  | none => .error (.missingMessage key)

def text (catalog : Catalog) (key : String) : Except Fault String :=
  catalog.resolve key []

/-- The message of a name for display: the name itself where there is no message. -/
def display (catalog : Catalog) (key : String) (args : List String) : String :=
  match catalog.resolve key args with
  | .ok message => message
  | .error _ => key

theorem insert_entries (catalog : Catalog) (entry : Entry) :
    (catalog.insert entry).entries = setEntry entry catalog.entries := rfl

/-- After setting a name's template, the name has that template and every other name its old one. -/
theorem get?_insert (catalog : Catalog) (entry : Entry) (key : String) :
    (catalog.insert entry).get? key =
      if entry.key = key then some entry.template else catalog.get? key := by
  simp only [get?, insert_entries]
  generalize catalog.entries = entries
  induction entries with
  | nil => by_cases h : entry.key = key <;> simp [setEntry, h]
  | cons e rest ih =>
    by_cases he : e.key = entry.key
    · by_cases h : entry.key = key <;> simp [setEntry, he, h]
    · by_cases h : e.key = key
      · have hne : entry.key ≠ key := fun h' => he (h.trans h'.symm)
        rw [setEntry, if_neg he]
        simp [h, hne]
      · rw [setEntry, if_neg he]
        simp [h, ih]

end Catalog

end TableDesk.Message
