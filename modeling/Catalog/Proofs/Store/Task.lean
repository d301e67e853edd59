import Catalog.Proofs.Store.Registry
import Catalog.Proofs.Store.Requests

/-!
All operations of a store in one type: those on a single record, the two batches, the note of an
occurrence, and the calls that list or count under a filter.
-/

namespace Catalog.Store

open Record

/-- What a client asks of a store. -/
inductive Task
  | single (a : Action)
  | createNotes (project : String) (notes : List (String × Note))
  | createOccurrences (project : String) (os : List Occurrence)
  | occurrenceNote (project id : String)
  | call (c : Call) (store : Store) (filter token : String) (size : Int)

/-- What comes of a task that succeeds. -/
inductive Result
  | given (g : Given)
  | notes (ns : List Note)
  | occurrences (os : List Occurrence)
  | projectPage (ps : List Project) (token : String)
  | notePage (ns : List Note) (token : String)
  | occurrencePage (os : List Occurrence) (token : String)
  | summary (s : Summary)

def Call.operation (store : Store) (filter token : String) (size : Int) : Call → Operation Result
  | projects => (fun page => .projectPage page.1 page.2) <$> store.listProjects filter token size
  | notes p => (fun page => .notePage page.1 page.2) <$> store.listNotes p filter token size
  | occurrences p =>
    (fun page => .occurrencePage page.1 page.2) <$> store.listOccurrences p filter token size
  | noteOccurrences p i =>
    (fun page => .occurrencePage page.1 page.2)
      <$> store.listNoteOccurrences p i filter token size
  | summary p => .summary <$> store.summarize p filter

namespace Task

def operation : Task → Operation Result
  | single a => .given <$> a.operation
  | createNotes p ns => .notes <$> Store.createNotes p ns
  | createOccurrences p os => .occurrences <$> Store.createOccurrences p os
  | occurrenceNote p i => (fun n => .given (.note n)) <$> getOccurrenceNote p i
  | call c store filter token size => c.operation store filter token size

/-- A filter is refused in strict mode, unless it is blank or compiles. -/
def filterRefusal? (c : Call) (store : Store) (filter : String) : Option Error :=
  if store.options.strictFilters && !Text.isBlankText filter then
    match Filter.compile c.anchor filter with
    | .error e => some (.invalidFilter e)
    | .ok _ => none
  else none

/-- The occurrence names no note. -/
def isMalformed (o : Occurrence) : Bool :=
  match noteReference o with
  | .ok _ => false
  | .error _ => true

/-- Why a task is refused for its arguments and its options alone. Where the occurrences of a note
are listed, the note is looked for first. -/
def refusal? : Task → Option Error
  | single (.createOccurrence _ o) | single (.updateOccurrence _ _ o) =>
    if isMalformed o then some .invalidNoteName else none
  | call (.noteOccurrences ..) .. => none
  | call c store filter _ _ => filterRefusal? c store filter
  | _ => none

/-- The answer to a batch of which nothing would be sent. -/
def idle? : Task → Option Result
  | createNotes _ [] => some (.notes [])
  | createOccurrences _ os => if os.all isMalformed then some (.occurrences []) else none
  | _ => none

end Task

end Catalog.Store
