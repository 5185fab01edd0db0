import KeyCustody.Text.Utf8

/-!
A tree of files as a value. Paths are walked component by component from the root or from the
working directory, and every component but the last must be a directory.
-/
namespace KeyCustody

inductive Node where
  | directory
  | file (content : Bytes)

namespace Files

inductive Fault where
  | missing
  | notDirectory
  | isDirectory
  | nameTooLong
  | badName
  | notText
  deriving DecidableEq, Repr

def Fault.message : Fault → String
  | .missing => "No such file or directory (os error 2)"
  | .notDirectory => "Not a directory (os error 20)"
  | .isDirectory => "Is a directory (os error 21)"
  | .nameTooLong => "File name too long (os error 36)"
  | .badName => "file name contained an unexpected NUL byte"
  | .notText => "stream did not contain valid UTF-8"

end Files

/-- Nodes by the components of their absolute path. The root itself is not listed. -/
structure Files where
  working : List String
  nodes : List (List String × Node)

namespace Files

def rootDirectories : List String :=
  ["bin", "boot", "dev", "etc", "home", "lib", "media", "mnt", "opt", "proc", "root", "run", "sbin",
    "srv", "sys", "tmp", "usr", "var"]

/-- A system with nothing in it but the null device, which reads as an empty file. The working
directory is two levels below the root. -/
def empty : Files where
  working := ["tmp", "work"]
  nodes := (rootDirectories.map fun name => ([name], .directory)) ++
    [(["dev", "null"], .file []), (["tmp", "work"], .directory)]

def node? (fs : Files) (place : List String) : Option Node :=
  if place = [] then some .directory else fs.nodes.lookup place

def put (fs : Files) (place : List String) (node : Node) : Files :=
  { fs with nodes := (place, node) :: fs.nodes.filter fun entry => entry.1 ≠ place }

theorem node?_put (fs : Files) (place : List String) (node : Node) (below : place ≠ []) :
    (fs.put place node).node? place = some node := by
  simp [node?, put, below]

theorem lookup_filter_of_ne (place other : List String) (nodes : List (List String × Node))
    (different : other ≠ place) :
    (nodes.filter fun entry => entry.1 ≠ place).lookup other = nodes.lookup other := by
  induction nodes with
  | nil => rfl
  | cons entry rest ih =>
    obtain ⟨held, node⟩ := entry
    by_cases same : held = place
    · subst held
      rw [List.filter_cons_of_neg (by simp), ih, List.lookup_cons,
        beq_eq_false_iff_ne.mpr different]
    · rw [List.filter_cons_of_pos (by simpa using same), List.lookup_cons, List.lookup_cons, ih]

theorem node?_put_of_ne (fs : Files) (place other : List String) (node : Node)
    (different : other ≠ place) : (fs.put place node).node? other = fs.node? other := by
  simp only [node?, put, List.lookup_cons, beq_eq_false_iff_ne.mpr different,
    lookup_filter_of_ne place other fs.nodes different]

def pieces : List Char → List (List Char)
  | [] => [[]]
  | c :: rest =>
    match pieces rest with
    | [] => [[c]]
    | piece :: more => if c = '/' then [] :: piece :: more else (c :: piece) :: more

theorem pieces_ne_nil (s : List Char) : pieces s ≠ [] := by
  cases s with
  | nil => simp [pieces]
  | cons c rest =>
    simp only [pieces]
    split
    · simp
    · split <;> simp

/-- Components of a path. A slash at the end asks for a directory, as a dot would. -/
def components (path : String) : List String :=
  let found := (pieces path.toList).filter (· ≠ [])
  let last := if path.toList.getLast? = some '/' then [['.']] else []
  (found ++ last).map String.ofList

def walk (fs : Files) : List String → List String → Except Fault (List String)
  | place, [] => .ok place
  | place, component :: rest =>
    match fs.node? place with
    | none => .error .missing
    | some (.file _) => .error .notDirectory
    | some .directory =>
      if component = "." then fs.walk place rest
      else if component = ".." then fs.walk place.dropLast rest
      else if 255 < component.utf8ByteSize then .error .nameTooLong
      else fs.walk (place ++ [component]) rest

def resolve (fs : Files) (path : String) : Except Fault (List String) :=
  if path.toList.contains '\x00' then .error .badName
  else if path.isEmpty then .error .missing
  else if 4096 ≤ path.utf8ByteSize then .error .nameTooLong
  else fs.walk (if path.toList.head? = some '/' then [] else fs.working) (components path)

def stat (fs : Files) (path : String) : Except Fault Node := do
  let place ← fs.resolve path
  match fs.node? place with
  | none => .error .missing
  | some node => .ok node

def read (fs : Files) (path : String) : Except Fault Bytes := do
  match ← fs.stat path with
  | .directory => .error .isDirectory
  | .file content => .ok content

def readText (fs : Files) (path : String) : Except Fault String := do
  let content ← fs.read path
  match Text.decode? content with
  | some s => .ok s
  | none => .error .notText

def write (fs : Files) (path : String) (content : Bytes) : Except Fault Files := do
  let place ← fs.resolve path
  match fs.node? place with
  | some .directory => .error .isDirectory
  | _ => .ok (fs.put place (.file content))

def makeFrom (fs : Files) (place : List String) : List String → Files
  | [] => fs
  | component :: rest =>
    if component = "." then fs.makeFrom place rest
    else if component = ".." then fs.makeFrom place.dropLast rest
    else
      let next := place ++ [component]
      (if (fs.node? next).isNone then fs.put next .directory else fs).makeFrom next rest

def makeDirectories (fs : Files) (path : String) : Files :=
  fs.makeFrom (if path.toList.head? = some '/' then [] else fs.working) (components path)

/-- A file with all directories on the way to it. What cannot be placed is left out. -/
def place (fs : Files) (path : String) (content : Bytes) : Files :=
  let start := if path.toList.head? = some '/' then [] else fs.working
  let made := fs.makeFrom start (components path).dropLast
  (made.write path content).toOption.getD made

def relative? (fs : Files) (place : List String) : Option String :=
  if fs.working.isPrefixOf place then some ("/".intercalate (place.drop fs.working.length))
  else none

def contents (fs : Files) : List (String × Bytes) :=
  let found := fs.nodes.filterMap fun (place, node) =>
    match node with
    | .file content => (fs.relative? place).map fun path => (path, content)
    | .directory => none
  found.mergeSort fun a b => a.1 ≤ b.1

end Files

namespace Path

/-- A path below a directory. An absolute path stands for itself; a slash is put between unless the
directory is empty or ends in one. -/
def join (directory path : String) : String :=
  if path.toList.head? = some '/' then path
  else if directory.isEmpty ∨ directory.toList.getLast? = some '/' then directory ++ path
  else directory ++ "/" ++ path

end Path

end KeyCustody
