import KeyCustody.Files
import KeyCustody.Proofs.Traversal

/-!
Where paths lead and what is read there after writes. A write turns no directory into anything
else, so every path that led somewhere before it leads there after it.
-/
namespace KeyCustody.Files

section Components

theorem pieces_slash (front back : List Char) :
    pieces (front ++ '/' :: back) = pieces front ++ pieces back := by
  induction front with
  | nil =>
    rw [List.nil_append, pieces]
    cases found : pieces back with
    | nil => exact absurd found (pieces_ne_nil back)
    | cons piece more => simp [found, pieces]
  | cons c rest ih =>
    rw [List.cons_append, pieces, pieces, ih]
    cases found : pieces rest with
    | nil => exact absurd found (pieces_ne_nil rest)
    | cons piece more =>
      by_cases slash : c = '/'
      · simp [slash]
      · simp [slash]

theorem pieces_plain (s : List Char) (plain : '/' ∉ s) : pieces s = [s] := by
  induction s with
  | nil => rfl
  | cons c rest ih =>
    rw [List.mem_cons, not_or] at plain
    rw [pieces, ih plain.2]
    simp [Ne.symm plain.1]

structure IsComponent (name : String) : Prop where
  nonempty : name.toList ≠ []
  plain : '/' ∉ name.toList

theorem IsComponent.relative {name : String} (one : IsComponent name) :
    name.toList.head? ≠ some '/' := by
  intro slash
  exact one.plain (List.mem_of_mem_head? (by simp [slash]))

structure IsEntry (name : String) : Prop extends IsComponent name where
  dot : name ≠ "."
  up : name ≠ ".."

inductive Behind (directory name : String) : String → Prop where
  | closed (closed : directory = "" ∨ directory.toList.getLast? = some '/') :
    Behind directory name (directory ++ name)
  | slash (nonempty : directory ≠ "") (unclosed : directory.toList.getLast? ≠ some '/') :
    Behind directory name (directory ++ "/" ++ name)

theorem Behind.extends_directory {directory name path : String}
    (behind : Behind directory name path) : ∃ rest, path = directory ++ rest := by
  cases behind with
  | closed => exact ⟨name, rfl⟩
  | slash => exact ⟨"/" ++ name, String.append_assoc ..⟩

theorem behind_join (directory : String) {name : String} (one : IsComponent name) :
    Behind directory name (Path.join directory name) := by
  unfold Path.join
  simp only [if_neg one.relative, String.isEmpty_iff]
  by_cases closed : directory = "" ∨ directory.toList.getLast? = some '/'
  · rw [if_pos closed]
    exact .closed closed
  · rw [if_neg closed]
    rw [not_or] at closed
    exact .slash closed.1 closed.2

def steps (s : List Char) : List String :=
  ((pieces s).filter fun piece => decide (piece ≠ [])).map String.ofList

theorem steps_nil : steps [] = [] := rfl

theorem steps_slash (front back : List Char) :
    steps (front ++ '/' :: back) = steps front ++ steps back := by
  unfold steps
  rw [pieces_slash, List.filter_append, List.map_append]

theorem steps_name {name : String} (one : IsComponent name) : steps name.toList = [name] := by
  unfold steps
  rw [pieces_plain _ one.plain]
  simp [one.nonempty]

theorem components_eq (path : String) :
    components path =
      steps path.toList ++ if path.toList.getLast? = some '/' then ["."] else [] := by
  unfold components steps
  rw [List.map_append]
  split <;> rfl

theorem steps_behind {directory name path : String} (behind : Behind directory name path)
    (one : IsComponent name) : steps path.toList = steps directory.toList ++ [name] := by
  cases behind with
  | closed closed =>
    rw [String.toList_append]
    rcases closed with rfl | slash
    · exact steps_name one
    · obtain ⟨front, split⟩ := List.getLast?_eq_some_iff.mp slash
      rw [split, List.append_assoc, List.singleton_append, steps_slash, steps_slash, steps_nil,
        List.append_nil, steps_name one]
  | slash nonempty unclosed =>
    have form : (directory ++ "/" ++ name).toList = directory.toList ++ '/' :: name.toList := by
      simp
    rw [form, steps_slash, steps_name one]

theorem components_behind {directory name path : String} (behind : Behind directory name path)
    (one : IsComponent name) : components path = steps directory.toList ++ [name] := by
  have last : path.toList.getLast? = name.toList.getLast? := by
    obtain ⟨c, rest, form⟩ := List.exists_cons_of_ne_nil one.nonempty
    cases behind <;> simp [form, List.getLast?_append, List.getLast?_cons]
  have unclosed : path.toList.getLast? ≠ some '/' := by
    rw [last]
    exact fun slash => one.plain (List.mem_of_getLast? slash)
  rw [components_eq, if_neg unclosed, List.append_nil, steps_behind behind one]

-- Whether a slash is put between depends on the directory alone.
theorem join_left_inj (directory : String) {name other : String} (one : IsComponent name)
    (otherOne : IsComponent other) :
    Path.join directory name = Path.join directory other ↔ name = other := by
  simp only [Path.join, if_neg one.relative, if_neg otherOne.relative]
  split
  · exact String.append_right_inj directory
  · exact String.append_right_inj (directory ++ "/")

end Components

section Walks

structure Keeps (fs later : Files) : Prop where
  working : later.working = fs.working
  directories : ∀ place, fs.node? place = some .directory → later.node? place = some .directory

theorem walk_append (fs : Files) (place : List String) (front back : List String) :
    fs.walk place (front ++ back) = fs.walk place front >>= fun middle => fs.walk middle back := by
  induction front generalizing place with
  | nil => rfl
  | cons component rest ih =>
    rw [List.cons_append, walk, walk]
    cases fs.node? place with
    | none => rfl
    | some node =>
      cases node with
      | file content => rfl
      | directory =>
        simp only [ih]
        split
        · rfl
        · split
          · rfl
          · split <;> rfl

theorem walk_keeps {fs later : Files} (keeps : Keeps fs later) (components : List String)
    (place found : List String) (walked : fs.walk place components = .ok found) :
    later.walk place components = .ok found := by
  induction components generalizing place with
  | nil => exact walked
  | cons component rest ih =>
    rw [walk] at walked ⊢
    cases node : fs.node? place with
    | none =>
      rw [node] at walked
      cases walked
    | some here =>
      cases here with
      | file content =>
        rw [node] at walked
        cases walked
      | directory =>
        rw [node] at walked
        rw [keeps.directories place node]
        simp only at walked ⊢
        -- The three kinds of component do not look at the files.
        split at walked
        · next dot => rw [if_pos dot]; exact ih _ walked
        · next notDot =>
          rw [if_neg notDot]
          split at walked
          · next up => rw [if_pos up]; exact ih _ walked
          · next notUp =>
            rw [if_neg notUp]
            split at walked
            · cases walked
            · next short => rw [if_neg short]; exact ih _ walked

def origin (fs : Files) (path : String) : List String :=
  if path.toList.head? = some '/' then [] else fs.working

theorem resolve_iff (fs : Files) (path : String) (place : List String) :
    fs.resolve path = .ok place ↔ '\x00' ∉ path.toList ∧ path ≠ "" ∧ path.utf8ByteSize < 4096 ∧
      fs.walk (fs.origin path) (components path) = .ok place := by
  unfold resolve origin
  by_cases nul : '\x00' ∈ path.toList
  · simp [nul]
  · by_cases empty : path = ""
    · simp [empty]
    · by_cases long : 4096 ≤ path.utf8ByteSize
      · simp [nul, empty, long, Nat.not_lt.mpr long]
      · simp [nul, empty, long, Nat.not_le.mp long]

theorem resolve_keeps {fs later : Files} (keeps : Keeps fs later) (path : String)
    (place : List String) (found : fs.resolve path = .ok place) :
    later.resolve path = .ok place := by
  obtain ⟨text, nonempty, short, walked⟩ := (resolve_iff fs path place).mp found
  refine (resolve_iff later path place).mpr ⟨text, nonempty, short, ?_⟩
  rw [origin, keeps.working]
  exact walk_keeps keeps _ _ _ walked

theorem walk_entry_iff (fs : Files) (base place : List String) {name : String}
    (entry : IsEntry name) :
    fs.walk base [name] = .ok place ↔ fs.node? base = some .directory ∧
      name.utf8ByteSize ≤ 255 ∧ place = base ++ [name] := by
  rw [walk]
  cases fs.node? base with
  | none => simp
  | some node =>
    cases node with
    | file content => simp
    | directory =>
      by_cases long : 255 < name.utf8ByteSize
      · simp [entry.dot, entry.up, long, Nat.not_le.mpr long]
      · simp [entry.dot, entry.up, long, Nat.not_lt.mp long, walk, eq_comm]

/-- Where a directory is. An empty text stands for the working directory. -/
def IsDirectoryAt (fs : Files) (directory : String) (base : List String) : Prop :=
  fs.node? base = some .directory ∧
    (directory = "" ∧ base = fs.working ∨ directory ≠ "" ∧ fs.resolve directory = .ok base)

theorem walk_trailing (fs : Files) {base : List String} (directory : String)
    (isDirectory : fs.node? base = some .directory) :
    fs.walk base (if directory.toList.getLast? = some '/' then ["."] else []) = .ok base := by
  split
  · rw [walk, isDirectory]
    rfl
  · rfl

theorem origin_append (fs : Files) {directory : String} (nonempty : directory ≠ "")
    (rest : String) : fs.origin (directory ++ rest) = fs.origin directory := by
  obtain ⟨c, cs, form⟩ := List.exists_cons_of_ne_nil (String.toList_eq_nil_iff.not.mpr nonempty)
  unfold origin
  rw [String.toList_append, form]
  rfl

/-- A path with a name behind a directory leads to an entry of that directory, if anywhere. -/
theorem resolve_behind {fs : Files} {directory name path : String} {place : List String}
    (behind : Behind directory name path) (entry : IsEntry name)
    (found : fs.resolve path = .ok place) :
    ∃ base, fs.IsDirectoryAt directory base ∧ place = base ++ [name] := by
  obtain ⟨text, -, short, walked⟩ := (resolve_iff fs path place).mp found
  rw [components_behind behind entry.toIsComponent, walk_append, bind_ok_iff] at walked
  obtain ⟨base, reached, last⟩ := walked
  obtain ⟨isDirectory, -, rfl⟩ := (walk_entry_iff fs base place entry).mp last
  refine ⟨base, ⟨isDirectory, ?_⟩, rfl⟩
  by_cases empty : directory = ""
  · subst empty
    left
    cases behind with
    | slash nonempty => exact absurd rfl nonempty
    | closed =>
      rw [String.empty_append, origin, if_neg entry.relative] at reached
      exact ⟨rfl, (Except.ok.inj reached).symm⟩
  · right
    obtain ⟨rest, rfl⟩ := behind.extends_directory
    rw [origin_append fs empty] at reached
    rw [String.toList_append, List.mem_append, not_or] at text
    rw [String.utf8ByteSize_append] at short
    refine ⟨empty, (resolve_iff fs directory base).mpr ⟨text.1, empty, by omega, ?_⟩⟩
    rw [components_eq, walk_append, reached, ok_bind]
    exact walk_trailing fs directory isDirectory

end Walks

section Writes
variable {fs later : Files} {path : String} {content : Bytes}

theorem write_iff :
    fs.write path content = .ok later ↔ ∃ place, fs.resolve path = .ok place ∧
      fs.node? place ≠ some .directory ∧ later = fs.put place (.file content) := by
  simp only [write, bind_ok_iff]
  refine exists_congr fun place => and_congr_right fun _ => ?_
  split
  · next directory => simp [directory]
  · next other =>
    rw [Except.ok.injEq]
    constructor
    · intro same
      exact ⟨other, same.symm⟩
    · intro form
      exact form.2.symm

theorem read_iff :
    fs.read path = .ok content ↔
      ∃ place, fs.resolve path = .ok place ∧ fs.node? place = some (.file content) := by
  simp only [read, stat, bind_ok_iff]
  constructor
  · rintro ⟨node, ⟨place, found, here⟩, taken⟩
    refine ⟨place, found, ?_⟩
    cases node? : fs.node? place with
    | none =>
      rw [node?] at here
      cases here
    | some other =>
      rw [node?] at here
      cases here
      cases node with
      | directory => cases taken
      | file inside =>
        cases taken
        rfl
  · rintro ⟨place, found, here⟩
    refine ⟨.file content, ⟨place, found, ?_⟩, rfl⟩
    rw [here]

theorem place_ne_nil {place : List String} (file : fs.node? place ≠ some .directory) :
    place ≠ [] := by
  rintro rfl
  exact file rfl

theorem put_keeps {place : List String} (file : fs.node? place ≠ some .directory) :
    Keeps fs (fs.put place (.file content)) := by
  refine ⟨rfl, ?_⟩
  intro other directory
  have different : other ≠ place := by
    rintro rfl
    exact file directory
  rw [node?_put_of_ne fs place other _ different]
  exact directory

theorem write_keeps (written : fs.write path content = .ok later) : Keeps fs later := by
  obtain ⟨place, -, file, rfl⟩ := write_iff.mp written
  exact put_keeps file

theorem read_write_same (written : fs.write path content = .ok later) :
    later.read path = .ok content := by
  have keeps := write_keeps written
  obtain ⟨place, found, file, rfl⟩ := write_iff.mp written
  exact read_iff.mpr ⟨place, resolve_keeps keeps path place found,
    node?_put fs place _ (place_ne_nil file)⟩

theorem read_write_other {other : String} {old : Bytes}
    (written : fs.write path content = .ok later) (held : fs.read other = .ok old)
    (apart : ∀ place, fs.resolve path = .ok place → fs.resolve other ≠ .ok place) :
    later.read other = .ok old := by
  have keeps := write_keeps written
  obtain ⟨place, found, -, rfl⟩ := write_iff.mp written
  obtain ⟨otherPlace, otherFound, here⟩ := read_iff.mp held
  have different : otherPlace ≠ place := by
    rintro rfl
    exact apart otherPlace found otherFound
  refine read_iff.mpr ⟨otherPlace, resolve_keeps keeps other otherPlace otherFound, ?_⟩
  rw [node?_put_of_ne fs place otherPlace _ different]
  exact here

theorem readText_encode (text : String) (held : fs.read path = .ok (Text.encode text)) :
    fs.readText path = .ok text := by
  rw [readText, held, ok_bind]
  simp only [Text.decode?_encode]

end Writes

end KeyCustody.Files
