import SchemaDecl.Outside
import SchemaDecl.Path

/-!
# File trees

A file tree is what stands below a working directory: files with their bytes, and directories.  The
location of an entry is the list of names that lead to it.  No location is taken twice, and what
stands below a location stands in a directory.  What is written outside of the working directory is
only listed.
-/

namespace SchemaDecl

/-- The names that lead from the working directory to an entry. -/
abbrev Location := List String

/-- What stands at a location. -/
inductive Entry where
  | file (content : List UInt8)
  | directory
  deriving DecidableEq, Repr

namespace Entry

/-- Whether an entry is a directory. -/
def isDirectory : Entry → Bool
  | directory => true
  | file _ => false

end Entry

/-- Whether a text can be the name of an entry. -/
def isName (text : String) : Bool :=
  text != "" && text != "." && text != ".." && !text.toList.contains '/'

/-- The number of bytes that a name may have. -/
def nameLimit : Nat := 255

/-- The number of bytes that the text of a path has to stay below. -/
def pathLimit : Nat := 4096

/-- Whether a name is longer than names can be. -/
def isLongName (name : String) : Bool :=
  nameLimit < name.utf8ByteSize

/-- The files and directories below a working directory. -/
structure FileTree where
  /-- The full path of the working directory. -/
  root : String
  entries : List (Location × Entry)
  distinct : (entries.map Prod.fst).Nodup
  named : ∀ entry ∈ entries, entry.1 ≠ [] ∧ ∀ name ∈ entry.1, isName name = true
  held : ∀ entry ∈ entries, entry.1.dropLast = [] ∨ (entry.1.dropLast, Entry.directory) ∈ entries
  /-- The files that have been written outside, the latest last. -/
  outer : List (Path × List UInt8) := []

/-- Why a file cannot be written. -/
inductive FileFault where
  /-- A file stands where a directory is to be made. -/
  | taken
  /-- A file stands where a directory is passed. -/
  | notDirectory
  /-- The directory to write into is missing. -/
  | missing
  /-- A directory stands where the file is to be written. -/
  | directory
  /-- The path leads out of the working directory. -/
  | outside
  /-- A name or the whole path is too long. -/
  | tooLong
  deriving DecidableEq, Repr

namespace FileTree

/-- The tree without entries. -/
def empty (root : String) : FileTree :=
  ⟨root, [], List.nodup_nil, nofun, nofun, []⟩

/-- What stands at a location.  The working directory itself is a directory. -/
def get? (tree : FileTree) (location : Location) : Option Entry :=
  if location = [] then some .directory else tree.entries.lookup location

/-- Whether a directory stands at a location. -/
def isDirectory (tree : FileTree) (location : Location) : Bool :=
  (tree.get? location).any Entry.isDirectory

/-- The entries strictly below a location, with the names that lead to them from there. -/
def below (tree : FileTree) (location : Location) : List (Location × Entry) :=
  (tree.entries.filter fun entry =>
      location.isPrefixOf entry.1 && location.length < entry.1.length).map fun entry =>
    (entry.1.drop location.length, entry.2)

/-- The full path of a location. -/
def fullPath (tree : FileTree) (location : Location) : String :=
  "/".intercalate (tree.root :: location)

/-! ## Following paths -/

/-- The location that parts lead to.  Only directories are passed; an empty part and a single dot
stay where they are, two dots go back. -/
def walk (tree : FileTree) (here : Location) : List String → Option Location
  | [] => some here
  | part :: rest =>
      if tree.isDirectory here then
        if part = "" ∨ part = "." then walk tree here rest
        else if part = ".." then
          if here = [] then none else walk tree here.dropLast rest
        else walk tree (here ++ [part]) rest
      else none

/-- The location that parts lead to from the working directory, and what stands there. -/
def findParts? (tree : FileTree) (parts : List String) : Option (Location × Entry) := do
  let location ← tree.walk [] parts
  let entry ← tree.get? location
  return (location, entry)

/-- The location of a path and what stands there. -/
def find? (tree : FileTree) (path : Path) : Option (Location × Entry) :=
  tree.findParts? path.parts

/-- Whether a name that is too long is met on the way along parts. -/
def meetsLongName (tree : FileTree) (here : Location) : List String → Bool
  | [] => false
  | part :: rest =>
      tree.isDirectory here &&
        (isLongName part ||
          if part = ".." then here != [] && meetsLongName tree here.dropLast rest
          else meetsLongName tree (here ++ [part]) rest)

/-- Whether a path cannot be followed because it is too long or has a name that is. -/
def isTooLong (tree : FileTree) (path : Path) : Bool :=
  pathLimit ≤ path.text.utf8ByteSize || tree.meetsLongName [] path.parts

/-- Whether a part stays where it is, or goes back. -/
def isStep (part : String) : Bool :=
  part == "" || part == "." || part == ".."

/-- Whether parts lead to a directory above the working directory. -/
def leadsAbove (tree : FileTree) (here : Location) : List String → Bool
  | [] => false
  | part :: rest =>
      if part = "" ∨ part = "." then leadsAbove tree here rest
      else if part = ".." then
        if here = [] then rest.all isStep else leadsAbove tree here.dropLast rest
      else tree.isDirectory (here ++ [part]) && leadsAbove tree (here ++ [part]) rest

/-- Something outside of the working directory as an entry. -/
def ofOutside : Outside.Known → Entry
  | .directory => .directory
  | .device => .file []

/-- What stands at the end of a written path.  A slash at the end of a path makes it one of a
directory.  The directories above the working directory are there. -/
def written? (tree : FileTree) (text : String) : Option Entry :=
  let parts := Path.partsOfText text
  if text = "" ∨ pathLimit ≤ text.utf8ByteSize then none
  else if text.toList.head? = some '/' then (Outside.follow? [] parts).map ofOutside
  else if tree.leadsAbove [] parts then some .directory
  else (tree.findParts? parts).map Prod.snd

/-! ## Changing trees -/

theorem lookup_eq_none {location : Location} {entries : List (Location × Entry)}
    (absent : entries.lookup location = none) : location ∉ entries.map Prod.fst := by
  rw [List.lookup_eq_none_iff] at absent
  intro member
  obtain ⟨entry, there, same⟩ := List.mem_map.mp member
  simpa [same] using absent entry there

theorem mem_of_lookup {location : Location} {entry : Entry} {entries : List (Location × Entry)}
    (found : entries.lookup location = some entry) : (location, entry) ∈ entries := by
  obtain ⟨before, after, equal, _⟩ := List.lookup_eq_some_iff.mp found
  simp [equal]

/-- Whether an entry of a name can be added to a directory. -/
def canAdd (tree : FileTree) (parent : Location) (name : String) : Prop :=
  isName name = true ∧ tree.get? parent = some .directory ∧ tree.get? (parent ++ [name]) = none

instance (tree : FileTree) (parent : Location) (name : String) :
    Decidable (tree.canAdd parent name) :=
  inferInstanceAs (Decidable (_ ∧ _))

/-- The directory an entry is added to is the working directory or one of the entries. -/
theorem parent_held {tree : FileTree} {parent : Location} {name : String}
    (possible : tree.canAdd parent name) :
    parent = [] ∨ (parent, Entry.directory) ∈ tree.entries := by
  by_cases top : parent = []
  · exact .inl top
  · have found := possible.2.1
    simp only [get?, top, if_false] at found
    exact .inr (mem_of_lookup found)

/-- Add an entry to a directory. -/
def add (tree : FileTree) (parent : Location) (name : String) (entry : Entry)
    (possible : tree.canAdd parent name) : FileTree where
  root := tree.root
  outer := tree.outer
  entries := tree.entries ++ [(parent ++ [name], entry)]
  distinct := by
    have absent := possible.2.2
    simp only [get?, List.append_eq_nil_iff, List.cons_ne_nil, and_false, if_false] at absent
    rw [List.map_append, List.nodup_append]
    refine ⟨tree.distinct, by simp, ?_⟩
    intro location there other here
    simp only [List.map_cons, List.map_nil, List.mem_singleton] at here
    subst here
    intro same
    exact lookup_eq_none absent (same ▸ there)
  named := by
    intro other member
    rcases List.mem_append.mp member with old | new
    · exact tree.named other old
    · simp only [List.mem_singleton] at new
      subst new
      refine ⟨by simp, ?_⟩
      intro part inside
      rcases List.mem_append.mp inside with above | last
      · rcases parent_held possible with top | there
        · simp [top] at above
        · exact (tree.named _ there).2 part above
      · simp only [List.mem_singleton] at last
        exact last ▸ possible.1
  held := by
    intro other member
    rcases List.mem_append.mp member with old | new
    · rcases tree.held other old with top | there
      · exact .inl top
      · exact .inr (List.mem_append_left _ there)
    · simp only [List.mem_singleton] at new
      subst new
      rw [List.dropLast_concat]
      rcases parent_held possible with top | there
      · exact .inl top
      · exact .inr (List.mem_append_left _ there)

/-- The entry at a location after new bytes are written to the file at another. -/
def refill (target : Location) (content : List UInt8) (entry : Location × Entry) :
    Location × Entry :=
  match entry.2 with
  | .directory => entry
  | .file _ => if entry.1 = target then (entry.1, .file content) else entry

@[simp] theorem refill_fst (target : Location) (content : List UInt8) (entry : Location × Entry) :
    (refill target content entry).1 = entry.1 := by
  obtain ⟨location, entry⟩ := entry
  cases entry with
  | directory => rfl
  | file old =>
      by_cases same : location = target <;> simp [refill, same]

/-- Give the file at a location new bytes. -/
def change (tree : FileTree) (target : Location) (content : List UInt8) : FileTree where
  root := tree.root
  outer := tree.outer
  entries := tree.entries.map (refill target content)
  distinct := by
    have same : Prod.fst ∘ refill target content = Prod.fst := by
      funext entry
      simp
    rw [List.map_map, same]
    exact tree.distinct
  named := by
    intro entry member
    obtain ⟨old, there, rfl⟩ := List.mem_map.mp member
    simpa using tree.named old there
  held := by
    intro entry member
    obtain ⟨old, there, rfl⟩ := List.mem_map.mp member
    rw [refill_fst]
    rcases tree.held old there with top | directory
    · exact .inl top
    · exact .inr (List.mem_map.mpr ⟨_, directory, rfl⟩)

/-- Make the directories that parts pass, and give the location they lead to. -/
def makeDirectories (tree : FileTree) (here : Location) :
    List String → Except FileFault (FileTree × Location)
  | [] => .ok (tree, here)
  | part :: rest =>
      if part = ".." then
        if here = [] then .error .outside else makeDirectories tree here.dropLast rest
      else
        match tree.get? (here ++ [part]) with
        | some .directory => makeDirectories tree (here ++ [part]) rest
        | some (.file _) => .error (if rest = [] then .taken else .notDirectory)
        | none =>
            if isLongName part then .error .tooLong
            else if possible : tree.canAdd here part then
              makeDirectories (tree.add here part .directory possible) (here ++ [part]) rest
            else .error .outside

/-- Write a file of a name into a directory. -/
def put (tree : FileTree) (parent : Location) (name : String) (content : List UInt8) :
    Except FileFault FileTree :=
  match tree.get? (parent ++ [name]) with
  | some .directory => .error .directory
  | some (.file _) => .ok (tree.change (parent ++ [name]) content)
  | none =>
      if isLongName name then .error .tooLong
      else if possible : tree.canAdd parent name then
        .ok (tree.add parent name (.file content) possible)
      else .error .outside

/-- Write a file outside of the working directory, unless something keeps it from being written. -/
def putOuter (tree : FileTree) (path : Path) (content : List UInt8) (fault : Option FileFault) :
    Except FileFault FileTree :=
  if path.parts.any isLongName then .error .tooLong
  else
    match fault with
    | some fault => .error fault
    | none => .ok { tree with outer := tree.outer ++ [(path, content)] }

/-- What keeps directories from being made outside of the working directory. -/
def outerObstacle? (directory : Path) : Option FileFault :=
  match directory.fromRoot? with
  | none => none
  | some parts =>
      if Outside.follow? [] parts = some .device then some .taken
      else if Outside.meetsDevice parts then some .notDirectory
      else none

/-- What keeps a file from being written into a directory outside of the working directory that has
to be there already. -/
def outerAbsence? (path : Path) : Option FileFault :=
  match path.fromRoot? with
  | none =>
      if (Outside.collapse path.parts).dropLast.all (· == "..") then none else some .missing
  | some parts =>
      let location := (Outside.location parts).dropLast
      if Outside.meetsDevice location then some .notDirectory
      else if (Outside.at? location).isNone then some .missing
      else none

/-- Write a file, and make the directories on the way to it first. -/
def write (tree : FileTree) (path : Path) (content : List UInt8) : Except FileFault FileTree :=
  if pathLimit ≤ path.text.utf8ByteSize then .error .tooLong
  else
    match tree.makeDirectories [] path.parts.dropLast with
    | .error .outside => tree.putOuter path content (outerObstacle? path.parent)
    | .error fault => .error fault
    | .ok (tree, parent) =>
        match path.parts.getLast? with
        | none | some ".." => .error .directory
        | some name => tree.put parent name content

/-- The location below another that parts lead to when every part of two dots takes back the one
before it, unless that is outside. -/
def collapse? (here : Location) : List String → Option Location
  | [] => some here
  | part :: rest =>
      if part = ".." then if here = [] then none else collapse? here.dropLast rest
      else if isName part then collapse? (here ++ [part]) rest
      else none

/-- What stands in the way to a directory below another. -/
def obstacle? (tree : FileTree) (here : Location) : List String → Option FileFault
  | [] => none
  | part :: rest =>
      if isLongName part then some .tooLong
      else
        match tree.get? (here ++ [part]) with
        | some .directory => obstacle? tree (here ++ [part]) rest
        | some (.file _) => some .notDirectory
        | none => some .missing

/-- Write a file into a directory that is there already.  Two dots take back the part before them,
whether it is there or not. -/
def create (tree : FileTree) (path : Path) (content : List UInt8) : Except FileFault FileTree :=
  match collapse? [] path.parts with
  | none => tree.putOuter path content (outerAbsence? path)
  | some location =>
      match location.getLast? with
      | none => .error .directory
      | some name =>
          if pathLimit ≤ (Path.text ⟨location⟩).utf8ByteSize then .error .tooLong
          else
            match tree.obstacle? [] location.dropLast with
            | some fault => .error fault
            | none => tree.put location.dropLast name content

/-- Make a directory and those on the way to it. -/
def addDirectory (tree : FileTree) (path : Path) : Except FileFault FileTree :=
  Prod.fst <$> tree.makeDirectories [] path.parts

/-- The files of a tree that another tree lacks or has with other bytes. -/
def changes (before after : FileTree) : List (Location × List UInt8) :=
  after.entries.filterMap fun entry =>
    match entry.2 with
    | .directory => none
    | .file content =>
        if before.get? entry.1 = some (.file content) then none else some (entry.1, content)

end FileTree

end SchemaDecl
