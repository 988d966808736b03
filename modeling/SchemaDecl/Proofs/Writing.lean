import SchemaDecl.Proofs.Resolution

/-!
# What writing changes

A path leads to one place when two dots take back the part before them.  Writing a file changes what
is at the place of its path and at no other place.  If the file has to stand in a directory that is
there already, all directories stay as they are; otherwise those on the way to it are made.
-/

namespace SchemaDecl

namespace Entry

/-- The bytes of a file. -/
def content? : Entry → Option (List UInt8)
  | file content => some content
  | directory => none

end Entry

/-- The place of a file. -/
inductive Destination where
  /-- A location below the working directory. -/
  | inside (location : Location)
  /-- A location below the root of all directories. -/
  | outside (location : List String)
  deriving DecidableEq, Repr

namespace FileTree

variable {tree before after : FileTree} {location here there : Location} {path : Path}
  {content : List UInt8}

/-- The place a path leads to. -/
def destination (tree : FileTree) (path : Path) : Destination :=
  match collapse? [] path.parts with
  | some location => .inside location
  | none =>
      let above := (Path.ofText tree.root).fromRoot?.getD []
      .outside (Outside.location (path.fromRoot?.getD (above ++ path.parts)))

/-- The bytes of the file at a place.  Outside of the working directory these are the bytes that
have been written there last. -/
def contentAt (tree : FileTree) : Destination → Option (List UInt8)
  | .inside location => (tree.get? location).bind Entry.content?
  | .outside location =>
      (tree.outer.reverse.find? fun written => tree.destination written.1 = .outside location).map
        Prod.snd

/-- From one tree to another, the files beyond some places stay the same. -/
structure KeepsFiles (before : FileTree) (places : List Destination) (after : FileTree) : Prop where
  root : after.root = before.root
  contents : ∀ place, place ∉ places → after.contentAt place = before.contentAt place

/-- Two trees have the same directories. -/
def SameDirectories (before after : FileTree) : Prop :=
  ∀ location, after.isDirectory location = before.isDirectory location

theorem destination_congr (same : after.root = before.root) (path : Path) :
    after.destination path = before.destination path := by
  rw [destination, destination, same]

namespace KeepsFiles

variable {last : FileTree} {places more : List Destination}

theorem refl (tree : FileTree) (places : List Destination) : tree.KeepsFiles places tree :=
  ⟨rfl, fun _ _ => rfl⟩

theorem trans (first : before.KeepsFiles places after) (second : after.KeepsFiles places last) :
    before.KeepsFiles places last where
  root := second.root.trans first.root
  contents := fun place beyond =>
    (second.contents place beyond).trans (first.contents place beyond)

theorem mono (keeps : before.KeepsFiles places after) (within : places ⊆ more) :
    before.KeepsFiles more after where
  root := keeps.root
  contents := fun place beyond => keeps.contents place fun member => beyond (within member)

end KeepsFiles

/-! ## Entries of changed trees -/

theorem get?_add {parent : Location} {name : String} {entry : Entry}
    (possible : tree.canAdd parent name) (location : Location) :
    (tree.add parent name entry possible).get? location =
      if location = parent ++ [name] then some entry else tree.get? location := by
  have absent := possible.2.2
  simp only [get?, List.append_eq_nil_iff, List.cons_ne_nil, and_false, if_false] at absent
  by_cases same : location = parent ++ [name]
  · subst same
    rw [if_pos rfl, get?, if_neg (by simp)]
    simp [add, List.lookup_append, absent]
  · have other : (location == parent ++ [name]) = false := beq_eq_false_iff_ne.2 same
    rw [if_neg same]
    simp [get?, add, List.lookup_append, List.lookup_cons, other]

theorem lookup_refill (target : Location) (content : List UInt8) (location : Location)
    (entries : List (Location × Entry)) :
    (entries.map (refill target content)).lookup location =
      (entries.lookup location).map fun entry => (refill target content (location, entry)).2 := by
  induction entries with
  | nil => rfl
  | cons first rest inductionHypothesis =>
      obtain ⟨place, entry⟩ := first
      have sameName := refill_fst target content (place, entry)
      rw [List.map_cons, List.lookup_cons, List.lookup_cons, sameName]
      by_cases same : location = place
      · subst same
        simp
      · simp [beq_eq_false_iff_ne.2 same, inductionHypothesis]

theorem get?_change {target : Location} {old : List UInt8}
    (found : tree.get? target = some (.file old)) (content : List UInt8) (location : Location) :
    (tree.change target content).get? location =
      if location = target then some (.file content) else tree.get? location := by
  by_cases top : location = []
  · subst top
    have other : ([] : Location) ≠ target := by
      rintro rfl
      cases found
    rw [if_neg other]
    rfl
  · have looked : (tree.change target content).get? location =
        (tree.get? location).map fun entry => (refill target content (location, entry)).2 := by
      rw [get?, get?, if_neg top, if_neg top]
      exact lookup_refill target content location tree.entries
    rw [looked]
    by_cases same : location = target
    · subst same
      rw [found, if_pos rfl]
      simp [refill]
    · rw [if_neg same]
      cases tree.get? location with
      | none => rfl
      | some entry => cases entry <;> simp [refill, same]

/-- From one tree to another, an entry is put at a location, and all others stay as they are. -/
structure Puts (before : FileTree) (location : Location) (entry : Entry) (after : FileTree) :
    Prop where
  root : after.root = before.root
  outer : after.outer = before.outer
  get?_eq : ∀ other, after.get? other = if other = location then some entry else before.get? other

theorem puts_add {parent : Location} {name : String} {entry : Entry}
    (possible : tree.canAdd parent name) :
    tree.Puts (parent ++ [name]) entry (tree.add parent name entry possible) :=
  ⟨rfl, rfl, get?_add possible⟩

theorem puts_change {target : Location} {old : List UInt8}
    (found : tree.get? target = some (.file old)) (content : List UInt8) :
    tree.Puts target (.file content) (tree.change target content) :=
  ⟨rfl, rfl, get?_change found content⟩

namespace Puts

variable {entry : Entry}

theorem contentAt_inside (puts : before.Puts location entry after) :
    after.contentAt (.inside location) = entry.content? := by
  rw [contentAt, puts.get?_eq, if_pos rfl]
  rfl

/-- Only the file at the location can be another one. -/
theorem keepsFiles (puts : before.Puts location entry after) :
    before.KeepsFiles [.inside location] after where
  root := puts.root
  contents := by
    intro place beyond
    cases place with
    | inside other =>
        have different : other ≠ location := fun same =>
          beyond (List.mem_singleton.2 (congrArg Destination.inside same))
        rw [contentAt, puts.get?_eq, if_neg different]
        rfl
    | outside other =>
        simp only [contentAt, puts.outer, destination_congr puts.root]

theorem sameDirectories (puts : before.Puts location (.file content) after)
    (noDirectory : before.isDirectory location = false) :
    before.SameDirectories after := by
  intro other
  rw [isDirectory, puts.get?_eq]
  split_ifs with same
  · subst same
    exact noDirectory.symm
  · rfl

end Puts

/-! ## Names and directories on the way -/

theorem isName_of_get? {parent : Location} {name : String} {entry : Entry}
    (found : tree.get? (parent ++ [name]) = some entry) : isName name = true := by
  rw [get?, if_neg (by simp)] at found
  exact (tree.named _ (mem_of_lookup found)).2 name (by simp)

/-- From one tree to another, the file of a path is written, and all others stay as they are. -/
structure Writes (before : FileTree) (path : Path) (content : List UInt8) (after : FileTree) :
    Prop where
  content : after.contentAt (before.destination path) = some content
  keepsFiles : before.KeepsFiles [before.destination path] after

theorem puts_of_put {parent : Location} {name : String}
    (put : tree.put parent name content = .ok after) :
    isName name = true ∧ tree.isDirectory (parent ++ [name]) = false ∧
      tree.Puts (parent ++ [name]) (.file content) after := by
  rw [FileTree.put] at put
  split at put
  case h_1 => cases put
  case h_2 old found =>
    cases put
    refine ⟨isName_of_get? found, ?_, puts_change found content⟩
    rw [isDirectory, found]
    rfl
  case h_3 absent =>
    split_ifs at put with long possible
    cases put
    refine ⟨possible.1, ?_, puts_add possible⟩
    rw [isDirectory, absent]
    rfl

theorem writes_of_puts (reached : collapse? [] path.parts = some location)
    (puts : before.Puts location (.file content) after) :
    before.Writes path content after := by
  have place : before.destination path = .inside location := by rw [destination, reached]
  refine ⟨?_, ?_⟩
  · rw [place, puts.contentAt_inside]
    rfl
  · rw [place]
    exact puts.keepsFiles

theorem eq_of_putOuter {fault : Option FileFault}
    (put : tree.putOuter path content fault = .ok after) :
    after = { tree with outer := tree.outer ++ [(path, content)] } := by
  unfold putOuter at put
  split_ifs at put
  cases fault with
  | none => exact (Except.ok.inj put).symm
  | some fault => cases put

theorem contentAt_outside_append (tree : FileTree) (path : Path) (content : List UInt8)
    (location : List String) :
    contentAt { tree with outer := tree.outer ++ [(path, content)] } (.outside location) =
      if tree.destination path = .outside location then some content
      else tree.contentAt (.outside location) := by
  change Option.map Prod.snd (List.find?
    (fun written => tree.destination written.1 = .outside location)
    (tree.outer ++ [(path, content)]).reverse) = _
  rw [List.reverse_append, List.reverse_singleton, List.singleton_append, List.find?_cons]
  split_ifs with same
  · simp [same]
  · simp [same, contentAt]

theorem writes_of_putOuter {fault : Option FileFault} (leads : collapse? [] path.parts = none)
    (put : tree.putOuter path content fault = .ok after) :
    tree.Writes path content after := by
  obtain ⟨place, outside⟩ : ∃ place, tree.destination path = .outside place := by
    rw [destination, leads]
    exact ⟨_, rfl⟩
  rw [eq_of_putOuter put]
  refine ⟨?_, rfl, fun other beyond => ?_⟩
  · rw [outside, contentAt_outside_append, if_pos outside]
  · cases other with
    | inside location => rfl
    | outside location =>
        rw [contentAt_outside_append, if_neg fun same => beyond (List.mem_singleton.2 same.symm)]

/-- Writing into a directory that is there already writes the file and makes no directory. -/
theorem writes_of_create (created : tree.create path content = .ok after) :
    tree.Writes path content after ∧ tree.SameDirectories after := by
  rw [create] at created
  split at created
  case h_1 leads =>
    refine ⟨writes_of_putOuter leads created, ?_⟩
    rw [eq_of_putOuter created]
    exact fun _ => rfl
  case h_2 location reached =>
    split at created
    case h_1 => cases created
    case h_2 name last =>
      split_ifs at created with long
      split at created
      case h_1 => cases created
      case h_2 free =>
        obtain ⟨-, noDirectory, puts⟩ := puts_of_put created
        rw [List.dropLast_append_getLast? _ last] at noDirectory puts
        exact ⟨writes_of_puts reached puts, puts.sameDirectories noDirectory⟩

/-- Two trees have files at the same locations, and directories at the same locations.  What can be
written into one of them can be written into the other. -/
def SameKinds (before after : FileTree) : Prop :=
  ∀ location, (after.get? location).map Entry.isDirectory =
    (before.get? location).map Entry.isDirectory

namespace SameKinds

theorem cases (same : before.SameKinds after) (location : Location) :
    before.get? location = none ∧ after.get? location = none ∨
      before.get? location = some .directory ∧ after.get? location = some .directory ∨
      ∃ old new, before.get? location = some (.file old) ∧
        after.get? location = some (.file new) := by
  have kinds := same location
  revert kinds
  rcases before.get? location with _ | _ | _ <;> rcases after.get? location with _ | _ | _ <;>
    simp [Entry.isDirectory]

theorem add (same : before.SameKinds after) {parent : Location} {name : String} {entry : Entry}
    (possible : before.canAdd parent name) (possibleAfter : after.canAdd parent name) :
    (before.add parent name entry possible).SameKinds
      (after.add parent name entry possibleAfter) := by
  intro location
  rw [get?_add, get?_add]
  split_ifs
  · rfl
  · exact same location

theorem canAdd (same : before.SameKinds after) {parent : Location} {name : String}
    (possible : before.canAdd parent name) :
    after.canAdd parent name := by
  obtain ⟨named, directory, absent⟩ := possible
  refine ⟨named, ?_, ?_⟩
  · rcases same.cases parent with ⟨other, -⟩ | ⟨-, found⟩ | ⟨_, _, other, -⟩
    · simp [directory] at other
    · exact found
    · simp [directory] at other
  · have none := same (parent ++ [name])
    simpa [absent] using none

theorem symm (same : before.SameKinds after) : after.SameKinds before :=
  fun location => (same location).symm

/-- Directories can be made in both trees or in none. -/
theorem makeDirectories (same : before.SameKinds after) (here : Location) (parts : List String) :
    (∃ fault, before.makeDirectories here parts = .error fault ∧
        after.makeDirectories here parts = .error fault) ∨
      ∃ left right there, before.makeDirectories here parts = .ok (left, there) ∧
        after.makeDirectories here parts = .ok (right, there) ∧ left.SameKinds right := by
  induction parts generalizing before after here with
  | nil => exact .inr ⟨before, after, here, rfl, rfl, same⟩
  | cons part rest inductionHypothesis =>
      rw [FileTree.makeDirectories, FileTree.makeDirectories]
      by_cases back : part = ".."
      · rw [if_pos back, if_pos back]
        by_cases top : here = []
        · rw [if_pos top, if_pos top]
          exact .inl ⟨_, rfl, rfl⟩
        · rw [if_neg top, if_neg top]
          exact inductionHypothesis same _
      · rw [if_neg back, if_neg back]
        rcases same.cases (here ++ [part]) with
          ⟨absent, absentAfter⟩ | ⟨found, foundAfter⟩ | ⟨_, _, found, foundAfter⟩
        · rw [absent, absentAfter]
          by_cases long : isLongName part = true
          · simp only [if_pos long]
            exact .inl ⟨_, rfl, rfl⟩
          · simp only [if_neg long]
            by_cases possible : before.canAdd here part
            · have possibleAfter := same.canAdd possible
              simp only [dif_pos possible, dif_pos possibleAfter]
              exact inductionHypothesis (same.add possible possibleAfter) _
            · have impossibleAfter : ¬after.canAdd here part := fun other =>
                possible (same.symm.canAdd other)
              simp only [dif_neg possible, dif_neg impossibleAfter]
              exact .inl ⟨_, rfl, rfl⟩
        · rw [found, foundAfter]
          exact inductionHypothesis same _
        · rw [found, foundAfter]
          exact .inl ⟨_, rfl, rfl⟩

end SameKinds

end FileTree

end SchemaDecl
