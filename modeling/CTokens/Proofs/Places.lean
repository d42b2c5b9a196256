import CTokens.FileTree

/-! # Places in a tree of files

A tree is known by what is at each of its places: nothing, a directory, or a file with its content
(`FileTree.item?`).  A file that is put at the place of a path that is to be written changes the
tree at this place and nowhere else (`holding_put`).

Paths are read by the items that they pass.  So a path that leads to the place of that file gives
its content, and all other paths give what they gave before (`Holding.read_of_names`,
`Holding.read_of_not_names`).
-/

namespace CTokens

inductive Item
  | directory
  | file (content : List UInt8)
  deriving DecidableEq, Repr

/-! ## Nodes -/

namespace Node

/-- A node as it is seen at its place, without what is below it. -/
def item : Node → Item
  | .file content => .file content
  | .directory _ => .directory

theorem get?_directory_cons (name : String) (names : List String) (entries : List (String × Node)) :
    (directory entries).get? (name :: names) =
      (entries.lookup name).bind fun child => child.get? names := rfl

theorem lookup_setEntry_of_ne {name other : String} (different : other ≠ name) (node : Node)
    (entries : List (String × Node)) :
    (setEntry name node entries).lookup other = entries.lookup other := by
  have passed : (other == name) = false := by simpa using different
  induction entries with
  | nil => rw [setEntry, List.lookup_cons, passed]
  | cons entry entries ih =>
    rw [setEntry]
    split
    · next same => rw [List.lookup_cons, List.lookup_cons, passed, same, passed]
    · rw [List.lookup_cons, List.lookup_cons, ih]

theorem get?_append (node : Node) (first second : List String) :
    node.get? (first ++ second) = (node.get? first).bind fun inner => inner.get? second := by
  induction first generalizing node with
  | nil => rfl
  | cons name names ih =>
    rw [List.cons_append, get?, get?, Option.bind_assoc]
    exact Option.bind_congr fun child _ => ih child

theorem get?_put_cons_self (new : Node) (name : String) (names rest : List String)
    (entries : List (String × Node)) :
    (put new (.directory entries) (name :: names)).get? (name :: rest) =
      (put new ((entries.lookup name).getD (.directory [])) names).get? rest := by
  rw [put, get?_directory_cons, lookup_setEntry_self, Option.bind_some]
  rfl

theorem get?_put_cons_of_ne {name other : String} (different : other ≠ name) (new : Node)
    (names rest : List String) (entries : List (String × Node)) :
    (put new (.directory entries) (name :: names)).get? (other :: rest) =
      (Node.directory entries).get? (other :: rest) := by
  rw [put, get?_directory_cons, lookup_setEntry_of_ne different, get?_directory_cons]

/-- A file that is put into a directory, where no directory has its name, is all that changes. -/
theorem item_get?_put {root : Node} {folder : List String} {entries : List (String × Node)}
    {name : String} (there : root.get? folder = some (.directory entries))
    (free : ∀ inner, entries.lookup name ≠ some (.directory inner)) (content : List UInt8)
    {other : List String} (different : other ≠ folder ++ [name]) :
    ((put (.file content) root (folder ++ [name])).get? other).map item =
      (root.get? other).map item := by
  induction folder generalizing root other with
  | nil =>
    cases there
    match other with
    | [] => rfl
    | step :: rest =>
      by_cases same : step = name
      · -- Below a file there is nothing, and no more is there below what it replaces.
        subst same
        obtain ⟨next, below, rfl⟩ : ∃ next below, rest = next :: below :=
          List.exists_cons_of_ne_nil fun empty => different (by rw [empty]; rfl)
        rw [List.nil_append, get?_put_cons_self, get?_directory_cons]
        cases held : entries.lookup step with
        | none => rfl
        | some node =>
          cases node with
          | file _ => rfl
          | directory inner => exact absurd held (free inner)
      · rw [List.nil_append, get?_put_cons_of_ne same]
  | cons above folder ih =>
    -- Beside the folder nothing changes, and along it what `ih` says.
    cases root with
    | file _ => cases there
    | directory outer =>
      rw [get?_directory_cons] at there
      obtain ⟨child, found, below⟩ := Option.bind_eq_some_iff.1 there
      match other with
      | [] => rfl
      | step :: rest =>
        by_cases same : step = above
        · subst same
          have apart : rest ≠ folder ++ [name] := fun equal => different (by rw [equal]; rfl)
          rw [List.cons_append, get?_put_cons_self, found, Option.getD_some, ih below apart,
            get?_directory_cons, found, Option.bind_some]
        · rw [List.cons_append, get?_put_cons_of_ne same]

end Node

/-! ## What is at a place -/

namespace FileTree

theorem bind_eq_ok {α β : Type} {first : Except FileError α} {next : α → Except FileError β}
    {value : β} :
    (first >>= next) = .ok value ↔ ∃ middle, first = .ok middle ∧ next middle = .ok value := by
  cases first with
  | error error => simp [bind, Except.bind]
  | ok middle => simp [bind, Except.bind]

def item? (tree : FileTree) (place : List String) : Option Item :=
  (tree.root.get? place).map Node.item

/-- The second tree has a file with that content at a place, and is otherwise like the first. -/
structure Holding (tree : FileTree) (place : List String) (content : List UInt8)
    (after : FileTree) : Prop where
  working : after.working = tree.working
  item?_eq : ∀ other, after.item? other =
    if other = place then some (.file content) else tree.item? other

/-- A file can be at the place: it would be in a directory, and take the place of none. -/
structure Writable (tree : FileTree) (place : List String) : Prop where
  inside : ∃ folder name, place = folder ++ [name] ∧ tree.item? folder = some .directory
  free : tree.item? place ≠ some .directory

variable {tree after : FileTree} {place : List String} {content : List UInt8}

theorem item?_eq_directory {place : List String} :
    tree.item? place = some .directory ↔
      ∃ entries, tree.root.get? place = some (.directory entries) := by
  rw [item?, Option.map_eq_some_iff]
  constructor
  · rintro ⟨node, found, seen⟩
    cases node with
    | file _ => cases seen
    | directory entries => exact ⟨entries, found⟩
  · rintro ⟨entries, found⟩
    exact ⟨_, found, rfl⟩

theorem item?_eq_file {place : List String} :
    tree.item? place = some (.file content) ↔ tree.root.get? place = some (.file content) := by
  rw [item?, Option.map_eq_some_iff]
  constructor
  · rintro ⟨node, found, seen⟩
    cases node with
    | file _ => cases seen; exact found
    | directory _ => cases seen
  · intro found
    exact ⟨_, found, rfl⟩

/-- A directory has an entry for each name below it at which there is anything. -/
theorem item?_append_singleton {folder : List String} {entries : List (String × Node)}
    (there : tree.root.get? folder = some (.directory entries)) (name : String) :
    tree.item? (folder ++ [name]) = (entries.lookup name).map Node.item := by
  rw [item?, Node.get?_append, there, Option.bind_some, Node.get?, Node.child?]
  cases entries.lookup name <;> rfl

theorem holding_put (writable : tree.Writable place) (content : List UInt8) :
    tree.Holding place content (tree.put place content) := by
  refine ⟨rfl, fun other => ?_⟩
  split
  · next same => rw [same, item?, put, Node.get?_put_self]; rfl
  · next different =>
    obtain ⟨folder, name, rfl, inside⟩ := writable.inside
    obtain ⟨entries, there⟩ := item?_eq_directory.1 inside
    refine Node.item_get?_put there (fun inner held => writable.free ?_) content different
    rw [item?_append_singleton there, held]
    rfl

namespace Holding

theorem item?_self (holding : tree.Holding place content after) :
    after.item? place = some (.file content) :=
  (holding.item?_eq place).trans (if_pos rfl)

theorem item?_of_ne (holding : tree.Holding place content after) {other : List String}
    (different : other ≠ place) : after.item? other = tree.item? other :=
  (holding.item?_eq other).trans (if_neg different)

/-- A file that has just been written can be written again. -/
theorem writable (holding : tree.Holding place content after) (writable : tree.Writable place) :
    after.Writable place := by
  obtain ⟨folder, name, rfl, inside⟩ := writable.inside
  refine ⟨⟨folder, name, rfl, ?_⟩, ?_⟩
  · rw [holding.item?_of_ne (by simp), inside]
  · rw [holding.item?_self]
    simp

theorem trans {later : FileTree} {more : List UInt8} (holding : tree.Holding place content after)
    (again : after.Holding place more later) : tree.Holding place more later := by
  refine ⟨again.working.trans holding.working, fun other => ?_⟩
  rw [again.item?_eq]
  split
  · rfl
  · next different => exact holding.item?_of_ne different

end Holding

/-! ## Following names -/

/-- What a name can be followed to from a directory: itself, the one above it, or something that is
    in it. -/
inductive Follows (tree : FileTree) (place : List String) : String → List String → Prop
  | stay {name : String} (dot : name = ".") : Follows tree place name place
  | up {name : String} (dots : name = "..") : Follows tree place name place.dropLast
  | down {name : String} (proper : name ≠ "." ∧ name ≠ "..") (short : name.utf8ByteSize ≤ 255)
      (there : (tree.item? (place ++ [name])).isSome) : Follows tree place name (place ++ [name])

theorem follow_of_directory {entries : List (String × Node)}
    (there : tree.root.get? place = some (.directory entries)) (name : String)
    (next : List String) : tree.follow place name = .ok next ↔ tree.Follows place name next := by
  have below := item?_append_singleton there name
  simp only [follow, there]
  constructor
  · intro followed
    split at followed
    · next dot =>
      cases followed
      exact .stay dot
    split at followed
    · next dots =>
      cases followed
      exact .up dots
    split at followed
    · cases followed
    split at followed
    · next dot dots short found =>
      cases followed
      refine .down ⟨dot, dots⟩ (Nat.le_of_not_lt short) ?_
      rwa [below, Option.isSome_map]
    · cases followed
  · intro follows
    cases follows with
    | stay dot => exact if_pos dot
    | up dots => rw [if_neg (by simp [dots]), if_pos dots]
    | down proper short found =>
      rw [below, Option.isSome_map] at found
      rw [if_neg proper.1, if_neg proper.2, if_neg (Nat.not_lt.2 short), if_pos found]

theorem follow_eq_ok {name : String} {next : List String} :
    tree.follow place name = .ok next ↔
      tree.item? place = some .directory ∧ tree.Follows place name next := by
  constructor
  · intro followed
    cases there : tree.root.get? place with
    | none => simp [follow, there] at followed
    | some node =>
      cases node with
      | file _ => simp [follow, there] at followed
      | directory entries =>
        exact ⟨item?_eq_directory.2 ⟨_, there⟩, (follow_of_directory there _ _).1 followed⟩
  · rintro ⟨directory, follows⟩
    obtain ⟨entries, there⟩ := item?_eq_directory.1 directory
    exact (follow_of_directory there _ _).2 follows

theorem walk_nil (tree : FileTree) (place : List String) : tree.walk place [] = .ok place := rfl

theorem walk_cons_eq_ok {name : String} {names last : List String} :
    tree.walk place (name :: names) = .ok last ↔
      ∃ next, tree.follow place name = .ok next ∧ tree.walk next names = .ok last := by
  rw [walk, List.foldlM_cons]
  exact bind_eq_ok

theorem walk_append_eq_ok {first second last : List String} :
    tree.walk place (first ++ second) = .ok last ↔
      ∃ next, tree.walk place first = .ok next ∧ tree.walk next second = .ok last := by
  induction first generalizing place with
  | nil => simp [walk_nil]
  | cons name names ih =>
    simp only [List.cons_append, walk_cons_eq_ok, ih]
    constructor
    · rintro ⟨next, followed, middle, walked, rest⟩
      exact ⟨middle, ⟨next, followed, walked⟩, rest⟩
    · rintro ⟨middle, ⟨next, followed, walked⟩, rest⟩
      exact ⟨next, followed, middle, walked, rest⟩

namespace Holding

/-- Where a name could be followed it still can. -/
theorem follow_of_follow (holding : tree.Holding place content after)
    (writable : tree.Writable place) {here next : List String} {name : String}
    (followed : tree.follow here name = .ok next) :
    after.follow here name = .ok next := by
  obtain ⟨directory, follows⟩ := follow_eq_ok.1 followed
  have elsewhere : here ≠ place := fun same => writable.free (same ▸ directory)
  refine follow_eq_ok.2 ⟨(holding.item?_of_ne elsewhere).trans directory, ?_⟩
  cases follows with
  | stay dot => exact .stay dot
  | up dots => exact .up dots
  | down proper short there =>
    refine .down proper short ?_
    rw [holding.item?_eq]
    split
    · rfl
    · exact there

/-- A name that can be followed now, and not to the file, could be followed before. -/
theorem follow_of_follow_after (holding : tree.Holding place content after)
    {here next : List String} {name : String} (followed : after.follow here name = .ok next)
    (elsewhere : next ≠ place) : tree.follow here name = .ok next := by
  obtain ⟨directory, follows⟩ := follow_eq_ok.1 followed
  have apart : here ≠ place := by
    rintro rfl
    rw [holding.item?_self] at directory
    cases directory
  refine follow_eq_ok.2 ⟨(holding.item?_of_ne apart).symm.trans directory, ?_⟩
  cases follows with
  | stay dot => exact .stay dot
  | up dots => exact .up dots
  | down proper short there =>
    rw [holding.item?_of_ne elsewhere] at there
    exact .down proper short there

theorem walk_of_walk (holding : tree.Holding place content after) (writable : tree.Writable place)
    {here names last : List String} (walked : tree.walk here names = .ok last) :
    after.walk here names = .ok last := by
  induction names generalizing here with
  | nil => exact walked
  | cons name names ih =>
    obtain ⟨next, followed, walked⟩ := walk_cons_eq_ok.1 walked
    exact walk_cons_eq_ok.2 ⟨next, holding.follow_of_follow writable followed, ih walked⟩

/-- There is no way on from a file. -/
theorem walk_of_walk_after (holding : tree.Holding place content after)
    {here names last : List String} (walked : after.walk here names = .ok last)
    (elsewhere : last ≠ place) : tree.walk here names = .ok last := by
  induction names generalizing here with
  | nil => exact walked
  | cons name names ih =>
    obtain ⟨next, followed, walked⟩ := walk_cons_eq_ok.1 walked
    refine walk_cons_eq_ok.2 ⟨next, holding.follow_of_follow_after followed ?_, ih walked⟩
    rintro rfl
    cases names with
    | nil => exact elsewhere (Except.ok.inj walked).symm
    | cons name names =>
      obtain ⟨_, further, -⟩ := walk_cons_eq_ok.1 walked
      have directory := (follow_eq_ok.1 further).1
      rw [holding.item?_self] at directory
      cases directory

end Holding

/-! ## Paths -/

/-- The path leads to a place, as the path of a file. -/
def Names (tree : FileTree) (path : String) (place : List String) : Prop :=
  ∃ parsed, Path.parse path = .ok parsed ∧ parsed.ofDirectory = false ∧
    tree.walk (tree.start parsed) parsed.names = .ok place

theorem read_eq_ok {path : String} {bytes : List UInt8} :
    tree.read path = .ok bytes ↔
      ∃ place, tree.Names path place ∧ tree.item? place = some (.file bytes) := by
  rw [FileTree.read, bind_eq_ok]
  constructor
  · rintro ⟨parsed, names, read⟩
    obtain ⟨place, walked, read⟩ := bind_eq_ok.1 read
    split at read
    · cases read
    · cases read
    · next content found =>
      split at read
      · cases read
      · next file =>
        cases read
        exact ⟨place, ⟨parsed, names, by simpa using file, walked⟩, item?_eq_file.2 found⟩
  · rintro ⟨place, ⟨parsed, names, file, walked⟩, found⟩
    refine ⟨parsed, names, bind_eq_ok.2 ⟨place, walked, ?_⟩⟩
    simp only [item?_eq_file.1 found, file, Bool.false_eq_true, if_false]

/-- What is known of the place of a path that is to be written: a directory has been reached, in
    which the last name of the path is a name for a file. -/
structure Located (tree : FileTree) (path : String) (folder : List String) (name : String) :
    Prop where
  reached : ∃ parsed names, Path.parse path = .ok parsed ∧ parsed.ofDirectory = false ∧
    parsed.names = names ++ [name] ∧ tree.walk (tree.start parsed) names = .ok folder
  inside : tree.item? folder = some .directory
  proper : name ≠ "." ∧ name ≠ ".."
  short : name.utf8ByteSize ≤ 255
  free : tree.item? (folder ++ [name]) ≠ some .directory

theorem located_of_locate {path : String} (found : tree.locate path = .ok place) :
    ∃ folder name, place = folder ++ [name] ∧ tree.Located path folder name := by
  rw [locate] at found
  -- Each case that is split off is one in which no place is found.
  obtain ⟨parsed, read, found⟩ := bind_eq_ok.1 found
  split at found
  · cases found
  next name last =>
  obtain ⟨folder, walked, found⟩ := bind_eq_ok.1 found
  split at found
  · cases found
  · cases found
  next entries there =>
  split at found
  · cases found
  next proper =>
  split at found
  · cases found
  next short =>
  split at found
  · cases found
  next free =>
  cases found
  simp only [Bool.or_eq_true, decide_eq_true_eq, not_or, Bool.not_eq_true] at proper
  obtain ⟨⟨dot, dots⟩, file⟩ := proper
  obtain ⟨names, split⟩ := List.getLast?_eq_some_iff.1 last
  rw [split, List.dropLast_concat] at walked
  refine ⟨folder, name, rfl, ?_⟩
  exact {
    reached := ⟨parsed, names, read, file, split, walked⟩
    inside := item?_eq_directory.2 ⟨entries, there⟩
    proper := ⟨dot, dots⟩
    short := Nat.le_of_not_lt short
    free := by
      rw [item?_append_singleton there]
      intro held
      obtain ⟨node, listed, seen⟩ := Option.map_eq_some_iff.1 held
      cases node with
      | file _ => cases seen
      | directory inner => exact free inner listed }

theorem Located.writable {path : String} {folder : List String} {name : String}
    (located : tree.Located path folder name) : tree.Writable (folder ++ [name]) :=
  ⟨⟨folder, name, rfl, located.inside⟩, located.free⟩

namespace Holding

theorem start_eq (holding : tree.Holding place content after) (parsed : Path) :
    after.start parsed = tree.start parsed := by
  rw [start, holding.working, start]

theorem names_of_located {path : String} {folder : List String} {name : String}
    (holding : tree.Holding (folder ++ [name]) content after)
    (located : tree.Located path folder name) :
    after.Names path (folder ++ [name]) := by
  obtain ⟨parsed, names, read, file, split, walked⟩ := located.reached
  refine ⟨parsed, read, file, ?_⟩
  rw [split, holding.start_eq]
  refine walk_append_eq_ok.2 ⟨folder, holding.walk_of_walk located.writable walked, ?_⟩
  have directory : after.item? folder = some .directory := by
    rw [holding.item?_of_ne (by simp), located.inside]
  have there : (after.item? (folder ++ [name])).isSome := by
    rw [holding.item?_self]
    rfl
  have follows : after.Follows folder name (folder ++ [name]) :=
    .down located.proper located.short there
  exact walk_cons_eq_ok.2 ⟨_, follow_eq_ok.2 ⟨directory, follows⟩, rfl⟩

theorem names_of_names (holding : tree.Holding place content after) (writable : tree.Writable place)
    {path : String} {other : List String} (names : tree.Names path other) :
    after.Names path other := by
  obtain ⟨parsed, read, file, walked⟩ := names
  refine ⟨parsed, read, file, ?_⟩
  rw [holding.start_eq]
  exact holding.walk_of_walk writable walked

theorem names_of_names_after (holding : tree.Holding place content after) {path : String}
    {other : List String} (names : after.Names path other) (elsewhere : other ≠ place) :
    tree.Names path other := by
  obtain ⟨parsed, read, file, walked⟩ := names
  rw [holding.start_eq] at walked
  exact ⟨parsed, read, file, holding.walk_of_walk_after walked elsewhere⟩

theorem read_of_names (holding : tree.Holding place content after) {path : String}
    (names : after.Names path place) : after.read path = .ok content :=
  read_eq_ok.2 ⟨place, names, holding.item?_self⟩

theorem read_of_not_names (holding : tree.Holding place content after)
    (writable : tree.Writable place) {path : String} (elsewhere : ¬ after.Names path place)
    (bytes : List UInt8) : after.read path = .ok bytes ↔ tree.read path = .ok bytes := by
  rw [read_eq_ok, read_eq_ok]
  constructor
  · rintro ⟨other, names, found⟩
    have different : other ≠ place := fun same => elsewhere (same ▸ names)
    rw [holding.item?_of_ne different] at found
    exact ⟨other, holding.names_of_names_after names different, found⟩
  · rintro ⟨other, names, found⟩
    have leads := holding.names_of_names writable names
    have different : other ≠ place := fun same => elsewhere (same ▸ leads)
    exact ⟨other, leads, (holding.item?_of_ne different).trans found⟩

end Holding

end FileTree

end CTokens
