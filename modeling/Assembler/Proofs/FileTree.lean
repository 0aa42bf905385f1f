import Assembler.FileTree
import Mathlib.Data.List.Infix

/-!
# Laws of file trees

A path is followed through directories only, so all directories above the place that it leads to
exist. Writing a file changes what stands at one place and nothing else, and since directories stay,
every other path still leads where it did. An image file that is named after its input is another
file than the input.
-/

namespace Assembler.FileTree

variable {tree after : FileTree} {place other : Place} {parts : List String} {path : Path}

/-! ## Steps -/

/-- Where a component leads from a directory, unless it is too long. -/
def next? (place : Place) (name : String) : Option Place :=
  if name = "" ∨ name = "." then some place
  else if name = ".." then some (above place)
  else if maxNameBytes < name.utf8ByteSize then none
  else some (place ++ [name])

/-- Each step of a path leaves from a directory. -/
theorem follow_cons_eq_ok_iff {name : String} :
    tree.follow place (name :: parts) = .ok other ↔
      tree.node? place = some .directory ∧
        ∃ next, next? place name = some next ∧ tree.follow next parts = .ok other := by
  unfold next?
  simp only [follow]
  cases tree.node? place with
  | none => simp
  | some node =>
    cases node with
    | file bytes => simp
    | directory =>
      simp only [true_and]
      split
      · simp
      · split
        · simp
        · split <;> simp

/-! ## Places that can be reached -/

/-- All directories above a place are there. -/
def Reaches (tree : FileTree) (place : Place) : Prop :=
  ∀ higher, higher <+: place → higher ≠ place → tree.node? higher = some .directory

theorem node?_of_isFixed (fixed : isFixed place = true) : tree.node? place = some .directory :=
  if_pos fixed

theorem isFixed_of_dots (dots : place.all (· == "..") = true) : isFixed place = true := by
  simp [isFixed, dots]

theorem Reaches.child (reaches : tree.Reaches place)
    (directory : tree.node? place = some .directory) (name : String) :
    tree.Reaches (place ++ [name]) := by
  intro higher above other
  rcases List.prefix_concat_iff.mp above with whole | above
  · exact absurd whole other
  · by_cases same : higher = place
    · rw [same]
      exact directory
    · exact reaches higher above same

theorem Reaches.above (reaches : tree.Reaches place) : tree.Reaches (above place) := by
  unfold FileTree.above
  split
  · exact reaches
  · split
    · rename_i dots
      intro higher above _
      apply node?_of_isFixed
      apply isFixed_of_dots
      rw [List.all_eq_true] at dots ⊢
      intro name member
      rcases List.mem_cons.mp (above.subset member) with rfl | inside
      · rfl
      · exact dots name inside
    · intro higher above other
      have shorter := List.dropLast_prefix place
      have inside := above.trans shorter
      by_cases same : higher = place
      · subst same
        have short := above.length_le
        rw [List.length_dropLast] at short
        have empty : higher = [] := List.length_eq_zero_iff.mp (by omega)
        exact absurd (by rw [empty]; rfl) other
      · exact reaches higher inside same

/-- The place above a directory is a directory. -/
theorem Reaches.node?_above (reaches : tree.Reaches place) :
    tree.node? (FileTree.above place) = some .directory := by
  unfold FileTree.above
  split
  · rename_i root
    apply node?_of_isFixed
    simp [isFixed, root]
  · split
    · rename_i dots
      apply node?_of_isFixed
      apply isFixed_of_dots
      simpa using dots
    · rename_i named
      have shorter := List.dropLast_prefix place
      apply reaches _ shorter
      intro same
      have length := congrArg List.length same
      rw [List.length_dropLast] at length
      have empty : place = [] := List.length_eq_zero_iff.mp (by omega)
      exact named (by rw [empty]; rfl)

theorem Reaches.next (reaches : tree.Reaches place)
    (directory : tree.node? place = some .directory) {name : String}
    (leads : next? place name = some other) : tree.Reaches other := by
  unfold next? at leads
  split at leads
  · cases leads
    exact reaches
  · split at leads
    · cases leads
      exact reaches.above
    · split at leads
      · cases leads
      · cases leads
        exact reaches.child directory name

theorem Reaches.follow (reaches : tree.Reaches place)
    (found : tree.follow place parts = .ok other) : tree.Reaches other := by
  induction parts generalizing place with
  | nil =>
    cases found
    exact reaches
  | cons name rest ih =>
    obtain ⟨directory, next, leads, found⟩ := follow_cons_eq_ok_iff.mp found
    exact ih (reaches.next directory leads) found

theorem reaches_start (root : String) : tree.Reaches (start root) := by
  intro higher above other
  unfold start at above other
  split at above
  · rename_i empty
    rw [if_pos empty] at other
    exact absurd (List.prefix_nil.mp above) other
  · rename_i rooted
    rw [if_neg rooted] at other
    rcases List.prefix_cons_iff.mp above with rfl | ⟨rest, rfl, below⟩
    · rfl
    · rw [List.prefix_nil.mp below] at other
      exact absurd rfl other

theorem reaches_of_locate (found : tree.locate path = .ok place) : tree.Reaches place :=
  (reaches_start path.root).follow found

/-! ## Paths in other trees and in other forms -/

/-- Two trees with the same directories. -/
def SameDirectories (tree after : FileTree) : Prop :=
  ∀ place, after.node? place = some .directory ↔ tree.node? place = some .directory

/-- A path leads to the same place through the same directories. -/
theorem SameDirectories.follow (same : tree.SameDirectories after) :
    after.follow place parts = .ok other ↔ tree.follow place parts = .ok other := by
  induction parts generalizing place with
  | nil => rfl
  | cons name rest ih => simp only [follow_cons_eq_ok_iff, same place, ih]

theorem SameDirectories.locate (same : tree.SameDirectories after) :
    after.locate path = .ok place ↔ tree.locate path = .ok place :=
  same.follow

/-- Two paths do not lead to one place. -/
def Apart (tree : FileTree) (p q : Path) : Prop :=
  ∀ place, tree.locate p = .ok place → tree.locate q ≠ .ok place

theorem SameDirectories.apart (same : tree.SameDirectories after) {p q : Path} :
    after.Apart p q ↔ tree.Apart p q := by
  simp only [Apart, Ne, same.locate]

theorem follow_append_eq_ok_iff {first second : List String} :
    tree.follow place (first ++ second) = .ok other ↔
      ∃ middle, tree.follow place first = .ok middle ∧
        tree.follow middle second = .ok other := by
  induction first generalizing place with
  | nil => simp [follow]
  | cons name rest ih =>
    rw [List.cons_append, follow_cons_eq_ok_iff]
    simp only [ih, follow_cons_eq_ok_iff]
    constructor
    · rintro ⟨directory, next, leads, middle, found, later⟩
      exact ⟨middle, ⟨directory, next, leads, found⟩, later⟩
    · rintro ⟨middle, ⟨directory, next, leads, found⟩, later⟩
      exact ⟨directory, next, leads, middle, found, later⟩

/-- Components without a name need a directory to stand in, and lead nowhere else. -/
theorem follow_filter (found : tree.follow place parts = .ok other) :
    tree.follow place (parts.filter fun c => c ≠ "" ∧ c ≠ ".") = .ok other := by
  induction parts generalizing place with
  | nil => exact found
  | cons name rest ih =>
    obtain ⟨directory, next, leads, found⟩ := follow_cons_eq_ok_iff.mp found
    by_cases skipped : name = "" ∨ name = "."
    · rw [next?, if_pos skipped] at leads
      cases leads
      rw [List.filter_cons_of_neg (by simpa [← not_or] using skipped)]
      exact ih found
    · rw [List.filter_cons_of_pos (by simpa [not_or] using skipped)]
      exact follow_cons_eq_ok_iff.mpr ⟨directory, next, leads, ih found⟩

/-- What a path text leads to as it is written, the path leads to as well. -/
theorem read?_of_stat? {text : String} {bytes : List UInt8}
    (found : tree.stat? text = some (.file bytes)) :
    tree.read? (.ofString text) = some bytes := by
  unfold stat? at found
  split at found
  · cases found
  · split at found
    · rename_i place followed
      have located : tree.locate (.ofString text) = .ok place := follow_filter followed
      simp only [read?, located, found]
    · cases found

/-- A file that can be read stands at a place that is no directory. -/
theorem read?_eq_some_iff {bytes : List UInt8} :
    tree.read? path = some bytes ↔
      ∃ place, tree.locate path = .ok place ∧ tree.node? place = some (.file bytes) := by
  unfold read?
  cases located : tree.locate path with
  | error fault => simp
  | ok place =>
    cases stands : tree.node? place with
    | none => simp [stands]
    | some node => cases node <;> simp [stands]

/-! ## Writing -/

/-- A file can be written at a path, which leads to the given place. -/
@[mk_iff takes_iff]
structure Takes (tree : FileTree) (path : Path) (place : Place) : Prop where
  located : tree.locate path = .ok place
  free : tree.node? place ≠ some .directory

theorem SameDirectories.takes (same : tree.SameDirectories after) :
    after.Takes path place ↔ tree.Takes path place := by
  simp only [takes_iff, same.locate, Ne, same place]

theorem lookup_filter {entries : List (Place × Node)} (apart : other ≠ place) :
    (entries.filter fun entry => entry.1 != place).lookup other = entries.lookup other := by
  induction entries with
  | nil => rfl
  | cons entry rest ih =>
    obtain ⟨key, node⟩ := entry
    by_cases same : key = place
    · subst same
      have differ : (other == key) = false := beq_eq_false_iff_ne.mpr apart
      rw [List.filter_cons_of_neg (by simp), ih, List.lookup_cons, differ]
    · rw [List.filter_cons_of_pos (by simpa using same), List.lookup_cons, List.lookup_cons, ih]

/-- Putting a file at a place changes what stands there, and nothing else. -/
theorem node?_put (reaches : tree.Reaches place) (free : tree.node? place ≠ some .directory)
    (bytes : List UInt8) (other : Place) :
    (tree.put place bytes).node? other =
      if other = place then some (.file bytes) else tree.node? other := by
  by_cases fixed : isFixed other = true
  · have apart : other ≠ place := by
      rintro rfl
      exact free (node?_of_isFixed fixed)
    rw [if_neg apart, node?_of_isFixed fixed, node?_of_isFixed fixed]
  · by_cases same : other = place
    · subst same
      simp [node?, fixed, put]
    · rw [if_neg same]
      have differ : (other == place) = false := beq_eq_false_iff_ne.mpr same
      have lookups : (tree.put place bytes).entries.lookup other = tree.entries.lookup other := by
        simp only [put, List.lookup_cons, differ, lookup_filter same]
      by_cases above : other <+: place
      · -- A directory above the place was there before.
        have directory := reaches other above same
        have entered : (tree.put place bytes).entries.any
            (fun entry => other.isPrefixOf entry.1) = true := by
          simp [put, above]
        rw [directory]
        simp only [node?, fixed, lookups, entered, Bool.false_eq_true, if_false, if_true]
          at directory ⊢
        cases found : tree.entries.lookup other with
        | none => rfl
        | some node =>
          rw [found] at directory
          exact directory
      · have others : (tree.put place bytes).entries.any
            (fun entry => other.isPrefixOf entry.1) =
              tree.entries.any fun entry => other.isPrefixOf entry.1 := by
          rw [Bool.eq_iff_iff]
          simp only [put, List.any_cons, List.any_filter, Bool.or_eq_true, List.any_eq_true,
            List.isPrefixOf_iff_prefix, above, false_or, bne_iff_ne, Bool.and_eq_true]
          constructor
          · rintro ⟨entry, member, -, below⟩
            exact ⟨entry, member, below⟩
          · rintro ⟨entry, member, below⟩
            exact ⟨entry, member, fun own => above (own ▸ below), below⟩
        simp only [node?, fixed, lookups, others]

namespace Takes

theorem node?_put (takes : tree.Takes path place) (bytes : List UInt8) (other : Place) :
    (tree.put place bytes).node? other =
      if other = place then some (.file bytes) else tree.node? other :=
  FileTree.node?_put (reaches_of_locate takes.located) takes.free bytes other

theorem write (takes : tree.Takes path place) (bytes : List UInt8) :
    tree.write path bytes = .ok (tree.put place bytes) := by
  simp only [FileTree.write, takes.located]
  split
  · rename_i directory
    exact absurd directory takes.free
  · rfl

/-- Writing a file neither makes nor removes a directory. -/
theorem sameDirectories_put (takes : tree.Takes path place) (bytes : List UInt8) :
    tree.SameDirectories (tree.put place bytes) := by
  intro p
  rw [takes.node?_put bytes p]
  by_cases own : p = place
  · simp [own, takes.free]
  · rw [if_neg own]

/-- A file at another place stays as it is. -/
theorem read?_put (takes : tree.Takes path place) {other : Path} (apart : tree.Apart path other)
    (bytes : List UInt8) : (tree.put place bytes).read? other = tree.read? other := by
  apply Option.ext
  intro contents
  simp only [read?_eq_some_iff, (takes.sameDirectories_put bytes).locate, takes.node?_put]
  apply exists_congr
  intro target
  apply and_congr_right
  intro located
  have elsewhere : target ≠ place := by
    rintro rfl
    exact apart target takes.located located
  rw [if_neg elsewhere]

end Takes

theorem write_eq_ok_iff {bytes : List UInt8} :
    tree.write path bytes = .ok after ↔
      ∃ place, tree.Takes path place ∧ after = tree.put place bytes := by
  constructor
  · intro written
    unfold write at written
    split at written
    · cases written
    · rename_i place located
      split at written
      · cases written
      · rename_i free
        cases written
        exact ⟨place, ⟨located, free⟩, rfl⟩
  · rintro ⟨place, takes, rfl⟩
    exact takes.write bytes

/-! ## Writing several files -/

/-- Write texts to files one after the other. -/
def writeFiles (tree : FileTree) : List (Path × String) → Except PathFault FileTree
  | [] => .ok tree
  | (path, text) :: rest =>
    match tree.write path text.toUTF8.data.toList with
    | .error fault => .error fault
    | .ok next => next.writeFiles rest

theorem writeFiles_cons_eq_ok_iff {text : String} {rest : List (Path × String)} :
    tree.writeFiles ((path, text) :: rest) = .ok after ↔
      ∃ place, tree.Takes path place ∧
        (tree.put place text.toUTF8.data.toList).writeFiles rest = .ok after := by
  simp only [writeFiles]
  cases written : tree.write path text.toUTF8.data.toList with
  | error fault =>
    simp only [reduceCtorEq, false_iff]
    rintro ⟨place, takes, -⟩
    rw [takes.write] at written
    cases written
  | ok next =>
    obtain ⟨place, takes, rfl⟩ := write_eq_ok_iff.mp written
    constructor
    · intro others
      exact ⟨place, takes, others⟩
    · rintro ⟨again, retakes, others⟩
      have same := takes.located.symm.trans retakes.located
      rw [Except.ok.inj same]
      exact others

variable {files : List (Path × String)}

/-- Files can be written one after the other if each can be written before. -/
theorem exists_writeFiles (takes : ∀ file ∈ files, ∃ place, tree.Takes file.1 place) :
    ∃ after, tree.writeFiles files = .ok after := by
  induction files generalizing tree with
  | nil => exact ⟨tree, rfl⟩
  | cons file rest ih =>
    obtain ⟨⟨place, first⟩, others⟩ := List.forall_mem_cons.mp takes
    have same := first.sameDirectories_put file.2.toUTF8.data.toList
    obtain ⟨after, written⟩ := ih fun next member => by
      obtain ⟨target, later⟩ := others next member
      exact ⟨target, same.takes.mpr later⟩
    exact ⟨after, writeFiles_cons_eq_ok_iff.mpr ⟨place, first, written⟩⟩

theorem writeFiles_sameDirectories (written : tree.writeFiles files = .ok after) :
    tree.SameDirectories after := by
  induction files generalizing tree with
  | nil =>
    cases written
    exact fun _ => Iff.rfl
  | cons file rest ih =>
    obtain ⟨place, takes, others⟩ := writeFiles_cons_eq_ok_iff.mp written
    intro p
    rw [ih others p, takes.sameDirectories_put _ p]

/-- Nothing changes at places to which none of the files leads. -/
theorem writeFiles_node? (written : tree.writeFiles files = .ok after)
    (elsewhere : ∀ file ∈ files, tree.locate file.1 ≠ .ok other) :
    after.node? other = tree.node? other := by
  induction files generalizing tree with
  | nil =>
    cases written
    rfl
  | cons file rest ih =>
    obtain ⟨own, later⟩ := List.forall_mem_cons.mp elsewhere
    obtain ⟨place, takes, others⟩ := writeFiles_cons_eq_ok_iff.mp written
    have apart : other ≠ place := by
      rintro rfl
      exact own takes.located
    rw [ih others, takes.node?_put, if_neg apart]
    intro next member
    rw [Ne, (takes.sameDirectories_put _).locate]
    exact later next member

/-- Files at different places can all be read back. -/
theorem writeFiles_read? (written : tree.writeFiles files = .ok after)
    (apart : files.Pairwise fun a b => tree.Apart a.1 b.1) :
    ∀ file ∈ files, after.read? file.1 = some file.2.toUTF8.data.toList := by
  induction files generalizing tree with
  | nil => simp
  | cons file rest ih =>
    obtain ⟨first, later⟩ := List.pairwise_cons.mp apart
    obtain ⟨place, takes, others⟩ := writeFiles_cons_eq_ok_iff.mp written
    have same := takes.sameDirectories_put file.2.toUTF8.data.toList
    refine List.forall_mem_cons.mpr ⟨?_, ih others ?_⟩
    · have located := (writeFiles_sameDirectories written).locate.mpr takes.located
      refine read?_eq_some_iff.mpr ⟨place, located, ?_⟩
      rw [writeFiles_node? others, takes.node?_put, if_pos rfl]
      intro next member
      rw [Ne, same.locate]
      exact first next member place takes.located
    · simpa only [same.apart] using later

end Assembler.FileTree

/-! ## Image files named after their input -/

namespace Assembler.Path

/-- No name is what its default image file is called. -/
theorem stem_append_ne (name : List Char) : stem name ++ ".img.json".toList ≠ name := by
  intro same
  have total : (stem name).length + 9 = name.length := by
    rw [← congrArg List.length same, List.length_append]
    rfl
  have backwards : name.reverse = "nosj.gmi.".toList ++ (stem name).reverse := by
    conv_lhs => rw [← same]
    rw [List.reverse_append]
    rfl
  have last : (name.reverse.takeWhile (· ≠ '.')).length = 4 := by
    rw [backwards]
    simp
  unfold stem at total
  simp only [last] at total
  split at total
  · simp at total
    omega
  · omega

/-- The name of the image file takes the place of the name of the input. -/
theorem defaultImage_eq_ok_iff {p q : Path} :
    p.defaultImage = .ok q ↔
      ∃ front name, p.parts = front ++ [name] ∧
        q = ⟨p.root, front ++ [String.ofList (stem name.toList) ++ ".img.json"]⟩ := by
  unfold defaultImage withEnding
  constructor
  · intro named
    split at named
    · rename_i name last
      cases named
      exact ⟨_, name, (List.dropLast_append_getLast? name last).symm, rfl⟩
    · cases named
  · rintro ⟨front, name, parts, rfl⟩
    simp [parts]

theorem imageName_ne (name : String) : String.ofList (stem name.toList) ++ ".img.json" ≠ name := by
  intro same
  apply stem_append_ne name.toList
  simpa using congrArg String.toList same

/-- The image file of an input is another path. -/
theorem defaultImage_ne {p q : Path} (named : p.defaultImage = .ok q) : q ≠ p := by
  obtain ⟨front, name, parts, rfl⟩ := defaultImage_eq_ok_iff.mp named
  intro same
  have last := congrArg Path.parts same
  rw [parts] at last
  exact imageName_ne name (List.append_cancel_left last |> List.cons.inj |>.1)

/-- A file that can be read has an image file. -/
theorem exists_defaultImage {tree : FileTree} {p : Path} {bytes : List UInt8}
    (found : tree.read? p = some bytes) : ∃ q, p.defaultImage = .ok q := by
  obtain ⟨place, located, file⟩ := FileTree.read?_eq_some_iff.mp found
  rcases List.eq_nil_or_concat p.parts with empty | ⟨front, name, parts⟩
  · rw [FileTree.locate, empty] at located
    cases located
    have directory : tree.node? (FileTree.start p.root) = some .directory := by
      unfold FileTree.start
      split <;> rfl
    rw [directory] at file
    cases file
  · rw [List.concat_eq_append] at parts
    exact ⟨_, defaultImage_eq_ok_iff.mpr ⟨front, name, parts, rfl⟩⟩

end Assembler.Path

namespace Assembler.FileTree

variable {tree : FileTree} {place : Place}

/-- A file is reached by a name in a directory. -/
theorem follow_singleton_file {name : String} {other : Place} {bytes : List UInt8}
    (reaches : tree.Reaches place) (found : tree.follow place [name] = .ok other)
    (file : tree.node? other = some (.file bytes)) : other = place ++ [name] := by
  obtain ⟨directory, next, leads, found⟩ := follow_cons_eq_ok_iff.mp found
  cases found
  unfold next? at leads
  split at leads
  · cases leads
    rw [directory] at file
    cases file
  · split at leads
    · cases leads
      rw [reaches.node?_above] at file
      cases file
    · split at leads
      · cases leads
      · cases leads
        rfl

/-- The image file of an input is another file. -/
theorem apart_defaultImage {input output : Path} {bytes : List UInt8}
    (named : input.defaultImage = .ok output) (found : tree.read? input = some bytes) :
    tree.Apart output input := by
  intro place written located
  obtain ⟨own, relocated, file⟩ := read?_eq_some_iff.mp found
  rw [located, Except.ok.injEq] at relocated
  subst relocated
  obtain ⟨front, name, parts, rfl⟩ := Path.defaultImage_eq_ok_iff.mp named
  rw [locate, parts] at located
  -- Both names are looked up in one directory, so the two files could only have one name.
  obtain ⟨folder, leads, last⟩ := follow_append_eq_ok_iff.mp located
  obtain ⟨again, releads, relast⟩ := follow_append_eq_ok_iff.mp written
  rw [leads, Except.ok.injEq] at releads
  subst releads
  have reaches := (reaches_start input.root).follow leads
  have same := (follow_singleton_file reaches relast file).symm.trans
    (follow_singleton_file reaches last file)
  exact Path.imageName_ne name (List.append_cancel_left same |> List.cons.inj |>.1)

end Assembler.FileTree
