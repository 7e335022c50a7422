import TaskDaemon.Host.FileTree
import TaskDaemon.Proofs.Attempt
import TaskDaemon.Proofs.Host.Path

/-!
# What operations do to files and directories

Three relations between a tree and a later one carry all that locks and sockets need to know of the
files around them. As long as directories stay directories, a path that could be followed leads to
the place it led to; who only makes directories leaves all that is no directory alone; and who only
writes one file leaves everything else alone.

* `TaskDaemon.FileTree.DirectoryAt`, `TaskDaemon.FileTree.KeepsDirectories`: directories that stay,
  and `TaskDaemon.FileTree.reach_of_keeps`: a path is followed as before;
* `TaskDaemon.FileTree.Grown`: nothing but directories was made, and
  `TaskDaemon.FileTree.grown_makePrivate`;
* `TaskDaemon.FileTree.Rewrites`: at most one file was written;
* `TaskDaemon.FileTree.isDirectory_parent`: the directory part of a path that can be followed to a
  name is a directory, whatever dots and slashes it is written with;
* `TaskDaemon.FileTree.openFile_eq_ok_iff`, `TaskDaemon.FileTree.remove_eq_ok_iff`,
  `TaskDaemon.FileTree.bindSocket_eq_ok_iff`: what each operation has found and done;
* `TaskDaemon.FileTree.IsSound`: numbers that are still to be given are new.
-/

namespace TaskDaemon

/-- The number that is a node's own. -/
def Node.number? : Node → Option Nat
  | .directory _ => none
  | .file number _ => some number
  | .socket number => some number

/-- A node after the file of a number has got a new content. -/
def Node.rewritten (number : Nat) (content : Bytes) : Node → Node
  | .file n old => .file n (if n = number then content else old)
  | node => node

/-- A node of another number is not the file of a number. -/
theorem Node.ne_file {node : Node} {number own : Nat} (hown : node.number? = some own)
    (hne : own ≠ number) (content : Bytes) : node ≠ .file number content := by
  rintro rfl
  exact hne (Option.some.inj hown).symm

/-- A node that is not the file of the number stays as it is. -/
theorem Node.rewritten_eq_iff {old node : Node} {number : Nat} {content : Bytes}
    (hother : ∀ content, node ≠ .file number content) :
    old.rewritten number content = node ↔ old = node := by
  cases old with
  | directory mode => rfl
  | socket n => rfl
  | file n bytes =>
    rw [rewritten]
    by_cases hn : n = number
    · subst hn
      constructor
      all_goals
        rintro rfl
        exact absurd rfl (hother _)
    · rw [if_neg hn]

namespace FileTree

variable {tree after : FileTree} {path : Path} {place other : Place} {spot : Spot} {node : Node}

/-! ### What stands where -/

/-- **A directory stands at a place.** -/
def DirectoryAt (tree : FileTree) (place : Place) : Prop :=
  ∃ mode, tree.node? place = some (.directory mode)

theorem directoryAt_nil (tree : FileTree) : tree.DirectoryAt [] :=
  ⟨publicMode, if_pos (Or.inl rfl)⟩

theorem directoryAt_root (tree : FileTree) : tree.DirectoryAt root :=
  ⟨publicMode, if_pos (Or.inr rfl)⟩

theorem node?_of_not_directoryAt (h : ¬ tree.DirectoryAt place) :
    ¬ (place = [] ∨ place = root) := by
  rintro (rfl | rfl)
  · exact h tree.directoryAt_nil
  · exact h tree.directoryAt_root

theorem not_directoryAt_of_none (h : tree.node? place = none) : ¬ tree.DirectoryAt place := by
  rintro ⟨mode, hmode⟩
  rw [h] at hmode
  cases hmode

theorem not_directoryAt_of_number (h : tree.node? place = some node) {number : Nat}
    (hnumber : node.number? = some number) : ¬ tree.DirectoryAt place := by
  rintro ⟨mode, hmode⟩
  rw [h, Option.some.injEq] at hmode
  rw [hmode] at hnumber
  cases hnumber

/-- What has a number stands where it was put. -/
theorem mem_nodes_of_number (h : tree.node? place = some node) {number : Nat}
    (hnumber : node.number? = some number) : (place, node) ∈ tree.nodes := by
  rw [node?, if_neg (node?_of_not_directoryAt (not_directoryAt_of_number h hnumber))] at h
  obtain ⟨before, after, hnodes, -⟩ := List.lookup_eq_some_iff.mp h
  rw [hnodes]
  exact List.mem_append_right before List.mem_cons_self

theorem lookup_filter_ne {nodes : List (Place × Node)} (h : other ≠ place) :
    (nodes.filter (·.1 ≠ place)).lookup other = nodes.lookup other := by
  induction nodes with
  | nil => rfl
  | cons entry nodes ih =>
    by_cases hentry : entry.1 = place
    · have hother : (other == entry.1) = false := by simpa [hentry] using h
      rw [List.filter_cons_of_neg (by simpa using hentry), ih, List.lookup_cons, hother]
    · rw [List.filter_cons_of_pos (by simpa using hentry), List.lookup_cons, List.lookup_cons, ih]

theorem lookup_filter_self (nodes : List (Place × Node)) :
    (nodes.filter (·.1 ≠ place)).lookup place = none := by
  rw [List.lookup_eq_none_iff]
  intro entry hentry
  have hne : entry.1 ≠ place := of_decide_eq_true (List.mem_filter.mp hentry).2
  exact bne_iff_ne.mpr hne.symm

/-- **What is put at a place stands there**, and all else stands where it stood. -/
theorem node?_put (h : ¬ tree.DirectoryAt place) (node : Node) (other : Place) :
    (tree.put place node).node? other = if other = place then some node else tree.node? other := by
  by_cases hother : other = place
  · subst hother
    rw [if_pos rfl, node?, if_neg (node?_of_not_directoryAt h), put, List.lookup_cons_self]
  · have hbeq : (other == place) = false := by simpa using hother
    rw [if_neg hother, node?, node?, put]
    simp only [List.lookup_cons, hbeq, lookup_filter_ne hother]

/-- **Where something is taken away nothing stands**, and all else stands where it stood. -/
theorem node?_drop (h : ¬ tree.DirectoryAt place) (other : Place) :
    (tree.drop place).node? other = if other = place then none else tree.node? other := by
  by_cases hother : other = place
  · subst hother
    rw [if_pos rfl, node?, if_neg (node?_of_not_directoryAt h), drop, lookup_filter_self]
  · rw [if_neg hother, node?, node?, drop]
    simp only [lookup_filter_ne hother]

/-- **A new content changes the file of its number**, wherever it stands, and nothing else. -/
theorem node?_setContent (tree : FileTree) (number : Nat) (content : Bytes) (place : Place) :
    (tree.setContent number content).node? place =
      (tree.node? place).map (Node.rewritten number content) := by
  by_cases hroot : place = [] ∨ place = root
  · rw [node?, node?, if_pos hroot, if_pos hroot]
    rfl
  · rw [node?, node?, if_neg hroot, if_neg hroot, setContent]
    simp only
    induction tree.nodes with
    | nil => rfl
    | cons entry nodes ih =>
      obtain ⟨key, node⟩ := entry
      cases hkey : place == key <;> cases node <;>
        simp only [List.map_cons, List.lookup_cons, hkey, ih] <;> rfl

/-! ### Directories that stay -/

/-- **Directories stay directories** from a tree to a later one. -/
def KeepsDirectories (tree after : FileTree) : Prop :=
  ∀ place, tree.DirectoryAt place → after.DirectoryAt place

theorem KeepsDirectories.trans {last : FileTree} (h : tree.KeepsDirectories after)
    (h' : after.KeepsDirectories last) : tree.KeepsDirectories last :=
  fun place hplace => h' place (h place hplace)

theorem keepsDirectories_put (h : ¬ tree.DirectoryAt place) (node : Node) :
    tree.KeepsDirectories (tree.put place node) := by
  rintro other ⟨mode, hmode⟩
  have hother : other ≠ place := by
    rintro rfl
    exact h ⟨mode, hmode⟩
  exact ⟨mode, by rw [node?_put h, if_neg hother, hmode]⟩

theorem keepsDirectories_drop (h : ¬ tree.DirectoryAt place) :
    tree.KeepsDirectories (tree.drop place) := by
  rintro other ⟨mode, hmode⟩
  have hother : other ≠ place := by
    rintro rfl
    exact h ⟨mode, hmode⟩
  exact ⟨mode, by rw [node?_drop h, if_neg hother, hmode]⟩

theorem keepsDirectories_setContent (tree : FileTree) (number : Nat) (content : Bytes) :
    tree.KeepsDirectories (tree.setContent number content) := by
  rintro place ⟨mode, hmode⟩
  exact ⟨mode, by rw [node?_setContent, hmode]; rfl⟩

/-- Entering a directory below one is looking whether it stands there. -/
theorem enter_name {name : Bytes} {names : List Bytes} {directory : Place}
    (hdot : name ≠ Path.dot) (hdotDot : name ≠ Path.dotDot) :
    tree.enter place (name :: names) = .ok directory ↔
      ¬ maxName < name.length ∧ tree.DirectoryAt (name :: place) ∧
        tree.enter (name :: place) names = .ok directory := by
  rw [enter, if_neg hdot, if_neg hdotDot]
  by_cases hlong : maxName < name.length
  · rw [if_pos hlong]
    exact ⟨nofun, fun h => absurd hlong h.1⟩
  · rw [if_neg hlong]
    constructor
    · intro h
      split at h
      case h_1 mode hnode => exact ⟨hlong, ⟨mode, hnode⟩, h⟩
      all_goals cases h
    · rintro ⟨-, ⟨mode, hnode⟩, h⟩
      rw [hnode]
      exact h

/-- **Induction on entering directories**: dots leave one where one is or lead up, and a name leads
down to a directory. -/
@[elab_as_elim]
theorem enter_induction {motive : Place → List Bytes → Prop} {directory : Place}
    (done : motive directory [])
    (dot : ∀ place names, motive place names → motive place (Path.dot :: names))
    (up : ∀ place names, motive (above place) names → motive place (Path.dotDot :: names))
    (down : ∀ place name names, name ≠ Path.dot → name ≠ Path.dotDot → ¬ maxName < name.length →
      tree.DirectoryAt (name :: place) → motive (name :: place) names →
      motive place (name :: names)) :
    ∀ {names : List Bytes} {place : Place}, tree.enter place names = .ok directory →
      motive place names := by
  intro names
  induction names with
  | nil =>
    intro place h
    cases h
    exact done
  | cons name names ih =>
    intro place h
    by_cases hdot : name = Path.dot
    · subst hdot
      exact dot place names (ih (by rwa [enter, if_pos rfl] at h))
    by_cases hdotDot : name = Path.dotDot
    · subst hdotDot
      exact up place names (ih (by rwa [enter, if_neg hdot, if_pos rfl] at h))
    obtain ⟨hshort, hat, h⟩ := (enter_name hdot hdotDot).mp h
    exact down place name names hdot hdotDot hshort hat (ih h)

theorem enter_of_keeps (keeps : tree.KeepsDirectories after) {names : List Bytes}
    {directory : Place} (h : tree.enter place names = .ok directory) :
    after.enter place names = .ok directory := by
  refine enter_induction rfl (fun place names ih => ?_) (fun place names ih => ?_)
    (fun place name names hdot hdotDot hshort hat ih => ?_) h
  · rwa [enter, if_pos rfl]
  · rwa [enter, if_neg (by decide), if_pos rfl]
  · exact (enter_name hdot hdotDot).mpr ⟨hshort, keeps _ hat, ih⟩

/-- **All on the way to a place are directories**, and the place itself. -/
def Rooted (tree : FileTree) (place : Place) : Prop :=
  ∀ upper, upper <:+ place → tree.DirectoryAt upper

theorem Rooted.directoryAt (h : tree.Rooted place) : tree.DirectoryAt place :=
  h place List.suffix_rfl

theorem Rooted.above (h : tree.Rooted place) : tree.Rooted (above place) := by
  rw [FileTree.above]
  split_ifs
  · exact h
  · exact fun upper hupper => h upper (hupper.trans (List.tail_suffix place))

theorem Rooted.cons {name : Bytes} (h : tree.Rooted place)
    (hat : tree.DirectoryAt (name :: place)) : tree.Rooted (name :: place) := by
  intro upper hupper
  rcases List.suffix_cons_iff.mp hupper with rfl | hupper
  · exact hat
  · exact h upper hupper

/-- The root that a path starts from. -/
def start (path : Path) : Place :=
  if path.isAbsolute then root else []

theorem rooted_start (tree : FileTree) (path : Path) : tree.Rooted (start path) := by
  rw [start]
  split_ifs
  · exact Rooted.cons (fun upper hupper => List.suffix_nil.mp hupper ▸ tree.directoryAt_nil)
      tree.directoryAt_root
  · exact fun upper hupper => List.suffix_nil.mp hupper ▸ tree.directoryAt_nil

/-- **Who enters directories is in a directory**, and below directories. -/
theorem rooted_enter {names : List Bytes} {directory : Place}
    (h : tree.enter place names = .ok directory) : tree.Rooted place → tree.Rooted directory := by
  refine enter_induction (motive := fun place _ => tree.Rooted place → tree.Rooted directory) id
    (fun place names ih => ih) (fun place names ih hplace => ih hplace.above)
    (fun place name names _ _ _ hat ih hplace => ih (hplace.cons hat)) h

theorem enter_append (tree : FileTree) (place : Place) (names more : List Bytes) :
    tree.enter place (names ++ more) = tree.enter place names >>= (tree.enter · more) := by
  induction names generalizing place with
  | nil => rfl
  | cons name names ih =>
    rw [List.cons_append, enter, enter, ih, ih, ih]
    split_ifs <;> try rfl
    split <;> rfl

/-- **Dots that leave one where one is** may be left out. -/
theorem enter_filter_dot (tree : FileTree) (place : Place) (names : List Bytes) :
    tree.enter place (names.filter (· ≠ Path.dot)) = tree.enter place names := by
  induction names generalizing place with
  | nil => rfl
  | cons name names ih =>
    by_cases hdot : name = Path.dot
    · rw [List.filter_cons_of_neg (by simpa using hdot), ih, enter, if_pos hdot]
    · rw [List.filter_cons_of_pos (by simpa using hdot), enter, enter]
      simp only [ih]

/-! ### Following a path -/

/-- What the last name of a path makes of the directory it is looked for in. -/
def lastSpot (directory : Place) (last : Bytes) (slashed : Bool) : Spot :=
  if last = Path.dot then ⟨directory, none, slashed⟩
  else if last = Path.dotDot then ⟨above directory, none, slashed⟩
  else ⟨directory, some last, slashed⟩

/-- **How a path is followed**: to its root if it has no names, and else through all directories but
the last name. -/
theorem reach_eq_ok_iff : tree.reach path = .ok spot ↔
    checkPath path = .ok () ∧ ((path.names = [] ∧ spot = ⟨start path, none, true⟩) ∨
      ∃ before last directory, path.names = before ++ [last] ∧
        tree.enter (start path) before = .ok directory ∧
        spot = lastSpot directory last path.endsInSlash) := by
  rw [reach, Attempt.bind_eq_ok_iff]
  have hlast (directory : Place) (last : Bytes) :
      (if last = Path.dot then (.ok ⟨directory, none, path.endsInSlash⟩ : Except SystemFault Spot)
        else if last = Path.dotDot then .ok ⟨above directory, none, path.endsInSlash⟩
        else .ok ⟨directory, some last, path.endsInSlash⟩) =
        .ok (lastSpot directory last path.endsInSlash) := by
    rw [lastSpot]
    split_ifs <;> rfl
  cases hnames : path.names.reverse with
  | nil =>
    have hempty : path.names = [] := List.reverse_eq_nil_iff.mp hnames
    simp only [hempty, Except.ok.injEq, true_and, List.nil_eq_append_iff, List.cons_ne_self,
      and_false, false_and, exists_const, or_false]
    exact ⟨fun ⟨_, hcheck, hspot⟩ => ⟨hcheck, hspot.symm⟩,
      fun ⟨hcheck, hspot⟩ => ⟨(), hcheck, hspot.symm⟩⟩
  | cons last before =>
    have hconcat : path.names = before.reverse ++ [last] := by
      rw [← List.reverse_cons, ← hnames, List.reverse_reverse]
    simp only [Attempt.bind_eq_ok_iff, hlast, Except.ok.injEq]
    constructor
    · rintro ⟨_, hcheck, directory, henter, rfl⟩
      exact ⟨hcheck, Or.inr ⟨before.reverse, last, directory, hconcat, henter, rfl⟩⟩
    · rintro ⟨hcheck, ⟨hempty, -⟩ | ⟨front, name, directory, hfront, henter, rfl⟩⟩
      · rw [hempty] at hnames
        cases hnames
      · obtain ⟨rfl, hname⟩ := List.append_inj' (hconcat.symm.trans hfront) rfl
        obtain rfl := List.singleton_injective hname
        exact ⟨(), hcheck, directory, henter, rfl⟩

/-- **A path that can be followed leads on to the same spot** as long as directories stay. -/
theorem reach_of_keeps (keeps : tree.KeepsDirectories after) (h : tree.reach path = .ok spot) :
    after.reach path = .ok spot := by
  rw [reach_eq_ok_iff] at h ⊢
  obtain ⟨hcheck, hroot | ⟨before, last, directory, hnames, henter, hspot⟩⟩ := h
  · exact ⟨hcheck, Or.inl hroot⟩
  · exact ⟨hcheck, Or.inr ⟨before, last, directory, hnames, enter_of_keeps keeps henter, hspot⟩⟩

/-- A path leads to a name in a directory, or to a directory. -/
theorem directoryAt_of_reach (h : tree.reach path = .ok spot) (hname : spot.name = none) :
    tree.DirectoryAt spot.place := by
  rw [reach_eq_ok_iff] at h
  have hplace : spot.place = spot.directory := by rw [Spot.place, hname]
  rw [hplace]
  obtain ⟨-, ⟨-, rfl⟩ | ⟨before, last, directory, -, henter, rfl⟩⟩ := h
  · exact (tree.rooted_start path).directoryAt
  · have hrooted := rooted_enter henter (tree.rooted_start path)
    rw [lastSpot] at hname ⊢
    split_ifs at hname ⊢
    · exact hrooted.directoryAt
    · exact hrooted.above.directoryAt

/-- **What a spot leads to** if nothing is wrong with its name. -/
theorem locate_eq_ok_iff : tree.locate path = .ok place ↔
    ∃ spot, tree.reach path = .ok spot ∧ spot.checkName = .ok () ∧ spot.place = place ∧
      (spot.slashed = true → tree.node? place = none ∨ tree.DirectoryAt place) := by
  simp only [locate, Attempt.bind_eq_ok_iff]
  refine exists_congr fun spot => and_congr_right fun _ => ?_
  constructor
  · rintro ⟨_, hname, h⟩
    split at h
    case h_1 hnode => cases h; exact ⟨hname, rfl, fun _ => Or.inl hnode⟩
    case h_2 mode hnode => cases h; exact ⟨hname, rfl, fun _ => Or.inr ⟨mode, hnode⟩⟩
    case h_3 =>
      split_ifs at h with hslashed
      cases h
      exact ⟨hname, rfl, fun h => absurd h hslashed⟩
  · rintro ⟨hname, rfl, hslashed⟩
    refine ⟨(), hname, ?_⟩
    split
    case h_1 => rfl
    case h_2 => rfl
    case h_3 node hne hnode =>
      rw [if_neg]
      intro h
      rcases hslashed h with hnone | ⟨mode, hmode⟩
      · rw [hnode] at hnone
        cases hnone
      · exact hne mode (Option.some.inj (hnode.symm.trans hmode))

/-- **A path that leads to a directory is one.** -/
theorem isDirectory_of_reach (h : tree.reach path = .ok spot) (hname : spot.checkName = .ok ())
    (hat : tree.DirectoryAt spot.place) : tree.isDirectory path = true := by
  have hlocate : tree.locate path = .ok spot.place :=
    locate_eq_ok_iff.mpr ⟨spot, h, hname, rfl, fun _ => Or.inr hat⟩
  obtain ⟨mode, hmode⟩ := hat
  simp only [isDirectory, look, hlocate, hmode]

/-- **A path whose names can all be entered is a directory.** -/
theorem isDirectory_of_enter (hcheck : checkPath path = .ok ()) {directory : Place}
    (h : tree.enter (start path) path.names = .ok directory) : tree.isDirectory path = true := by
  rcases List.eq_nil_or_concat path.names with hnames | ⟨before, last, hnames⟩
  · have hreach : tree.reach path = .ok ⟨start path, none, true⟩ :=
      reach_eq_ok_iff.mpr ⟨hcheck, Or.inl ⟨hnames, rfl⟩⟩
    exact isDirectory_of_reach hreach rfl (directoryAt_of_reach hreach rfl)
  · rw [List.concat_eq_append] at hnames
    rw [hnames, enter_append, Attempt.bind_eq_ok_iff] at h
    obtain ⟨middle, hmiddle, h⟩ := h
    have hreach : tree.reach path = .ok (lastSpot middle last path.endsInSlash) :=
      reach_eq_ok_iff.mpr ⟨hcheck, Or.inr ⟨before, last, middle, hnames, hmiddle, rfl⟩⟩
    by_cases hdots : last = Path.dot ∨ last = Path.dotDot
    · -- the path ends with dots: it names no file at all
      have hname : (lastSpot middle last path.endsInSlash).name = none := by
        rw [lastSpot]
        rcases hdots with rfl | rfl <;> rfl
      exact isDirectory_of_reach hreach (by rw [Spot.checkName, hname]; rfl)
        (directoryAt_of_reach hreach hname)
    · obtain ⟨hdot, hdotDot⟩ := not_or.mp hdots
      obtain ⟨hshort, hat, -⟩ := (enter_name hdot hdotDot).mp h
      refine isDirectory_of_reach hreach ?_ ?_
      · rw [lastSpot, if_neg hdot, if_neg hdotDot, Spot.checkName]
        simpa using hshort
      · rw [lastSpot, if_neg hdot, if_neg hdotDot]
        exact hat

/-- **What a path to a file or socket leads to.** -/
theorem look_eq_some_iff {number : Nat} (hnumber : node.number? = some number) :
    tree.look path = some node ↔ ∃ spot, tree.reach path = .ok spot ∧ spot.slashed = false ∧
      spot.checkName = .ok () ∧ tree.node? spot.place = some node := by
  rw [look]
  constructor
  · intro h
    split at h
    case h_1 place hlocate =>
      obtain ⟨spot, hreach, hname, rfl, hslashed⟩ := locate_eq_ok_iff.mp hlocate
      refine ⟨spot, hreach, ?_, hname, h⟩
      by_contra hne
      rcases hslashed ((Bool.not_eq_false _).mp hne) with hnone | hat
      · rw [h] at hnone
        cases hnone
      · exact not_directoryAt_of_number h hnumber hat
    · cases h
  · rintro ⟨spot, hreach, hslashed, hname, hnode⟩
    have hlocate : tree.locate path = .ok spot.place :=
      locate_eq_ok_iff.mpr ⟨spot, hreach, hname, rfl, by rw [hslashed]; nofun⟩
    rw [hlocate]
    exact hnode

/-- **What stays where it is is found again** as long as directories stay. -/
theorem look_of_keeps {number : Nat} (keeps : tree.KeepsDirectories after)
    (hnumber : node.number? = some number)
    (hnode : ∀ place, tree.node? place = some node → after.node? place = some node)
    (h : tree.look path = some node) : after.look path = some node := by
  obtain ⟨spot, hreach, hslashed, hname, hspot⟩ := (look_eq_some_iff hnumber).mp h
  exact (look_eq_some_iff hnumber).mpr
    ⟨spot, reach_of_keeps keeps hreach, hslashed, hname, hnode _ hspot⟩

/-- Where nothing stands nothing is found. -/
theorem look_eq_none (hreach : tree.reach path = .ok spot) (hnode : tree.node? spot.place = none) :
    tree.look path = none := by
  rw [look]
  split
  case h_1 place hlocate =>
    obtain ⟨found, hfound, -, rfl, -⟩ := locate_eq_ok_iff.mp hlocate
    cases hreach.symm.trans hfound
    exact hnode
  · rfl

theorem checkPath_eq_ok_iff : checkPath path = .ok () ↔
    path.isEmpty = false ∧ path.bytes.contains 0 = false ∧ path.bytes.length < maxPath := by
  rw [checkPath]
  split_ifs <;> simp_all

/-- **The directory part of a path that leads to a name is a directory**, with whatever dots and
slashes it is written. -/
theorem isDirectory_parent (h : tree.reach path = .ok spot) {last : Bytes}
    (hname : spot.name = some last) {parent : Path} (hparent : path.parent? = some parent)
    (hempty : parent.isEmpty = false) : tree.isDirectory parent = true := by
  obtain ⟨hcheck, ⟨-, rfl⟩ | ⟨before, name, directory, hnames, henter, rfl⟩⟩ := reach_eq_ok_iff.mp h
  · cases hname
  have hdot : name ≠ Path.dot := by
    rintro rfl
    cases hname
  -- the steps of the directory part are those that were entered
  have hsteps : parent.steps = before.filter (· ≠ Path.dot) := by
    rw [Path.steps_parent hparent, Path.steps, hnames, List.filter_append,
      List.filter_cons_of_pos (by simpa using hdot), List.filter_nil, List.dropLast_concat]
  have hstart : start parent = start path := by
    rw [start, Path.isAbsolute_parent hparent hempty, start]
  have hparentEnter : tree.enter (start parent) parent.names = .ok directory := by
    rw [hstart, ← enter_filter_dot, ← henter, ← enter_filter_dot tree _ before, ← hsteps]
    rfl
  have hparentCheck : checkPath parent = .ok () := by
    rw [checkPath_eq_ok_iff] at hcheck ⊢
    obtain ⟨rest, hrest⟩ := Path.parent_isPrefix hparent
    rw [← hrest] at hcheck
    grind
  exact isDirectory_of_enter hparentCheck hparentEnter

/-! ### Making directories -/

/-- **Nothing but directories was made** since. -/
structure Grown (tree after : FileTree) : Prop where
  /-- Numbers are given to files and listeners only. -/
  nextNumber : after.nextNumber = tree.nextNumber
  /-- What is new is a directory. -/
  node : ∀ place, after.node? place = tree.node? place ∨
    (tree.node? place = none ∧ after.DirectoryAt place)

namespace Grown

theorem refl (tree : FileTree) : tree.Grown tree :=
  ⟨rfl, fun _ => Or.inl rfl⟩

theorem trans {last : FileTree} (h : tree.Grown after) (h' : after.Grown last) :
    tree.Grown last := by
  refine ⟨h'.nextNumber.trans h.nextNumber, fun place => ?_⟩
  rcases h.node place with hsame | ⟨hnone, mode, hmode⟩
  · rw [← hsame]
    exact h'.node place
  · rcases h'.node place with hsame | ⟨hnone', -⟩
    · exact Or.inr ⟨hnone, mode, hsame.trans hmode⟩
    · rw [hmode] at hnone'
      cases hnone'

theorem keepsDirectories (h : tree.Grown after) : tree.KeepsDirectories after := by
  rintro place ⟨mode, hmode⟩
  rcases h.node place with hsame | ⟨hnone, -⟩
  · exact ⟨mode, hsame.trans hmode⟩
  · rw [hmode] at hnone
    cases hnone

/-- **Files and sockets are what they were.** -/
theorem node?_iff (h : tree.Grown after) {number : Nat} (hnumber : node.number? = some number) :
    after.node? place = some node ↔ tree.node? place = some node := by
  rcases h.node place with hsame | ⟨hnone, hat⟩
  · rw [hsame]
  · constructor
    · intro hnode
      exact absurd hat (not_directoryAt_of_number hnode hnumber)
    · intro hnode
      rw [hnode] at hnone
      cases hnone

end Grown

theorem makeDirectory_eq_ok_iff {mode : Nat} : tree.makeDirectory mode path = .ok after ↔
    ∃ spot, tree.reach path = .ok spot ∧ spot.checkName = .ok () ∧ tree.node? spot.place = none ∧
      checkOwned spot.place = .ok () ∧ tree.put spot.place (.directory mode) = after := by
  simp only [makeDirectory, Attempt.bind_eq_ok_iff]
  refine exists_congr fun spot => and_congr_right fun _ => ?_
  constructor
  · rintro ⟨_, hname, h⟩
    split at h
    · cases h
    case h_2 hnode =>
      obtain ⟨_, howned, h⟩ := Attempt.bind_eq_ok_iff.mp h
      exact ⟨hname, hnode, howned, Except.ok.inj h⟩
  · rintro ⟨hname, hnode, howned, rfl⟩
    exact ⟨(), hname, by rw [hnode, howned]; rfl⟩

theorem grown_makeDirectory {mode : Nat} (h : tree.makeDirectory mode path = .ok after) :
    tree.Grown after := by
  obtain ⟨spot, -, -, hnone, -, rfl⟩ := makeDirectory_eq_ok_iff.mp h
  refine ⟨rfl, fun place => ?_⟩
  by_cases hplace : place = spot.place
  · subst hplace
    exact Or.inr ⟨hnone, mode, by rw [node?_put (not_directoryAt_of_none hnone), if_pos rfl]⟩
  · exact Or.inl (by rw [node?_put (not_directoryAt_of_none hnone), if_neg hplace])

theorem grown_attemptPrivate (tree : FileTree) (path : Path)
    {absent : SystemFault → Except SystemFault Unit × FileTree}
    (habsent : ∀ fault, tree.Grown (absent fault).2) :
    tree.Grown (tree.attemptPrivate path absent).2 := by
  rw [attemptPrivate]
  cases hmake : tree.makeDirectory privateMode path with
  | ok made => exact grown_makeDirectory hmake
  | error fault =>
    dsimp only
    split_ifs
    · exact habsent fault
    · exact .refl tree
    · exact .refl tree

/-- **Making directories makes directories only**, also where it fails half way. -/
theorem grown_makePrivateFrom (tree : FileTree) (depth : Nat) (path : Path) :
    tree.Grown (tree.makePrivateFrom depth path).2 := by
  induction depth generalizing tree path with
  | zero => exact .refl tree
  | succ depth ih =>
    rw [makePrivateFrom]
    split_ifs
    · exact .refl tree
    refine grown_attemptPrivate tree path fun fault => ?_
    cases path.parent? with
    | none => exact .refl tree
    | some parent =>
      have habove := ih tree parent
      dsimp only
      cases hmade : tree.makePrivateFrom depth parent with
      | mk outcome made =>
        rw [hmade] at habove
        cases outcome with
        | error fault => exact habove
        | ok _ => exact habove.trans (grown_attemptPrivate made path fun fault => .refl made)

theorem grown_makePrivate (tree : FileTree) (path : Path) : tree.Grown (tree.makePrivate path).2 :=
  grown_makePrivateFrom tree _ path

/-- **A directory that exists is not made again.** -/
theorem makePrivate_of_isDirectory (h : tree.isDirectory path = true) :
    tree.makePrivate path = (.ok (), tree) := by
  rw [makePrivate, makePrivateFrom]
  split_ifs
  · rfl
  have hmake : tree.makeDirectory privateMode path = .error .fileExists := by
    rw [isDirectory, look] at h
    cases hlocate : tree.locate path with
    | error fault => simp [hlocate] at h
    | ok place =>
      obtain ⟨spot, hreach, hname, rfl, -⟩ := locate_eq_ok_iff.mp hlocate
      simp only [hlocate] at h
      cases hnode : tree.node? spot.place with
      | none => simp [hnode] at h
      | some node =>
        simp only [makeDirectory, hreach, hname, bind, Except.bind, hnode]
  simp only [attemptPrivate, hmake, h, if_true]
  rw [if_neg (by decide)]

/-! ### Files and sockets -/

/-- **What opening a file has found and done**: a file that is there is left as it is, and one that
is made has a number of its own. -/
theorem openFile_eq_ok_iff {number : Nat} : tree.openFile path = .ok (place, number, after) ↔
    ∃ spot, tree.reach path = .ok spot ∧ spot.slashed = false ∧ spot.checkName = .ok () ∧
      spot.place = place ∧
      ((∃ content, tree.node? place = some (.file number content) ∧ tree = after) ∨
        (tree.node? place = none ∧ checkOwned place = .ok () ∧ tree.nextNumber = number ∧
          { tree.put place (.file number []) with nextNumber := number + 1 } = after)) := by
  rw [openFile, Attempt.bind_eq_ok_iff]
  refine exists_congr fun spot => and_congr_right fun _ => ?_
  simp only [bind, Except.bind]
  constructor
  · intro h
    split_ifs at h with hslashed
    rw [Bool.not_eq_true] at hslashed
    cases hname : spot.checkName with
    | error fault => rw [hname] at h; cases h
    | ok _ =>
      rw [hname] at h
      dsimp only at h
      split at h
      case h_1 n content hnode =>
        cases h
        exact ⟨hslashed, rfl, rfl, Or.inl ⟨content, hnode, rfl⟩⟩
      case h_4 hnode =>
        cases howned : checkOwned spot.place with
        | error fault => rw [howned] at h; cases h
        | ok _ =>
          rw [howned] at h
          cases h
          exact ⟨hslashed, rfl, rfl, Or.inr ⟨hnode, howned, rfl, rfl⟩⟩
      all_goals cases h
  · rintro ⟨hslashed, hname, rfl, ⟨content, hnode, rfl⟩ | ⟨hnode, howned, rfl, rfl⟩⟩
    · simp only [hslashed, hname, hnode, Bool.false_eq_true, if_false]
    · simp only [hslashed, hname, hnode, howned, Bool.false_eq_true, if_false]

theorem keepsDirectories_openFile {number : Nat}
    (h : tree.openFile path = .ok (place, number, after)) : tree.KeepsDirectories after := by
  obtain ⟨spot, -, -, -, -, ⟨content, -, rfl⟩ | ⟨hnode, -, -, rfl⟩⟩ := openFile_eq_ok_iff.mp h
  · exact fun _ hat => hat
  · exact keepsDirectories_put (not_directoryAt_of_none hnode) _

/-- **An opened file is where its path leads.** -/
theorem look_openFile {number : Nat} (h : tree.openFile path = .ok (place, number, after)) :
    ∃ content, after.look path = some (.file number content) := by
  have keeps := keepsDirectories_openFile h
  obtain ⟨spot, hreach, hslashed, hname, rfl, hfile⟩ := openFile_eq_ok_iff.mp h
  have hnode : ∃ content, after.node? spot.place = some (.file number content) := by
    rcases hfile with ⟨content, hnode, rfl⟩ | ⟨hnode, -, -, rfl⟩
    · exact ⟨content, hnode⟩
    · exact ⟨[], (node?_put (not_directoryAt_of_none hnode) _ _).trans (if_pos rfl)⟩
  obtain ⟨content, hnode⟩ := hnode
  exact ⟨content, (look_eq_some_iff rfl).mpr
    ⟨spot, reach_of_keeps keeps hreach, hslashed, hname, hnode⟩⟩

/-- **Opening a file leaves all others alone.** -/
theorem node?_openFile {number own : Nat} (h : tree.openFile path = .ok (place, number, after))
    (hown : node.number? = some own) (hne : own ≠ number) :
    after.node? other = some node ↔ tree.node? other = some node := by
  obtain ⟨spot, -, -, -, -, ⟨content, -, rfl⟩ | ⟨hnode, -, -, rfl⟩⟩ := openFile_eq_ok_iff.mp h
  · rfl
  · have hput := node?_put (not_directoryAt_of_none hnode) (.file number []) other
    change (tree.put place (.file number [])).node? other = some node ↔ _
    rw [hput]
    by_cases hother : other = place
    · rw [if_pos hother, hother, hnode]
      constructor
      · intro hfile
        cases hfile
        exact absurd (Option.some.inj hown).symm hne
      · nofun
    · rw [if_neg hother]

/-! ### Writing files -/

/-- **At most one file was written** since, that of a number. -/
def Rewrites (tree : FileTree) (number : Nat) (after : FileTree) : Prop :=
  after = tree ∨ ∃ content, after = tree.setContent number content

namespace Rewrites

variable {number : Nat}

theorem nextNumber (h : tree.Rewrites number after) : after.nextNumber = tree.nextNumber := by
  rcases h with rfl | ⟨content, rfl⟩ <;> rfl

theorem keepsDirectories (h : tree.Rewrites number after) : tree.KeepsDirectories after := by
  rcases h with rfl | ⟨content, rfl⟩
  · exact fun _ hat => hat
  · exact keepsDirectories_setContent tree number content

/-- **Writing a file leaves all others alone.** -/
theorem node?_iff (h : tree.Rewrites number after)
    (hother : ∀ content, node ≠ .file number content) :
    after.node? place = some node ↔ tree.node? place = some node := by
  rcases h with rfl | ⟨content, rfl⟩
  · rfl
  · simp only [node?_setContent, Option.map_eq_some_iff, Node.rewritten_eq_iff hother,
      exists_eq_right]

/-- **Where a path led to the file**, it leads there, whatever the file holds then. -/
theorem look (h : tree.Rewrites number after) {content : Bytes}
    (hlook : tree.look path = some (.file number content)) :
    ∃ content, after.look path = some (.file number content) := by
  have keeps := h.keepsDirectories
  obtain ⟨spot, hreach, hslashed, hname, hnode⟩ := (look_eq_some_iff rfl).mp hlook
  have hafter : ∃ content, after.node? spot.place = some (.file number content) := by
    rcases h with rfl | ⟨content, rfl⟩
    · exact ⟨_, hnode⟩
    · rw [node?_setContent, hnode]
      exact ⟨content, congrArg some (congrArg (Node.file number) (if_pos rfl))⟩
  obtain ⟨content, hafter⟩ := hafter
  exact ⟨content, (look_eq_some_iff rfl).mpr
    ⟨spot, reach_of_keeps keeps hreach, hslashed, hname, hafter⟩⟩

end Rewrites

/-! ### Removing and binding -/

/-- **What removing has found and done.** -/
theorem remove_eq_ok_iff : tree.remove path = .ok after ↔
    ∃ place, tree.locate path = .ok place ∧ tree.node? place ≠ none ∧ ¬ tree.DirectoryAt place ∧
      checkOwned place = .ok () ∧ tree.drop place = after := by
  rw [remove, Attempt.bind_eq_ok_iff]
  refine exists_congr fun place => and_congr_right fun _ => ?_
  constructor
  · intro h
    split at h
    · cases h
    case h_2 node hne hnode =>
      obtain ⟨_, howned, h⟩ := Attempt.bind_eq_ok_iff.mp h
      refine ⟨by rw [hnode]; nofun, ?_, howned, Except.ok.inj h⟩
      rintro ⟨mode, hmode⟩
      exact hne mode (Option.some.inj (hnode.symm.trans hmode))
    · cases h
  · rintro ⟨hsome, hat, howned, rfl⟩
    split
    case h_1 mode hnode => exact absurd ⟨mode, hnode⟩ hat
    case h_2 => rw [howned]; rfl
    case h_3 hnode => exact absurd hnode hsome

/-- **What binding a socket has found and done**: nothing stood there, and the socket has a number
of its own. -/
theorem bindSocket_eq_ok_iff {number : Nat} : tree.bindSocket path = .ok (number, after) ↔
    checkSocketPath path = .ok () ∧ ∃ spot, tree.reach path = .ok spot ∧
      spot.checkName = .ok () ∧ tree.node? spot.place = none ∧ spot.slashed = false ∧
      checkOwned spot.place = .ok () ∧ tree.nextNumber = number ∧
      { tree.put spot.place (.socket number) with nextNumber := number + 1 } = after := by
  rw [bindSocket, Attempt.bind_eq_ok_iff]
  simp only [Attempt.bind_eq_ok_iff (x := tree.reach path)]
  simp only [bind, Except.bind]
  constructor
  · rintro ⟨_, hcheck, spot, hreach, h⟩
    refine ⟨hcheck, spot, hreach, ?_⟩
    cases hname : spot.checkName with
    | error fault => rw [hname] at h; cases h
    | ok _ =>
      rw [hname] at h
      dsimp only at h
      split at h
      · cases h
      case h_2 hnode =>
        split_ifs at h with hslashed
        rw [Bool.not_eq_true] at hslashed
        cases howned : checkOwned spot.place with
        | error fault => rw [howned] at h; cases h
        | ok _ =>
          rw [howned] at h
          cases h
          exact ⟨rfl, hnode, hslashed, rfl, rfl, rfl⟩
  · rintro ⟨hcheck, spot, hreach, hname, hnode, hslashed, howned, rfl, rfl⟩
    refine ⟨(), hcheck, spot, hreach, ?_⟩
    simp only [hname, hnode, hslashed, howned, Bool.false_eq_true, if_false]

/-! ### Numbers -/

/-- **Numbers that are still to be given are new.** -/
def IsSound (tree : FileTree) : Prop :=
  ∀ place node number, tree.node? place = some node → node.number? = some number →
    number < tree.nextNumber

theorem isSound_empty : IsSound {} := by
  intro place node number hnode hnumber
  cases mem_nodes_of_number hnode hnumber

theorem IsSound.grown (h : tree.IsSound) (grown : tree.Grown after) : after.IsSound := by
  intro place node number hnode hnumber
  rw [grown.nextNumber]
  exact h place node number ((grown.node?_iff hnumber).mp hnode) hnumber

theorem IsSound.drop (h : tree.IsSound) (hat : ¬ tree.DirectoryAt place) :
    (tree.drop place).IsSound := by
  intro other node number hnode hnumber
  rw [node?_drop hat] at hnode
  split_ifs at hnode
  exact h other node number hnode hnumber

theorem IsSound.rewrites (h : tree.IsSound) {number : Nat} (hwrites : tree.Rewrites number after) :
    after.IsSound := by
  rcases hwrites with rfl | ⟨content, rfl⟩
  · exact h
  · intro place node own hnode hown
    rw [node?_setContent, Option.map_eq_some_iff] at hnode
    obtain ⟨old, hold, rfl⟩ := hnode
    exact h place old own hold (by cases old <;> exact hown)

/-- **A node with the next number** may be put anywhere, if that number is used up. -/
theorem IsSound.put (h : tree.IsSound) (hat : ¬ tree.DirectoryAt place)
    (hnode : node.number? = some tree.nextNumber) :
    ({ tree.put place node with nextNumber := tree.nextNumber + 1 } : FileTree).IsSound := by
  intro other found number hfound hnumber
  have hfound : (tree.put place node).node? other = some found := hfound
  rw [node?_put hat] at hfound
  split_ifs at hfound
  · cases hfound
    rw [hnode] at hnumber
    cases hnumber
    exact Nat.lt_succ_self _
  · exact Nat.lt_succ_of_lt (h other found number hfound hnumber)

theorem IsSound.openFile (h : tree.IsSound) {number : Nat}
    (hopen : tree.openFile path = .ok (place, number, after)) :
    after.IsSound ∧ tree.nextNumber ≤ after.nextNumber ∧ number < after.nextNumber := by
  obtain ⟨spot, -, -, -, -, ⟨content, hnode, rfl⟩ | ⟨hnode, -, rfl, rfl⟩⟩ :=
    openFile_eq_ok_iff.mp hopen
  · exact ⟨h, Nat.le_refl _, h place _ number hnode rfl⟩
  · exact ⟨h.put (not_directoryAt_of_none hnode) rfl, Nat.le_succ _, Nat.lt_succ_self _⟩

end FileTree

end TaskDaemon
