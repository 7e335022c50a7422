import TaskDaemon.Proofs.Daemon.Launch

/-!
# What a start clears away

A start removes what stands at the path of its socket once it has its lock. Whatever else it does
only adds: directories, a lock file, a socket file. So of all that others have in the file system, a
start takes away what stands at one place at most.

* `TaskDaemon.Host.Follows`: what all operations keep, directories and the order of numbers;
* `TaskDaemon.Host.IsTaken`: what others have, the files they have locked and their sockets;
* `TaskDaemon.Host.Clears`: the place that a start clears;
* `TaskDaemon.Host.node?_launch`: what stands where others had something.
-/

namespace TaskDaemon

open FileTree

namespace Host

variable {network : Network} {host after last : Host} {pid : Nat} {config : DaemonConfig}
  {path : Path} {place : Place} {node : Node} {number : Nat}

/-! ### Later states -/

/-- **A later state of a host**: directories stay, and numbers are used up. -/
structure Follows (host after : Host) : Prop where
  /-- What was a directory is one. -/
  directories : host.tree.KeepsDirectories after.tree
  /-- No number is given again. -/
  nextNumber : host.tree.nextNumber ≤ after.tree.nextNumber
  /-- Numbers are told apart as before. -/
  sound : host.IsSound → after.IsSound

namespace Follows

theorem refl (host : Host) : host.Follows host :=
  ⟨fun _ hat => hat, le_rfl, id⟩

theorem trans (h : host.Follows after) (h' : after.Follows last) : host.Follows last :=
  ⟨h.directories.trans h'.directories, h.nextNumber.trans h'.nextNumber, h'.sound ∘ h.sound⟩

end Follows

theorem follows_grown {tree : FileTree} (h : host.tree.Grown tree) :
    host.Follows { host with tree := tree } :=
  ⟨h.keepsDirectories, h.nextNumber.ge, fun sound => sound.grown h⟩

theorem follows_release (host : Host) (lock : FileLock) : host.Follows (host.release lock) :=
  ⟨fun _ hat => hat, le_rfl, fun sound => sound.release lock⟩

theorem follows_remove {tree : FileTree} (h : host.tree.remove path = .ok tree) :
    host.Follows { host with tree := tree } := by
  refine ⟨?_, ?_, fun sound => sound.remove h⟩
  all_goals obtain ⟨place, -, -, hat, -, rfl⟩ := remove_eq_ok_iff.mp h
  · exact keepsDirectories_drop hat
  · exact le_rfl

theorem nextNumber_openFile {tree opened : FileTree}
    (h : tree.openFile path = .ok (place, number, opened)) :
    tree.nextNumber ≤ opened.nextNumber := by
  obtain ⟨spot, -, -, -, -, ⟨content, -, rfl⟩ | ⟨-, -, rfl, rfl⟩⟩ := openFile_eq_ok_iff.mp h
  · exact le_rfl
  · exact Nat.le_succ _

/-- Writing a file may make one, and changes one. -/
theorem follows_write {tree : FileTree} {content : Bytes}
    (h : host.tree.write path content = .ok tree) : host.Follows { host with tree := tree } := by
  obtain ⟨⟨place, number, opened⟩, hopen, hset⟩ := Attempt.bind_eq_ok_iff.mp h
  cases hset
  have hwrites : opened.Rewrites number (opened.setContent number content) := Or.inr ⟨_, rfl⟩
  refine ⟨(keepsDirectories_openFile hopen).trans hwrites.keepsDirectories,
    (nextNumber_openFile hopen).trans hwrites.nextNumber.ge, fun sound => ?_⟩
  obtain ⟨hopened, hle, -⟩ := sound.tree.openFile hopen
  exact ⟨hopened.rewrites hwrites, fun held hheld => (sound.held held hheld).trans_le hle⟩

theorem Opens.follows (h : host.Opens path number after) : host.Follows after := by
  refine ⟨h.keepsDirectories, ?_, fun sound => (h.isSound sound).1⟩
  obtain ⟨tree, place, hgrown, hopen⟩ := h.exists_tree
  exact hgrown.nextNumber.ge.trans (nextNumber_openFile hopen)

theorem follows_acquire {outcome : Outcome FileLock}
    (h : host.acquire pid path = (outcome, after)) : host.Follows after := by
  have hsound (sound : host.IsSound) : after.IsSound := by
    have hafter := sound.acquire pid path
    rwa [h] at hafter
  cases claim_of_acquire h with
  | unopened closed grown => exact follows_grown grown
  | lost opens held => exact opens.follows
  | @spoiled number opened refusal opens free refuses =>
    have hwrites := rewrites_spoiled opened number pid refusal
    exact ⟨opens.follows.directories.trans hwrites.keepsDirectories,
      opens.follows.nextNumber.trans hwrites.nextNumber.ge, hsound⟩
  | @won number opened opens free willing =>
    have hwrites := rewrites_locked opened number pid
    exact ⟨opens.follows.directories.trans hwrites.keepsDirectories,
      opens.follows.nextNumber.trans hwrites.nextNumber.ge, hsound⟩

theorem follows_prepareSocket {outcome : Outcome Unit}
    (h : host.prepareSocket path = (outcome, after)) : host.Follows after := by
  obtain ⟨_, outcome, made, tree, -, hprepare, hgrown, ⟨rfl, -⟩ | ⟨-, hremove⟩⟩ :=
    host.prepareSocket_eq path
  · cases h.symm.trans hprepare
    exact follows_grown hgrown
  · cases h.symm.trans hprepare
    exact (follows_grown hgrown).trans (follows_remove hremove)

theorem follows_bindSocket (h : host.bindSocket path = .ok (number, after)) :
    host.Follows after := by
  refine ⟨?_, ?_, fun sound => sound.bindSocket h⟩
  all_goals rcases bindSocket_cases h with ⟨-, htake⟩ | ⟨-, bound, hbind, rfl⟩
  · cases htake
    exact fun _ hat => hat
  · obtain ⟨-, spot, -, -, hnone, -, -, rfl, rfl⟩ := bindSocket_eq_ok_iff.mp hbind
    exact keepsDirectories_put (not_directoryAt_of_none hnone) _
  · cases htake
    exact Nat.le_succ _
  · obtain ⟨-, spot, -, -, -, -, -, rfl, rfl⟩ := bindSocket_eq_ok_iff.mp hbind
    exact Nat.le_succ _

theorem follows_unlisten (host : Host) (listener : Listener) :
    host.Follows (host.unlisten listener) := by
  cases listener with
  | tcp address => exact .refl host
  | unix path number =>
    rw [unlisten, freeSocket]
    split_ifs
    · exact ⟨fun _ hat => hat, le_rfl, fun sound => ⟨sound.tree, sound.held⟩⟩
    · rw [removeIfAny]
      cases hremove : host.tree.remove path with
      | ok tree => exact follows_remove hremove
      | error fault => exact .refl host

theorem follows_listenAll {restHost : Ip} {outcome : Outcome Listeners}
    (h : host.listenAll network (.unix path) restHost = (outcome, after)) : host.Follows after := by
  rcases listenAll_cases network host path restHost with
    ⟨error, hlisten⟩ | ⟨number, bound, hbind, ⟨error, hlisten⟩ | ⟨address, hlisten⟩⟩
  all_goals cases h.symm.trans hlisten
  · exact .refl host
  · exact (follows_bindSocket hbind).trans (follows_unlisten bound _)
  · exact follows_bindSocket hbind

theorem follows_conclude (host : Host) (launched : Launched) :
    host.Follows (host.conclude launched) :=
  (host.follows_unlisten _).trans (follows_release _ _)

/-! ### What others have -/

/-- **What others have at a place**: a socket, or a file that is locked. -/
def IsTaken (host : Host) : Node → Prop
  | .directory _ => False
  | .file number _ => number ∈ host.held
  | .socket _ => True

theorem IsTaken.exists_number (h : host.IsTaken node) : ∃ number, node.number? = some number := by
  cases node with
  | directory mode => exact h.elim
  | file number content => exact ⟨number, rfl⟩
  | socket number => exact ⟨number, rfl⟩

/-- **Opening a file** leaves alone what others have. -/
theorem node?_opens (sound : host.IsSound) (hnode : host.tree.node? place = some node)
    (htaken : host.IsTaken node) (h : host.Opens path number after) :
    after.tree.node? place = some node := by
  obtain ⟨own, hown⟩ := htaken.exists_number
  obtain ⟨tree, other, hgrown, hopen⟩ := h.exists_tree
  have hgrownNode := (hgrown.node?_iff hown).mpr hnode
  obtain ⟨spot, -, -, -, -, ⟨content, -, heq⟩ | ⟨-, -, hfresh, -⟩⟩ := openFile_eq_ok_iff.mp hopen
  · rwa [← heq]
  · -- the file was made, so that its number is none that was there
    have hlt := sound.tree place node own hnode hown
    rw [hgrown.nextNumber] at hfresh
    exact (node?_openFile hopen hown (hlt.trans_eq hfresh).ne).mpr hgrownNode

/-- **Writing a file that nobody has locked** does too. -/
theorem node?_written (sound : host.IsSound) (hnode : host.tree.node? place = some node)
    (htaken : host.IsTaken node) (h : host.Opens path number after) (hfree : number ∉ host.held)
    {tree : FileTree} (hwrites : after.tree.Rewrites number tree) :
    tree.node? place = some node := by
  refine (hwrites.node?_iff ?_).mpr (node?_opens sound hnode htaken h)
  rintro content rfl
  exact hfree htaken

/-- **Claiming a lock** leaves alone what others have. -/
theorem node?_acquire (sound : host.IsSound) (hnode : host.tree.node? place = some node)
    (htaken : host.IsTaken node) {outcome : Outcome FileLock}
    (h : host.acquire pid path = (outcome, after)) : after.tree.node? place = some node := by
  cases claim_of_acquire h with
  | unopened closed grown =>
    obtain ⟨own, hown⟩ := htaken.exists_number
    exact (grown.node?_iff hown).mpr hnode
  | lost opens held => exact node?_opens sound hnode htaken opens
  | spoiled opens free refuses =>
    exact node?_written sound hnode htaken opens free (rewrites_spoiled _ _ _ _)
  | won opens free willing =>
    exact node?_written sound hnode htaken opens free (rewrites_locked _ _ _)

/-- **Clearing the way for a socket removes what stands at a place**, where its path leads once its
directory is made. -/
def Removes (host : Host) (path : Path) (place : Place) : Prop :=
  ∃ made tree, host.makeParent "create socket directory" path = (.ok (), made) ∧
    made.tree.locate path = .ok place ∧ made.tree.remove path = .ok tree

/-- **Clearing the way for a socket** leaves alone what does not stand in it. -/
theorem node?_prepareSocket (hnode : host.tree.node? place = some node)
    (hnumber : node.number? = some number) {outcome : Outcome Unit}
    (h : host.prepareSocket path = (outcome, after)) :
    (¬ host.Removes path place → after.tree.node? place = some node) ∧
      (host.Removes path place → after.tree.node? place = none) := by
  obtain ⟨parent, outcome, made, tree, hmade, hprepare, hgrown, ⟨rfl, hkept⟩ | ⟨rfl, hremove⟩⟩ :=
    host.prepareSocket_eq path
  all_goals
    cases h.symm.trans hprepare
    have hnode := (hgrown.node?_iff hnumber).mpr hnode
  · refine ⟨fun _ => hnode, ?_⟩
    rintro ⟨made, removed, hmade', -, hremove⟩
    cases hmade.symm.trans hmade'
    exact absurd hremove (hkept removed rfl)
  · obtain ⟨cleared, hlocate, -, hat, -, rfl⟩ := remove_eq_ok_iff.mp hremove
    rw [node?_drop hat]
    constructor
    · intro hnot
      rw [if_neg]
      · exact hnode
      · rintro rfl
        exact hnot ⟨_, _, hmade, hlocate, hremove⟩
    · rintro ⟨made, removed, hmade', hplace, -⟩
      cases hmade.symm.trans hmade'
      cases hlocate.symm.trans hplace
      exact if_pos rfl

/-- **Binding listeners** leaves alone what stands somewhere, and where nothing stands there is at
most the new socket then. -/
theorem node?_listenAll {restHost : Ip} {outcome : Outcome Listeners}
    (h : host.listenAll network (.unix path) restHost = (outcome, after)) (place : Place) :
    (∀ node, host.tree.node? place = some node → after.tree.node? place = some node) ∧
      (host.tree.node? place = none → ∀ node, after.tree.node? place = some node →
        node = .socket host.tree.nextNumber) := by
  have hsame : (∀ node, host.tree.node? place = some node → host.tree.node? place = some node) ∧
      (host.tree.node? place = none → ∀ node, host.tree.node? place = some node →
        node = .socket host.tree.nextNumber) :=
    ⟨fun _ h => h, fun hnone node hnode => by cases hnone.symm.trans hnode⟩
  rcases listenAll_cases network host path restHost with
    ⟨error, hlisten⟩ | ⟨number, bound, hbind, hlisten⟩
  · cases h.symm.trans hlisten
    exact hsame
  rcases bindSocket_cases hbind with ⟨hname, htake⟩ | ⟨hname, tree, hput, rfl⟩
  · -- a name takes no place
    rcases hlisten with ⟨error, hlisten⟩ | ⟨address, hlisten⟩
    all_goals cases h.symm.trans hlisten
    · rw [unlisten_isName hname]
      cases htake
      exact hsame
    · cases htake
      exact hsame
  · obtain ⟨spot, hreach, -, -, hnot, hnode, -, hremove⟩ :=
      remove_of_bind hput (spares_refl tree path)
    obtain ⟨-, spot', hreach', -, hnone, -, -, hnumber, -⟩ := bindSocket_eq_ok_iff.mp hput
    cases hreach.symm.trans hreach'
    rcases hlisten with ⟨error, hlisten⟩ | ⟨address, hlisten⟩
    all_goals cases h.symm.trans hlisten
    · rw [unlisten_unix hname hremove]
      rw [node?_drop hnot, hnode]
      by_cases hplace : place = spot.place
      · rw [if_pos hplace, hplace, hnone]
        exact ⟨nofun, nofun⟩
      · rwa [if_neg hplace, if_neg hplace]
    · rw [hnode]
      by_cases hplace : place = spot.place
      · rw [if_pos hplace, hplace, hnone, hnumber]
        exact ⟨nofun, fun _ node h => (Option.some.inj h).symm⟩
      · rwa [if_neg hplace]

/-! ### What a start leaves of it -/

/-- **The place that a start clears**: it gets its lock, and removes what stands in the way of its
socket. -/
def Clears (host : Host) (pid : Nat) (config : DaemonConfig) (place : Place) : Prop :=
  ∃ lock taken, host.acquire pid config.lockFile = (.ok lock, taken) ∧
    taken.Removes config.sockFile place

theorem follows_launch {outcome : Outcome Launched}
    (h : host.launch network pid config = (outcome, after)) : host.Follows after := by
  obtain ⟨ran, hcourse⟩ := course_of_launch h
  cases hcourse with
  | unlocked acquired => exact follows_acquire acquired
  | uncleared acquired cleared =>
    exact ((follows_acquire acquired).trans (follows_prepareSocket cleared)).trans
      (follows_release _ _)
  | unbound acquired cleared bound =>
    exact (((follows_acquire acquired).trans (follows_prepareSocket cleared)).trans
      (follows_listenAll bound)).trans (follows_release _ _)
  | served acquired cleared bound =>
    exact ((follows_acquire acquired).trans (follows_prepareSocket cleared)).trans
      (follows_listenAll bound)

section

variable {lock : FileLock} {taken prepared : Host} {cleared : Outcome Unit}

theorem clears_iff (acquired : host.acquire pid config.lockFile = (.ok lock, taken)) :
    host.Clears pid config place ↔ taken.Removes config.sockFile place := by
  constructor
  · rintro ⟨lock', taken', acquired', hremoves⟩
    cases acquired.symm.trans acquired'
    exact hremoves
  · exact fun hremoves => ⟨lock, taken, acquired, hremoves⟩

/-- **With its lock and the way for its socket cleared**, a start has removed what others had at one
place. -/
theorem node?_cleared (sound : host.IsSound) (hnode : host.tree.node? place = some node)
    (htaken : host.IsTaken node) (acquired : host.acquire pid config.lockFile = (.ok lock, taken))
    (hcleared : taken.prepareSocket config.sockFile = (cleared, prepared)) :
    (¬ host.Clears pid config place → prepared.tree.node? place = some node) ∧
      (host.Clears pid config place → prepared.tree.node? place = none) := by
  obtain ⟨number, hnumber⟩ := htaken.exists_number
  rw [clears_iff acquired]
  exact node?_prepareSocket (node?_acquire sound hnode htaken acquired) hnumber hcleared

/-- **With its listeners bound, or not**, there is at most a socket of its own at that place. -/
theorem node?_listened (sound : host.IsSound) (hnode : host.tree.node? place = some node)
    (htaken : host.IsTaken node) (acquired : host.acquire pid config.lockFile = (.ok lock, taken))
    (hcleared : taken.prepareSocket config.sockFile = (cleared, prepared))
    {bound : Outcome Listeners} {restHost : Ip}
    (hbound : prepared.listenAll network (.unix config.sockFile) restHost = (bound, after)) :
    (¬ host.Clears pid config place → after.tree.node? place = some node) ∧
      (host.Clears pid config place → ∀ other, after.tree.node? place = some other →
        ∃ own, other = .socket own ∧ host.tree.nextNumber ≤ own) := by
  obtain ⟨hstays, hgoes⟩ := node?_cleared sound hnode htaken acquired hcleared
  obtain ⟨hkeeps, hnew⟩ := node?_listenAll hbound place
  refine ⟨fun hnot => hkeeps node (hstays hnot), fun hclears other hother => ?_⟩
  exact ⟨_, hnew (hgoes hclears) other hother,
    ((follows_acquire acquired).trans (follows_prepareSocket hcleared)).nextNumber⟩

end

/-- **A start leaves alone what others have**, but at the place that it clears; there is at most a
socket of its own then. -/
theorem node?_launch (sound : host.IsSound) (hnode : host.tree.node? place = some node)
    (htaken : host.IsTaken node) {outcome : Outcome Launched}
    (h : host.launch network pid config = (outcome, after)) :
    (¬ host.Clears pid config place → after.tree.node? place = some node) ∧
      (host.Clears pid config place → ∀ other, after.tree.node? place = some other →
        ∃ own, other = .socket own ∧ host.tree.nextNumber ≤ own) := by
  obtain ⟨ran, hcourse⟩ := course_of_launch h
  cases hcourse with
  | unlocked acquired =>
    refine ⟨fun _ => node?_acquire sound hnode htaken acquired, ?_⟩
    rintro ⟨lock, taken, acquired', -⟩
    cases acquired.symm.trans acquired'
  | uncleared acquired cleared =>
    obtain ⟨hstays, hgoes⟩ := node?_cleared sound hnode htaken acquired cleared
    refine ⟨hstays, fun hclears other hother => ?_⟩
    cases (hgoes hclears).symm.trans hother
  | unbound acquired cleared bound =>
    obtain ⟨hstays, hgoes⟩ := node?_listened sound hnode htaken acquired cleared bound
    exact ⟨hstays, hgoes⟩
  | served acquired cleared bound => exact node?_listened sound hnode htaken acquired cleared bound

/-- **Where a path leads to what others have**, it leads there after a start too, unless the start
has cleared that place. -/
theorem look_launch (sound : host.IsSound) (hlook : host.tree.look path = some node)
    (htaken : host.IsTaken node) {outcome : Outcome Launched}
    (h : host.launch network pid config = (outcome, after)) :
    ∃ place, host.tree.locate path = .ok place ∧
      (¬ host.Clears pid config place → after.tree.look path = some node) ∧
      (host.Clears pid config place → ∀ other, after.tree.look path = some other →
        ∃ own, other = .socket own ∧ host.tree.nextNumber ≤ own) := by
  obtain ⟨number, hnumber⟩ := htaken.exists_number
  obtain ⟨spot, hreach, hslashed, hname, hnode⟩ := (look_eq_some_iff hnumber).mp hlook
  have hafter := reach_of_keeps (follows_launch h).directories hreach
  obtain ⟨hstays, hgoes⟩ := node?_launch sound hnode htaken h
  refine ⟨spot.place, locate_eq_ok_iff.mpr ⟨spot, hreach, hname, rfl, by rw [hslashed]; nofun⟩,
    fun hnot => ?_, fun hclears other hother => ?_⟩
  · exact (look_eq_some_iff hnumber).mpr ⟨spot, hafter, hslashed, hname, hstays hnot⟩
  · refine hgoes hclears other ?_
    have hlocate : after.tree.locate path = .ok spot.place :=
      locate_eq_ok_iff.mpr ⟨spot, hafter, hname, rfl, by rw [hslashed]; nofun⟩
    rwa [look, hlocate] at hother

/-! ### Locks that others hold -/

theorem held_prepareSocket {outcome : Outcome Unit}
    (h : host.prepareSocket path = (outcome, after)) : after.held = host.held := by
  obtain ⟨_, outcome, made, tree, -, hprepare, -⟩ := host.prepareSocket_eq path
  cases h.symm.trans hprepare
  rfl

theorem held_unlisten (host : Host) (listener : Listener) :
    (host.unlisten listener).held = host.held := by
  cases listener with
  | tcp address => rfl
  | unix path number =>
    rw [unlisten, freeSocket]
    split_ifs
    · rfl
    · rw [removeIfAny]
      cases host.tree.remove path <;> rfl

theorem held_listenAll {restHost : Ip} {outcome : Outcome Listeners}
    (h : host.listenAll network (.unix path) restHost = (outcome, after)) :
    after.held = host.held := by
  have hbound {number : Nat} {bound : Host} (hbind : host.bindSocket path = .ok (number, bound)) :
      bound.held = host.held := by
    rcases bindSocket_cases hbind with ⟨-, htake⟩ | ⟨-, tree, -, rfl⟩
    · cases htake
      rfl
    · rfl
  rcases listenAll_cases network host path restHost with
    ⟨error, hlisten⟩ | ⟨number, bound, hbind, ⟨error, hlisten⟩ | ⟨address, hlisten⟩⟩
  all_goals cases h.symm.trans hlisten
  · rfl
  · exact (held_unlisten bound _).trans (hbound hbind)
  · exact hbound hbind

/-- **Who claims a lock** leaves those that others hold, and wins none of them. -/
theorem mem_held_acquire {outcome : Outcome FileLock}
    (h : host.acquire pid path = (outcome, after)) (hnumber : number ∈ host.held) :
    number ∈ after.held ∧ ∀ lock, outcome = .ok lock → number ≠ lock.number := by
  cases claim_of_acquire h with
  | unopened closed grown => exact ⟨hnumber, nofun⟩
  | lost opens held => exact ⟨opens.held ▸ hnumber, nofun⟩
  | spoiled opens free refuses => exact ⟨opens.held ▸ hnumber, nofun⟩
  | won opens free willing =>
    refine ⟨List.mem_cons_of_mem _ (opens.held ▸ hnumber), ?_⟩
    rintro lock hlock rfl
    cases hlock
    exact free hnumber

/-- **A lock that others hold stays held**, however far a start gets. -/
theorem mem_held_launch {outcome : Outcome Launched}
    (h : host.launch network pid config = (outcome, after)) (hnumber : number ∈ host.held) :
    number ∈ after.held := by
  obtain ⟨ran, hcourse⟩ := course_of_launch h
  cases hcourse with
  | unlocked acquired => exact (mem_held_acquire acquired hnumber).1
  | uncleared acquired cleared =>
    obtain ⟨htaken, hne⟩ := mem_held_acquire acquired hnumber
    refine mem_held_release.mpr ⟨?_, hne _ rfl⟩
    rwa [held_prepareSocket cleared]
  | unbound acquired cleared bound =>
    obtain ⟨htaken, hne⟩ := mem_held_acquire acquired hnumber
    refine mem_held_release.mpr ⟨?_, hne _ rfl⟩
    rwa [held_listenAll bound, held_prepareSocket cleared]
  | served acquired cleared bound =>
    obtain ⟨htaken, -⟩ := mem_held_acquire acquired hnumber
    rwa [held_listenAll bound, held_prepareSocket cleared]

/-! ### What a start has that succeeds -/

/-- The way for a name is cleared only if that is empty. -/
theorem isEmpty_of_prepareSocket (h : host.prepareSocket path = (.ok (), after))
    (hname : path.isName = true) : path.isEmpty = true := by
  by_contra hempty
  rw [Bool.not_eq_true] at hempty
  rw [Path.isName, hempty, Bool.false_or] at hname
  obtain ⟨rest, hbytes⟩ := List.head?_eq_some_iff.mp (of_decide_eq_true hname)
  have hcheck : checkPath path =
      .error (.told .invalidInput "file name contained an unexpected NUL byte") := by
    rw [checkPath, hempty, hbytes]
    rfl
  have hremove (tree : FileTree) : tree.remove path =
      .error (.told .invalidInput "file name contained an unexpected NUL byte") := by
    rw [FileTree.remove, locate, reach, hcheck]
    rfl
  obtain ⟨parent, made, hmade, -⟩ := host.makeParent_eq "create socket directory" path
  rw [prepareSocket, hmade] at h
  cases parent with
  | error error => cases h
  | ok _ =>
    dsimp only at h
    rw [hremove] at h
    cases h

theorem number_bindSocket (h : host.bindSocket path = .ok (number, after)) :
    number = host.tree.nextNumber := by
  rcases bindSocket_cases h with ⟨-, htake⟩ | ⟨-, bound, hbind, -⟩
  · cases htake
    rfl
  · obtain ⟨-, spot, -, -, -, -, -, hnumber, -⟩ := bindSocket_eq_ok_iff.mp hbind
    exact hnumber.symm

/-- **A daemon that was started** listens at the path of its socket with a number of its own, and
the path of its lock can be followed. -/
theorem launch_eq_ok {launched : Launched}
    (h : host.launch network pid config = (.ok launched, after)) :
    launched.lock.path = config.lockFile ∧ (∃ spot, after.tree.reach config.lockFile = .ok spot) ∧
      (config.sockFile.isName = true → config.sockFile.isEmpty = true) ∧
      ∃ own, launched.listeners.rpc = .unix config.sockFile own ∧ host.tree.nextNumber ≤ own := by
  obtain ⟨ran, hcourse⟩ := course_of_launch h
  cases hcourse with
  | served acquired cleared bound =>
    obtain ⟨own, hbind, hrpc⟩ := listenAll_eq_ok bound
    have hprepared := follows_prepareSocket cleared
    cases claim_of_acquire acquired with
    | won opens free willing =>
      obtain ⟨spot, hreach, -⟩ := (look_eq_some_iff rfl).mp (look_locked opens pid)
      refine ⟨rfl, ⟨spot, ?_⟩, isEmpty_of_prepareSocket cleared, own, hrpc, ?_⟩
      · exact reach_of_keeps (hprepared.trans (follows_bindSocket hbind)).directories hreach
      · rw [number_bindSocket hbind]
        exact ((follows_acquire acquired).trans hprepared).nextNumber

end Host

end TaskDaemon
