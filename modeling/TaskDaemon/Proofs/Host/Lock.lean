import Mathlib.Data.List.Nodup
import TaskDaemon.Host.Lock
import TaskDaemon.Proofs.Host.Tree

/-!
# Locks exclude each other

Whoever claims a lock opens the file first, asks for the lock then, and writes only if it was won.
So one who loses has at most made directories, and the file goes on telling the process id of the
one that holds it. One who has won and cannot write gives the lock up at once, and has changed no
file but that one. What a history of claims and releases keeps is that the numbers the system has
locked are those of the guards that are still there, each of them once.

* `TaskDaemon.Host.Opens`: the file that can be opened at a path, and its number; paths that lead to
  one file open one number;
* `TaskDaemon.Host.Claim`: the four ways a claim can end, and what each leaves;
* `TaskDaemon.Holders`: processes that claim locks and give them up, in any order, and
  `TaskDaemon.Holders.IsOrderly`: what they keep;
* `TaskDaemon.Holders.locks_exclusive`: what is true at every point of their history, and
  `TaskDaemon.Holders.locks_refused_unheld`: why a free file is not enough.
-/

namespace TaskDaemon

namespace Refusal

variable {tree : FileTree} {place : Place} {number : Nat} {line content : Bytes}

/-- **An attempt to write a file that refuses** changes that file at most. -/
theorem rewrites_leave (refusal : Refusal) (tree : FileTree) (number : Nat) (line : Bytes) :
    tree.Rewrites number (refusal.leave tree number line) := by
  cases refusal with
  | lock | empty => exact Or.inl rfl
  | write | sync => exact Or.inr ⟨_, rfl⟩

/-- **What the file holds then** is what it held, or the front of the line. -/
theorem content_leave (refusal : Refusal)
    (h : (refusal.leave tree number line).node? place = some (.file number content)) :
    tree.node? place = some (.file number content) ∨ content <+: line := by
  have hset {new : Bytes} (hfront : new <+: line)
      (h : (tree.setContent number new).node? place = some (.file number content)) :
      content <+: line := by
    rw [FileTree.node?_setContent, Option.map_eq_some_iff] at h
    obtain ⟨old, -, hnode⟩ := h
    cases old <;> cases hnode
    rwa [if_pos rfl]
  cases refusal with
  | lock | empty => exact Or.inl h
  | write taken =>
    have hfront := List.take_prefix taken line
    exact Or.inr (hset hfront h)
  | sync => exact Or.inr (hset (List.prefix_refl line) h)

end Refusal

namespace Host

variable {host opened after : Host} {path : Path} {number : Nat}

/-! ### Opening the file of a lock -/

/-- **What the system keeps apart**: the numbers of files that are there or locked are not given
again. -/
structure IsSound (host : Host) : Prop where
  /-- The numbers of files and sockets. -/
  tree : host.tree.IsSound
  /-- The numbers of locked files. -/
  held : ∀ number ∈ host.held, number < host.tree.nextNumber

theorem isSound_empty : IsSound {} :=
  ⟨FileTree.isSound_empty, nofun⟩

/-- **Making the directory of a file** makes directories and nothing else. -/
theorem makeParent_eq (host : Host) (operation : String) (path : Path) :
    ∃ outcome tree, host.makeParent operation path = (outcome, { host with tree := tree }) ∧
      host.tree.Grown tree := by
  rw [makeParent]
  cases path.parent? with
  | none => exact ⟨_, host.tree, rfl, .refl host.tree⟩
  | some parent => exact ⟨_, _, rfl, host.tree.grown_makePrivate parent⟩

/-- **The file at a path can be opened**, after its directory is made, and has a number; `opened` is
the host then. -/
def Opens (host : Host) (path : Path) (number : Nat) (opened : Host) : Prop :=
  ∃ made place tree, host.makeParent "create lock directory" path = (.ok (), made) ∧
    made.tree.openFile path = .ok (place, number, tree) ∧ { made with tree := tree } = opened

/-- **A path that leads to a name needs no directories made.** -/
theorem makeParent_of_reach {spot : FileTree.Spot} (hreach : host.tree.reach path = .ok spot)
    (hat : ¬ host.tree.DirectoryAt spot.place) (operation : String) :
    host.makeParent operation path = (.ok (), host) := by
  cases hparent : path.parent? with
  | none => rw [makeParent, hparent]
  | some parent =>
    have hmade : host.tree.makePrivate parent = (.ok (), host.tree) := by
      cases hempty : parent.isEmpty with
      | true => rw [FileTree.makePrivate, FileTree.makePrivateFrom, if_pos hempty]
      | false =>
        have hname : spot.name ≠ none := fun hnone =>
          hat (FileTree.directoryAt_of_reach hreach hnone)
        obtain ⟨last, hlast⟩ := Option.ne_none_iff_exists'.mp hname
        exact FileTree.makePrivate_of_isDirectory
          (FileTree.isDirectory_parent hreach hlast hparent hempty)
    simp only [makeParent, hparent, hmade]
    rfl

/-- **A file that is there is opened as it is.** -/
theorem opens_of_look {content : Bytes} (h : host.tree.look path = some (.file number content)) :
    host.Opens path number host := by
  obtain ⟨spot, hreach, hslashed, hname, hnode⟩ := (FileTree.look_eq_some_iff rfl).mp h
  have hparent := makeParent_of_reach hreach (FileTree.not_directoryAt_of_number hnode rfl)
    "create lock directory"
  exact ⟨host, spot.place, host.tree, hparent, FileTree.openFile_eq_ok_iff.mpr
    ⟨spot, hreach, hslashed, hname, rfl, Or.inl ⟨content, hnode, rfl⟩⟩, rfl⟩

namespace Opens

/-- A path opens one file. -/
theorem unique (h : host.Opens path number opened) {number' : Nat} {opened' : Host}
    (h' : host.Opens path number' opened') : number = number' ∧ opened = opened' := by
  obtain ⟨made, place, tree, hmade, hopen, rfl⟩ := h
  obtain ⟨made', place', tree', hmade', hopen', rfl⟩ := h'
  obtain rfl : made = made' := (Prod.mk.inj (hmade.symm.trans hmade')).2
  cases hopen.symm.trans hopen'
  exact ⟨rfl, rfl⟩

/-- Opening a file changes the files only. -/
theorem eq (h : host.Opens path number opened) : opened = { host with tree := opened.tree } := by
  obtain ⟨made, place, tree, hmade, -, rfl⟩ := h
  obtain ⟨outcome, tree', hmade', -⟩ := host.makeParent_eq "create lock directory" path
  cases hmade.symm.trans hmade'
  rfl

theorem held (h : host.Opens path number opened) : opened.held = host.held := by
  rw [h.eq]

theorem names (h : host.Opens path number opened) : opened.names = host.names := by
  rw [h.eq]

theorem refusals (h : host.Opens path number opened) : opened.refusals = host.refusals := by
  rw [h.eq]

/-- What was done to the files: directories were made, and then one file was opened. -/
theorem exists_tree (h : host.Opens path number opened) :
    ∃ tree place, host.tree.Grown tree ∧
      tree.openFile path = .ok (place, number, opened.tree) := by
  obtain ⟨made, place, tree, hmade, hopen, rfl⟩ := h
  obtain ⟨outcome, tree', hmade', hgrown⟩ := host.makeParent_eq "create lock directory" path
  cases hmade.symm.trans hmade'
  exact ⟨tree', place, hgrown, hopen⟩

theorem keepsDirectories (h : host.Opens path number opened) :
    host.tree.KeepsDirectories opened.tree := by
  obtain ⟨tree, place, hgrown, hopen⟩ := h.exists_tree
  exact hgrown.keepsDirectories.trans (FileTree.keepsDirectories_openFile hopen)

/-- **A path leads to the file that it opens.** -/
theorem look (h : host.Opens path number opened) :
    ∃ content, opened.tree.look path = some (.file number content) := by
  obtain ⟨tree, place, -, hopen⟩ := h.exists_tree
  exact FileTree.look_openFile hopen

/-- Files and sockets of other numbers are what they were. -/
theorem node?_iff (h : host.Opens path number opened) {place : Place} {node : Node} {own : Nat}
    (hown : node.number? = some own) (hne : own ≠ number) :
    opened.tree.node? place = some node ↔ host.tree.node? place = some node := by
  obtain ⟨tree, other, hgrown, hopen⟩ := h.exists_tree
  rw [FileTree.node?_openFile hopen hown hne, hgrown.node?_iff hown]

/-- **The file that is opened** is as it was, or empty since it was made. -/
theorem file_cases (h : host.Opens path number opened) {place : Place} {content : Bytes}
    (hnode : opened.tree.node? place = some (.file number content)) :
    host.tree.node? place = some (.file number content) ∨ content = [] := by
  obtain ⟨tree, own, hgrown, hopen⟩ := h.exists_tree
  obtain ⟨spot, -, -, -, -, ⟨found, -, htree⟩ | ⟨hnone, -, -, htree⟩⟩ :=
    FileTree.openFile_eq_ok_iff.mp hopen
  · exact Or.inl ((hgrown.node?_iff rfl).mp (htree ▸ hnode))
  · rw [← htree] at hnode
    have hput := (FileTree.node?_put (FileTree.not_directoryAt_of_none hnone) _ _).symm.trans hnode
    split_ifs at hput
    · cases hput
      exact Or.inr rfl
    · exact Or.inl ((hgrown.node?_iff rfl).mp hput)

/-- They still are, if the file is written then. -/
theorem node?_rewrites (h : host.Opens path number opened) {tree : FileTree}
    (hwrites : opened.tree.Rewrites number tree) {place : Place} {node : Node} {own : Nat}
    (hown : node.number? = some own) (hne : own ≠ number) :
    tree.node? place = some node ↔ host.tree.node? place = some node :=
  (hwrites.node?_iff (Node.ne_file hown hne)).trans (h.node?_iff hown hne)

/-- **A file that is locked was there before**, so that opening it has made directories only. -/
theorem grown (h : host.Opens path number opened) (hnumber : number < host.tree.nextNumber) :
    host.tree.Grown opened.tree := by
  obtain ⟨tree, place, hgrown, hopen⟩ := h.exists_tree
  obtain ⟨spot, -, -, -, -, ⟨content, -, htree⟩ | ⟨-, -, hfresh, -⟩⟩ :=
    FileTree.openFile_eq_ok_iff.mp hopen
  · rw [← htree]
    exact hgrown
  · rw [hgrown.nextNumber] at hfresh
    exact absurd hfresh.symm hnumber.ne

theorem isSound (h : host.Opens path number opened) (sound : host.IsSound) :
    opened.IsSound ∧ number < opened.tree.nextNumber := by
  obtain ⟨tree, place, hgrown, hopen⟩ := h.exists_tree
  obtain ⟨htree, hle, hlt⟩ := (sound.tree.grown hgrown).openFile hopen
  refine ⟨⟨htree, fun held hheld => ?_⟩, hlt⟩
  rw [h.held] at hheld
  rw [hgrown.nextNumber] at hle
  exact (sound.held held hheld).trans_le hle

end Opens

/-! ### The ways a claim ends -/

/-- The host after a lock was won. -/
def locked (host : Host) (number pid : Nat) : Host :=
  { host with
    tree := host.tree.setContent number (pidLine pid)
    held := number :: host.held }

/-- The host after the file of a lock has refused. -/
def spoiled (host : Host) (number pid : Nat) (refusal : Refusal) : Host :=
  { host with tree := refusal.leave host.tree number (pidLine pid) }

/-- **A claim on a file that is locked** is told so, and changes nothing but what opening the file
has changed. -/
theorem acquire_of_held (h : host.Opens path number opened) (hheld : number ∈ host.held)
    (pid : Nat) : host.acquire pid path = (.error (.alreadyRunning path.text), opened) := by
  have hopened : number ∈ opened.held := by rwa [h.held]
  obtain ⟨made, place, tree, hmade, hopen, rfl⟩ := h
  rw [acquire, hmade]
  simp only [lockFile, hopen]
  exact if_pos hopened

/-- **A claim on a file that nobody has locked** is up to what the file refuses. -/
theorem acquire_of_free (h : host.Opens path number opened) (hfree : number ∉ host.held)
    (pid : Nat) : host.acquire pid path = (host.refusals.lookup number).elim
      (.ok ⟨number, path⟩, opened.locked number pid)
      fun refusal => (.error (refusal.error path), opened.spoiled number pid refusal) := by
  have hopened : number ∉ opened.held := by rwa [h.held]
  rw [← h.refusals]
  obtain ⟨made, place, tree, hmade, hopen, rfl⟩ := h
  rw [acquire, hmade]
  simp only [lockFile, hopen, if_neg hopened]
  cases made.refusals.lookup number <;> rfl

/-- **A claim on a file that refuses** fails with that. -/
theorem acquire_of_refusal (h : host.Opens path number opened) (hfree : number ∉ host.held)
    {refusal : Refusal} (hrefusal : host.refusals.lookup number = some refusal) (pid : Nat) :
    host.acquire pid path = (.error (refusal.error path), opened.spoiled number pid refusal) := by
  rw [acquire_of_free h hfree, hrefusal, Option.elim_some]

/-- **A claim on a file that refuses nothing** and is not locked is granted. -/
theorem acquire_of_willing (h : host.Opens path number opened) (hfree : number ∉ host.held)
    (hwilling : host.refusals.lookup number = none) (pid : Nat) :
    host.acquire pid path = (.ok ⟨number, path⟩, opened.locked number pid) := by
  rw [acquire_of_free h hfree, hwilling, Option.elim_none]

/-- **A claim on a file that cannot be opened** fails with what the system says, and has made
directories at most. -/
theorem acquire_of_not_opens (h : ¬ ∃ number opened, host.Opens path number opened) (pid : Nat) :
    ∃ culprit operation fault tree, host.tree.Grown tree ∧
      host.acquire pid path =
        (.error (.fileSystem culprit operation fault), { host with tree := tree }) := by
  obtain ⟨outcome, tree, hmade, hgrown⟩ := host.makeParent_eq "create lock directory" path
  rw [acquire, hmade]
  cases outcome with
  | error error =>
    have herror : ∃ culprit operation fault, error = .fileSystem culprit operation fault := by
      rw [makeParent] at hmade
      cases hparent : path.parent? with
      | none => simp [hparent] at hmade
      | some parent =>
        simp only [hparent, Prod.mk.injEq] at hmade
        cases hprivate : (host.tree.makePrivate parent).1 with
        | ok _ => simp [hprivate, Except.mapError] at hmade
        | error fault =>
          rw [hprivate] at hmade
          exact ⟨_, _, _, (Except.error.inj hmade.1).symm⟩
    obtain ⟨culprit, operation, fault, rfl⟩ := herror
    exact ⟨culprit, operation, fault, tree, hgrown, rfl⟩
  | ok _ =>
    simp only [lockFile]
    cases hopen : tree.openFile path with
    | error fault => exact ⟨_, _, fault, tree, hgrown, rfl⟩
    | ok result =>
      obtain ⟨place, number, after⟩ := result
      exact absurd ⟨number, _, _, place, after, hmade, hopen, rfl⟩ h

/-- **How a claim ends**, and what it leaves. -/
inductive Claim (host : Host) (pid : Nat) (path : Path) : Outcome FileLock × Host → Prop where
  /-- The file cannot be opened. -/
  | unopened {culprit operation fault tree}
    (closed : ¬ ∃ number opened, host.Opens path number opened) (grown : host.tree.Grown tree) :
    Claim host pid path (.error (.fileSystem culprit operation fault), { host with tree := tree })
  /-- The file is locked. -/
  | lost {number : Nat} {opened : Host} (opens : host.Opens path number opened)
    (held : number ∈ host.held) :
    Claim host pid path (.error (.alreadyRunning path.text), opened)
  /-- The file refuses. -/
  | spoiled {number : Nat} {opened : Host} {refusal} (opens : host.Opens path number opened)
    (free : number ∉ host.held) (refuses : host.refusals.lookup number = some refusal) :
    Claim host pid path (.error (refusal.error path), opened.spoiled number pid refusal)
  /-- The lock is granted. -/
  | won {number : Nat} {opened : Host} (opens : host.Opens path number opened)
    (free : number ∉ host.held) (willing : host.refusals.lookup number = none) :
    Claim host pid path (.ok ⟨number, path⟩, opened.locked number pid)

/-- **Every claim ends in one of these ways.** -/
theorem claim (host : Host) (pid : Nat) (path : Path) :
    host.Claim pid path (host.acquire pid path) := by
  by_cases hopens : ∃ number opened, host.Opens path number opened
  · obtain ⟨number, opened, hopens⟩ := hopens
    by_cases hheld : number ∈ host.held
    · rw [acquire_of_held hopens hheld]
      exact .lost hopens hheld
    · cases hrefusal : host.refusals.lookup number with
      | some refusal =>
        rw [acquire_of_refusal hopens hheld hrefusal]
        exact .spoiled hopens hheld hrefusal
      | none =>
        rw [acquire_of_willing hopens hheld hrefusal]
        exact .won hopens hheld hrefusal
  · obtain ⟨culprit, operation, fault, tree, hgrown, hacquire⟩ := acquire_of_not_opens hopens pid
    rw [hacquire]
    exact .unopened hopens hgrown

theorem claim_of_acquire {pid : Nat} {outcome : Outcome FileLock}
    (h : host.acquire pid path = (outcome, after)) : host.Claim pid path (outcome, after) :=
  h ▸ host.claim pid path

theorem rewrites_locked (host : Host) (number pid : Nat) :
    host.tree.Rewrites number (host.locked number pid).tree :=
  Or.inr ⟨_, rfl⟩

theorem rewrites_spoiled (host : Host) (number pid : Nat) (refusal : Refusal) :
    host.tree.Rewrites number (host.spoiled number pid refusal).tree :=
  refusal.rewrites_leave host.tree number (pidLine pid)

/-- The file of a lock that was won tells who has won it. -/
theorem look_locked (h : host.Opens path number opened) (pid : Nat) :
    (opened.locked number pid).tree.look path = some (.file number (pidLine pid)) := by
  obtain ⟨content, hlook⟩ := h.look
  obtain ⟨spot, hreach, hslashed, hname, hnode⟩ := (FileTree.look_eq_some_iff rfl).mp hlook
  refine (FileTree.look_eq_some_iff rfl).mpr ⟨spot, ?_, hslashed, hname, ?_⟩
  · exact FileTree.reach_of_keeps (FileTree.keepsDirectories_setContent _ _ _) hreach
  · rw [locked, FileTree.node?_setContent, hnode, Option.map_some, Node.rewritten, if_pos rfl]

theorem isSound_locked (h : host.Opens path number opened) (sound : host.IsSound) (pid : Nat) :
    (opened.locked number pid).IsSound := by
  obtain ⟨hopened, hlt⟩ := h.isSound sound
  exact ⟨hopened.tree.rewrites (rewrites_locked opened number pid),
    List.forall_mem_cons.mpr ⟨hlt, hopened.held⟩⟩

theorem isSound_spoiled (h : host.Opens path number opened) (sound : host.IsSound) (pid : Nat)
    (refusal : Refusal) : (opened.spoiled number pid refusal).IsSound := by
  have hwrites := rewrites_spoiled opened number pid refusal
  obtain ⟨hopened, -⟩ := h.isSound sound
  exact ⟨hopened.tree.rewrites hwrites,
    fun own hown => hwrites.nextNumber.symm ▸ hopened.held own hown⟩

theorem IsSound.grown {tree : FileTree} (sound : host.IsSound) (h : host.tree.Grown tree) :
    ({ host with tree := tree } : Host).IsSound :=
  ⟨sound.tree.grown h, fun number hnumber => h.nextNumber.symm ▸ sound.held number hnumber⟩

/-- **A claim keeps numbers apart**, however it ends. -/
theorem IsSound.acquire (sound : host.IsSound) (pid : Nat) (path : Path) :
    (host.acquire pid path).2.IsSound := by
  have hclaim := host.claim pid path
  generalize host.acquire pid path = result at hclaim
  cases hclaim with
  | unopened closed grown => exact sound.grown grown
  | lost opens held => exact (opens.isSound sound).1
  | spoiled opens free refuses => exact isSound_spoiled opens sound pid _
  | won opens free willing => exact isSound_locked opens sound pid

theorem IsSound.release (sound : host.IsSound) (lock : FileLock) : (host.release lock).IsSound :=
  ⟨sound.tree, fun number hnumber => sound.held number (List.mem_filter.mp hnumber).1⟩

/-! ### Giving a lock up -/

theorem mem_held_release {lock : FileLock} {number : Nat} :
    number ∈ (host.release lock).held ↔ number ∈ host.held ∧ number ≠ lock.number := by
  rw [release, List.mem_filter, decide_eq_true_iff]

/-- **A guard that goes gives its lock up.** -/
theorem dropGuard_of_isLive {guard : LockGuard} (h : guard.isLive = true) :
    host.dropGuard guard = host.release guard.lock := by
  rw [dropGuard, emptyGuard, if_pos h]

/-- **A guard that is released gives its lock up once**, though it goes afterwards: the lock was
taken out of it. -/
theorem releaseGuard_of_isLive {guard : LockGuard} (h : guard.isLive = true) :
    host.releaseGuard guard = host.release guard.lock := by
  rw [releaseGuard, emptyGuard, if_pos h]
  rfl

/-- Making the directory of a file has nothing to do with locks. -/
theorem makeParent_release (host : Host) (lock : FileLock) (operation : String) (path : Path) :
    (host.release lock).makeParent operation path =
      ((host.makeParent operation path).1, (host.makeParent operation path).2.release lock) := by
  rw [makeParent, makeParent]
  cases path.parent? <;> rfl

/-- **The files that can be opened** have nothing to do with locks. -/
theorem opens_release_iff {lock : FileLock} :
    (∃ opened, (host.release lock).Opens path number opened) ↔
      ∃ opened, host.Opens path number opened := by
  constructor
  · rintro ⟨-, made, place, after, hmade, hopen, -⟩
    rw [makeParent_release, Prod.mk.injEq] at hmade
    obtain ⟨hok, rfl⟩ := hmade
    exact ⟨_, _, place, after, Prod.ext hok rfl, hopen, rfl⟩
  · rintro ⟨-, made, place, after, hmade, hopen, -⟩
    exact ⟨_, made.release lock, place, after, by rw [makeParent_release, hmade], hopen, rfl⟩

/-- **When a claim is granted**: the file can be opened, nobody has locked it, and it refuses
nothing. -/
theorem acquire_isOk_iff (host : Host) (pid : Nat) (path : Path) :
    (host.acquire pid path).1.isOk = true ↔ ∃ number, (∃ opened, host.Opens path number opened) ∧
      number ∉ host.held ∧ host.refusals.lookup number = none := by
  constructor
  · have hclaim := host.claim pid path
    generalize host.acquire pid path = result at hclaim ⊢
    intro hok
    cases hclaim with
    | won opens free willing => exact ⟨_, ⟨_, opens⟩, free, willing⟩
    | _ => cases hok
  · rintro ⟨number, ⟨opened, h⟩, hfree, hwilling⟩
    rw [acquire_of_willing h hfree hwilling]
    rfl

end Host

/-! ### Histories of claims -/

/-- **Processes that hold locks on one machine.** -/
structure Holders where
  /-- The machine. -/
  host : Host
  /-- The guards that are still there. -/
  live : List LockGuard := []
  deriving DecidableEq, Repr

/-- **What processes do with locks.** -/
inductive LockEvent where
  /-- A process claims the lock at a path. -/
  | acquire (pid : Nat) (path : Path)
  /-- The holder of a guard releases it. -/
  | release (guard : LockGuard)
  /-- A guard goes without a word. -/
  | drop (guard : LockGuard)
  /-- Files refuse something else than before, as when a disk is full. -/
  | turn (refusals : List (Nat × Refusal))
  deriving DecidableEq, Repr

namespace Holders

/-- **What an event does.** Guards that are gone cannot be given up again. -/
def step (holders : Holders) : LockEvent → Holders
  | .acquire pid path =>
    match holders.host.acquire pid path with
    | (.ok lock, host) => ⟨host, { pid := pid, lock := lock } :: holders.live⟩
    | (.error _, host) => ⟨host, holders.live⟩
  | .release guard =>
    if guard ∈ holders.live then
      ⟨holders.host.releaseGuard guard, holders.live.filter (· ≠ guard)⟩
    else holders
  | .drop guard =>
    if guard ∈ holders.live then
      ⟨holders.host.dropGuard guard, holders.live.filter (· ≠ guard)⟩
    else holders
  | .turn refusals => ⟨{ holders.host with refusals := refusals }, holders.live⟩

/-- **What a history of events does.** -/
def run (holders : Holders) (events : List LockEvent) : Holders :=
  events.foldl step holders

/-- **What all histories keep.** -/
structure IsOrderly (holders : Holders) : Prop where
  /-- Numbers are given once. -/
  sound : holders.host.IsSound
  /-- What is locked is what the guards have locked. -/
  held : holders.host.held = holders.live.map (·.lock.number)
  /-- No two guards have locked one file. -/
  apart : (holders.live.map (·.lock.number)).Nodup
  /-- Guards that are there have their locks. -/
  isLive : ∀ guard ∈ holders.live, guard.isLive = true
  /-- The file of a lock tells who holds it, where its path leads. -/
  told : ∀ guard ∈ holders.live, holders.host.tree.look guard.lock.path =
    some (.file guard.lock.number (Host.pidLine guard.pid))

variable {holders : Holders} {guard : LockGuard}

theorem IsOrderly.mem_held (h : holders.IsOrderly) {number : Nat} :
    number ∈ holders.host.held ↔ ∃ guard ∈ holders.live, guard.lock.number = number := by
  rw [h.held, List.mem_map]

theorem IsOrderly.eq_of_number (h : holders.IsOrderly) {other : LockGuard}
    (hguard : guard ∈ holders.live) (hother : other ∈ holders.live)
    (hnumber : guard.lock.number = other.lock.number) : guard = other :=
  List.inj_on_of_nodup_map h.apart hguard hother hnumber

/-- **A guard is given up**: its lock, and no other. -/
theorem step_giveUp (h : holders.IsOrderly) (hguard : guard ∈ holders.live) {event : LockEvent}
    (hevent : event = .release guard ∨ event = .drop guard) :
    holders.step event =
      ⟨holders.host.release guard.lock, holders.live.filter (· ≠ guard)⟩ := by
  rcases hevent with rfl | rfl
  · rw [step, if_pos hguard, Host.releaseGuard_of_isLive (h.isLive guard hguard)]
  · rw [step, if_pos hguard, Host.dropGuard_of_isLive (h.isLive guard hguard)]

theorem isOrderly_giveUp (h : holders.IsOrderly) (hguard : guard ∈ holders.live) :
    IsOrderly ⟨holders.host.release guard.lock, holders.live.filter (· ≠ guard)⟩ where
  sound := h.sound.release guard.lock
  held := by
    rw [Host.release, h.held, List.filter_map]
    refine congrArg _ (List.filter_congr fun other hother => ?_)
    -- a guard that has locked the same file is the same guard
    simp only [Function.comp_apply, ne_eq, decide_not, Bool.not_eq_eq_eq_not, Bool.not_not,
      decide_eq_decide]
    exact ⟨h.eq_of_number hother hguard, fun heq => heq ▸ rfl⟩
  apart := h.apart.sublist (List.filter_sublist.map _)
  isLive other hother := h.isLive other (List.mem_filter.mp hother).1
  told other hother := h.told other (List.mem_filter.mp hother).1

/-- **The files of the guards go on telling** who holds them, as long as those that change are
others. -/
theorem IsOrderly.told_of_keeps (h : holders.IsOrderly) {after : FileTree}
    (keeps : holders.host.tree.KeepsDirectories after)
    (hnode : ∀ guard ∈ holders.live, ∀ place node, node.number? = some guard.lock.number →
      (after.node? place = some node ↔ holders.host.tree.node? place = some node)) :
    ∀ guard ∈ holders.live, after.look guard.lock.path =
      some (.file guard.lock.number (Host.pidLine guard.pid)) :=
  fun guard hguard => FileTree.look_of_keeps keeps rfl
    (fun place => (hnode guard hguard place _ rfl).mpr) (h.told guard hguard)

/-- **A claim keeps the order**: a new guard has locked what no other has, and the files of the
others are not touched. -/
theorem isOrderly_acquire (h : holders.IsOrderly) (pid : Nat) (path : Path) :
    (holders.step (.acquire pid path)).IsOrderly := by
  have hclaim := holders.host.claim pid path
  rw [step]
  generalize holders.host.acquire pid path = result at hclaim ⊢
  have hnew {number : Nat} (free : number ∉ holders.host.held) :
      ∀ guard ∈ holders.live, guard.lock.number ≠ number := fun guard hguard heq =>
    free (h.mem_held.mpr ⟨guard, hguard, heq⟩)
  cases hclaim with
  | unopened closed grown =>
    exact ⟨h.sound.grown grown, h.held, h.apart, h.isLive,
      h.told_of_keeps grown.keepsDirectories fun _ _ _ _ hown => grown.node?_iff hown⟩
  | lost opens held =>
    have hgrown := opens.grown (h.sound.held _ held)
    exact ⟨(opens.isSound h.sound).1, opens.held.trans h.held, h.apart, h.isLive,
      h.told_of_keeps hgrown.keepsDirectories fun _ _ _ _ hown => hgrown.node?_iff hown⟩
  | @spoiled number opened refusal opens free refuses =>
    have hwrites := Host.rewrites_spoiled opened number pid refusal
    exact ⟨Host.isSound_spoiled opens h.sound pid refusal, opens.held.trans h.held, h.apart,
      h.isLive, h.told_of_keeps (opens.keepsDirectories.trans hwrites.keepsDirectories)
        fun guard hguard _ _ hown => opens.node?_rewrites hwrites hown (hnew free guard hguard)⟩
  | @won number opened opens free willing =>
    have hwrites := Host.rewrites_locked opened number pid
    refine ⟨Host.isSound_locked opens h.sound pid, ?_, ?_, ?_, ?_⟩
    · rw [List.map_cons, ← h.held, ← opens.held]
      rfl
    · refine List.nodup_cons.mpr ⟨fun hmem => ?_, h.apart⟩
      obtain ⟨guard, hguard, heq⟩ := List.mem_map.mp hmem
      exact hnew free guard hguard heq
    · exact List.forall_mem_cons.mpr ⟨rfl, h.isLive⟩
    · exact List.forall_mem_cons.mpr ⟨Host.look_locked opens pid,
        h.told_of_keeps (opens.keepsDirectories.trans hwrites.keepsDirectories)
          fun guard hguard _ _ hown => opens.node?_rewrites hwrites hown (hnew free guard hguard)⟩

/-- **Every event keeps the order.** -/
theorem isOrderly_step (h : holders.IsOrderly) (event : LockEvent) :
    (holders.step event).IsOrderly := by
  cases event with
  | acquire pid path => exact isOrderly_acquire h pid path
  | release guard =>
    by_cases hguard : guard ∈ holders.live
    · rw [step_giveUp h hguard (Or.inl rfl)]
      exact isOrderly_giveUp h hguard
    · rwa [step, if_neg hguard]
  | drop guard =>
    by_cases hguard : guard ∈ holders.live
    · rw [step_giveUp h hguard (Or.inr rfl)]
      exact isOrderly_giveUp h hguard
    · rwa [step, if_neg hguard]
  | turn refusals => exact ⟨⟨h.sound.tree, h.sound.held⟩, h.held, h.apart, h.isLive, h.told⟩

/-- **Every history keeps the order.** -/
theorem isOrderly_run (h : holders.IsOrderly) (events : List LockEvent) :
    (holders.run events).IsOrderly := by
  induction events generalizing holders with
  | nil => exact h
  | cons event events ih => exact ih (isOrderly_step h event)

/-- **A claim is refused** with an error: all locks are as before, and nothing was made but
directories. -/
structure Refused (holders : Holders) (pid : Nat) (path : Path) (error : Error) : Prop where
  /-- What the process is told. -/
  told : (holders.host.acquire pid path).1 = .error error
  /-- No guard comes or goes. -/
  live : (holders.step (.acquire pid path)).live = holders.live
  /-- Nothing is locked or given up. -/
  held : (holders.step (.acquire pid path)).host.held = holders.host.held
  /-- All files are what they were. -/
  files : holders.host.tree.Grown (holders.step (.acquire pid path)).host.tree

/-- **A claim is refused by its file**: nothing is locked, and no other file is touched. -/
structure Spoiled (holders : Holders) (pid : Nat) (path : Path) (number : Nat) (refusal : Refusal) :
    Prop where
  /-- What the process is told. -/
  told : (holders.host.acquire pid path).1 = .error (refusal.error path)
  /-- No guard comes or goes. -/
  live : (holders.step (.acquire pid path)).live = holders.live
  /-- Nothing is locked or given up. -/
  held : (holders.step (.acquire pid path)).host.held = holders.host.held
  /-- The file holds what it held, or the front of what was to be written. -/
  content : ∀ place content,
    (holders.step (.acquire pid path)).host.tree.node? place = some (.file number content) →
      holders.host.tree.node? place = some (.file number content) ∨
        content <+: Host.pidLine pid
  /-- All other files and sockets are what they were. -/
  others : ∀ place node own, node.number? = some own → own ≠ number →
    ((holders.step (.acquire pid path)).host.tree.node? place = some node ↔
      holders.host.tree.node? place = some node)

/-- **A claim is granted** on the file of a number. -/
structure Granted (holders : Holders) (pid : Nat) (path : Path) (number : Nat) : Prop where
  /-- What the process is told. -/
  told : (holders.host.acquire pid path).1 = .ok ⟨number, path⟩
  /-- There is a guard more. -/
  live : (holders.step (.acquire pid path)).live =
    { pid := pid, lock := ⟨number, path⟩ } :: holders.live
  /-- The file holds the process id and a newline, whatever was in it. -/
  written : (holders.step (.acquire pid path)).host.tree.look path =
    some (.file number (Host.pidLine pid))
  /-- All other files and sockets are what they were. -/
  others : ∀ place node own, node.number? = some own → own ≠ number →
    ((holders.step (.acquire pid path)).host.tree.node? place = some node ↔
      holders.host.tree.node? place = some node)

theorem refused_of_held (h : holders.IsOrderly) {path : Path} {number : Nat} {opened : Host}
    (hopens : holders.host.Opens path number opened) (hheld : number ∈ holders.host.held)
    (pid : Nat) : holders.Refused pid path (.alreadyRunning path.text) := by
  have hacquire := Host.acquire_of_held hopens hheld pid
  constructor
  · rw [hacquire]
  · simp only [step, hacquire]
  · simp only [step, hacquire]
    exact hopens.held
  · simp only [step, hacquire]
    exact hopens.grown (h.sound.held number hheld)

theorem refused_of_not_opens {path : Path}
    (hopens : ¬ ∃ number opened, holders.host.Opens path number opened) (pid : Nat) :
    ∃ culprit operation fault,
      holders.Refused pid path (.fileSystem culprit operation fault) := by
  obtain ⟨culprit, operation, fault, tree, hgrown, hacquire⟩ :=
    Host.acquire_of_not_opens hopens pid
  refine ⟨culprit, operation, fault, ?_, ?_, ?_, ?_⟩
  · rw [hacquire]
  all_goals simp only [step, hacquire]
  exact hgrown

theorem spoiled_of_refusal {path : Path} {number : Nat} {opened : Host} {refusal : Refusal}
    (hopens : holders.host.Opens path number opened) (hfree : number ∉ holders.host.held)
    (hrefusal : holders.host.refusals.lookup number = some refusal) (pid : Nat) :
    holders.Spoiled pid path number refusal := by
  have hacquire := Host.acquire_of_refusal hopens hfree hrefusal pid
  have hstep : holders.step (.acquire pid path) =
      ⟨opened.spoiled number pid refusal, holders.live⟩ := by
    rw [step, hacquire]
  constructor
  · rw [hacquire]
  all_goals rw [hstep]
  · exact hopens.held
  · intro place content hnode
    rcases refusal.content_leave hnode with hopened | hfront
    · rcases hopens.file_cases hopened with hsame | rfl
      · exact Or.inl hsame
      · exact Or.inr (List.nil_prefix)
    · exact Or.inr hfront
  · exact fun place node own hown hne =>
      hopens.node?_rewrites (Host.rewrites_spoiled _ _ _ _) hown hne

theorem granted_of_willing {path : Path} {number : Nat} {opened : Host}
    (hopens : holders.host.Opens path number opened) (hfree : number ∉ holders.host.held)
    (hwilling : holders.host.refusals.lookup number = none) (pid : Nat) :
    holders.Granted pid path number := by
  have hacquire := Host.acquire_of_willing hopens hfree hwilling pid
  have hstep : holders.step (.acquire pid path) =
      ⟨opened.locked number pid, { pid := pid, lock := ⟨number, path⟩ } :: holders.live⟩ := by
    rw [step, hacquire]
  constructor
  · rw [hacquire]
  all_goals rw [hstep]
  · exact Host.look_locked hopens pid
  · exact fun place node own hown hne =>
      hopens.node?_rewrites (Host.rewrites_locked _ _ _) hown hne

/-- **Giving a guard up frees its file** and no other. -/
theorem acquire_giveUp (h : holders.IsOrderly) (hguard : guard ∈ holders.live) (pid : Nat)
    (path : Path) : ((holders.host.release guard.lock).acquire pid path).1.isOk = true ↔
      (holders.host.acquire pid path).1.isOk = true ∨
        (∃ opened, holders.host.Opens path guard.lock.number opened) ∧
          holders.host.refusals.lookup guard.lock.number = none := by
  have hheld : guard.lock.number ∈ holders.host.held := h.mem_held.mpr ⟨guard, hguard, rfl⟩
  simp only [Host.acquire_isOk_iff, Host.opens_release_iff, Host.mem_held_release]
  constructor
  · rintro ⟨number, hopens, hfree, hwilling⟩
    rcases eq_or_ne number guard.lock.number with rfl | hnumber
    · exact Or.inr ⟨hopens, hwilling⟩
    · exact Or.inl ⟨number, hopens, fun hmem => hfree ⟨hmem, hnumber⟩, hwilling⟩
  · rintro (⟨number, hopens, hfree, hwilling⟩ | ⟨hopens, hwilling⟩)
    · exact ⟨number, hopens, fun hmem => hfree hmem.1, hwilling⟩
    · exact ⟨guard.lock.number, hopens, fun hmem => hmem.2 rfl, hwilling⟩

/-- **Locks exclude each other.** Whatever processes have done with locks so far, by whatever paths,
in whatever places a file stands, and whatever files have refused and refuse now:

* no file has two live locks, and the file of a live lock holds the process id of its holder;
* a claim on a file that can be opened is refused, as one already running, if the file has a live
  lock; if it has none the claim is granted, unless the file refuses to be locked or written, and
  then the claim fails with that, and nothing but that file may have changed;
* a claim on a file that cannot be opened is refused by the system;
* a guard that is released or goes leaves all files alone, and from then on exactly those claims are
  granted that were granted before and those on its own file, if that refuses nothing. -/
theorem locks_exclusive (host : Host) (sound : host.IsSound) (free : host.held = [])
    (events : List LockEvent) :
    let now := run ⟨host, []⟩ events
    (now.live.map (·.lock.number)).Nodup ∧
    (∀ guard ∈ now.live, now.host.tree.look guard.lock.path =
      some (.file guard.lock.number (Host.pidLine guard.pid))) ∧
    (∀ pid path number opened, now.host.Opens path number opened →
      ((∃ guard ∈ now.live, guard.lock.number = number) →
        now.Refused pid path (.alreadyRunning path.text)) ∧
      ((¬ ∃ guard ∈ now.live, guard.lock.number = number) →
        (now.host.refusals.lookup number = none → now.Granted pid path number) ∧
        (∀ refusal, now.host.refusals.lookup number = some refusal →
          now.Spoiled pid path number refusal))) ∧
    (∀ pid path, (¬ ∃ number opened, now.host.Opens path number opened) →
      ∃ culprit operation fault, now.Refused pid path (.fileSystem culprit operation fault)) ∧
    (∀ guard ∈ now.live, ∀ event, event = .release guard ∨ event = .drop guard →
      (now.step event).live = now.live.filter (· ≠ guard) ∧
      (now.step event).host.tree = now.host.tree ∧
      ∀ pid path, ((now.step event).host.acquire pid path).1.isOk = true ↔
        (now.host.acquire pid path).1.isOk = true ∨
          (∃ opened, now.host.Opens path guard.lock.number opened) ∧
            now.host.refusals.lookup guard.lock.number = none) := by
  intro now
  have start : IsOrderly ⟨host, []⟩ :=
    ⟨sound, free, List.nodup_nil, List.forall_mem_nil _, List.forall_mem_nil _⟩
  have h : now.IsOrderly := isOrderly_run start events
  refine ⟨h.apart, h.told, fun pid path number opened hopens => ⟨fun hlive => ?_, fun hlive => ?_⟩,
    fun pid path hopens => refused_of_not_opens hopens pid,
    fun guard hguard event hevent => ?_⟩
  · exact refused_of_held h hopens (h.mem_held.mpr hlive) pid
  · have hfree : number ∉ now.host.held := fun hheld => hlive (h.mem_held.mp hheld)
    exact ⟨fun hwilling => granted_of_willing hopens hfree hwilling pid,
      fun refusal hrefusal => spoiled_of_refusal hopens hfree hrefusal pid⟩
  · rw [step_giveUp h hguard hevent]
    exact ⟨rfl, rfl, acquire_giveUp h hguard⟩

/-- A process gets the lock of a file, and one that names the file in another way is refused: the
file stands at two places, and a path may have dots in it. -/
theorem locks_exclusive_respelled :
    let host : Host :=
      { tree := { nodes := [([[97]], .file 0 []), ([[98]], .file 0 [])], nextNumber := 1 } }
    host.IsSound ∧ host.held = [] ∧ (run ⟨host, []⟩ []).Granted 8 ⟨[97]⟩ 0 ∧
      (run ⟨host, []⟩ [.acquire 8 ⟨[97]⟩]).Refused 13 ⟨[46, 47, 98]⟩
        (.alreadyRunning (Path.text ⟨[46, 47, 98]⟩)) := by
  intro host
  have hsound : host.IsSound := by
    refine ⟨fun place node number hnode hnumber => ?_, List.forall_mem_nil _⟩
    rcases List.mem_cons.mp (FileTree.mem_nodes_of_number hnode hnumber) with hentry | hentry
    · cases hentry
      cases hnumber
      exact Nat.lt_succ_self 0
    · cases List.mem_singleton.mp hentry
      cases hnumber
      exact Nat.lt_succ_self 0
  refine ⟨hsound, rfl, ?_, ?_⟩
  · have hfirst := (locks_exclusive host hsound rfl []).2.2.1 8 ⟨[97]⟩ 0 _ ⟨_, _, _, rfl, rfl, rfl⟩
    exact (hfirst.2 (fun h => by obtain ⟨guard, hguard, -⟩ := h; cases hguard)).1 rfl
  · have hthird := (locks_exclusive host hsound rfl [.acquire 8 ⟨[97]⟩]).2.2.1 13
      ⟨[46, 47, 98]⟩ 0 _ ⟨_, _, _, rfl, rfl, rfl⟩
    exact hthird.1 ⟨⟨8, ⟨0, ⟨[97]⟩⟩, true⟩, List.mem_singleton.mpr rfl, rfl⟩

/-- **A file that nobody has locked may not be granted**: it can be opened, but not emptied, as a
device, and whoever claims it is told so. -/
theorem locks_refused_unheld :
    let holders : Holders := ⟨{ refusals := [(0, .empty (.number 22))] }, []⟩
    holders.host.IsSound ∧ holders.host.held = [] ∧
      ¬ ∀ pid path number opened, holders.host.Opens path number opened →
        ((holders.host.acquire pid path).1.isOk = true ↔
          ¬ ∃ guard ∈ holders.live, guard.lock.number = number) := by
  intro holders
  refine ⟨⟨FileTree.isSound_empty, List.forall_mem_nil _⟩, rfl, fun h => ?_⟩
  have hgranted := (h 8 ⟨[97]⟩ 0 _ ⟨_, _, _, rfl, rfl, rfl⟩).mpr (by
    rintro ⟨guard, hguard, -⟩
    cases hguard)
  cases hgranted

end Holders

end TaskDaemon
