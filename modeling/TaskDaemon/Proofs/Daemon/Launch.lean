import TaskDaemon.Daemon.Launch
import TaskDaemon.Proofs.Host.Lock

/-!
# A daemon gives back what it took

A run takes a lock, and then a socket; whatever way it ends, it has to leave both as they can be
taken again. What stands in the way of an easy answer are the paths, which may be anything: both may
lead to one place, so that clearing the way for the socket removes the lock file; and directories on
the way may be missing, so that a path leads somewhere only once they are made.

* `TaskDaemon.Reopens`: the file of a lock is there, or its place is free and may be taken; what a
  run keeps of its lock file;
* `TaskDaemon.Host.Undisturbed`: others leave the two paths alone while the daemon listens;
* `TaskDaemon.Host.Course`: how far a run gets, with all it has done by then, from which everything
  about runs is derived, as `TaskDaemon.Host.run_of_launch`: a run is a launch, what happens
  meanwhile, and a conclusion;
* `TaskDaemon.Host.run_gives_back`: what a run leaves behind;
* `TaskDaemon.Host.run_changes_more`: why more cannot be said of a run that is refused its lock.
-/

namespace TaskDaemon

open FileTree

/-! ### The file of a lock -/

/-- **The file of a lock can be opened again**: it is there with its number, or nothing stands in
its place, which may be taken. -/
def Reopens (tree : FileTree) (path : Path) (number : Nat) : Prop :=
  ∃ spot, tree.reach path = .ok spot ∧ spot.slashed = false ∧ spot.checkName = .ok () ∧
    ((∃ content, tree.node? spot.place = some (.file number content)) ∨
      (tree.node? spot.place = none ∧ checkOwned spot.place = .ok ()))

/-- **No sockets were made** since, that are still there. -/
def NoNewSockets (tree after : FileTree) : Prop :=
  ∀ place number, after.node? place = some (.socket number) →
    tree.node? place = some (.socket number)

/-- **Others leave a path alone**: it can be followed as before, and what it leads to is the
same. -/
def Spares (before after : FileTree) (path : Path) : Prop :=
  ∀ spot, before.reach path = .ok spot →
    after.reach path = .ok spot ∧ after.node? spot.place = before.node? spot.place

section

variable {tree bound after last : FileTree} {lock sock : Path} {number own : Nat} {content : Bytes}

theorem reopens_of_look (h : tree.look lock = some (.file number content)) :
    Reopens tree lock number := by
  obtain ⟨spot, hreach, hslashed, hname, hnode⟩ := (look_eq_some_iff rfl).mp h
  exact ⟨spot, hreach, hslashed, hname, Or.inl ⟨content, hnode⟩⟩

theorem spares_refl (tree : FileTree) (path : Path) : Spares tree tree path :=
  fun _ hreach => ⟨hreach, rfl⟩

/-- **What is removed may be made again**: the lock file is still there, or its place was the one
that was cleared. -/
theorem reopens_remove (h : tree.look lock = some (.file number content))
    (hremove : tree.remove sock = .ok after) : Reopens after lock number := by
  obtain ⟨spot, hreach, hslashed, hname, hnode⟩ := (look_eq_some_iff rfl).mp h
  obtain ⟨place, -, -, hat, howned, rfl⟩ := remove_eq_ok_iff.mp hremove
  refine ⟨spot, reach_of_keeps (keepsDirectories_drop hat) hreach, hslashed, hname, ?_⟩
  rw [node?_drop hat]
  by_cases hplace : spot.place = place
  · exact Or.inr ⟨if_pos hplace, hplace ▸ howned⟩
  · exact Or.inl ⟨content, (if_neg hplace).trans hnode⟩

/-- **A socket that was bound can be removed** as long as others leave it alone; then nothing stands
in its place, and nothing else is touched. -/
theorem remove_of_bind (hbind : tree.bindSocket sock = .ok (own, bound))
    (spares : Spares bound after sock) :
    ∃ spot, tree.reach sock = .ok spot ∧ checkOwned spot.place = .ok () ∧
      after.reach sock = .ok spot ∧ ¬ after.DirectoryAt spot.place ∧
      (∀ place, bound.node? place =
        if place = spot.place then some (.socket own) else tree.node? place) ∧
      tree.KeepsDirectories bound ∧ after.remove sock = .ok (after.drop spot.place) := by
  obtain ⟨-, spot, hreach, hname, hnone, hslashed, howned, -, rfl⟩ := bindSocket_eq_ok_iff.mp hbind
  have hat := not_directoryAt_of_none hnone
  have keeps : tree.KeepsDirectories
      { tree.put spot.place (.socket own) with nextNumber := own + 1 } := keepsDirectories_put hat _
  obtain ⟨hafter, hnode⟩ := spares spot (reach_of_keeps keeps hreach)
  have hnode : after.node? spot.place = some (.socket own) :=
    hnode.trans ((node?_put hat _ _).trans (if_pos rfl))
  have hnot := not_directoryAt_of_number hnode rfl
  refine ⟨spot, hreach, howned, hafter, hnot, node?_put hat _, keeps, ?_⟩
  refine remove_eq_ok_iff.mpr ⟨spot.place, ?_, by rw [hnode]; nofun, hnot, howned, rfl⟩
  exact locate_eq_ok_iff.mpr ⟨spot, hafter, hname, rfl, by rw [hslashed]; nofun⟩

/-- **Binding and ending a socket** leaves the file of a lock as it was: if that was where the
socket stood, nothing stands there now. -/
theorem reopens_unbind (h : Reopens tree lock number)
    (hbind : tree.bindSocket sock = .ok (own, bound)) (sparesLock : Spares bound after lock)
    (sparesSock : Spares bound after sock) (hremove : after.remove sock = .ok last) :
    Reopens last lock number := by
  obtain ⟨spot, hreach, hslashed, hname, hspot⟩ := h
  obtain ⟨place, -, howned, -, hnot, hnode, keeps, hremoved⟩ := remove_of_bind hbind sparesSock
  cases hremove.symm.trans hremoved
  obtain ⟨hafter, hsame⟩ := sparesLock spot (reach_of_keeps keeps hreach)
  refine ⟨spot, reach_of_keeps (keepsDirectories_drop hnot) hafter, hslashed, hname, ?_⟩
  rw [node?_drop hnot]
  by_cases hplace : spot.place = place.place
  · exact Or.inr ⟨if_pos hplace, hplace ▸ howned⟩
  · rw [if_neg hplace, hsame, hnode, if_neg hplace]
    exact hspot

/-- **Where the socket was nothing is found** once it is removed. -/
theorem look_unbind (hbind : tree.bindSocket sock = .ok (own, bound))
    (spares : Spares bound after sock) (hremove : after.remove sock = .ok last) :
    last.look sock = none := by
  obtain ⟨spot, -, -, hafter, hnot, -, -, hremoved⟩ := remove_of_bind hbind spares
  cases hremove.symm.trans hremoved
  exact look_eq_none (reach_of_keeps (keepsDirectories_drop hnot) hafter)
    ((node?_drop hnot _).trans (if_pos rfl))

/-! ### Sockets -/

theorem NoNewSockets.trans (h : NoNewSockets tree after) (h' : NoNewSockets after last) :
    NoNewSockets tree last :=
  fun place number hsocket => h place number (h' place number hsocket)

theorem noNewSockets_grown (h : tree.Grown after) : NoNewSockets tree after :=
  fun _ _ => (h.node?_iff rfl).mp

theorem noNewSockets_remove {path : Path} (h : tree.remove path = .ok after) :
    NoNewSockets tree after := by
  obtain ⟨place, -, -, hat, -, rfl⟩ := remove_eq_ok_iff.mp h
  intro other number hsocket
  rw [node?_drop hat] at hsocket
  split_ifs at hsocket
  exact hsocket

theorem noNewSockets_openFile {path : Path} {place : Place}
    (h : tree.openFile path = .ok (place, number, after)) : NoNewSockets tree after := by
  obtain ⟨spot, -, -, -, -, ⟨content, -, rfl⟩ | ⟨hnone, -, -, rfl⟩⟩ := openFile_eq_ok_iff.mp h
  · exact fun _ _ hsocket => hsocket
  · intro other own hsocket
    have hput := (node?_put (not_directoryAt_of_none hnone) (.file number []) other).symm.trans
      hsocket
    split_ifs at hput
    · cases hput
    · exact hput

theorem noNewSockets_rewrites (h : tree.Rewrites number after) : NoNewSockets tree after :=
  fun _ _ => (h.node?_iff fun _ heq => by cases heq).mp

/-- A socket that is bound and removed again is none that is still there. -/
theorem noNewSockets_unbind (hbind : tree.bindSocket sock = .ok (own, bound))
    (hremove : bound.remove sock = .ok last) : NoNewSockets tree last := by
  obtain ⟨spot, -, -, -, hnot, hnode, -, hremoved⟩ := remove_of_bind hbind (spares_refl _ _)
  cases hremove.symm.trans hremoved
  intro place number hsocket
  rw [node?_drop hnot] at hsocket
  split_ifs at hsocket with hplace
  rw [hnode, if_neg hplace] at hsocket
  exact hsocket

end

namespace Host

variable {network : Network} {host after : Host} {pid : Nat} {config : DaemonConfig}
  {meanwhile : Host → Host} {ending : Ending} {launched : Launched}

/-! ### The stages of a run -/

/-- **A name leads to nothing** in any tree. -/
theorem look_isName {path : Path} (h : path.isName = true) (tree : FileTree) :
    tree.look path = none := by
  have hcheck : checkPath path ≠ .ok () := by
    rw [ne_eq, checkPath_eq_ok_iff]
    rintro ⟨hempty, hzero, -⟩
    rw [Path.isName, hempty, Bool.false_or] at h
    obtain ⟨rest, hbytes⟩ := List.head?_eq_some_iff.mp (of_decide_eq_true h)
    rw [hbytes] at hzero
    cases hzero
  have hreach (spot : Spot) : tree.reach path ≠ .ok spot :=
    fun hspot => hcheck (reach_eq_ok_iff.mp hspot).1
  rw [look]
  split
  case h_1 place hlocate =>
    obtain ⟨spot, hspot, -⟩ := locate_eq_ok_iff.mp hlocate
    exact absurd hspot (hreach spot)
  · rfl

/-- **Clearing the way for a socket** makes directories, and removes what stands in its place then,
if that can be done. -/
theorem prepareSocket_eq (host : Host) (path : Path) :
    ∃ parent outcome made tree,
      host.makeParent "create socket directory" path = (parent, { host with tree := made }) ∧
      host.prepareSocket path = (outcome, { host with tree := tree }) ∧ host.tree.Grown made ∧
      ((tree = made ∧ ∀ removed, parent = .ok () → made.remove path ≠ .ok removed) ∨
        (parent = .ok () ∧ made.remove path = .ok tree)) := by
  obtain ⟨parent, made, hmade, hgrown⟩ := host.makeParent_eq "create socket directory" path
  rw [prepareSocket, hmade]
  cases parent with
  | error error => exact ⟨_, _, made, made, rfl, rfl, hgrown, Or.inl ⟨rfl, nofun⟩⟩
  | ok _ =>
    dsimp only
    cases hremove : made.remove path with
    | ok tree => exact ⟨_, _, made, tree, rfl, rfl, hgrown, Or.inr ⟨rfl, hremove⟩⟩
    | error fault =>
      have hkept (removed : FileTree) : made.remove path ≠ .ok removed := by
        rw [hremove]
        nofun
      dsimp only
      split_ifs
      · exact ⟨_, _, made, made, rfl, rfl, hgrown, Or.inl ⟨rfl, fun removed _ => hkept removed⟩⟩
      · exact ⟨_, _, made, made, rfl, rfl, hgrown, Or.inl ⟨rfl, fun removed _ => hkept removed⟩⟩

/-- **What a listener takes**: a name, or a place for its socket file; in both cases a number. -/
theorem bindSocket_cases {path : Path} {number : Nat}
    (h : host.bindSocket path = .ok (number, after)) :
    (path.isName = true ∧ host.takeName path = (number, after)) ∨
      (path.isName = false ∧ ∃ bound, host.tree.bindSocket path = .ok (number, bound) ∧
        { host with tree := bound } = after) := by
  rw [bindSocket] at h
  split_ifs at h with hname
  · obtain ⟨_, -, h⟩ := Attempt.bind_eq_ok_iff.mp h
    dsimp only at h
    split_ifs at h
    · cases h
    · exact Or.inl ⟨hname, Except.ok.inj h⟩
  · obtain ⟨⟨own, bound⟩, hbind, heq⟩ := Attempt.map_eq_ok_iff.mp h
    cases heq
    exact Or.inr ⟨(Bool.not_eq_true _).mp hname, bound, hbind, rfl⟩

/-- **Binding both listeners** ends in one of three ways: nothing was bound, or the socket was bound
and given back, or both are bound. -/
theorem listenAll_cases (network : Network) (host : Host) (path : Path) (restHost : Ip) :
    (∃ error, host.listenAll network (.unix path) restHost = (.error error, host)) ∨
      ∃ number bound, host.bindSocket path = .ok (number, bound) ∧
        ((∃ error, host.listenAll network (.unix path) restHost =
            (.error error, bound.unlisten (.unix path number))) ∨
          ∃ address, host.listenAll network (.unix path) restHost =
            (.ok ⟨.unix path number, address⟩, bound)) := by
  rw [listenAll, listen]
  cases host.bindSocket path with
  | error fault => exact Or.inl ⟨_, rfl⟩
  | ok result =>
    obtain ⟨number, bound⟩ := result
    refine Or.inr ⟨number, bound, rfl, ?_⟩
    dsimp only
    cases network.listen ⟨restHost, 0, 0⟩ with
    | error fault => exact Or.inl ⟨_, rfl⟩
    | ok address => exact Or.inr ⟨address, rfl⟩

theorem listenAll_eq_ok {path : Path} {restHost : Ip} {listeners : Listeners}
    (h : host.listenAll network (.unix path) restHost = (.ok listeners, after)) :
    ∃ number, host.bindSocket path = .ok (number, after) ∧ listeners.rpc = .unix path number := by
  rcases listenAll_cases network host path restHost with
    ⟨error, hlisten⟩ | ⟨number, bound, hbind, ⟨error, hlisten⟩ | ⟨address, hlisten⟩⟩
  · cases h.symm.trans hlisten
  · cases h.symm.trans hlisten
  · cases h.symm.trans hlisten
    exact ⟨number, hbind, rfl⟩

/-- Ending a listener on a path is removing what is there. -/
theorem unlisten_unix {path : Path} (hname : path.isName = false) {tree : FileTree}
    (hremove : host.tree.remove path = .ok tree) (number : Nat) :
    host.unlisten (.unix path number) = { host with tree := tree } := by
  rw [unlisten, freeSocket, hname, if_neg (by decide), removeIfAny, hremove]

/-- Ending a listener with a name leaves the files alone. -/
theorem unlisten_isName {path : Path} (hname : path.isName = true) (number : Nat) :
    host.unlisten (.unix path number) =
      { host with names := host.names.filter fun name => name.2 ≠ number } := by
  rw [unlisten, freeSocket, if_pos hname]

/-- **How far a run gets**, what the launch comes to there, and what the run comes to. As long as
nothing listens both are the same, but that nobody minds what went wrong with listening where the
daemon was to stop anyway. -/
inductive Course (network : Network) (host : Host) (pid : Nat) (config : DaemonConfig)
    (meanwhile : Host → Host) (ending : Ending) :
    Outcome Launched × Host → Outcome Unit × Host → Prop where
  /-- The lock was not granted. -/
  | unlocked {error taken} (acquired : host.acquire pid config.lockFile = (.error error, taken)) :
    Course network host pid config meanwhile ending
      (.error (.context "cannot start server" error), taken)
      (.error (.context "cannot start server" error), taken)
  /-- The way for the socket could not be cleared. -/
  | uncleared {lock taken error prepared}
    (acquired : host.acquire pid config.lockFile = (.ok lock, taken))
    (cleared : taken.prepareSocket config.sockFile = (.error error, prepared)) :
    Course network host pid config meanwhile ending (.error error, prepared.release lock)
      (.error error, prepared.release lock)
  /-- A listener could not be bound. -/
  | unbound {lock taken prepared error listening}
    (acquired : host.acquire pid config.lockFile = (.ok lock, taken))
    (cleared : taken.prepareSocket config.sockFile = (.ok (), prepared))
    (bound : prepared.listenAll network (.unix config.sockFile) config.server.http.host =
      (.error error, listening)) :
    Course network host pid config meanwhile ending
      (.error (.context "server terminated" error), listening.release lock)
      (ending.unbound (.context "server terminated" error), listening.release lock)
  /-- The daemon listened, and its serving ended. -/
  | served {lock taken prepared listeners listening}
    (acquired : host.acquire pid config.lockFile = (.ok lock, taken))
    (cleared : taken.prepareSocket config.sockFile = (.ok (), prepared))
    (bound : prepared.listenAll network (.unix config.sockFile) config.server.http.host =
      (.ok listeners, listening)) :
    Course network host pid config meanwhile ending (.ok ⟨lock, listeners⟩, listening)
      (ending.outcome, (meanwhile listening).conclude ⟨lock, listeners⟩)

/-- **Every run takes one of these courses.** -/
theorem course (network : Network) (host : Host) (pid : Nat) (config : DaemonConfig)
    (meanwhile : Host → Host) (ending : Ending) :
    Course network host pid config meanwhile ending (host.launch network pid config)
      (host.run network pid config meanwhile ending) := by
  cases acquired : host.acquire pid config.lockFile with
  | mk outcome taken =>
    cases outcome with
    | error error =>
      simp only [launch, run, acquired]
      exact .unlocked acquired
    | ok lock =>
      cases cleared : taken.prepareSocket config.sockFile with
      | mk outcome prepared =>
        cases outcome with
        | error error =>
          simp only [launch, run, openListeners, serveUntil, acquired, cleared]
          exact .uncleared acquired cleared
        | ok _ =>
          cases bound : prepared.listenAll network (.unix config.sockFile)
              config.server.http.host with
          | mk outcome listening =>
            cases outcome with
            | error error =>
              simp only [launch, run, openListeners, serveUntil, acquired, cleared, bound]
              exact .unbound acquired cleared bound
            | ok listeners =>
              simp only [launch, run, openListeners, serveUntil, acquired, cleared, bound]
              exact .served acquired cleared bound

/-- **Every launch is the beginning of one of these courses**, whatever the run may come to. -/
theorem course_of_launch {outcome : Outcome Launched}
    (h : host.launch network pid config = (outcome, after)) :
    ∃ ran, Course network host pid config id .drained (outcome, after) ran :=
  ⟨_, h ▸ course network host pid config id .drained⟩

/-- **A run is a launch, what happens meanwhile, and a conclusion.** -/
theorem run_of_launch (h : host.launch network pid config = (.ok launched, after)) :
    host.run network pid config meanwhile ending =
      (ending.outcome, (meanwhile after).conclude launched) := by
  have hcourse := course network host pid config meanwhile ending
  rw [h] at hcourse
  generalize host.run network pid config meanwhile ending = ran at hcourse
  cases hcourse
  rfl

/-! ### What each stage keeps -/

variable {opened : Host} {lock : Path} {number : Nat} {content : Bytes}

theorem IsSound.remove (sound : host.IsSound) {path : Path} {tree : FileTree}
    (h : host.tree.remove path = .ok tree) : ({ host with tree := tree } : Host).IsSound := by
  obtain ⟨place, -, -, hat, -, rfl⟩ := remove_eq_ok_iff.mp h
  exact ⟨sound.tree.drop hat, sound.held⟩

theorem IsSound.bind (sound : host.IsSound) {path : Path} {own : Nat} {bound : FileTree}
    (h : host.tree.bindSocket path = .ok (own, bound)) :
    ({ host with tree := bound } : Host).IsSound := by
  obtain ⟨-, spot, -, -, hnone, -, -, rfl, rfl⟩ := bindSocket_eq_ok_iff.mp h
  exact ⟨sound.tree.put (not_directoryAt_of_none hnone) rfl,
    fun held hheld => Nat.lt_succ_of_lt (sound.held held hheld)⟩

/-- A name takes a number, and leaves the files alone. -/
theorem IsSound.takeName (sound : host.IsSound) {path : Path}
    (h : host.takeName path = (number, after)) : after.IsSound := by
  cases h
  exact ⟨fun place node own hnode hown => Nat.lt_succ_of_lt (sound.tree place node own hnode hown),
    fun held hheld => Nat.lt_succ_of_lt (sound.held held hheld)⟩

theorem IsSound.bindSocket (sound : host.IsSound) {path : Path}
    (h : host.bindSocket path = .ok (number, after)) : after.IsSound := by
  rcases bindSocket_cases h with ⟨-, htake⟩ | ⟨-, bound, hbind, rfl⟩
  · exact sound.takeName htake
  · exact sound.bind hbind

theorem IsSound.prepareSocket (sound : host.IsSound) {path : Path} {outcome : Outcome Unit}
    (h : host.prepareSocket path = (outcome, after)) : after.IsSound := by
  obtain ⟨_, outcome', made, tree, -, hprepare, hgrown, htree⟩ := host.prepareSocket_eq path
  cases h.symm.trans hprepare
  rcases htree with ⟨rfl, -⟩ | ⟨-, hremove⟩
  · exact sound.grown hgrown
  · exact (sound.grown hgrown).remove hremove

/-- **Clearing the way for a socket** leaves the lock file there, or its place free. -/
theorem prepareSocket_keeps (hlook : host.tree.look lock = some (.file number content))
    {path : Path} {outcome : Outcome Unit} (h : host.prepareSocket path = (outcome, after)) :
    Reopens after.tree lock number ∧ NoNewSockets host.tree after.tree := by
  obtain ⟨_, outcome', made, tree, -, hprepare, hgrown, htree⟩ := host.prepareSocket_eq path
  cases h.symm.trans hprepare
  have hmade : made.look lock = some (.file number content) :=
    look_of_keeps hgrown.keepsDirectories rfl (fun place => (hgrown.node?_iff rfl).mpr) hlook
  rcases htree with ⟨rfl, -⟩ | ⟨-, hremove⟩
  · exact ⟨reopens_of_look hmade, noNewSockets_grown hgrown⟩
  · exact ⟨reopens_remove hmade hremove,
      (noNewSockets_grown hgrown).trans (noNewSockets_remove hremove)⟩

/-- Taking a name leaves the file of a lock as it was. -/
theorem reopens_takeName (h : Reopens host.tree lock own) {path : Path}
    (htake : host.takeName path = (number, after)) : Reopens after.tree lock own := by
  have keeps : host.tree.KeepsDirectories after.tree := by
    cases htake
    exact fun _ hat => hat
  obtain ⟨spot, hreach, hspot⟩ := h
  cases htake
  exact ⟨spot, reach_of_keeps keeps hreach, hspot⟩

/-- **Where a listener cannot be bound** nothing that was bound is left. -/
theorem listenAll_keeps {path : Path} (hreopens : Reopens host.tree lock number)
    (sound : host.IsSound) {restHost : Ip} {error : Error}
    (h : host.listenAll network (.unix path) restHost = (.error error, after)) :
    Reopens after.tree lock number ∧ NoNewSockets host.tree after.tree ∧ after.IsSound := by
  rcases listenAll_cases network host path restHost with
    ⟨error', hlisten⟩ | ⟨own, bound, hbind, ⟨error', hlisten⟩ | ⟨address, hlisten⟩⟩
  · cases h.symm.trans hlisten
    exact ⟨hreopens, fun _ _ hsocket => hsocket, sound⟩
  · rcases bindSocket_cases hbind with ⟨hname, htake⟩ | ⟨hname, tree, hput, rfl⟩
    · have hbound := sound.takeName htake
      have hreopens := reopens_takeName hreopens htake
      rw [unlisten_isName hname] at hlisten
      cases h.symm.trans hlisten
      cases htake
      exact ⟨hreopens, fun _ _ hsocket => hsocket, hbound.tree, hbound.held⟩
    · -- the socket was bound, and is removed since the other listener could not be
      obtain ⟨spot, -, -, -, -, -, -, hremove⟩ := remove_of_bind hput (spares_refl tree path)
      rw [unlisten_unix hname hremove] at hlisten
      cases h.symm.trans hlisten
      exact ⟨reopens_unbind hreopens hput (spares_refl tree lock) (spares_refl tree path) hremove,
        noNewSockets_unbind hput hremove, (sound.bind hput).remove hremove⟩
  · cases h.symm.trans hlisten

/-- **A daemon that has listened** leaves nothing at the path of its socket. -/
theorem unlisten_keeps {path : Path} (hreopens : Reopens host.tree lock number) {restHost : Ip}
    {listeners : Listeners}
    (h : host.listenAll network (.unix path) restHost = (.ok listeners, after)) {later : Host}
    (sparesLock : Spares after.tree later.tree lock)
    (sparesSock : Spares after.tree later.tree path) (sound : later.IsSound) :
    Reopens (later.unlisten listeners.rpc).tree lock number ∧
      (later.unlisten listeners.rpc).tree.look path = none ∧
      (later.unlisten listeners.rpc).IsSound := by
  obtain ⟨own, hbind, hrpc⟩ := listenAll_eq_ok h
  rw [hrpc]
  rcases bindSocket_cases hbind with ⟨hname, htake⟩ | ⟨hname, bound, hput, rfl⟩
  · obtain ⟨spot, hreach, hslashed, hchecked, hspot⟩ := reopens_takeName hreopens htake
    obtain ⟨hlater, hsame⟩ := sparesLock spot hreach
    rw [unlisten_isName hname]
    exact ⟨⟨spot, hlater, hslashed, hchecked, hsame ▸ hspot⟩, look_isName hname _,
      sound.tree, sound.held⟩
  · obtain ⟨spot, -, -, -, -, -, -, hremove⟩ := remove_of_bind hput sparesSock
    rw [unlisten_unix hname hremove]
    exact ⟨reopens_unbind hreopens hput sparesLock sparesSock hremove,
      look_unbind hput sparesSock hremove, sound.remove hremove⟩

theorem Opens.noNewSockets (h : host.Opens lock number opened) :
    NoNewSockets host.tree opened.tree := by
  obtain ⟨tree, place, hgrown, hopen⟩ := h.exists_tree
  exact (noNewSockets_grown hgrown).trans (noNewSockets_openFile hopen)

/-- **A file that can be opened again can be claimed again**, if its lock was given up: it is the
same file or a new one, and the lock is granted unless that refuses. -/
theorem opens_of_reopens (h : Reopens host.tree lock number) (sound : host.IsSound)
    (hfree : number ∉ host.held) : ∃ own again, host.Opens lock own again ∧ own ∉ host.held ∧
      (own = number ∨ own = host.tree.nextNumber) ∧
      ∀ pid, (host.acquire pid lock).1.isOk = true ↔ host.refusals.lookup own = none := by
  have hgranted {own : Nat} {again : Host} (hopens : host.Opens lock own again)
      (hown : own ∉ host.held) (pid : Nat) :
      (host.acquire pid lock).1.isOk = true ↔ host.refusals.lookup own = none := by
    rw [acquire_isOk_iff]
    constructor
    · rintro ⟨other, ⟨opened, hother⟩, -, hwilling⟩
      rwa [(hopens.unique hother).1]
    · exact fun hwilling => ⟨own, ⟨again, hopens⟩, hown, hwilling⟩
  obtain ⟨spot, hreach, hslashed, hname, ⟨content, hnode⟩ | ⟨hnode, howned⟩⟩ := h
  · have hopens := opens_of_look
      ((look_eq_some_iff rfl).mpr ⟨spot, hreach, hslashed, hname, hnode⟩)
    exact ⟨number, host, hopens, hfree, Or.inl rfl, hgranted hopens hfree⟩
  · have hmade := makeParent_of_reach hreach (not_directoryAt_of_none hnode)
      "create lock directory"
    have hopens : ∃ again, host.Opens lock host.tree.nextNumber again :=
      ⟨_, host, spot.place, _, hmade, openFile_eq_ok_iff.mpr
        ⟨spot, hreach, hslashed, hname, rfl, Or.inr ⟨hnode, howned, rfl, rfl⟩⟩, rfl⟩
    obtain ⟨again, hopens⟩ := hopens
    have hnew : host.tree.nextNumber ∉ host.held := fun hheld => (sound.held _ hheld).false
    exact ⟨_, again, hopens, hnew, Or.inr rfl, hgranted hopens hnew⟩

/-! ### What a run leaves behind -/

/-- **Others leave the two paths of a daemon alone**, and take nothing twice. -/
structure Undisturbed (config : DaemonConfig) (before after : Host) : Prop where
  /-- The file of the lock. -/
  lockFile : Spares before.tree after.tree config.lockFile
  /-- The socket. -/
  sockFile : Spares before.tree after.tree config.sockFile
  /-- Numbers are given once. -/
  sound : after.IsSound

/-- **A run whose lock file refuses** fails with that, and has changed that file at most. -/
theorem run_of_refusal (hopens : host.Opens config.lockFile number opened)
    (hfree : number ∉ host.held) {refusal : Refusal}
    (hrefusal : host.refusals.lookup number = some refusal) :
    host.run network pid config meanwhile ending =
      (.error (.context "cannot start server" (refusal.error config.lockFile)),
        opened.spoiled number pid refusal) := by
  rw [run, acquire_of_refusal hopens hfree hrefusal]

/-- **A run that found its lock free** leaves its file such that it can be opened, its lock given
up, and no socket that is its own. -/
theorem run_of_free (hopens : host.Opens config.lockFile number opened)
    (hfree : number ∉ host.held) (sound : host.IsSound)
    (undisturbed : ∀ launched after, host.launch network pid config = (.ok launched, after) →
      Undisturbed config after (meanwhile after)) {ran : Outcome Unit × Host}
    (hran : host.run network pid config meanwhile ending = ran) :
    Reopens ran.2.tree config.lockFile number ∧ ran.2.IsSound ∧ number ∉ ran.2.held ∧
      (NoNewSockets host.tree ran.2.tree ∨ ran.2.tree.look config.sockFile = none) := by
  cases hrefusal : host.refusals.lookup number with
  | some refusal =>
    have hwrites := rewrites_spoiled opened number pid refusal
    cases hran.symm.trans (run_of_refusal hopens hfree hrefusal)
    obtain ⟨content, hopened⟩ := hopens.look
    obtain ⟨left, hlook⟩ := hwrites.look hopened
    exact ⟨reopens_of_look hlook, isSound_spoiled hopens sound pid refusal,
      fun hheld => hfree (hopens.held ▸ hheld),
      Or.inl (hopens.noNewSockets.trans (noNewSockets_rewrites hwrites))⟩
  | none =>
    have hacquire := acquire_of_willing hopens hfree hrefusal pid
    have hlook := look_locked hopens pid
    have hsound := isSound_locked hopens sound pid
    have hsockets : NoNewSockets host.tree (opened.locked number pid).tree :=
      hopens.noNewSockets.trans (noNewSockets_rewrites (rewrites_locked opened number pid))
    have hreleased (host : Host) : number ∉ (host.release ⟨number, config.lockFile⟩).held :=
      fun hheld => (mem_held_release.mp hheld).2 rfl
    have hcourse := course network host pid config meanwhile ending
    rw [hran] at hcourse
    generalize hlaunch : host.launch network pid config = launch at hcourse
    cases hcourse with
    | unlocked acquired => cases hacquire.symm.trans acquired
    | uncleared acquired cleared =>
      cases hacquire.symm.trans acquired
      obtain ⟨hreopens, hnew⟩ := prepareSocket_keeps hlook cleared
      exact ⟨hreopens, (hsound.prepareSocket cleared).release _, hreleased _,
        Or.inl (hsockets.trans hnew)⟩
    | unbound acquired cleared bound =>
      cases hacquire.symm.trans acquired
      obtain ⟨hreopens, hnew⟩ := prepareSocket_keeps hlook cleared
      obtain ⟨hreopens, hnew', hlistening⟩ :=
        listenAll_keeps hreopens (hsound.prepareSocket cleared) bound
      exact ⟨hreopens, hlistening.release _, hreleased _,
        Or.inl ((hsockets.trans hnew).trans hnew')⟩
    | served acquired cleared bound =>
      cases hacquire.symm.trans acquired
      obtain ⟨hreopens, -⟩ := prepareSocket_keeps hlook cleared
      obtain ⟨hlock, hsock, hlater⟩ := undisturbed _ _ hlaunch
      obtain ⟨hreopens, hnone, hended⟩ := unlisten_keeps hreopens bound hlock hsock hlater
      exact ⟨hreopens, hended.release _, hreleased _, Or.inr hnone⟩

/-- **A run that is refused its lock** fails and leaves what opening the file has left. -/
theorem run_of_held (hopens : host.Opens config.lockFile number opened)
    (hheld : number ∈ host.held) : host.run network pid config meanwhile ending =
      (.error (.context "cannot start server" (.alreadyRunning config.lockFile.text)), opened) := by
  rw [run, acquire_of_held hopens hheld]

/-- **A run whose lock file cannot be opened** fails, and has made directories at most. -/
theorem run_of_not_opens (hopens : ¬ ∃ number opened, host.Opens config.lockFile number opened) :
    ∃ error tree, host.run network pid config meanwhile ending =
      (.error error, { host with tree := tree }) ∧ host.tree.Grown tree := by
  obtain ⟨culprit, operation, fault, tree, hgrown, hacquire⟩ := acquire_of_not_opens hopens pid
  exact ⟨_, tree, by rw [run, hacquire], hgrown⟩

/-- **No run leaves a socket of its own** at the path of its socket file. -/
theorem run_sockets (sound : host.IsSound)
    (undisturbed : ∀ launched after, host.launch network pid config = (.ok launched, after) →
      Undisturbed config after (meanwhile after)) {ran : Outcome Unit × Host}
    (hran : host.run network pid config meanwhile ending = ran) :
    NoNewSockets host.tree ran.2.tree ∨ ran.2.tree.look config.sockFile = none := by
  by_cases hopens : ∃ number opened, host.Opens config.lockFile number opened
  · obtain ⟨number, opened, hopens⟩ := hopens
    by_cases hheld : number ∈ host.held
    · cases hran.symm.trans (run_of_held hopens hheld)
      exact Or.inl (noNewSockets_grown (hopens.grown (sound.held number hheld)))
    · exact (run_of_free hopens hheld sound undisturbed hran).2.2.2
  · obtain ⟨error, tree, hfailed, hgrown⟩ := run_of_not_opens hopens
    cases hran.symm.trans hfailed
    exact Or.inl (noNewSockets_grown hgrown)

/-- **Being asked to stop before anything listens** is no failure, even if nothing could have. -/
theorem run_withdrawn {lock : FileLock} {taken prepared : Host}
    (acquired : host.acquire pid config.lockFile = (.ok lock, taken))
    (cleared : taken.prepareSocket config.sockFile = (.ok (), prepared)) :
    (host.run network pid config meanwhile .withdrawn).1 = .ok () := by
  rw [run, acquired]
  simp only [serveUntil, cleared]
  cases prepared.listenAll network (.unix config.sockFile) config.server.http.host with
  | mk outcome listening => cases outcome <;> rfl

/-- **Those who do nothing disturb nobody.** -/
theorem undisturbed_refl (sound : host.IsSound)
    (h : host.launch network pid config = (.ok launched, after)) :
    Undisturbed config after after := by
  refine ⟨spares_refl _ _, spares_refl _ _, ?_⟩
  obtain ⟨ran, hcourse⟩ := course_of_launch h
  cases hcourse with
  | served acquired cleared bound =>
    have htaken := sound.acquire pid config.lockFile
    rw [acquired] at htaken
    obtain ⟨own, hbind, -⟩ := listenAll_eq_ok bound
    exact (htaken.prepareSocket cleared).bindSocket hbind

/-- **A path leads to a file that is locked.** -/
def IsLocked (host : Host) (path : Path) : Prop :=
  ∃ number content, host.tree.look path = some (.file number content) ∧ number ∈ host.held

/-- **A daemon gives back what it took.** Whatever the files are, whatever the paths, and whatever
way the run ends, if others leave the two paths alone while it listens:

* if the lock file is locked, the run fails as one that is already running and changes nothing; if
  it leads to such a file once the directories on its way are made, it changes nothing but them;
* if the lock file cannot be opened, the run fails with that and locks nothing;
* if it can be opened and is not locked, but refuses to be locked or written, the run fails with
  that, locks nothing and changes no other file;
* if it can be opened and is not locked, it can be opened afterwards, is not locked, and its lock
  can be claimed again exactly if it refuses nothing then; it is the same file unless that is gone;
* a socket at the path of the socket file is none that was made by this run;
* a run that was asked to stop is no failure once it listened, and if it was asked before, it is
  none once the way for its socket was cleared. -/
theorem run_gives_back (network : Network) (host : Host) (pid : Nat) (config : DaemonConfig)
    (meanwhile : Host → Host) (ending : Ending) (sound : host.IsSound)
    (undisturbed : ∀ launched after, host.launch network pid config = (.ok launched, after) →
      Undisturbed config after (meanwhile after)) :
    let ran := host.run network pid config meanwhile ending
    (host.IsLocked config.lockFile →
      ∃ error, ran = (.error error, host) ∧ error.kind = .alreadyRunning) ∧
    (∀ number opened, host.Opens config.lockFile number opened → number ∈ host.held →
      (∃ error, ran = (.error error, opened) ∧ error.kind = .alreadyRunning) ∧
        opened.held = host.held ∧ opened.names = host.names ∧ host.tree.Grown opened.tree) ∧
    ((¬ ∃ number opened, host.Opens config.lockFile number opened) →
      ∃ error tree, ran = (.error error, { host with tree := tree }) ∧ host.tree.Grown tree) ∧
    (∀ number opened refusal, host.Opens config.lockFile number opened → number ∉ host.held →
      host.refusals.lookup number = some refusal →
      ∃ tree, ran = (.error (.context "cannot start server" (refusal.error config.lockFile)),
          { host with tree := tree }) ∧ host.tree.KeepsDirectories tree ∧
        ∀ place node own, node.number? = some own → own ≠ number →
          (tree.node? place = some node ↔ host.tree.node? place = some node)) ∧
    (∀ number opened, host.Opens config.lockFile number opened → number ∉ host.held →
      ∃ own again, ran.2.Opens config.lockFile own again ∧ own ∉ ran.2.held ∧
        (own = number ∨ own = ran.2.tree.nextNumber) ∧
        ∀ other, (ran.2.acquire other config.lockFile).1.isOk = true ↔
          ran.2.refusals.lookup own = none) ∧
    (∀ own, ran.2.tree.look config.sockFile = some (.socket own) → own < host.tree.nextNumber) ∧
    (∀ launched after, host.launch network pid config = (.ok launched, after) →
      ending.isAsked = true → ran.1 = .ok ()) ∧
    (∀ lock taken prepared, host.acquire pid config.lockFile = (.ok lock, taken) →
      taken.prepareSocket config.sockFile = (.ok (), prepared) → ending = .withdrawn →
      ran.1 = .ok ()) := by
  intro ran
  refine ⟨?_, ?_, fun hopens => run_of_not_opens hopens, ?_, ?_, ?_, ?_, ?_⟩
  · rintro ⟨number, content, hlook, hheld⟩
    exact ⟨_, run_of_held (opens_of_look hlook) hheld, rfl⟩
  · intro number opened hopens hheld
    exact ⟨⟨_, run_of_held hopens hheld, rfl⟩, hopens.held, hopens.names,
      hopens.grown (sound.held number hheld)⟩
  · intro number opened refusal hopens hfree hrefusal
    have hwrites := rewrites_spoiled opened number pid refusal
    refine ⟨(opened.spoiled number pid refusal).tree, ?_,
      hopens.keepsDirectories.trans hwrites.keepsDirectories,
      fun place node own hown hne => hopens.node?_rewrites hwrites hown hne⟩
    refine (run_of_refusal hopens hfree hrefusal).trans (Prod.ext rfl ?_)
    rw [spoiled, hopens.eq]
  · intro number opened hopens hfree
    obtain ⟨hreopens, hsound, hreleased, -⟩ := run_of_free hopens hfree sound undisturbed rfl
    exact opens_of_reopens hreopens hsound hreleased
  · intro own hlook
    rcases run_sockets sound undisturbed rfl with hnew | hnone
    · obtain ⟨spot, -, -, -, hnode⟩ := (look_eq_some_iff rfl).mp hlook
      exact sound.tree _ _ _ (hnew _ _ hnode) rfl
    · cases hnone.symm.trans hlook
  · intro launched after hlaunch hasked
    have hran : ran.1 = ending.outcome := congrArg Prod.fst (run_of_launch hlaunch)
    rw [hran]
    cases ending with
    | failed error => cases hasked
    | _ => rfl
  · rintro lock taken prepared acquired cleared rfl
    exact run_withdrawn acquired cleared

/-- A daemon whose socket takes the place of its lock file can be run again. -/
theorem run_gives_back_shared_path :
    let config : DaemonConfig := { lockFile := ⟨[100]⟩, sockFile := ⟨[100]⟩ }
    let network : Network := { bind := fun _ => .ok 8080 }
    IsSound {} ∧
      (∀ launched after, Host.launch network {} 7 config = (.ok launched, after) →
        Undisturbed config after (id after)) ∧
      ((Host.run network {} 7 config id .drained).2.acquire 8 config.lockFile).1.isOk = true := by
  intro config network
  have undisturbed : ∀ launched after, Host.launch network {} 7 config = (.ok launched, after) →
      Undisturbed config after (id after) :=
    fun _ _ hlaunch => undisturbed_refl isSound_empty hlaunch
  obtain ⟨-, -, -, -, hagain, -⟩ :=
    run_gives_back network {} 7 config id .drained isSound_empty undisturbed
  obtain ⟨own, again, -, -, -, hgranted⟩ := hagain 0 _ ⟨_, _, _, rfl, rfl, rfl⟩ nofun
  exact ⟨isSound_empty, undisturbed, (hgranted 8).mpr rfl⟩

/-- **Why no more can be said of a run that fails to get its lock.** The first path leads to nothing
at first, and to the locked file once the directory `n` on its way is made: the run makes that
directory, fails, and the lock cannot be claimed, so that whether the file is taken to be locked
before or not, it is not true that a run changes nothing if it is and else leaves a lock that can be
claimed. The second path leads to a directory, which can never be locked, and the third to a file
that cannot be emptied, such as a device. -/
theorem run_changes_more :
    let host := (Host.acquire {} 8 ⟨[108]⟩).2
    let config : DaemonConfig := { lockFile := ⟨[110, 47, 46, 46, 47, 108]⟩, sockFile := ⟨[115]⟩ }
    let ran := host.run (.confined 4000) 13 config id .drained
    let fixed : DaemonConfig := { lockFile := ⟨[46]⟩, sockFile := ⟨[115]⟩ }
    let failed := Host.run (.confined 4000) {} 13 fixed id .drained
    let device : Host := { refusals := [(0, .empty (.number 22))] }
    let special : DaemonConfig := { lockFile := ⟨[108]⟩, sockFile := ⟨[115]⟩ }
    let spoiled := device.run (.confined 4000) 13 special id .drained
    (¬ ((host.IsLocked config.lockFile → ran.2 = host) ∧
      (¬ host.IsLocked config.lockFile → (ran.2.acquire 21 config.lockFile).1.isOk = true))) ∧
    (∃ opened, host.Opens config.lockFile 0 opened ∧ 0 ∈ host.held ∧ ran.2 ≠ host) ∧
    ¬ (¬ IsLocked {} fixed.lockFile → (failed.2.acquire 21 fixed.lockFile).1.isOk = true) ∧
    ¬ (¬ device.IsLocked special.lockFile →
      (spoiled.2.acquire 21 special.lockFile).1.isOk = true) := by
  intro host config ran fixed failed device special spoiled
  have hunlocked : ¬ host.IsLocked config.lockFile := by
    rintro ⟨number, content, hlook, -⟩
    cases hlook
  have hdirectory : ¬ IsLocked {} fixed.lockFile := by
    rintro ⟨number, content, hlook, -⟩
    cases hlook
  have hfree : ¬ device.IsLocked special.lockFile := by
    rintro ⟨number, content, hlook, -⟩
    cases hlook
  refine ⟨fun h => ?_, ⟨_, ⟨_, _, _, rfl, rfl, rfl⟩, List.mem_singleton.mpr rfl, fun h => ?_⟩,
    fun h => ?_, fun h => ?_⟩
  · cases h.2 hunlocked
  · have hmade := congrArg (fun host => host.tree.isDirectory ⟨[110]⟩) h
    cases hmade
  · cases h hdirectory
  · cases h hfree

end Host

end TaskDaemon
