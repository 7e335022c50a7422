import TaskDaemon.Machine
import TaskDaemon.Proofs.Daemon.Clearing

/-!
# Daemons on one machine disturb each other

The start of a daemon takes the lock for a proof that what stands at the path of its socket is a
left-over. But the lock is on one path and the socket on another, and daemons may name them as they
like: that nobody lives who has the same lock does not say whose socket it is. So a start disturbs
those that are there exactly if their socket or their lock file stands where it clears the way for
its own socket.

* `TaskDaemon.Machine.Event` and `TaskDaemon.Machine.run`: what happens on a machine;
* `TaskDaemon.Machine.IsSettled`: what every history keeps;
* `TaskDaemon.Machine.Reaches` and `TaskDaemon.Machine.Refuses`: a daemon is found at its socket,
  and its lock keeps others out;
* `TaskDaemon.Machine.spares_neighbour_iff`: when a start leaves both as they were;
* `TaskDaemon.Machine.start_disturbs_neighbour`: it may take either away.
-/

namespace TaskDaemon

open FileTree

/-! ### Being found, and being kept out -/

namespace Host

variable {host : Host} {path : Path} {number : Nat}

theorem dial_eq_ok_iff (hname : path.isName = false) {live : Nat → Bool} :
    host.dial live path = .ok number ↔ checkSocketPath path = .ok () ∧
      host.tree.look path = some (.socket number) ∧ live number = true := by
  rw [dial, hname, if_neg (by decide), FileTree.dial, Attempt.bind_eq_ok_iff]
  simp only [Attempt.bind_eq_ok_iff]
  constructor
  · rintro ⟨_, hcheck, place, hlocate, h⟩
    refine ⟨hcheck, ?_⟩
    rw [look, hlocate]
    split at h
    case h_1 own hnode =>
      split_ifs at h with hlive
      cases h
      exact ⟨hnode, hlive⟩
    all_goals cases h
  · rintro ⟨hcheck, hlook, hlive⟩
    rw [look] at hlook
    split at hlook
    case h_1 place hlocate =>
      refine ⟨(), hcheck, place, hlocate, ?_⟩
      rw [hlook]
      exact if_pos hlive
    · cases hlook

/-- Nobody is found at a name that says nothing. -/
theorem dial_of_isEmpty (hempty : path.isEmpty = true) (live : Nat → Bool) :
    host.dial live path = .error .invalidArgument := by
  obtain ⟨bytes⟩ := path
  obtain rfl : bytes = [] := List.isEmpty_iff.mp hempty
  rfl

/-- **The lock at a path is refused** to every process, as one that is held. -/
def Refuses (host : Host) (path : Path) : Prop :=
  ∀ pid, ∃ error, (host.acquire pid path).1 = .error error ∧ error.kind = .alreadyRunning

/-- **A lock whose path can be followed** is refused exactly if the path leads to a file that is
locked. -/
theorem refuses_iff_isLocked (sound : host.IsSound) {spot : Spot}
    (hreach : host.tree.reach path = .ok spot) : host.Refuses path ↔ host.IsLocked path := by
  constructor
  · intro h
    obtain ⟨error, herror, hkind⟩ := h 0
    have hclaim := host.claim 0 path
    generalize host.acquire 0 path = result at hclaim herror
    cases hclaim with
    | unopened closed grown =>
      cases herror
      cases hkind
    | lost opens held =>
      -- the file was there, since it is locked, and its path led there before
      have hgrown := opens.grown (sound.held _ held)
      obtain ⟨content, hlook⟩ := opens.look
      obtain ⟨found, hfound, hslashed, hname, hnode⟩ := (look_eq_some_iff rfl).mp hlook
      obtain rfl : spot = found := Except.ok.inj
        ((reach_of_keeps hgrown.keepsDirectories hreach).symm.trans hfound)
      exact ⟨_, content, (look_eq_some_iff rfl).mpr
        ⟨spot, hreach, hslashed, hname, (hgrown.node?_iff rfl).mp hnode⟩, held⟩
    | @spoiled number opened refusal opens free refuses =>
      cases herror
      cases refusal <;> cases hkind
    | won opens free willing => cases herror
  · rintro ⟨number, content, hlook, hheld⟩ pid
    exact ⟨_, by rw [acquire_of_held (opens_of_look hlook) hheld], rfl⟩

end Host

namespace Machine

variable {machine started after : Machine} {daemon : RunningDaemon} {path : Path} {pid : Nat}
  {now : Instant} {invocation : Invocation} {config : DaemonConfig} {outcome : Outcome FileLock}

/-- **A daemon is reached** at the endpoint that it listens on. -/
def Reaches (machine : Machine) (daemon : RunningDaemon) : Prop :=
  machine.dial daemon.launched.listeners.rpc.endpoint = .ok daemon

/-- **The lock at a path is refused** to every process. -/
def Refuses (machine : Machine) (path : Path) : Prop :=
  machine.host.Refuses path

/-- **A start clears the place that a path leads to**, as it clears the way for its socket. -/
def Clears (machine : Machine) (pid : Nat) (invocation : Invocation) (path : Path) : Prop :=
  ∃ lock file seed config place, invocation.command = .run lock file seed ∧
    machine.settings.ofRun invocation.sock lock file seed = .ok config ∧
    machine.host.Clears pid config place ∧ machine.host.tree.locate path = .ok place

/-- A daemon that is looked for by its socket has that. -/
theorem socket?_of_find? {daemons : List RunningDaemon} {number : Nat}
    (h : daemons.find? (fun daemon => daemon.socket? = some number) = some daemon) :
    daemon.socket? = some number := by
  have hsome := List.find?_some (p := fun daemon : RunningDaemon => daemon.socket? = some number) h
  exact of_decide_eq_true hsome

/-- **Who is found at a path** is the daemon of the socket that the host finds there. -/
theorem dial_unix_eq_ok_iff : machine.dial (.unix path) = .ok daemon ↔ ∃ number,
    machine.host.dial (fun number => machine.daemons.any (·.socket? = some number)) path =
        .ok number ∧
      machine.daemons.find? (·.socket? = some number) = some daemon := by
  rw [dial]
  constructor
  · intro h
    split at h
    · cases h
    case h_2 number hdial =>
      split at h
      case h_1 found hfind =>
        cases h
        exact ⟨number, hdial, hfind⟩
      · cases h
  · rintro ⟨number, hdial, hfind⟩
    rw [hdial]
    dsimp only
    rw [hfind]

/-- For a path that is no name this is the socket that the path leads to. -/
theorem dial_eq_ok_iff (hname : path.isName = false) : machine.dial (.unix path) = .ok daemon ↔
    checkSocketPath path = .ok () ∧ ∃ number, machine.host.tree.look path = some (.socket number) ∧
      machine.daemons.find? (fun daemon => daemon.socket? = some number) = some daemon := by
  rw [dial_unix_eq_ok_iff]
  constructor
  · rintro ⟨number, hdial, hfind⟩
    obtain ⟨hcheck, hlook, -⟩ := (Host.dial_eq_ok_iff hname).mp hdial
    exact ⟨hcheck, number, hlook, hfind⟩
  · rintro ⟨hcheck, number, hlook, hfind⟩
    have hlive : (machine.daemons.any fun daemon => daemon.socket? = some number) = true :=
      List.any_eq_true.mpr
        ⟨daemon, List.mem_of_find?_eq_some hfind, decide_eq_true (socket?_of_find? hfind)⟩
    exact ⟨number, (Host.dial_eq_ok_iff hname).mpr ⟨hcheck, hlook, hlive⟩, hfind⟩

/-! ### What happens on a machine -/

/-- **What happens on a machine.** -/
inductive Event where
  /-- A daemon is started, as a process. -/
  | spawn (pid : Nat) (now : Instant) (invocation : Invocation)
  /-- The daemon that has a lock is stopped. -/
  | stop (lock : FileLock)
  /-- A command is executed, as a process. -/
  | execute (pid : Nat) (now : Instant) (output : Output) (invocation : Invocation)
  /-- The environment names a file of settings, or none. -/
  | environment (file : Option Path)
  /-- Someone writes a file. -/
  | write (path : Path) (content : Bytes)
  /-- Someone makes a directory. -/
  | makeDirectory (mode : Nat) (path : Path)
  /-- Someone removes a file or socket file. -/
  | remove (path : Path)
  /-- Files refuse something else than before, as when a disk is full. -/
  | turn (refusals : List (Nat × Refusal))

/-- The machine after someone has tried to change its files. -/
def withFiles (machine : Machine) : Except SystemFault FileTree → Machine
  | .ok tree => { machine with host := { machine.host with tree := tree } }
  | .error _ => machine

/-- **What an event does.** -/
def step (machine : Machine) : Event → Machine
  | .spawn pid now invocation =>
    match machine.spawn pid now invocation with
    | some (_, machine) => machine
    | none => machine
  | .stop lock => machine.stop lock
  | .execute pid now output invocation => (machine.execute pid now output invocation).2
  | .environment file => { machine with environment := file }
  | .write path content => machine.withFiles (machine.host.tree.write path content)
  | .makeDirectory mode path => machine.withFiles (machine.host.tree.makeDirectory mode path)
  | .remove path => machine.withFiles (machine.host.tree.remove path)
  | .turn refusals => { machine with host := { machine.host with refusals := refusals } }

/-- **What a history of events does.** -/
def run (machine : Machine) (events : List Event) : Machine :=
  events.foldl step machine

/-- **What every history keeps.** -/
structure IsSettled (machine : Machine) : Prop where
  /-- Numbers are given once. -/
  sound : machine.host.IsSound
  /-- The path of a daemon's lock can be followed. -/
  lockFiles : ∀ daemon ∈ machine.daemons,
    ∃ spot, machine.host.tree.reach daemon.launched.lock.path = .ok spot
  /-- A daemon listens on a local socket, which has a file unless its path is empty. -/
  sockets : ∀ daemon ∈ machine.daemons, ∃ path number,
    daemon.launched.listeners.rpc = .unix path number ∧ (path.isName = true → path.isEmpty = true)

/-- **A machine without daemons is settled.** -/
theorem isSettled_of_idle (sound : machine.host.IsSound) (idle : machine.daemons = []) :
    machine.IsSettled := by
  refine ⟨sound, ?_, ?_⟩
  all_goals
    rw [idle]
    exact nofun

/-- **Where no daemon is new** and the host is a later state of what it was, all is settled as
before. -/
theorem IsSettled.follows (h : machine.IsSettled) (hhost : machine.host.Follows after.host)
    (hdaemons : ∀ daemon ∈ after.daemons, ∃ old ∈ machine.daemons,
      daemon.launched = old.launched) : after.IsSettled := by
  refine ⟨hhost.sound h.sound, fun daemon hdaemon => ?_, fun daemon hdaemon => ?_⟩
  all_goals
    obtain ⟨old, hold, heq⟩ := hdaemons daemon hdaemon
    rw [heq]
  · obtain ⟨spot, hreach⟩ := h.lockFiles old hold
    exact ⟨spot, reach_of_keeps hhost.directories hreach⟩
  · exact h.sockets old hold

/-- **A start is a launch**: if that succeeds there is one daemon more. -/
theorem start_cases (h : machine.start pid config now = (outcome, started)) :
    ∃ launch host, machine.host.launch machine.network pid config = (launch, host) ∧
      started.host = host ∧
      ((∃ error, outcome = .error error ∧ started.daemons = machine.daemons) ∨
        ∃ daemon, outcome = .ok daemon.launched.lock ∧ launch = .ok daemon.launched ∧
          started.daemons = daemon :: machine.daemons) := by
  rw [start] at h
  cases hlaunch : machine.host.launch machine.network pid config with
  | mk launch host =>
    rw [hlaunch] at h
    cases launch with
    | error error =>
      cases h
      exact ⟨_, host, rfl, rfl, Or.inl ⟨error, rfl, rfl⟩⟩
    | ok launched =>
      cases h
      exact ⟨_, host, rfl, rfl, Or.inr ⟨⟨pid, launched, _⟩, rfl, rfl, rfl⟩⟩

theorem IsSettled.start (h : machine.IsSettled)
    (hstart : machine.start pid config now = (outcome, started)) : started.IsSettled := by
  obtain ⟨launch, host, hlaunch, rfl, ⟨-, -, hsame⟩ | ⟨daemon, -, rfl, hnew⟩⟩ :=
    start_cases hstart
  · exact h.follows (Host.follows_launch hlaunch) (by rw [hsame]; exact fun d hd => ⟨d, hd, rfl⟩)
  · obtain ⟨hlock, ⟨spot, hreach⟩, hname, own, hrpc, -⟩ := Host.launch_eq_ok hlaunch
    have hhost := Host.follows_launch hlaunch
    refine ⟨hhost.sound h.sound, ?_, ?_⟩
    all_goals
      rw [hnew]
      refine List.forall_mem_cons.mpr ⟨?_, fun other hother => ?_⟩
    · exact ⟨spot, hlock ▸ hreach⟩
    · obtain ⟨spot, hreach⟩ := h.lockFiles other hother
      exact ⟨spot, reach_of_keeps hhost.directories hreach⟩
    · exact ⟨_, own, hrpc, hname⟩
    · exact h.sockets other hother

theorem IsSettled.stop (h : machine.IsSettled) (lock : FileLock) :
    (machine.stop lock).IsSettled := by
  rw [Machine.stop]
  split
  · exact h
  · exact h.follows (Host.follows_conclude _ _)
      fun daemon hdaemon => ⟨daemon, (List.mem_filter.mp hdaemon).1, rfl⟩

/-- **Who visits a daemon** changes what it serves from, and nothing else. -/
theorem IsSettled.visit (h : machine.IsSettled) (sock : Option Path) (now : Instant)
    (calls : Rpc.Terms → Rpc.Session → Printed × Rpc.Session) :
    (machine.visit sock now calls).2.IsSettled := by
  rw [Machine.visit]
  split
  · exact h
  split
  · exact h
  · refine h.follows (.refl _) fun daemon hdaemon => ?_
    obtain ⟨old, hold, rfl⟩ := List.mem_map.mp hdaemon
    refine ⟨old, hold, ?_⟩
    split_ifs <;> rfl

theorem IsSettled.spawn (h : machine.IsSettled)
    (hspawn : machine.spawn pid now invocation = some (outcome, started)) : started.IsSettled := by
  rw [Machine.spawn] at hspawn
  split at hspawn
  · split at hspawn
    · cases hspawn
      exact h
    · exact h.start (Option.some.inj hspawn)
  · cases hspawn

theorem IsSettled.execute (h : machine.IsSettled) (pid : Nat) (now : Instant) (output : Output)
    (invocation : Invocation) : (machine.execute pid now output invocation).2.IsSettled := by
  rw [Machine.execute]
  split
  · exact h.visit _ _ _
  · exact h.visit _ _ _
  · split
    · exact h
    · split
      case h_1 hstart => exact h.start hstart
      case h_2 hstart => exact (h.start hstart).stop _

theorem IsSettled.withFiles (h : machine.IsSettled) {files : Except SystemFault FileTree}
    (hfiles : ∀ tree, files = .ok tree → machine.host.Follows { machine.host with tree := tree }) :
    (machine.withFiles files).IsSettled := by
  cases files with
  | error fault => exact h
  | ok tree => exact h.follows (hfiles tree rfl) fun daemon hdaemon => ⟨daemon, hdaemon, rfl⟩

/-- **Every event keeps a machine settled.** -/
theorem IsSettled.step (h : machine.IsSettled) (event : Event) :
    (machine.step event).IsSettled := by
  cases event with
  | spawn pid now invocation =>
    rw [Machine.step]
    split
    case h_1 hspawn => exact h.spawn hspawn
    · exact h
  | stop lock => exact h.stop lock
  | execute pid now output invocation => exact h.execute pid now output invocation
  | environment file => exact ⟨h.sound, h.lockFiles, h.sockets⟩
  | write path content => exact h.withFiles fun tree hwrite => Host.follows_write hwrite
  | makeDirectory mode path =>
    exact h.withFiles fun tree hmake => Host.follows_grown (grown_makeDirectory hmake)
  | remove path => exact h.withFiles fun tree hremove => Host.follows_remove hremove
  | turn refusals => exact ⟨⟨h.sound.tree, h.sound.held⟩, h.lockFiles, h.sockets⟩

/-- **Every history keeps a machine settled.** -/
theorem IsSettled.run (h : machine.IsSettled) (events : List Event) :
    (machine.run events).IsSettled := by
  induction events generalizing machine with
  | nil => exact h
  | cons event events ih => exact ih (h.step event)

/-! ### What a start leaves of its neighbours -/

/-- **A start either gets settings and is a start of a daemon**, or changes nothing. -/
theorem spawn_cases (h : machine.spawn pid now invocation = some (outcome, started)) :
    (started = machine ∧ ∀ path, ¬ machine.Clears pid invocation path) ∨
      ∃ config, machine.start pid config now = (outcome, started) ∧
        ∀ path, machine.Clears pid invocation path ↔ ∃ place,
          machine.host.Clears pid config place ∧ machine.host.tree.locate path = .ok place := by
  obtain ⟨sock, command⟩ := invocation
  cases command with
  | run lock file seed =>
    rw [Machine.spawn] at h
    dsimp only at h
    split at h
    case h_1 error hsettings =>
      cases h
      refine Or.inl ⟨rfl, ?_⟩
      rintro path ⟨lock', file', seed', config, place, heq, hconfig, -⟩
      cases heq
      cases hsettings.symm.trans hconfig
    case h_2 config hsettings =>
      refine Or.inr ⟨config, Option.some.inj h, fun path => ⟨?_, ?_⟩⟩
      · rintro ⟨lock', file', seed', config', place, heq, hconfig, hclears⟩
        cases heq
        cases hsettings.symm.trans hconfig
        exact ⟨place, hclears⟩
      · rintro ⟨place, hclears⟩
        exact ⟨lock, file, seed, config, place, rfl, hsettings, hclears⟩
  | status format => cases h
  | tasks command => cases h

/-- **A start leaves a daemon reachable** exactly if it does not clear the place of its socket. -/
theorem reaches_iff (h : machine.IsSettled)
    (hspawn : machine.spawn pid now invocation = some (outcome, started)) {number : Nat}
    (hrpc : daemon.launched.listeners.rpc = .unix path number)
    (hname : path.isName = true → path.isEmpty = true) (hreaches : machine.Reaches daemon) :
    started.Reaches daemon ↔ ¬ machine.Clears pid invocation path := by
  rcases spawn_cases hspawn with ⟨rfl, hnot⟩ | ⟨config, hstart, hclears⟩
  · exact ⟨fun _ => hnot path, fun _ => hreaches⟩
  -- The only name that a daemon may have is the empty one, which nobody can dial.
  have hfile : path.isName = false := by
    by_contra hne
    have hempty := hname ((Bool.not_eq_false _).mp hne)
    rw [Reaches, hrpc, Listener.endpoint, dial] at hreaches
    rw [Host.dial_of_isEmpty hempty] at hreaches
    cases hreaches
  rw [Reaches, hrpc, Listener.endpoint, dial_eq_ok_iff hfile] at hreaches ⊢
  obtain ⟨hcheck, own, hlook, hfind⟩ := hreaches
  have hsocket : daemon.socket? = some own := socket?_of_find? hfind
  have hown : own < machine.host.tree.nextNumber := by
    obtain ⟨spot, -, -, -, hnode⟩ := (look_eq_some_iff rfl).mp hlook
    exact h.sound.tree _ _ own hnode rfl
  obtain ⟨launch, host, hlaunch, rfl, hdaemons⟩ := start_cases hstart
  obtain ⟨place, hlocate, hstays, hgoes⟩ := Host.look_launch h.sound hlook trivial hlaunch
  have hiff : machine.Clears pid invocation path ↔ machine.host.Clears pid config place := by
    rw [hclears]
    constructor
    · rintro ⟨other, hother, hlocated⟩
      cases hlocate.symm.trans hlocated
      exact hother
    · exact fun hother => ⟨place, hother, hlocate⟩
  rw [hiff]
  constructor
  · -- the daemon that is found is that of a socket as young as the start
    rintro ⟨-, found, hfound, hfind'⟩ hcleared
    obtain ⟨young, heq, hle⟩ := hgoes hcleared _ hfound
    cases heq
    have hyoung : daemon.socket? = some found := socket?_of_find? hfind'
    rw [hsocket, Option.some.injEq] at hyoung
    exact absurd (hyoung ▸ hown) hle.not_gt
  · refine fun hnot => ⟨hcheck, own, hstays hnot, ?_⟩
    rcases hdaemons with ⟨-, -, hsame⟩ | ⟨new, -, hnew, hcons⟩
    · rwa [hsame]
    · -- the socket of the new daemon has a number of its own
      subst hnew
      obtain ⟨-, -, -, young, hyoung, hle⟩ := Host.launch_eq_ok hlaunch
      have hne : new.socket? ≠ some own := by
        rw [RunningDaemon.socket?, hyoung]
        intro heq
        cases heq
        exact absurd hown hle.not_gt
      rw [hcons, List.find?_cons_of_neg (by simpa using hne)]
      exact hfind

/-- **A start leaves a lock refused** exactly if it does not clear the place of its file. -/
theorem refuses_iff (h : machine.IsSettled)
    (hspawn : machine.spawn pid now invocation = some (outcome, started)) {spot : Spot}
    (hreach : machine.host.tree.reach path = .ok spot) (hrefuses : machine.Refuses path) :
    started.Refuses path ↔ ¬ machine.Clears pid invocation path := by
  rcases spawn_cases hspawn with ⟨rfl, hnot⟩ | ⟨config, hstart, hclears⟩
  · exact ⟨fun _ => hnot path, fun _ => hrefuses⟩
  obtain ⟨number, content, hlook, hheld⟩ := (Host.refuses_iff_isLocked h.sound hreach).mp hrefuses
  obtain ⟨launch, host, hlaunch, rfl, -⟩ := start_cases hstart
  have hhost := Host.follows_launch hlaunch
  obtain ⟨place, hlocate, hstays, hgoes⟩ := Host.look_launch h.sound hlook hheld hlaunch
  rw [Refuses, Host.refuses_iff_isLocked (hhost.sound h.sound)
    (reach_of_keeps hhost.directories hreach), hclears]
  constructor
  · rintro ⟨own, content', hlook', -⟩ ⟨other, hother, hlocated⟩
    cases hlocate.symm.trans hlocated
    obtain ⟨young, heq, -⟩ := hgoes hother _ hlook'
    cases heq
  · intro hnot
    exact ⟨number, content, hstays fun hother => hnot ⟨place, hother, hlocate⟩,
      Host.mem_held_launch hlaunch hheld⟩

/-- **When a start spares its neighbours.** Whatever has happened on a machine, whoever is started
there next, with whatever paths and settings, and whether that succeeds or fails: a daemon that was
reached at its socket is reached there afterwards exactly if the start does not clear the place that
the path of this socket leads to, and a lock that was refused is refused afterwards exactly if the
start does not clear the place of its file. -/
theorem spares_neighbour_iff (machine : Machine) (sound : machine.host.IsSound)
    (idle : machine.daemons = []) (events : List Event) (pid : Nat) (now : Instant)
    (invocation : Invocation) (outcome : Outcome FileLock) (started : Machine)
    (hspawn : (machine.run events).spawn pid now invocation = some (outcome, started)) :
    ∀ daemon ∈ (machine.run events).daemons, ∃ sock,
      daemon.launched.listeners.rpc.endpoint = .unix sock ∧
      ((machine.run events).Reaches daemon →
        (started.Reaches daemon ↔ ¬ (machine.run events).Clears pid invocation sock)) ∧
      ((machine.run events).Refuses daemon.launched.lock.path →
        (started.Refuses daemon.launched.lock.path ↔
          ¬ (machine.run events).Clears pid invocation daemon.launched.lock.path)) := by
  intro daemon hdaemon
  have h : (machine.run events).IsSettled := (isSettled_of_idle sound idle).run events
  obtain ⟨sock, number, hrpc, hname⟩ := h.sockets daemon hdaemon
  obtain ⟨spot, hreach⟩ := h.lockFiles daemon hdaemon
  refine ⟨sock, by rw [hrpc, Listener.endpoint], ?_, ?_⟩
  · exact reaches_iff h hspawn hrpc hname
  · exact refuses_iff h hspawn hreach

/-- **A daemon whose paths are its own spares its neighbour**, here one that was started before. -/
theorem spares_neighbour_apart :
    let start (lock sock : UInt8) : Invocation :=
      { sock := some ⟨[sock]⟩, command := .run (some ⟨[lock]⟩) none false }
    let base : Machine :=
      { network := .confined 4000, defaults := { lockFile := ⟨[108]⟩, sockFile := ⟨[115]⟩ } }
    let machine := base.run [.spawn 8 ⟨0, 0⟩ (start 97 99)]
    base.host.IsSound ∧ base.daemons = [] ∧
      ∃ outcome started daemon, machine.spawn 13 ⟨0, 0⟩ (start 98 100) = some (outcome, started) ∧
        daemon ∈ machine.daemons ∧ started.Reaches daemon ∧ started.Refuses ⟨[97]⟩ := by
  intro start base machine
  have hclears (path : Path) : ¬ machine.Clears 13 (start 98 100) path := by
    rintro ⟨lock, file, seed, config, place, heq, hconfig, ⟨own, taken, hacquire, made, tree, hmade,
      hlocate, hremove⟩, -⟩
    cases heq
    cases hconfig
    cases hacquire
    cases hmade
    cases hremove
  obtain ⟨sock, hsock, hreaches, hrefuses⟩ :=
    spares_neighbour_iff base Host.isSound_empty rfl [.spawn 8 ⟨0, 0⟩ (start 97 99)] 13 ⟨0, 0⟩
      (start 98 100) _ _ rfl _ List.mem_cons_self
  refine ⟨Host.isSound_empty, rfl, _, _, _, rfl, List.mem_cons_self, ?_, ?_⟩
  · exact (hreaches rfl).mpr (hclears _)
  · exact (hrefuses fun pid => ⟨_, rfl, rfl⟩).mpr (hclears _)

/-- **Holding a lock does not make the way for a socket one's own.** A daemon that shares the path
of the socket with one that lives, but not that of the lock, takes its socket file away. A daemon
whose socket is to stand where that lock file is takes the lock file away: the lock is not told to
be held any more, and when the second daemon has ended it can be claimed while the first one
lives. -/
theorem start_disturbs_neighbour :
    let start (lock sock : UInt8) : Invocation :=
      { sock := some ⟨[sock]⟩, command := .run (some ⟨[lock]⟩) none false }
    let base : Machine :=
      { network := .confined 4000, defaults := { lockFile := ⟨[108]⟩, sockFile := ⟨[115]⟩ } }
    let machine := base.run [.spawn 8 ⟨0, 0⟩ (start 97 99)]
    base.host.IsSound ∧ base.daemons = [] ∧ ∃ daemon ∈ machine.daemons,
      machine.Reaches daemon ∧ machine.Refuses daemon.launched.lock.path ∧
      (∃ lock started, machine.spawn 13 ⟨0, 0⟩ (start 98 99) = some (.ok lock, started) ∧
        daemon ∈ started.daemons ∧ ¬ started.Reaches daemon) ∧
      (∃ lock started, machine.spawn 13 ⟨0, 0⟩ (start 98 97) = some (.ok lock, started) ∧
        daemon ∈ started.daemons ∧ ¬ started.Refuses daemon.launched.lock.path ∧
        daemon ∈ (started.stop lock).daemons ∧
        ((started.stop lock).host.acquire 21 daemon.launched.lock.path).1.isOk = true) := by
  intro start base machine
  refine ⟨Host.isSound_empty, rfl, _, List.mem_cons_self, rfl, fun pid => ⟨_, rfl, rfl⟩,
    ⟨_, _, rfl, List.mem_cons_of_mem _ List.mem_cons_self, ?_⟩,
    ⟨_, _, rfl, List.mem_cons_of_mem _ List.mem_cons_self, ?_, List.mem_cons_self, rfl⟩⟩
  · intro h
    cases h
  · intro h
    obtain ⟨error, herror, hkind⟩ := h 21
    cases herror
    cases hkind

end Machine

end TaskDaemon
