import Mathlib.Data.List.Pairwise
import TaskDaemon.Daemon.Hosted
import TaskDaemon.Proofs.Daemon.Neighbours

/-!
# Whose socket file a listener removes

A listener that ends removes the file at its path. That is its own socket file as long as nobody
else had to do with the path; but a listener does not notice when its socket file is removed, and
then another one may be bound at the same path and live there.

* `TaskDaemon.Roster` and `TaskDaemon.Roster.run`: the listeners that live on a host, and what
  happens there in any order: they come, alone or with the server that they are bound for, and they
  go; the way for a socket is cleared; locks are claimed, and files come and go;
* `TaskDaemon.FileTree.Seats`: the spot that the path of a socket names, which is the same from the
  time of binding on (`TaskDaemon.FileTree.Seats.of_keeps`), whatever stands there by then;
* `TaskDaemon.Roster.IsSettled`: what every history keeps, that all live listeners have such spots
  and numbers of their own.

A server drops its listener when it begins to drain, in whatever way it comes to that
(`TaskDaemon.Hosted.host_ended`). The main result is `TaskDaemon.Roster.drop_spares_iff`: when a
drop leaves alone what is not its own, and which other listeners are found afterwards. That this is
not always so is shown by `TaskDaemon.Roster.drop_disturbs_successor`.
-/

namespace TaskDaemon

open FileTree

/-! ### Spots of sockets -/

namespace FileTree

variable {tree after : FileTree} {path : Path} {spot : Spot}

/-- **The spot of a socket**: a name that a file may have, in a directory that may be changed. -/
structure Seats (tree : FileTree) (path : Path) (spot : Spot) : Prop where
  /-- The path leads there. -/
  reach : tree.reach path = .ok spot
  /-- The name may be that of a file. -/
  name : spot.checkName = .ok ()
  /-- It is not named as a directory. -/
  slashed : spot.slashed = false
  /-- Files may come and go there. -/
  owned : checkOwned spot.place = .ok ()

/-- **The path of a listener names the same spot as long as directories stay.** -/
theorem Seats.of_keeps (h : tree.Seats path spot) (keeps : tree.KeepsDirectories after) :
    after.Seats path spot :=
  { h with reach := reach_of_keeps keeps h.reach }

theorem Seats.locate (h : tree.Seats path spot) : tree.locate path = .ok spot.place := by
  refine locate_eq_ok_iff.mpr ⟨spot, h.reach, h.name, rfl, fun hslashed => ?_⟩
  rw [h.slashed] at hslashed
  cases hslashed

theorem Seats.look (h : tree.Seats path spot) : tree.look path = tree.node? spot.place := by
  rw [FileTree.look, h.locate]

/-- **What stands at the spot of a socket can be removed**, unless it is a directory. -/
theorem Seats.remove (h : tree.Seats path spot) (hsome : tree.node? spot.place ≠ none)
    (hat : ¬ tree.DirectoryAt spot.place) : tree.remove path = .ok (tree.drop spot.place) :=
  remove_eq_ok_iff.mpr ⟨spot.place, h.locate, hsome, hat, h.owned, rfl⟩

end FileTree

namespace Host

variable {host after : Host} {path other : Path} {spot : Spot} {number own : Nat}

/-- **Ending a listener takes away what stands at its spot**, whatever that is, but no directory;
and nothing anywhere else. -/
theorem node?_unlisten (h : host.tree.Seats path spot) (hname : path.isName = false)
    (number : Nat) (place : Place) :
    (place ≠ spot.place ∨ host.tree.DirectoryAt spot.place →
      (host.unlisten (.unix path number)).tree.node? place = host.tree.node? place) ∧
      (place = spot.place → ¬ host.tree.DirectoryAt spot.place →
        (host.unlisten (.unix path number)).tree.node? place = none) := by
  rcases hremove : host.tree.remove path with fault | tree
  · have hsame : host.unlisten (.unix path number) = host := by
      rw [unlisten, freeSocket, hname, if_neg (by decide), removeIfAny, hremove]
    rw [hsame]
    refine ⟨fun _ => rfl, ?_⟩
    rintro rfl hat
    by_contra hsome
    cases hremove.symm.trans (h.remove hsome hat)
  · rw [unlisten_unix hname hremove]
    obtain ⟨place', hlocate, -, hat, -, rfl⟩ := remove_eq_ok_iff.mp hremove
    cases h.locate.symm.trans hlocate
    rw [node?_drop hat]
    refine ⟨?_, fun hplace _ => if_pos hplace⟩
    rintro (hplace | hdirectory)
    · exact if_neg hplace
    · exact absurd hdirectory hat

/-- **A path of a listener has its spot.** -/
theorem seats_bindSocket (h : host.bindSocket path = .ok (number, after))
    (hname : path.isName = false) : ∃ spot, after.tree.Seats path spot := by
  rcases bindSocket_cases h with ⟨hname', -⟩ | ⟨-, bound, hbind, rfl⟩
  · cases hname.symm.trans hname'
  · obtain ⟨spot, hreach, howned, hafter, -, -, -, -⟩ :=
      remove_of_bind hbind (spares_refl bound path)
    obtain ⟨-, spot', hreach', hcheck, -, hslashed, -, -, -⟩ := bindSocket_eq_ok_iff.mp hbind
    cases hreach.symm.trans hreach'
    exact ⟨spot, hafter, hcheck, hslashed, howned⟩

/-- A new listener takes the next number. -/
theorem bindSocket_number (h : host.bindSocket path = .ok (number, after)) :
    number = host.tree.nextNumber ∧ after.tree.nextNumber = number + 1 := by
  rcases bindSocket_cases h with ⟨-, htake⟩ | ⟨-, bound, hbind, rfl⟩
  · cases htake
    exact ⟨rfl, rfl⟩
  · obtain ⟨-, spot, -, -, -, -, -, rfl, rfl⟩ := bindSocket_eq_ok_iff.mp hbind
    exact ⟨rfl, rfl⟩

/-- **What is bound to an endpoint**, if anything is. -/
theorem listen_cases {network : Network} {endpoint : Endpoint} {outcome : Outcome Listener}
    (h : host.listen network endpoint = (outcome, after)) :
    (after = host ∧ ∀ listener, outcome = .ok listener → ∃ address, listener = .tcp address) ∨
      ∃ path number, outcome = .ok (.unix path number) ∧
        host.bindSocket path = .ok (number, after) := by
  cases endpoint with
  | unix path =>
    rw [listen] at h
    rcases hbind : host.bindSocket path with fault | ⟨number, bound⟩
    · rw [hbind] at h
      cases h
      exact Or.inl ⟨rfl, by rintro listener ⟨⟩⟩
    · rw [hbind] at h
      cases h
      exact Or.inr ⟨path, number, rfl, hbind⟩
  | tcp address =>
    rw [listen] at h
    rcases hlisten : network.listen address with fault | bound
    · rw [hlisten] at h
      cases h
      exact Or.inl ⟨rfl, by rintro listener ⟨⟩⟩
    · rw [hlisten] at h
      cases h
      exact Or.inl ⟨rfl, fun listener heq => ⟨bound, (Except.ok.inj heq).symm⟩⟩

/-! ### Names -/

/-- A name is somebody's if it says something and was taken. -/
theorem dialName_eq_ok_iff : host.dialName path = .ok number ↔
    checkName path = .ok () ∧ path.isNoName = false ∧ host.names.lookup path = some number := by
  rw [dialName, Attempt.bind_eq_ok_iff]
  constructor
  · rintro ⟨_, hcheck, h⟩
    rcases hvoid : path.isNoName with _ | _
    · rw [hvoid] at h
      rcases hfound : host.names.lookup path with _ | found
      · rw [hfound] at h
        cases h
      · rw [hfound] at h
        cases h
        exact ⟨hcheck, rfl, rfl⟩
    · rw [hvoid] at h
      cases h
  · rintro ⟨hcheck, hvoid, hfound⟩
    refine ⟨(), hcheck, ?_⟩
    rw [hvoid, hfound]
    rfl

/-- The listener of a name is found as long as its own name is kept. -/
theorem lookup_filter_of_some {names : List (Path × Nat)} (h : names.lookup path = some own)
    (hne : own ≠ number) :
    (names.filter fun name => name.2 ≠ number).lookup path = some own := by
  induction names with
  | nil => cases h
  | cons entry names ih =>
    obtain ⟨name, found⟩ := entry
    rw [List.lookup_cons] at h
    rcases hpath : path == name with _ | _
    · rw [hpath] at h
      by_cases hfound : found = number
      · rw [List.filter_cons_of_neg (by simpa using hfound)]
        exact ih h
      · rw [List.filter_cons_of_pos (by simpa using hfound), List.lookup_cons, hpath]
        exact ih h
    · rw [hpath] at h
      cases h
      rw [List.filter_cons_of_pos (by simpa using hne), List.lookup_cons, hpath]

/-- **Two paths meet** if they lead to the same place. Names lead to none. -/
def Meet (host : Host) (path other : Path) : Prop :=
  path.isName = false ∧ other.isName = false ∧ host.tree.locate path = host.tree.locate other

/-- **Who has a name keeps it** when another listener ends. -/
theorem dial_unlisten_name {live after : Nat → Bool} (hname : other.isName = true)
    (hne : own ≠ number) (hdial : host.dial live other = .ok own) :
    (host.unlisten (.unix path number)).dial after other = .ok own := by
  rw [dial, if_pos hname] at hdial ⊢
  obtain ⟨hcheck, hvoid, hfound⟩ := dialName_eq_ok_iff.mp hdial
  refine dialName_eq_ok_iff.mpr ⟨hcheck, hvoid, ?_⟩
  rcases hfile : path.isName with _ | _
  · rw [unlisten, freeSocket, hfile, if_neg (by decide), removeIfAny]
    split <;> exact hfound
  · rw [unlisten_isName hfile]
    exact lookup_filter_of_some hfound hne

/-- **Who is found at a spot is found there still**, unless it is that of the listener that has
ended. -/
theorem dial_unlisten_file {live after : Nat → Bool} {spot' : Spot} (hname : path.isName = false)
    (hname' : other.isName = false) (h : host.tree.Seats path spot)
    (h' : host.tree.Seats other spot') (hdial : host.dial live other = .ok own)
    (hlive : after own = true) :
    (host.unlisten (.unix path number)).dial after other = .ok own ↔
      spot'.place ≠ spot.place := by
  obtain ⟨hcheck, hlook, -⟩ := (dial_eq_ok_iff hname').mp hdial
  have hlater := h'.of_keeps (host.follows_unlisten (.unix path number)).directories
  obtain ⟨hstays, hgoes⟩ := node?_unlisten h hname number spot'.place
  rw [dial_eq_ok_iff hname', hlater.look]
  rw [h'.look] at hlook
  constructor
  · rintro ⟨-, hsocket, -⟩ hplace
    have hat := not_directoryAt_of_number hlook rfl
    rw [hgoes hplace (hplace ▸ hat)] at hsocket
    cases hsocket
  · intro hplace
    exact ⟨hcheck, (hstays (Or.inl hplace)).trans hlook, hlive⟩

/-- **Who is found once a listener has ended**: all that were found before and whose paths do not
meet that of the listener. -/
theorem dial_unlisten {live after : Nat → Bool}
    (hseats : path.isName = false → ∃ spot, host.tree.Seats path spot)
    (hseats' : other.isName = false → ∃ spot, host.tree.Seats other spot) (hne : own ≠ number)
    (hdial : host.dial live other = .ok own) (hlive : after own = true) :
    (host.unlisten (.unix path number)).dial after other = .ok own ↔ ¬ host.Meet path other := by
  rcases hname' : other.isName with _ | _
  · obtain ⟨spot', h'⟩ := hseats' hname'
    rcases hname : path.isName with _ | _
    · obtain ⟨spot, h⟩ := hseats hname
      rw [dial_unlisten_file hname hname' h h' hdial hlive, Meet, h.locate, h'.locate]
      simp only [hname, hname', Except.ok.injEq, true_and, ne_eq, eq_comm]
    · -- the end of a listener with a name changes no files
      obtain ⟨hcheck, hlook, -⟩ := (dial_eq_ok_iff hname').mp hdial
      rw [unlisten_isName hname, dial_eq_ok_iff hname']
      refine iff_of_true ⟨hcheck, hlook, hlive⟩ ?_
      rintro ⟨hfile, -, -⟩
      cases hname.symm.trans hfile
  · refine iff_of_true (dial_unlisten_name hname' hne hdial) ?_
    rintro ⟨-, hfile, -⟩
    cases hname'.symm.trans hfile

end Host

/-! ### Servers -/

namespace Hosted

variable {hosted : Hosted} {listeners : Listeners}

theorem host_settle (hosted : Hosted) (now : Instant) : (hosted.settle now).host = hosted.host := by
  rw [settle, concluded]
  split_ifs <;> rfl

/-- **A server that begins to drain drops its listener**, in whatever way it is ended. -/
theorem host_ended (hbound : hosted.server.life.bound = some listeners)
    (hdraining : hosted.server.life.flags.draining = false) (now : Instant) :
    (hosted.gracefulStop now).host = hosted.host.unlisten listeners.rpc ∧
      (hosted.stop now).host = hosted.host.unlisten listeners.rpc ∧
      (hosted.cancel now).host = hosted.host.unlisten listeners.rpc := by
  have hunbind {event : Lifecycle.Event}
      (hkept : (hosted.live event).server.life.bound = hosted.server.life.bound) :
      ((hosted.live event).unbind.settle now).host = hosted.host.unlisten listeners.rpc := by
    rw [host_settle, unbind, hkept, hbound]
    rfl
  have hcancel : (hosted.live .cancel).server.life.bound = hosted.server.life.bound := by
    show (hosted.server.life.step .cancel).bound = _
    rw [Lifecycle.step]
    split_ifs <;> rfl
  refine ⟨?_, ?_, ?_⟩
  · rw [gracefulStop, hdraining]
    exact hunbind rfl
  · rw [stop, hdraining]
    exact hunbind rfl
  · rw [cancel, hdraining]
    exact hunbind hcancel

end Hosted

/-! ### Listeners on a host -/

/-- The number of a listener on a local socket. -/
def Listener.number? : Listener → Option Nat
  | .unix _ number => some number
  | .tcp _ => none

/-- **The listeners that live on a host.** -/
structure Roster where
  /-- Its files and names. -/
  host : Host := {}
  /-- The listeners. -/
  live : List Listener := []

namespace Roster

/-- **What happens on a host.** -/
inductive Event where
  /-- A listener is bound. -/
  | bind (endpoint : Endpoint)
  /-- A server binds its listeners, both or none. -/
  | start (endpoint : Endpoint) (restHost : Ip)
  /-- A listener ends. -/
  | drop (listener : Listener)
  /-- The way for a socket is cleared. -/
  | clear (path : Path)
  /-- A process claims a lock. -/
  | acquire (pid : Nat) (path : Path)
  /-- A lock is given back. -/
  | release (lock : FileLock)
  /-- Someone writes a file. -/
  | write (path : Path) (content : Bytes)
  /-- Someone makes a directory. -/
  | makeDirectory (mode : Nat) (path : Path)
  /-- Someone removes a file or a socket. -/
  | remove (path : Path)

/-- The roster with other files, if that could be done. -/
def withFiles (roster : Roster) (files : Except SystemFault FileTree) : Roster :=
  match files with
  | .ok tree => { roster with host := { roster.host with tree := tree } }
  | .error _ => roster

/-- **The roster after an event.** Only a listener that lives can end. -/
def step (network : Network) (roster : Roster) : Event → Roster
  | .bind endpoint =>
    match roster.host.listen network endpoint with
    | (.ok listener, host) => ⟨host, listener :: roster.live⟩
    | (.error _, host) => { roster with host := host }
  | .start endpoint restHost =>
    match roster.host.listenAll network endpoint restHost with
    | (.ok listeners, host) => ⟨host, listeners.rpc :: roster.live⟩
    | (.error _, host) => { roster with host := host }
  | .drop listener =>
    if listener ∈ roster.live then
      ⟨roster.host.unlisten listener, roster.live.erase listener⟩
    else roster
  | .clear path => { roster with host := (roster.host.prepareSocket path).2 }
  | .acquire pid path => { roster with host := (roster.host.acquire pid path).2 }
  | .release lock => { roster with host := roster.host.release lock }
  | .write path content => roster.withFiles (roster.host.tree.write path content)
  | .makeDirectory mode path => roster.withFiles (roster.host.tree.makeDirectory mode path)
  | .remove path => roster.withFiles (roster.host.tree.remove path)

/-- **The roster after a history.** -/
def run (network : Network) (roster : Roster) (events : List Event) : Roster :=
  events.foldl (step network) roster

/-- Whether the listener of a number lives. -/
def isLive (roster : Roster) (number : Nat) : Bool :=
  roster.live.any fun listener => listener.number? = some number

/-- **A listener is found at its path**: its socket file is there, and it takes connections. -/
def Reaches (roster : Roster) (path : Path) (number : Nat) : Prop :=
  roster.host.dial roster.isLive path = .ok number

instance (roster : Roster) (path : Path) (number : Nat) :
    Decidable (roster.Reaches path number) :=
  inferInstanceAs (Decidable (_ = _))

/-- **What every history keeps.** -/
structure IsSettled (roster : Roster) : Prop where
  /-- The paths of live listeners have their spots. -/
  seats : ∀ path number, .unix path number ∈ roster.live → path.isName = false →
    ∃ spot, roster.host.tree.Seats path spot
  /-- Their numbers were given. -/
  number_lt : ∀ listener ∈ roster.live, ∀ number ∈ listener.number?,
    number < roster.host.tree.nextNumber
  /-- No two have the same. -/
  unique : roster.live.Pairwise fun a b => ∀ number ∈ a.number?, number ∉ b.number?

variable {network : Network} {roster : Roster} {host : Host} {live : List Listener}
  {listener : Listener} {path : Path} {number : Nat}

/-- **Listeners with the same number are the same.** -/
theorem IsSettled.eq_of_number (h : roster.IsSettled) {a b : Listener} (ha : a ∈ roster.live)
    (hb : b ∈ roster.live) (hnumber : number ∈ a.number?) (hnumber' : number ∈ b.number?) :
    a = b := by
  by_contra hne
  have : Std.Symm fun a b : Listener => ∀ number ∈ a.number?, number ∉ b.number? :=
    ⟨fun a b hab number hb ha => hab number ha hb⟩
  exact h.unique.forall ha hb hne number hnumber hnumber'

/-- **Later files, and no new listeners.** -/
theorem IsSettled.follows (h : roster.IsSettled) (hhost : roster.host.Follows host)
    (hlive : live.Sublist roster.live) : IsSettled ⟨host, live⟩ where
  seats path number hmem hname := by
    obtain ⟨spot, hspot⟩ := h.seats path number (hlive.subset hmem) hname
    exact ⟨spot, hspot.of_keeps hhost.directories⟩
  number_lt listener hmem number hnumber :=
    (h.number_lt listener (hlive.subset hmem) number hnumber).trans_le hhost.nextNumber
  unique := h.unique.sublist hlive

/-- **One listener more.** -/
theorem IsSettled.listen (h : roster.IsSettled) {endpoint : Endpoint}
    (hlisten : roster.host.listen network endpoint = (.ok listener, host)) :
    IsSettled ⟨host, listener :: roster.live⟩ := by
  rcases Host.listen_cases hlisten with ⟨rfl, htcp⟩ | ⟨path, number, heq, hbind⟩
  · obtain ⟨address, rfl⟩ := htcp listener rfl
    refine ⟨fun path number hmem hname => ?_, List.forall_mem_cons.mpr ⟨nofun, h.number_lt⟩,
      List.pairwise_cons.mpr ⟨fun _ _ => nofun, h.unique⟩⟩
    rcases List.mem_cons.mp hmem with heq | hold
    · cases heq
    · exact h.seats path number hold hname
  · cases heq
    have hlater := h.follows (Host.follows_bindSocket hbind) (List.Sublist.refl _)
    obtain ⟨hnumber, hnext⟩ := Host.bindSocket_number hbind
    refine ⟨fun path' number' hmem hname => ?_, List.forall_mem_cons.mpr ⟨?_, hlater.number_lt⟩,
      List.pairwise_cons.mpr ⟨fun other hother => ?_, h.unique⟩⟩
    · rcases List.mem_cons.mp hmem with heq | hold
      · cases heq
        exact Host.seats_bindSocket hbind hname
      · exact hlater.seats path' number' hold hname
    · rintro _ ⟨⟩
      exact hnext ▸ Nat.lt_succ_self number
    · rintro _ ⟨⟩ hsame
      exact (h.number_lt other hother number hsame).ne hnumber

/-- **Every event keeps a roster settled.** -/
theorem IsSettled.step (h : roster.IsSettled) (event : Event) :
    (roster.step network event).IsSettled := by
  have hfiles : ∀ files : Except SystemFault FileTree,
      (∀ tree, files = .ok tree → roster.host.Follows { roster.host with tree := tree }) →
        (roster.withFiles files).IsSettled := by
    rintro (fault | tree) hfollows
    · exact h
    · exact h.follows (hfollows tree rfl) (List.Sublist.refl _)
  cases event with
  | bind endpoint =>
    rw [Roster.step]
    rcases hlisten : roster.host.listen network endpoint with ⟨error | listener, host⟩
    · rcases Host.listen_cases hlisten with ⟨rfl, -⟩ | ⟨_, _, heq, -⟩
      · exact h
      · cases heq
    · exact h.listen hlisten
  | start endpoint restHost =>
    rw [Roster.step, Host.listenAll]
    rcases hlisten : roster.host.listen network endpoint with ⟨error | listener, host⟩
    · rcases Host.listen_cases hlisten with ⟨rfl, -⟩ | ⟨_, _, heq, -⟩
      · exact h
      · cases heq
    · have hboth := h.listen hlisten
      rcases network.listen ⟨restHost, 0, 0⟩ with fault | address
      · -- the listener that was bound is dropped again at once
        exact hboth.follows (host.follows_unlisten listener) (List.sublist_cons_self _ _)
      · exact hboth
  | drop listener =>
    rw [Roster.step]
    split_ifs
    · exact h.follows (roster.host.follows_unlisten listener) List.erase_sublist
    · exact h
  | clear path => exact h.follows (Host.follows_prepareSocket rfl) (List.Sublist.refl _)
  | acquire pid path => exact h.follows (Host.follows_acquire rfl) (List.Sublist.refl _)
  | release lock => exact h.follows (roster.host.follows_release lock) (List.Sublist.refl _)
  | write path content => exact hfiles _ fun tree hwrite => Host.follows_write hwrite
  | makeDirectory mode path =>
    exact hfiles _ fun tree hmake => Host.follows_grown (grown_makeDirectory hmake)
  | remove path => exact hfiles _ fun tree hremove => Host.follows_remove hremove

/-- **Every history keeps a roster settled.** -/
theorem IsSettled.run (h : roster.IsSettled) (events : List Event) :
    (roster.run network events).IsSettled := by
  induction events generalizing roster with
  | nil => exact h
  | cons event events ih => exact ih (h.step event)

/-- A host without listeners is settled. -/
theorem isSettled_idle (host : Host) : IsSettled ⟨host, []⟩ where
  seats := nofun
  number_lt := nofun
  unique := .nil

/-! ### What a drop leaves -/

/-- **A listener takes away no more than its own socket file** exactly if its path leads to that,
to a directory or to nothing. -/
theorem IsSettled.takes_own_iff (h : roster.IsSettled) (hmem : .unix path number ∈ roster.live) :
    (∀ place node, roster.host.tree.node? place = some node → node ≠ .socket number →
        (roster.host.unlisten (.unix path number)).tree.node? place = some node) ↔
      (path.isName = false → ∀ node, roster.host.tree.look path = some node →
        node = .socket number ∨ ∃ mode, node = .directory mode) := by
  rcases hname : path.isName with _ | _
  · obtain ⟨spot, hspot⟩ := h.seats path number hmem hname
    rw [hspot.look]
    constructor
    · intro hkept _ node hnode
      by_contra hother
      rw [not_or] at hother
      have hat : ¬ roster.host.tree.DirectoryAt spot.place := by
        rintro ⟨mode, hmode⟩
        exact hother.2 ⟨mode, Option.some.inj (hnode.symm.trans hmode)⟩
      have hgone := (Host.node?_unlisten hspot hname number spot.place).2 rfl hat
      cases hgone.symm.trans (hkept spot.place node hnode hother.1)
    · intro hown place node hnode hne
      refine ((Host.node?_unlisten hspot hname number place).1 ?_).trans hnode
      by_cases hplace : place = spot.place
      · subst hplace
        rcases hown rfl node hnode with hsocket | ⟨mode, hmode⟩
        · exact absurd hsocket hne
        · exact Or.inr ⟨mode, hmode ▸ hnode⟩
      · exact Or.inl hplace
  · rw [Host.unlisten_isName hname]
    exact iff_of_true (fun place node hnode _ => hnode) nofun

/-- **Another listener stays** exactly if its path does not meet that of the one that ends. -/
theorem IsSettled.stays_iff (h : roster.IsSettled) (hmem : .unix path number ∈ roster.live)
    {other : Path} {own : Nat} (hother : .unix other own ∈ roster.live)
    (hne : Listener.unix other own ≠ .unix path number) (hreaches : roster.Reaches other own) :
    (roster.step network (.drop (.unix path number))).Reaches other own ↔
      ¬ roster.host.Meet path other := by
  have hnumber : own ≠ number := by
    rintro rfl
    exact hne (h.eq_of_number hother hmem rfl rfl)
  have hlive : (roster.step network (.drop (.unix path number))).isLive own = true := by
    rw [Roster.step, if_pos hmem]
    exact List.any_eq_true.mpr
      ⟨_, (List.mem_erase_of_ne hne).mpr hother, decide_eq_true rfl⟩
  have hhost : (roster.step network (.drop (.unix path number))).host =
      roster.host.unlisten (.unix path number) := by
    rw [Roster.step, if_pos hmem]
  rw [Reaches, hhost]
  exact Host.dial_unlisten (h.seats path number hmem) (h.seats other own hother) hnumber
    hreaches hlive

/-- **Binding that fails takes nothing away.** -/
theorem node?_listenAll_error {last : Host} {endpoint : Endpoint} {restHost : Ip} {error : Error}
    (h : host.listenAll network endpoint restHost = (.error error, last)) {place : Place}
    {node : Node} (hnode : host.tree.node? place = some node) :
    last.tree.node? place = some node := by
  cases endpoint with
  | unix path => exact (Host.node?_listenAll h place).1 node hnode
  | tcp address =>
    rw [Host.listenAll, Host.listen] at h
    rcases hrpc : network.listen address with fault | bound
    · simp only [hrpc] at h
      cases h
      exact hnode
    · rcases hrest : network.listen ⟨restHost, 0, 0⟩ with fault | address
      · simp only [hrpc, hrest] at h
        cases h
        exact hnode
      · simp only [hrpc, hrest] at h
        cases h

/-- **Whose socket file goes with a listener.** Whatever has happened on a host, to its listeners
and its files, and whichever of the listeners on local sockets ends next:

* it takes away no more than its own socket file exactly if its path leads to that, to a directory
  or to nothing by then;
* another live listener that was found at its path is found there afterwards exactly if that path
  does not lead to the same place;
* binding a server that fails half way takes nothing away;
* a server that holds the listener drops it when it begins to drain, in whatever way it is ended. -/
theorem drop_spares_iff (network : Network) (host : Host) (events : List Event) (path : Path)
    (number : Nat) :
    let roster := run network ⟨host, []⟩ events
    let after := roster.step network (.drop (.unix path number))
    Listener.unix path number ∈ roster.live →
    ((∀ place node, roster.host.tree.node? place = some node → node ≠ .socket number →
        after.host.tree.node? place = some node) ↔
      (path.isName = false → ∀ node, roster.host.tree.look path = some node →
        node = .socket number ∨ ∃ mode, node = .directory mode)) ∧
    (∀ other own, Listener.unix other own ∈ roster.live →
      Listener.unix other own ≠ .unix path number → roster.Reaches other own →
        (after.Reaches other own ↔ ¬ roster.host.Meet path other)) ∧
    (∀ endpoint restHost error last,
      roster.host.listenAll network endpoint restHost = (.error error, last) →
        ∀ place node, roster.host.tree.node? place = some node →
          last.tree.node? place = some node) ∧
    ∀ (hosted : Hosted) (listeners : Listeners) (now : Instant), hosted.host = roster.host →
      hosted.server.life.bound = some listeners → listeners.rpc = .unix path number →
      hosted.server.life.flags.draining = false →
        (hosted.gracefulStop now).host = after.host ∧ (hosted.stop now).host = after.host ∧
          (hosted.cancel now).host = after.host := by
  intro roster after hmem
  have h : roster.IsSettled := (isSettled_idle host).run events
  have hafter : after.host = roster.host.unlisten (.unix path number) := by
    show (roster.step network (.drop (.unix path number))).host = _
    rw [step, if_pos hmem]
  refine ⟨?_, fun other own hother hne hreaches => h.stays_iff hmem hother hne hreaches,
    fun endpoint restHost error last hfails place node hnode => node?_listenAll_error hfails hnode,
    fun hosted listeners now hhost hbound hrpc hdraining => ?_⟩
  · rw [hafter]
    exact h.takes_own_iff hmem
  · rw [hafter, ← hhost, ← hrpc]
    exact Hosted.host_ended hbound hdraining now

/-- Two listeners with paths of their own: what is left when one of them ends is the other. -/
theorem drop_spares_apart :
    let network : Network := .confined 4000
    let roster := run network ⟨{}, []⟩ [.bind (.unix ⟨[100]⟩), .bind (.unix ⟨[101]⟩)]
    let after := roster.step network (.drop (.unix ⟨[100]⟩ 0))
    Listener.unix ⟨[100]⟩ 0 ∈ roster.live ∧ roster.Reaches ⟨[101]⟩ 1 ∧
      ¬ roster.host.Meet ⟨[100]⟩ ⟨[101]⟩ ∧ after.Reaches ⟨[101]⟩ 1 ∧
      (∀ place node, roster.host.tree.node? place = some node → node ≠ .socket 0 →
        after.host.tree.node? place = some node) := by
  intro network roster after
  have hmem : Listener.unix ⟨[100]⟩ 0 ∈ roster.live := by decide
  have hreaches : roster.Reaches ⟨[101]⟩ 1 := rfl
  have hapart : ¬ roster.host.Meet ⟨[100]⟩ ⟨[101]⟩ := by
    rintro ⟨-, -, hplace⟩
    cases hplace
  have hown : (⟨[100]⟩ : Path).isName = false → ∀ node,
      roster.host.tree.look ⟨[100]⟩ = some node →
        node = .socket 0 ∨ ∃ mode, node = .directory mode := by
    rintro _ node ⟨⟩
    exact Or.inl rfl
  obtain ⟨htakes, hstays, -, -⟩ :=
    drop_spares_iff network {} [.bind (.unix ⟨[100]⟩), .bind (.unix ⟨[101]⟩)] ⟨[100]⟩ 0 hmem
  exact ⟨hmem, hreaches, hapart,
    (hstays ⟨[101]⟩ 1 (by decide) (by decide) hreaches).mpr hapart, htakes.mpr hown⟩

/-- **A listener may take the socket file of its successor with it.** One is bound, its socket file
is removed, and another one is bound at the same path: when the first one ends, the socket file of
the second is gone and nobody finds it any more, though it lives. So it goes with two daemons that
share the path of the socket but not that of the lock, once the older one is stopped. -/
theorem drop_disturbs_successor :
    let network : Network := .confined 4000
    let roster := run network ⟨{}, []⟩
      [.bind (.unix ⟨[100]⟩), .clear ⟨[100]⟩, .bind (.unix ⟨[100]⟩)]
    let after := roster.step network (.drop (.unix ⟨[100]⟩ 0))
    let start (lock : UInt8) : Invocation :=
      { sock := some ⟨[100]⟩, command := .run (some ⟨[lock]⟩) none false }
    let base : Machine :=
      { network := network, defaults := { lockFile := ⟨[108]⟩, sockFile := ⟨[115]⟩ } }
    let machine := base.run [.spawn 8 ⟨0, 0⟩ (start 97)]
    (Listener.unix ⟨[100]⟩ 0 ∈ roster.live ∧ Listener.unix ⟨[100]⟩ 1 ∈ roster.live ∧
      roster.host.tree.look ⟨[100]⟩ = some (.socket 1) ∧ roster.Reaches ⟨[100]⟩ 1 ∧
      Listener.unix ⟨[100]⟩ 1 ∈ after.live ∧ after.host.tree.look ⟨[100]⟩ = none ∧
      ¬ after.Reaches ⟨[100]⟩ 1) ∧
    ∃ older ∈ machine.daemons, ∃ lock shared younger,
      machine.spawn 13 ⟨0, 0⟩ (start 98) = some (.ok lock, shared) ∧ older ∈ shared.daemons ∧
      younger ∈ shared.daemons ∧ shared.Reaches younger ∧
      younger ∈ (shared.stop older.launched.lock).daemons ∧
      ¬ (shared.stop older.launched.lock).Reaches younger := by
  intro network roster after start base machine
  refine ⟨⟨by decide, by decide, rfl, rfl, by decide, rfl, by decide⟩, _, List.mem_cons_self,
    _, _, _, rfl, List.mem_cons_of_mem _ List.mem_cons_self, List.mem_cons_self, rfl,
    List.mem_cons_self, ?_⟩
  intro h
  cases h

end Roster

end TaskDaemon
