import HostWatch.Daemon.Life
import HostWatch.Proofs.Json.Lexical

/-!
# Sockets that are left behind

`bind_leaves`: whatever the system refuses while a server is bound, it is known what then stands at
the path. A server that gives up once its file has appeared leaves the file just if it could not
listen, or if the system does not let it remove the file.

1. A failure before the file appears takes away at most what stood there (`entry_of_create_error`),
   and the file appears unless the path is empty (`entry_of_create`).
2. Whether a server can listen depends on its backlog (`listen_eq_ok_iff`).
3. One that listens is open to its clients (`entry_of_grant`), or it takes its file away
   (`bind_cases`). A daemon starts just if its server is bound (`start_eq_error_iff`).
-/

namespace HostWatch.Rpc

open Json (bind_eq_ok bind_eq_ok_iff bind_eq_error mapError_eq_ok_iff mapError_eq_error)

theorem unlessRefused_eq_ok_iff {refused : Option ε} {result : Except ε α} {a : α} :
    unlessRefused refused result = .ok a ↔ refused = none ∧ result = .ok a := by
  cases refused <;> simp [unlessRefused]

namespace Entry

/-- Room is made by taking away what stands there, if anything. -/
theorem vacate_eq_ok {refused : Refusals} {e e' : Entry} (h : e.vacate refused = .ok e') :
    e' = e ∨ e' = .nothing := by
  unfold vacate at h
  split at h
  · cases h
    exact .inl rfl
  · obtain ⟨-, removed⟩ := unlessRefused_eq_ok_iff.1 h
    cases e with
    | directory => cases removed
    | nothing | file | link | socket =>
      cases removed
      exact .inr rfl

end Entry

namespace SocketOptions

variable {o : SocketOptions} {s : Surroundings} {refused : Refusals} {entry entry' : Entry}

/-- What stands at the path once the socket has its address. -/
def fresh (o : SocketOptions) : Entry := if o.path = "" then .nothing else .socket freshMode

/-! ## Until the file appears -/

theorem entry_of_address (h : o.address refused entry = .ok entry') : entry' = o.fresh := by
  obtain ⟨_, -, h⟩ := bind_eq_ok h
  obtain ⟨_, -, h⟩ := bind_eq_ok h
  obtain ⟨-, h⟩ := unlessRefused_eq_ok_iff.1 h
  unfold fresh
  split at h
  · next empty =>
    rw [if_pos (String.isEmpty_iff.1 empty)]
    cases h
    rfl
  · next named =>
    rw [if_neg fun empty => named (String.isEmpty_iff.2 empty)]
    unfold Entry.appear at h
    split at h
    · cases h
      rfl
    · cases h

theorem entry_of_create (h : o.create s refused = .ok entry) : entry = o.fresh := by
  obtain ⟨_, -, h⟩ := bind_eq_ok h
  obtain ⟨_, -, h⟩ := bind_eq_ok h
  exact entry_of_address (mapError_eq_ok_iff.1 h)

theorem entry_of_create_error {e : BindError} (h : o.create s refused = .error (e, entry)) :
    entry = s.entry ∨ entry = .nothing := by
  rcases bind_eq_error h with failed | ⟨_, -, h⟩
  · obtain ⟨_, -, left⟩ := mapError_eq_error failed
    cases left
    exact .inl rfl
  rcases bind_eq_error h with failed | ⟨before, room, failed⟩
  · obtain ⟨_, -, left⟩ := mapError_eq_error failed
    cases left
    exact .inl rfl
  · obtain ⟨_, -, left⟩ := mapError_eq_error failed
    cases left
    exact Entry.vacate_eq_ok (mapError_eq_ok_iff.1 room)

/-! ## From then on -/

theorem listen_eq_ok_iff :
    o.listen refused = .ok () ↔ o.backlog < maxBacklog ∧ refused.listening = none := by
  have backlog : checkBacklog o.backlog = .ok () ↔ o.backlog < maxBacklog := by
    unfold checkBacklog maxBacklog
    split
    · exact ⟨nofun, by omega⟩
    · exact ⟨by omega, fun _ => rfl⟩
  rw [listen, bind_eq_ok_iff]
  exact ⟨fun ⟨_, few, free⟩ => ⟨backlog.1 few, (unlessRefused_eq_ok_iff.1 free).1⟩,
    fun ⟨few, free⟩ => ⟨(), backlog.2 few, unlessRefused_eq_ok_iff.2 ⟨free, rfl⟩⟩⟩

theorem listen_ne_ok_iff :
    o.listen refused ≠ .ok () ↔ maxBacklog ≤ o.backlog ∨ refused.listening.isSome := by
  rw [Ne, listen_eq_ok_iff, Classical.not_and_iff_not_or_not, Int.not_lt, Option.isSome_iff_ne_none]

/-- Only a file is opened. -/
theorem entry_of_grant (h : o.grant s refused o.fresh = .ok entry) :
    o.path ≠ "" ∧ entry = .socket (if o.group = none then openMode else groupMode) := by
  have permitted {mode : Nat}
      (h : (unlessRefused refused.mode (o.fresh.permit mode)).mapError BindError.files = .ok entry) :
      o.path ≠ "" ∧ entry = .socket mode := by
    obtain ⟨-, h⟩ := unlessRefused_eq_ok_iff.1 (mapError_eq_ok_iff.1 h)
    unfold fresh at h
    split at h
    · cases h
    · next named =>
      cases h
      exact ⟨named, rfl⟩
  unfold grant at h
  cases group : o.group with
  | none =>
    rw [group] at h
    exact permitted h
  | some name =>
    rw [group] at h
    obtain ⟨_, -, h⟩ := bind_eq_ok h
    obtain ⟨_, -, h⟩ := bind_eq_ok h
    exact permitted h

theorem discard_fresh (o : SocketOptions) (refused : Refusals) :
    o.fresh.discard refused =
      if o.path ≠ "" ∧ refused.cleanup.isSome then .socket freshMode else .nothing := by
  unfold fresh Entry.discard
  by_cases empty : o.path = "" <;> cases refused.cleanup <;> simp [empty] <;> rfl

/-- A server whose file has appeared cannot listen, or it takes the file away, or it is open. -/
theorem bind_cases (h : o.create s refused = .ok entry) :
    (o.listen refused ≠ .ok () ∧ ∃ e, o.bind s refused = (.error e, o.fresh)) ∨
      o.listen refused = .ok () ∧
        ((∃ e, o.bind s refused = (.error e, o.fresh.discard refused)) ∨
          o.path ≠ "" ∧ o.bind s refused =
            (.ok (), .socket (if o.group = none then openMode else groupMode))) := by
  unfold bind
  rw [h, entry_of_create h]
  dsimp only
  cases listens : o.listen refused with
  | error e => exact .inl ⟨nofun, _, rfl⟩
  | ok =>
    refine .inr ⟨rfl, ?_⟩
    cases granted : o.grant s refused o.fresh with
    | error e => exact .inl ⟨_, rfl⟩
    | ok opened =>
      obtain ⟨named, rfl⟩ := entry_of_grant granted
      exact .inr ⟨named, rfl⟩

/-- A daemon fails to start just if its server could not be bound, and leaves the same. -/
theorem start_eq_error_iff (clock : Int) (l : Launch) :
    let bound := (Daemon.socketOptions l.settings.current.server).bind l.surroundings l.refusals
    (Daemon.start clock l).2 = bound.2 ∧
      ∀ e, (Daemon.start clock l).1 = .error e ↔ ∃ cause, e = .server cause ∧
        bound.1 = .error cause := by
  unfold Daemon.start
  dsimp only
  generalize (Daemon.socketOptions l.settings.current.server).bind l.surroundings l.refusals = bound
  obtain ⟨cause | _, left⟩ := bound
  · exact ⟨rfl, fun e => ⟨fun h => ⟨cause, (Except.error.inj h).symm, rfl⟩,
      fun ⟨_, same, given⟩ => by cases given; rw [same]⟩⟩
  · exact ⟨rfl, fun e => ⟨nofun, nofun⟩⟩

/-- **Binding.** Whatever stands at the path, whatever the options are and whatever the system
refuses, it is known what a server leaves that could not be bound.

* If the file has not appeared, nothing new stands at the path.
* If the file has appeared, as it does at every path but the empty one, it is left just if the
  backlog is too large, the server was not let listen, or the file cannot be removed again. The
  first two always make the server give up.
* A daemon fails to start just if its server could not be bound, and leaves the same. -/
theorem bind_leaves (o : SocketOptions) (s : Surroundings) (refused : Refusals) :
    (∀ e entry, o.create s refused = .error (e, entry) →
      o.bind s refused = (.error e, entry) ∧ (entry = s.entry ∨ entry = .nothing)) ∧
    (∀ entry, o.create s refused = .ok entry →
      (entry = if o.path = "" then .nothing else .socket freshMode) ∧
      (∀ e, (o.bind s refused).1 = .error e →
        (o.bind s refused).2 =
          if o.path ≠ "" ∧ (maxBacklog ≤ o.backlog ∨ refused.listening.isSome ∨
            refused.cleanup.isSome) then .socket freshMode else .nothing) ∧
      (maxBacklog ≤ o.backlog ∨ refused.listening.isSome → ∃ e, (o.bind s refused).1 = .error e) ∧
      ((o.bind s refused).1 = .ok () → o.path ≠ "" ∧
        (o.bind s refused).2 = .socket (if o.group = none then openMode else groupMode))) ∧
    ∀ clock l, let bound :=
        (Daemon.socketOptions l.settings.current.server).bind l.surroundings l.refusals
      (Daemon.start clock l).2 = bound.2 ∧
        ∀ e, (Daemon.start clock l).1 = .error e ↔ ∃ cause, e = .server cause ∧
          bound.1 = .error cause := by
  refine ⟨fun e entry failed => ⟨by rw [bind, failed], entry_of_create_error failed⟩,
    fun entry made => ⟨entry_of_create made, ?_⟩, start_eq_error_iff⟩
  rcases bind_cases made with ⟨fails, e, gave⟩ | ⟨listens, ⟨e, gave⟩ | ⟨named, opened⟩⟩
  · rw [gave]
    refine ⟨fun _ _ => ?_, fun _ => ⟨e, rfl⟩, nofun⟩
    by_cases empty : o.path = "" <;> rcases listen_ne_ok_iff.1 fails with large | held <;>
      simp [fresh, *]
  · have hears := mt listen_ne_ok_iff.2 (not_not_intro listens)
    rw [gave, discard_fresh]
    refine ⟨fun _ _ => ?_, fun fails => absurd fails hears, nofun⟩
    rw [not_or] at hears
    simp [hears]
  · rw [opened]
    exact ⟨nofun, fun fails => absurd listens (listen_ne_ok_iff.2 fails), fun _ => ⟨named, rfl⟩⟩

theorem create_eq_ok (directory : s.directory = .ok ())
    (room : s.entry.vacate refused = .ok .nothing) (path : checkPath o.path = .ok ())
    (named : o.path ≠ "") (socket : refused.socket = none) (free : refused.address = none) :
    o.create s refused = .ok (.socket freshMode) := by
  have address : o.address refused .nothing = .ok (.socket freshMode) := by
    rw [address, path, socket, free, if_neg fun empty => named (String.isEmpty_iff.1 empty)]
    rfl
  rw [create, directory, room]
  exact mapError_eq_ok_iff.2 address

/-- A path that a socket can have. -/
theorem checkPath_default : checkPath Path.defaultSocket = .ok () := by
  rw [checkPath, if_neg (by decide +kernel), if_neg (by decide +kernel)]

/-- A link that cannot be removed stays. Where it can be, a group that does not exist makes the
server remove its file again, if it is let, and one that may not listen leaves its file. -/
theorem bind_leaves_unknown_group :
    let o : SocketOptions := ⟨Path.defaultSocket, 16, some "cortex"⟩
    let s : Surroundings := ⟨.ok (), .link, ["wheel"]⟩
    let stuck : Refusals := { removal := some .permissionDenied }
    let held : Refusals := { cleanup := some .permissionDenied }
    let deaf : Refusals := { listening := some .addressInUse }
    o.bind s stuck = (.error (.files .permissionDenied), .link) ∧
      (o.bind s).1 = .error (.unknownGroup "cortex") ∧ (o.bind s).2 = .nothing ∧
      (o.bind s held).2 = .socket freshMode ∧
      (∃ e, (o.bind s deaf).1 = .error e) ∧ (o.bind s deaf).2 = .socket freshMode := by
  intro o s stuck held deaf
  have made {refused : Refusals} (free : refused = {} ∨ refused = held ∨ refused = deaf) :
      o.create s refused = .ok (.socket freshMode) := by
    rcases free with rfl | rfl | rfl <;>
      exact create_eq_ok rfl rfl checkPath_default (by decide) rfl rfl
  have unknown {refused : Refusals} (free : refused = {} ∨ refused = held) :
      (o.bind s refused).1 = .error (.unknownGroup "cortex") := by
    rw [bind, made (free.imp_right .inl)]
    rcases free with rfl | rfl <;> rfl
  obtain ⟨e, gaveUp⟩ := ((bind_leaves o s deaf).2.1 _ (made (.inr (.inr rfl)))).2.2.1 (.inr rfl)
  exact ⟨((bind_leaves o s stuck).1 _ _ rfl).1, unknown (.inl rfl),
    ((bind_leaves o s {}).2.1 _ (made (.inl rfl))).2.1 _ (unknown (.inl rfl)),
    ((bind_leaves o s held).2.1 _ (made (.inr (.inl rfl)))).2.1 _ (unknown (.inr rfl)),
    ⟨e, gaveUp⟩, ((bind_leaves o s deaf).2.1 _ (made (.inr (.inr rfl)))).2.1 e gaveUp⟩

/-- Valid settings with a backlog that is too large: the daemon does not start, and leaves a socket
to which nobody listens. -/
theorem backlog_leaves_socket :
    let settings : Settings := { server.backlog := 4096 }
    let o := Daemon.socketOptions settings.server
    let s : Surroundings := ⟨.ok (), .nothing, []⟩
    settings.Valid ∧ o.create s {} = .ok (.socket freshMode) ∧
      o.bind s = (.error (.setup .invalidArgument), .socket freshMode) := by
  intro settings o s
  have made : o.create s {} = .ok (.socket freshMode) :=
    create_eq_ok rfl rfl checkPath_default (by decide) rfl rfl
  refine ⟨by decide +kernel, made, ?_⟩
  rw [bind, made]
  rfl

end SocketOptions

end HostWatch.Rpc
