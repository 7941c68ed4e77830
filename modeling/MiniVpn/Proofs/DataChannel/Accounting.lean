import MiniVpn.Model.DataChannel.Workers

/-! # Where the data channel's packets go

The workers neither duplicate a packet nor drop one anywhere but where the code drops it. On the
way up, every packet the muxer sends on `muxerToData` is still queued, was discarded by
`moveUpWorker` (`readPacket` failed, or the plaintext was the 16-byte keepalive), waits at
`ws.dataToTUN <- decrypted`, or was received by the TUN layer. On the way down, every packet the
TUN layer sends on `tunToData` is still queued, failed `writePacket`, was dropped by the `default`
case because `dataOrControlToMuxer` was full, is in `moveDownWorker`'s hand, or was sent to the
muxer, which has received it or finds it queued; all but at most one, once shutdown has
started: the packet `moveDownWorker` holds when it takes `ShouldShutdown()` instead of sending
it. The packets are counted by the actions taken so far, in every interleaving.
-/

namespace MiniVpn.DataChannel

/-- The packet `moveUpWorker` holds at `ws.dataToTUN <- decrypted`. -/
def Workers.upHeld (s : Workers) : Nat := if s.up = .sendingToTUN then 1 else 0

/-- The encrypted packet `moveDownWorker` holds at the `select` that sends it to the muxer. -/
def Workers.downHeld (s : Workers) : Nat := if s.down = .sending then 1 else 0

/-- What has become of the packets handed to the data channel, read off the actions taken so
far; `lost` is the packet `moveDownWorker` held when it returned, if it held one. -/
structure Accounted (s : Workers) (past : List Action) : Prop where
  shutdown_recorded : s.shutdown = true → .startShutdown ∈ past
  exited_on_shutdown : s.down = .done → s.shutdown = true
  up : past.count .muxerSend =
    s.muxerToData + past.count (.upRead false) + past.count .tunReceive + s.upHeld
  toMuxer : past.count .downSend = s.toMuxer + past.count .muxerReceive
  down : ∃ lost ≤ 1, (lost = 1 → s.down = .done) ∧
    past.count .tunSend = s.tunToData + past.count (.downRead false) + past.count .downDrop +
      past.count .downSend + s.downHeld + lost

private theorem Accounted.start (cap : Nat) : Accounted (Workers.start cap) [] :=
  ⟨nofun, nofun, rfl, rfl, ⟨0, Nat.zero_le _, nofun, rfl⟩⟩

/-- Whether an action is `b`, as a count. -/
def Action.hit (a b : Action) : Nat := if a = b then 1 else 0

private theorem count_snoc (past : List Action) (a b : Action) :
    (past ++ [a]).count b = past.count b + a.hit b := by
  simp [List.count_singleton, Action.hit]

/-! ## One step, by what it moves -/

/-- What one step does to the quantities the account reads: on each way it moves at most one
packet, `moveDownWorker`'s return drops the packet it holds, and it returns for good, only once
shutdown has started, which only `StartShutdown` starts and nothing stops. -/
structure Moves (s s' : Workers) (a : Action) : Prop where
  up : s'.muxerToData + a.hit (.upRead false) + a.hit .tunReceive + s'.upHeld =
    s.muxerToData + s.upHeld + a.hit .muxerSend
  toMuxer : s'.toMuxer + a.hit .muxerReceive = s.toMuxer + a.hit .downSend
  down : s'.tunToData + a.hit (.downRead false) + a.hit .downDrop + a.hit .downSend +
      s'.downHeld + a.hit .downExit * s.downHeld =
    s.tunToData + s.downHeld + a.hit .tunSend
  done_kept : s.down = .done → s'.down = .done
  exit_done : a = .downExit → s'.down = .done ∧ s.shutdown = true
  done_by_exit : s'.down = .done → s.down = .done ∨ a = .downExit
  shutdown_kept : s.shutdown = true → s'.shutdown = true
  shutdown_started : s'.shutdown = true → s.shutdown = true ∨ a = .startShutdown

private theorem Workers.step_moves {s s' : Workers} {a : Action} (stepped : s.step a = some s') :
    Moves s s' a := by
  cases a <;> (try (rename_i flag; cases flag)) <;> simp only [Workers.step] at stepped <;>
    (try split at stepped) <;> cases stepped
  all_goals
    constructor <;> (simp [Action.hit, Workers.upHeld, Workers.downHeld, *]; try omega)

private theorem Accounted.step {s s' : Workers} {past : List Action} {a : Action}
    (acc : Accounted s past) (stepped : s.step a = some s') : Accounted s' (past ++ [a]) := by
  obtain ⟨recorded, exited, up, toMuxer, lost, bound, lostDone, down⟩ := acc
  obtain ⟨up', toMuxer', down', absorbed, exit, reached, kept, started⟩ :=
    Workers.step_moves stepped
  refine ⟨fun shut => ?_, fun done => ?_, ?_, ?_, ⟨lost + a.hit .downExit * s.downHeld, ?_, ?_, ?_⟩⟩
  · rcases started shut with shut | rfl
    · exact List.mem_append_left _ (recorded shut)
    · exact List.mem_append_right _ (List.mem_singleton_self _)
  · rcases reached done with done | rfl
    · exact kept (exited done)
    · exact kept (exit rfl).2
  · simp only [count_snoc]
    omega
  · simp only [count_snoc]
    omega
  · have held : lost = 0 ∨ s.downHeld = 0 := by
      rcases Nat.le_one_iff_eq_zero_or_eq_one.mp bound with zero | one
      · exact .inl zero
      · exact .inr (by simp [Workers.downHeld, lostDone one])
    have lost_le : a.hit .downExit * s.downHeld ≤ s.downHeld := by
      unfold Action.hit
      split <;> simp
    have held_le : s.downHeld ≤ 1 := by unfold Workers.downHeld; split <;> omega
    omega
  · intro one
    by_cases exiting : a = .downExit
    · exact (exit exiting).1
    · have quiet : a.hit .downExit = 0 := by simp [Action.hit, exiting]
      rw [quiet, Nat.zero_mul, Nat.add_zero] at one
      exact absorbed (lostDone one)
  · simp only [count_snoc]
    omega

private theorem Accounted.run :
    ∀ (schedule : List Action) {s s' : Workers} {past : List Action}, Accounted s past →
      s.run schedule = some s' → Accounted s' (past ++ schedule)
  | [], _, _, _, acc, ran => by cases ran; simpa using acc
  | a :: schedule, s, s', past, acc, ran => by
    simp only [Workers.run, Option.bind_eq_some] at ran
    obtain ⟨s₁, stepped, rest⟩ := ran
    simpa using Accounted.run schedule (acc.step stepped) rest

/-- In every interleaving started by `StartWorkers`, no packet is duplicated, and none is lost
but where the code discards it. Every packet the muxer sent up is still queued on
`muxerToData`, was discarded by `moveUpWorker`, waits at `ws.dataToTUN <- decrypted`, or was
received by the TUN layer. Every packet the muxer received was sent to it by `moveDownWorker`,
and every packet so sent was received or is still queued. Every packet the TUN layer sent down
is still queued on `tunToData`, failed `writePacket`, was dropped because the muxer's queue was
full, was sent to the muxer, or is in `moveDownWorker`'s hand, but for at most one, lost only
once shutdown has started, when `moveDownWorker` returned holding it. -/
theorem packets_accounted (cap : Nat) (past : List Action) {s : Workers}
    (ran : (Workers.start cap).run past = some s) :
    past.count .muxerSend =
        s.muxerToData + past.count (.upRead false) + past.count .tunReceive + s.upHeld ∧
      past.count .downSend = s.toMuxer + past.count .muxerReceive ∧
      ∃ lost ≤ 1, (.startShutdown ∉ past → lost = 0) ∧
        past.count .tunSend = s.tunToData + past.count (.downRead false) +
          past.count .downDrop + past.count .downSend + s.downHeld + lost := by
  obtain ⟨recorded, exited, up, toMuxer, lost, bound, lostDone, down⟩ :=
    Accounted.run past (Accounted.start cap) ran
  refine ⟨up, toMuxer, lost, bound, fun unstarted => ?_, down⟩
  rcases Nat.le_one_iff_eq_zero_or_eq_one.mp bound with zero | one
  · exact zero
  · exact absurd (recorded (exited (lostDone one))) unstarted

/-- A key handed over; a TUN packet encrypted and sent to the muxer, filling its queue of
capacity one; a second encrypted and dropped by the `default` case; a third encrypted and held
when shutdown makes `moveDownWorker` return: three sent down, one queued for the muxer, one
dropped, one lost. -/
theorem packets_accounted_drop_and_loss :
    let past : List Action := [.deliverKey, .keyReceive true, .readyReceive, .newKeyHandOver,
      .tunSend, .downRead true, .downSend, .tunSend, .downRead true, .downDrop, .tunSend,
      .downRead true, .startShutdown, .downExit]
    let s : Workers := ⟨.select, .done, .select, true, 0, 0, 0, 1, 1⟩
    (Workers.start 1).run past = some s ∧
      past.count .muxerSend =
        s.muxerToData + past.count (.upRead false) + past.count .tunReceive + s.upHeld ∧
      past.count .downSend = s.toMuxer + past.count .muxerReceive ∧
      ∃ lost ≤ 1, (.startShutdown ∉ past → lost = 0) ∧
        past.count .tunSend = s.tunToData + past.count (.downRead false) +
          past.count .downDrop + past.count .downSend + s.downHeld + lost := by
  intro past s
  have ran : (Workers.start 1).run past = some s := by decide
  exact ⟨ran, packets_accounted 1 past ran⟩

end MiniVpn.DataChannel
