import MiniVpn.Model.DataChannel.Workers

/-! # Shutdown of the data-channel workers

Every `select` of the workers also waits on `ShouldShutdown()`, so a worker parked at one of
them can return once shutdown has started. Three sends are not inside such a `select`:
`keyWorker`'s `ws.newKey <- true` and its `m.Ready <- true` inside `SetNegotiationState`, and
`moveUpWorker`'s `ws.dataToTUN <- decrypted`. A worker parked at one of them leaves only through
the rendezvous with its receiver. The receiver of `newKey` is `moveDownWorker`'s outer `select`,
which it never returns to once it has received a key, so a second key parks `keyWorker` for good,
whatever any party does afterwards.
-/

namespace MiniVpn.DataChannel

open Workers

/-! ## One step -/

private theorem step_of_sendingNewKey {s s' : Workers} {a : Action}
    (parked : s.key = .sendingNewKey) (stepped : s.step a = some s') :
    s'.key = .sendingNewKey ∨ (a = .newKeyHandOver ∧ s.down = .awaitingKey) := by
  cases a <;> simp only [Workers.step] at stepped <;> (try split at stepped) <;> cases stepped <;>
    simp_all

private theorem step_of_sendingReady {s s' : Workers} {a : Action} (parked : s.key = .sendingReady)
    (stepped : s.step a = some s') : s'.key = .sendingReady ∨ a = .readyReceive := by
  cases a <;> simp only [Workers.step] at stepped <;> (try split at stepped) <;> cases stepped <;>
    simp_all

private theorem step_of_sendingToTUN {s s' : Workers} {a : Action} (parked : s.up = .sendingToTUN)
    (stepped : s.step a = some s') : s'.up = .sendingToTUN ∨ a = .tunReceive := by
  cases a <;> simp only [Workers.step] at stepped <;> (try split at stepped) <;> cases stepped <;>
    simp_all

private theorem step_down_ne_awaitingKey {s s' : Workers} {a : Action}
    (inner : s.down ≠ .awaitingKey) (stepped : s.step a = some s') : s'.down ≠ .awaitingKey := by
  cases a <;> simp only [Workers.step] at stepped <;> (try split at stepped) <;> cases stepped <;>
    simp_all [ite_eq_iff]

/-! ## Whole schedules -/

private theorem run_cons {s s' : Workers} {a : Action} {schedule : List Action}
    (ran : s.run (a :: schedule) = some s') :
    ∃ s₁, s.step a = some s₁ ∧ s₁.run schedule = some s' := by
  simp only [Workers.run, Option.bind_eq_some] at ran
  exact ran

private theorem run_of_sendingNewKey :
    ∀ {s s' : Workers} (schedule : List Action), s.key = .sendingNewKey → s.down ≠ .awaitingKey →
      s.run schedule = some s' → s'.key = .sendingNewKey
  | _, _, [], parked, _, ran => by cases ran; exact parked
  | _, _, a :: schedule, parked, inner, ran => by
    obtain ⟨s₁, stepped, rest⟩ := run_cons ran
    have still : s₁.key = .sendingNewKey := by
      rcases step_of_sendingNewKey parked stepped with still | ⟨-, waiting⟩
      · exact still
      · exact absurd waiting inner
    exact run_of_sendingNewKey schedule still (step_down_ne_awaitingKey inner stepped) rest

private theorem run_of_sendingReady :
    ∀ {s s' : Workers} (schedule : List Action), s.key = .sendingReady →
      .readyReceive ∉ schedule → s.run schedule = some s' → s'.key = .sendingReady
  | _, _, [], parked, _, ran => by cases ran; exact parked
  | _, _, a :: schedule, parked, unread, ran => by
    obtain ⟨s₁, stepped, rest⟩ := run_cons ran
    rw [List.mem_cons, not_or] at unread
    have still : s₁.key = .sendingReady :=
      (step_of_sendingReady parked stepped).resolve_right (Ne.symm unread.1)
    exact run_of_sendingReady schedule still unread.2 rest

private theorem run_of_sendingToTUN :
    ∀ {s s' : Workers} (schedule : List Action), s.up = .sendingToTUN →
      .tunReceive ∉ schedule → s.run schedule = some s' → s'.up = .sendingToTUN
  | _, _, [], parked, _, ran => by cases ran; exact parked
  | _, _, a :: schedule, parked, unread, ran => by
    obtain ⟨s₁, stepped, rest⟩ := run_cons ran
    rw [List.mem_cons, not_or] at unread
    have still : s₁.up = .sendingToTUN :=
      (step_of_sendingToTUN parked stepped).resolve_right (Ne.symm unread.1)
    exact run_of_sendingToTUN schedule still unread.2 rest

/-! ## The unguarded sends -/

/-- A second key parks `keyWorker` for good. When the reader of `Ready` receives both times,
shutdown lets `moveDownWorker` and `moveUpWorker` return, but `keyWorker` stays at
`ws.newKey <- true` under every continuation and never reaches `OnWorkerDone`. When the reader
receives only once, `keyWorker` stays inside `SetNegotiationState`, with the session mutex held,
under every continuation in which nobody receives from `Ready`. Likewise a TUN layer that stops
reading leaves `moveUpWorker` at `ws.dataToTUN <- decrypted` after shutdown. -/
theorem second_key_blocks_keyWorker :
    (Workers.start 1).run [.deliverKey, .keyReceive true, .readyReceive, .newKeyHandOver,
        .deliverKey, .keyReceive true, .readyReceive, .startShutdown, .downExit, .upExit] =
        some ⟨.sendingNewKey, .done, .done, true, 0, 0, 0, 0, 1⟩ ∧
      (∀ (schedule : List Action) (s' : Workers),
        Workers.run ⟨.sendingNewKey, .done, .done, true, 0, 0, 0, 0, 1⟩ schedule = some s' →
          s'.key = .sendingNewKey) ∧
      (Workers.start 1).run [.deliverKey, .keyReceive true, .readyReceive, .newKeyHandOver,
        .deliverKey, .keyReceive true, .startShutdown, .downExit, .upExit] =
        some ⟨.sendingReady, .done, .done, true, 0, 0, 0, 0, 1⟩ ∧
      (∀ (schedule : List Action) (s' : Workers), .readyReceive ∉ schedule →
        Workers.run ⟨.sendingReady, .done, .done, true, 0, 0, 0, 0, 1⟩ schedule = some s' →
          s'.key = .sendingReady) ∧
      (Workers.start 1).run [.muxerSend, .upRead true, .startShutdown, .keyExit, .downExit] =
        some ⟨.done, .done, .sendingToTUN, true, 0, 0, 0, 0, 1⟩ ∧
      ∀ (schedule : List Action) (s' : Workers), .tunReceive ∉ schedule →
        Workers.run ⟨.done, .done, .sendingToTUN, true, 0, 0, 0, 0, 1⟩ schedule = some s' →
          s'.up = .sendingToTUN :=
  ⟨by decide, fun schedule _ ran => run_of_sendingNewKey schedule rfl (by decide) ran, by decide,
    fun schedule _ unread ran => run_of_sendingReady schedule rfl unread ran, by decide,
    fun schedule _ unread ran => run_of_sendingToTUN schedule rfl unread ran⟩

end MiniVpn.DataChannel
