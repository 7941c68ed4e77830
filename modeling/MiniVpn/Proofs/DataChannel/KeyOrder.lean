import MiniVpn.Model.DataChannel.Workers

/-! # No encryption before a key

`moveDownWorker` reads from `tunToData` only inside the inner `for`, which it enters by
receiving on `newKey`; `keyWorker` sends on `newKey` only after `setupKeys` succeeded and
`SetNegotiationState(S_GENERATED_KEYS)` handed its signal to the reader of `Manager.Ready`. So in
every interleaving, before `moveDownWorker` takes a TUN packet to encrypt or sends an encrypted
packet to the muxer, a key was installed, the `Ready` signal was received and the key was handed
over, in that order. The order is read off the actions taken so far, as an ordered
subsequence of them.
-/

namespace MiniVpn.DataChannel

open Workers

/-- The steps that let `moveDownWorker` encrypt, in their order. -/
def keyHandOver : List Action := [.keyReceive true, .readyReceive, .newKeyHandOver]

/-- What the actions taken so far must contain for `keyWorker` and `moveDownWorker` to be where
they are. -/
structure KeyOrder (s : Workers) (past : List Action) : Prop where
  ready : s.key = .sendingReady → List.Sublist [.keyReceive true] past
  newKey : s.key = .sendingNewKey → List.Sublist [.keyReceive true, .readyReceive] past
  down : s.down = .reading ∨ s.down = .sending → keyHandOver.Sublist past

private theorem KeyOrder.start (cap : Nat) : KeyOrder (Workers.start cap) [] :=
  ⟨nofun, nofun, fun parked => by rcases parked with parked | parked <;> cases parked⟩

private theorem KeyOrder.of_eq {s s' : Workers} {past : List Action} (order : KeyOrder s past)
    (a : Action) (key : s'.key = s.key) (down : s'.down = s.down) :
    KeyOrder s' (past ++ [a]) :=
  ⟨fun parked => (order.ready (key ▸ parked)).trans (List.sublist_append_left _ _),
    fun parked => (order.newKey (key ▸ parked)).trans (List.sublist_append_left _ _),
    fun parked => (order.down (down ▸ parked)).trans (List.sublist_append_left _ _)⟩

private theorem KeyOrder.step {s s' : Workers} {past : List Action} {a : Action}
    (order : KeyOrder s past) (stepped : s.step a = some s') : KeyOrder s' (past ++ [a]) := by
  have grow : ∀ {l : List Action}, l.Sublist past → l.Sublist (past ++ [a]) :=
    fun below => below.trans (List.sublist_append_left _ _)
  cases a with
  | keyReceive installed =>
    simp only [Workers.step] at stepped
    split at stepped <;> cases stepped
    refine ⟨fun parked => ?_, fun parked => ?_, fun parked => grow (order.down parked)⟩
    · cases installed
      · cases parked
      · exact (List.nil_sublist past).append (List.Sublist.refl _)
    · cases installed <;> cases parked
  | readyReceive =>
    simp only [Workers.step] at stepped
    split at stepped <;> rename_i parked <;> cases stepped
    exact ⟨nofun, fun _ => (order.ready parked).append (List.Sublist.refl _),
      fun moved => grow (order.down moved)⟩
  | newKeyHandOver =>
    simp only [Workers.step] at stepped
    split at stepped <;> rename_i parked <;> cases stepped
    exact ⟨nofun, nofun, fun _ => (order.newKey parked.1).append (List.Sublist.refl _)⟩
  | downRead encrypted =>
    simp only [Workers.step] at stepped
    split at stepped <;> rename_i reading <;> cases stepped
    exact ⟨fun parked => grow (order.ready parked), fun parked => grow (order.newKey parked),
      fun _ => grow (order.down (.inl reading.1))⟩
  | downSend | downDrop =>
    simp only [Workers.step] at stepped
    split at stepped <;> rename_i sending <;> cases stepped
    exact ⟨fun parked => grow (order.ready parked), fun parked => grow (order.newKey parked),
      fun _ => grow (order.down (.inr sending.1))⟩
  | downExit =>
    simp only [Workers.step] at stepped
    split at stepped <;> cases stepped
    exact ⟨fun parked => grow (order.ready parked), fun parked => grow (order.newKey parked),
      fun parked => by rcases parked with parked | parked <;> cases parked⟩
  | keyExit =>
    simp only [Workers.step] at stepped
    split at stepped <;> cases stepped
    exact ⟨nofun, nofun, fun parked => grow (order.down parked)⟩
  | upRead | upExit | tunReceive | muxerReceive =>
    simp only [Workers.step] at stepped
    split at stepped <;> cases stepped
    exact order.of_eq _ rfl rfl
  | deliverKey | tunSend | muxerSend | startShutdown =>
    cases stepped
    exact order.of_eq _ rfl rfl

private theorem Workers.run_append (s : Workers) (first rest : List Action) :
    s.run (first ++ rest) = (s.run first).bind fun s' => s'.run rest := by
  induction first generalizing s with
  | nil => rfl
  | cons a first ih =>
    simp only [List.cons_append, Workers.run, Option.bind_assoc]
    cases s.step a <;> simp [ih]

private theorem KeyOrder.run :
    ∀ (schedule : List Action) {s s' : Workers} {past : List Action}, KeyOrder s past →
      s.run schedule = some s' → KeyOrder s' (past ++ schedule)
  | [], _, _, _, order, ran => by cases ran; simpa using order
  | a :: schedule, s, s', past, order, ran => by
    simp only [Workers.run, Option.bind_eq_some] at ran
    obtain ⟨s₁, stepped, rest⟩ := ran
    simpa using KeyOrder.run schedule (order.step stepped) rest

/-- In every interleaving started by `StartWorkers`, `moveDownWorker` reads a TUN packet to
encrypt, or sends an encrypted packet to the muxer, only after a key was installed, the `Ready`
signal was received and the key was handed over on `newKey`, in that order. -/
theorem encrypts_only_after_key_handover (cap : Nat) (past : List Action) {a : Action}
    (moves : (∃ encrypted, a = .downRead encrypted) ∨ a = .downSend) {s' : Workers}
    (ran : (Workers.start cap).run (past ++ [a]) = some s') : keyHandOver.Sublist past := by
  rw [Workers.run_append, Option.bind_eq_some] at ran
  obtain ⟨s₁, reached, stepped⟩ := ran
  have order := KeyOrder.run past (KeyOrder.start cap) reached
  simp only [Workers.run, Option.bind_eq_some] at stepped
  obtain ⟨s₂, stepped, -⟩ := stepped
  rcases moves with ⟨encrypted, rfl⟩ | rfl <;> simp only [Workers.step] at stepped <;>
    split at stepped <;> rename_i enabled <;> cases stepped
  · exact order.down (.inl enabled.1)
  · exact order.down (.inr enabled.1)

/-- A key handed over, then one TUN packet read and encrypted. -/
theorem encrypts_only_after_key_handover_one_packet :
    ((∃ encrypted, Action.downRead true = .downRead encrypted) ∨
        Action.downRead true = .downSend) ∧
      (Workers.start 1).run ([.deliverKey, .keyReceive true, .readyReceive, .newKeyHandOver,
        .tunSend] ++ [.downRead true]) = some ⟨.select, .sending, .select, false, 0, 0, 0, 0, 1⟩ ∧
      keyHandOver.Sublist
        [.deliverKey, .keyReceive true, .readyReceive, .newKeyHandOver, .tunSend] :=
  have ran : (Workers.start 1).run ([.deliverKey, .keyReceive true, .readyReceive,
      .newKeyHandOver, .tunSend] ++ [.downRead true]) =
        some ⟨.select, .sending, .select, false, 0, 0, 0, 0, 1⟩ := by decide
  ⟨.inl ⟨true, rfl⟩, ran, encrypts_only_after_key_handover 1 _ (.inl ⟨true, rfl⟩) ran⟩

end MiniVpn.DataChannel
