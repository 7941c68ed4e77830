import MiniVpn.Model.Session.Manager

/-! # Parsing the remote options

`newTunnelInfoFromRemoteOptionsString` reads one thing from the options string the server
sends: the `tun-mtu` fields, the comma-separated options that split on single spaces into at
least two tokens with `tun-mtu` first. Its loop is a fold over these fields' values alone, and
over them it either fails on a value `strconv.Atoi` rejects or keeps the last value's MTU.
`InitTunnelInfo` stores the result, and a failed parse leaves the manager as it was.
-/

namespace MiniVpn.Session

/-- The value of a `tun-mtu` field: the second token of an option that, split on single spaces,
has at least two tokens and `tun-mtu` first. -/
def tunMtuValue (opt : String) : Option String :=
  match stringsSplit opt ' ' with
  | k :: v :: _ => if k = "tun-mtu" then some v else none
  | _ => none

/-- The values of the `tun-mtu` fields of an options string, in order. -/
def tunMtuValues (remoteOpts : String) : List String :=
  (stringsSplit remoteOpts ',').filterMap tunMtuValue

/-- What the loop does with the value of a `tun-mtu` field. -/
def setMtu (t : TunnelInfo) (v : String) : Except GoError TunnelInfo :=
  (atoi v).map fun mtu => { t with mtu := mtu }

private theorem newTunnelInfoFromRemoteOptionsString_eq (remoteOpts : String) :
    newTunnelInfoFromRemoteOptionsString remoteOpts =
      (tunMtuValues remoteOpts).foldlM setMtu TunnelInfo.zero := by
  unfold newTunnelInfoFromRemoteOptionsString tunMtuValues
  generalize TunnelInfo.zero = t
  generalize stringsSplit remoteOpts ',' = opts
  induction opts generalizing t with
  | nil => rfl
  | cons opt opts ih =>
    simp only [List.foldlM_cons, List.filterMap_cons, tunMtuValue, ih]
    rcases tokens : stringsSplit opt ' ' with _ | ⟨k, _ | ⟨v, rest⟩⟩
    · rfl
    · rfl
    · by_cases key : k = "tun-mtu"
      · simp only [key, if_true, List.foldlM_cons, setMtu]
      · simp only [key, if_false]
        rfl

section Fold

variable (t : TunnelInfo)

private theorem foldlM_setMtu_error_iff (values : List String) :
    (∃ err, values.foldlM setMtu t = .error err) ↔ ∃ v ∈ values, ∃ err, atoi v = .error err := by
  induction values generalizing t with
  | nil => simp [pure, Except.pure]
  | cons v values ih =>
    cases parsed : atoi v with
    | error err =>
      exact ⟨fun _ => ⟨v, List.mem_cons_self _ _, err, parsed⟩,
        fun _ => ⟨err, by rw [List.foldlM_cons, setMtu, parsed]; rfl⟩⟩
    | ok mtu =>
      rw [List.foldlM_cons, setMtu, parsed]
      simpa only [List.mem_cons, exists_eq_or_imp, parsed, reduceCtorEq, exists_false, false_or]
        using ih { t with mtu := mtu }

private theorem foldlM_setMtu_of_ok (values : List String)
    (parsed : ∀ v ∈ values, ∃ mtu, atoi v = .ok mtu) :
    ∃ mtu, values.foldlM setMtu t = .ok { t with mtu } ∧ (values = [] → mtu = t.mtu) ∧
      ∀ v, values.getLast? = some v → atoi v = .ok mtu := by
  induction values generalizing t with
  | nil => exact ⟨t.mtu, rfl, fun _ => rfl, by simp⟩
  | cons v values ih =>
    obtain ⟨first, first_parsed⟩ := parsed v (List.mem_cons_self _ _)
    obtain ⟨mtu, folded, none_left, last⟩ :=
      ih { t with mtu := first } fun w mem => parsed w (List.mem_cons_of_mem _ mem)
    refine ⟨mtu, by rw [List.foldlM_cons, setMtu, first_parsed]; exact folded, nofun, ?_⟩
    intro w is_last
    cases values with
    | nil =>
      obtain rfl : v = w := Option.some_inj.mp is_last
      rw [first_parsed, none_left rfl]
    | cons next values => exact last w (by simpa using is_last)

end Fold

private theorem step_initTunnelInfo (ops : Opcodes) (m : Manager) (remoteOpts : String) :
    m.step ops (.initTunnelInfo remoteOpts) =
      match newTunnelInfoFromRemoteOptionsString remoteOpts with
      | .ok ti => some (.done, { m with tunnelInfo := ti })
      | .error err => some (.failed err, m) := by
  simp only [Manager.step, Manager.initTunnelInfo]
  cases newTunnelInfoFromRemoteOptionsString remoteOpts <;> rfl

/-- The remote options fail to parse exactly when a `tun-mtu` field's value is one
`strconv.Atoi` rejects; otherwise the tunnel info is zero but for the MTU, which is that of the
last `tun-mtu` field, or 0 when there is none. `InitTunnelInfo` replaces the manager's tunnel
info with the result, and on failure leaves the manager unchanged. -/
theorem initTunnelInfo_from_tun_mtu (ops : Opcodes) (m : Manager) (remoteOpts : String) :
    ((∃ err, newTunnelInfoFromRemoteOptionsString remoteOpts = .error err) ↔
        ∃ v ∈ tunMtuValues remoteOpts, ∃ err, atoi v = .error err) ∧
      ((∀ v ∈ tunMtuValues remoteOpts, ∃ mtu, atoi v = .ok mtu) →
        ∃ mtu, newTunnelInfoFromRemoteOptionsString remoteOpts = .ok { TunnelInfo.zero with mtu } ∧
          (tunMtuValues remoteOpts = [] → mtu = 0) ∧
          ∀ v, (tunMtuValues remoteOpts).getLast? = some v → atoi v = .ok mtu) ∧
      (∀ ti, newTunnelInfoFromRemoteOptionsString remoteOpts = .ok ti →
        m.step ops (.initTunnelInfo remoteOpts) = some (.done, { m with tunnelInfo := ti })) ∧
      ∀ err, newTunnelInfoFromRemoteOptionsString remoteOpts = .error err →
        m.step ops (.initTunnelInfo remoteOpts) = some (.failed err, m) := by
  rw [step_initTunnelInfo, newTunnelInfoFromRemoteOptionsString_eq]
  refine ⟨foldlM_setMtu_error_iff _ _, foldlM_setMtu_of_ok _ _, ?_, ?_⟩
  · intro ti parsed
    rw [parsed]
  · intro err failed
    rw [failed]

/-- Two spaces after `tun-mtu` make an empty value, which fails the whole parse; the last of
two good values wins. -/
example : newTunnelInfoFromRemoteOptionsString "dev tun,tun-mtu  1400" = .error (.numSyntax "") ∧
    newTunnelInfoFromRemoteOptionsString "tun-mtu 1500,link-mtu 1541,tun-mtu 1400 x" =
      .ok { TunnelInfo.zero with mtu := 1400 } := by
  decide

end MiniVpn.Session
