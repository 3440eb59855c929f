import Reckoner.Proofs.Outcome
import Reckoner.Proofs.SocketAddress.ReadBack
import Reckoner.Settings.Basic

/-!
Overriding the port. The address is read and written anew, and nothing of it changes but the port,
however often the port is overridden. Without an address the settings stay as they are.
-/
namespace Reckoner

namespace SocketAddress

/-- All of an address but the port: the numbers of either family, and the scope. -/
def host : SocketAddress → Ipv4 ⊕ Ipv6 × UInt32
  | v4 ip _ => .inl ip
  | v6 ip scope _ => .inr (ip, scope)

@[simp] theorem host_withPort (port : UInt16) (a : SocketAddress) :
    (a.withPort port).host = a.host := by cases a <;> rfl

end SocketAddress

theorem ServerSettings.socketAddress_eq_ok_iff {server : ServerSettings} {address : SocketAddress} :
    server.socketAddress = .ok address ↔
      SocketAddress.ofText? server.bindAddress = some address := by
  unfold socketAddress
  cases SocketAddress.ofText? server.bindAddress <;> simp

theorem ServerSettings.socketAddress_of_none {server : ServerSettings}
    (h : SocketAddress.ofText? server.bindAddress = none) :
    server.socketAddress = .error (.badAddress server.bindAddress) := by
  rw [socketAddress, h]

namespace Settings

def withBindAddress (s : Settings) (text : String) : Settings :=
  { s with server := { s.server with bindAddress := text } }

/-- The override of settings in place, step by step: what a step has written stays if a later one
fails. -/
def overrideInPlace : Option UInt16 → EStateM SettingsError Settings Unit
  | none => pure ()
  | some port => do
    match (← get).server.socketAddress with
    | .ok address => modify (withBindAddress · (address.withPort port).text)
    | .error error => throw error

/-- The port that was given last. -/
def lastGiven? (ports : List (Option UInt16)) : Option UInt16 := (ports.filterMap id).getLast?

variable {s : Settings} {address : SocketAddress} {text : String} {port : Option UInt16}

/-- In place it comes to the same, and a failed override leaves the settings as they are. -/
theorem overrideInPlace_eq (s : Settings) (port : Option UInt16) :
    (overrideInPlace port).run s =
      match s.overridePort port with
      | .ok s' => .ok () s'
      | .error error => .error error s := by
  cases port with
  | none => rfl
  | some port =>
    unfold overridePort overrideInPlace
    show EStateM.run (match s.server.socketAddress with
      | .ok address => modify (withBindAddress · (address.withPort port).text)
      | .error error => throw error) s = _
    cases s.server.socketAddress <;> rfl

theorem overridePort_of_address (h : SocketAddress.ofText? s.server.bindAddress = some address)
    (port : UInt16) :
    s.overridePort (some port) = .ok (s.withBindAddress (address.withPort port).text) := by
  unfold overridePort
  rw [ServerSettings.socketAddress_eq_ok_iff.mpr h]
  rfl

theorem overridePort_of_no_address (h : SocketAddress.ofText? s.server.bindAddress = none)
    (port : UInt16) : s.overridePort (some port) = .error (.badAddress s.server.bindAddress) := by
  unfold overridePort
  rw [ServerSettings.socketAddress_of_none h]
  rfl

/-- The verdict does not depend on which address it is. -/
theorem validate_withBindAddress {address' : SocketAddress}
    (h : SocketAddress.ofText? s.server.bindAddress = some address)
    (h' : SocketAddress.ofText? text = some address') :
    (s.withBindAddress text).validate = s.validate := by
  have hold := ServerSettings.socketAddress_eq_ok_iff.mpr h
  have hnew : (s.withBindAddress text).server.socketAddress = .ok address' :=
    ServerSettings.socketAddress_eq_ok_iff.mpr h'
  unfold validate
  rw [hold, hnew]
  rfl

/-- One override writes another text for the address, which tells the given port. -/
theorem exists_text_of_override (h : SocketAddress.ofText? s.server.bindAddress = some address)
    (port : Option UInt16) :
    ∃ text address', (overrideInPlace port).run s = .ok () (s.withBindAddress text) ∧
      SocketAddress.ofText? text = some address' ∧ address'.host = address.host ∧
      address'.port = port.getD address.port := by
  rw [overrideInPlace_eq]
  cases port with
  | none => exact ⟨s.server.bindAddress, address, rfl, h, rfl, rfl⟩
  | some port =>
    rw [overridePort_of_address h]
    exact ⟨_, address.withPort port, rfl, SocketAddress.ofText?_text _, by simp, by simp⟩

theorem getD_lastGiven?_cons (port : Option UInt16) (ports : List (Option UInt16))
    (before : UInt16) :
    (lastGiven? (port :: ports)).getD before = (lastGiven? ports).getD (port.getD before) := by
  cases port with
  | none => rfl
  | some port =>
    unfold lastGiven?
    rw [show (some port :: ports).filterMap id = port :: ports.filterMap id from rfl,
      List.getLast?_cons]
    rfl

theorem run_bind_of_ok {ε σ α β : Type} {x : EStateM ε σ α} {f : α → EStateM ε σ β} {s s' : σ}
    {a : α} (h : x.run s = .ok a s') : (x >>= f).run s = (f a).run s' := by
  show EStateM.bind x f s = f a s'
  have h : x s = .ok a s' := h
  simp only [EStateM.bind, h]

/-- A row of overrides does what its last port alone does. -/
theorem exists_text_of_overrides (h : SocketAddress.ofText? s.server.bindAddress = some address)
    (ports : List (Option UInt16)) :
    ∃ text address', (forM ports overrideInPlace).run s = .ok () (s.withBindAddress text) ∧
      SocketAddress.ofText? text = some address' ∧ address'.host = address.host ∧
      address'.port = (lastGiven? ports).getD address.port := by
  induction ports generalizing s address with
  | nil => exact ⟨s.server.bindAddress, address, by rw [List.forM_nil]; rfl, h, rfl, rfl⟩
  | cons port ports ih =>
    obtain ⟨text, address', hfirst, htext, hhost, hport⟩ := exists_text_of_override h port
    obtain ⟨text', address'', hrest, htext', hhost', hport'⟩ :=
      ih (s := s.withBindAddress text) htext
    refine ⟨text', address'', ?_, htext', hhost'.trans hhost, ?_⟩
    · rw [List.forM_cons, run_bind_of_ok hfirst, hrest]
      rfl
    · rw [hport', hport, getD_lastGiven?_cons]

/-- An override in place comes to the same as one of a copy. Settings with an address take any row
of overrides: then the address tells the last port that was given, or the old one if none was, with
the same numbers and the same scope; all else is as before, and so is the verdict. The same port
once more changes nothing. Settings without an address refuse a port and stay as they are. -/
theorem overrideInPlace_port (s : Settings) :
    (∀ port, (overrideInPlace port).run s =
      match s.overridePort port with
      | .ok s' => .ok () s'
      | .error error => .error error s) ∧
    (∀ address, SocketAddress.ofText? s.server.bindAddress = some address →
      (∀ ports : List (Option UInt16), ∃ text address',
        (forM ports overrideInPlace).run s = .ok () (s.withBindAddress text) ∧
        SocketAddress.ofText? text = some address' ∧ address'.host = address.host ∧
        address'.port = (lastGiven? ports).getD address.port ∧
        (s.withBindAddress text).validate = s.validate) ∧
      ∀ port, ∃ s', (overrideInPlace (some port)).run s = .ok () s' ∧
        (overrideInPlace (some port)).run s' = .ok () s') ∧
    (SocketAddress.ofText? s.server.bindAddress = none →
      ∀ port, (overrideInPlace (some port)).run s =
        .error (.badAddress s.server.bindAddress) s) ∧
    (overrideInPlace none).run s = .ok () s := by
  refine ⟨s.overrideInPlace_eq, fun address h => ⟨fun ports => ?_, fun port => ?_⟩,
    fun h port => ?_, rfl⟩
  · obtain ⟨text, address', hrun, htext, hhost, hport⟩ := exists_text_of_overrides h ports
    -- The text is another one in general, but there is an address in it, and no more is validated.
    exact ⟨text, address', hrun, htext, hhost, hport, validate_withBindAddress h htext⟩
  · have hread : SocketAddress.ofText?
        (s.withBindAddress (address.withPort port).text).server.bindAddress =
          some (address.withPort port) := SocketAddress.ofText?_text _
    refine ⟨s.withBindAddress (address.withPort port).text, ?_, ?_⟩
    · rw [overrideInPlace_eq, overridePort_of_address h]
    · rw [overrideInPlace_eq, overridePort_of_address hread, SocketAddress.withPort_withPort]
      rfl
  · rw [overrideInPlace_eq, overridePort_of_no_address h]

/-- An address with a scope, in a text that is not the one it is written as; and one without a
port. -/
theorem overrideInPlace_port_scoped :
    let s : Settings := { server := { bindAddress := "[0:00::FFFF:102:304%9]:080" } }
    let lost : Settings := { server := { bindAddress := "[::1%9]" } }
    (∃ address, SocketAddress.ofText? s.server.bindAddress = some address ∧
      ∃ text address', (forM [none, some 0, some 65535, none] overrideInPlace).run s =
          .ok () (s.withBindAddress text) ∧
        SocketAddress.ofText? text = some address' ∧ address'.host = address.host ∧
        address'.port = 65535) ∧
    SocketAddress.ofText? lost.server.bindAddress = none ∧
    (overrideInPlace (some 80)).run lost = .error (.badAddress "[::1%9]") lost := by
  intro s lost
  have hlost : SocketAddress.ofText? lost.server.bindAddress = none := by decide +kernel
  refine ⟨?_, hlost, (overrideInPlace_port lost).2.2.1 hlost 80⟩
  obtain ⟨address, haddress⟩ : ∃ a, SocketAddress.ofText? s.server.bindAddress = some a :=
    Option.isSome_iff_exists.mp (by decide +kernel)
  obtain ⟨text, address', hrun, htext, hhost, hport, -⟩ :=
    ((overrideInPlace_port s).2.1 address haddress).1 [none, some 0, some 65535, none]
  exact ⟨address, haddress, text, address', hrun, htext, hhost, hport⟩

end Settings
end Reckoner
