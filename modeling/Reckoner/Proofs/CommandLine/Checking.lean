import Reckoner.CommandLine.Execution
import Reckoner.Proofs.Settings.PortOverride
import Reckoner.Proofs.Settings.Printing
import Reckoner.Proofs.Startup

/-!
To check the settings predicts what comes of running with them, up to the address that the service
listens at.

The settings are validated before the port is replaced, and not again.
-/
namespace Reckoner

namespace Settings

/-- The address that the JSON text of settings tells. -/
def addressIn? (json : String) : Option SocketAddress := do
  let document ← Json.read? json
  let server ← document.field? "server"
  let address ← server.field? "bind_addr"
  SocketAddress.ofText? (← address.toText?)

theorem addressIn?_writeIndented (s : Settings) :
    addressIn? (Json.writeIndented s.document) = SocketAddress.ofText? s.server.bindAddress := by
  unfold addressIn?
  rw [Json.read?_writeIndented s.plain_document]
  rfl

variable {s loaded : Settings} {file : SettingsFile} {environment : List (String × String)}
  {yaml : YamlReader} {address : SocketAddress}

/-- What is loaded has been validated. -/
theorem validate_of_load (h : load file environment yaml = .ok s) : s.validate = .ok () := by
  obtain ⟨layer, -, h⟩ := bind_eq_ok_iff.mp h
  split at h
  · obtain ⟨_, hvalid, h⟩ := bind_eq_ok_iff.mp h
    cases h
    exact hvalid
  · cases h

/-- After the port is replaced there is still an address. -/
theorem exists_address_of_overridePort {port : Option UInt16}
    (haddress : loaded.server.socketAddress = .ok address)
    (h : loaded.overridePort port = .ok s) : ∃ address, s.server.socketAddress = .ok address := by
  cases port with
  | none =>
    cases h
    exact ⟨address, haddress⟩
  | some port =>
    rw [overridePort_of_address (ServerSettings.socketAddress_eq_ok_iff.mp haddress)] at h
    cases h
    exact ⟨address.withPort port,
      ServerSettings.socketAddress_eq_ok_iff.mpr (SocketAddress.ofText?_text _)⟩

end Settings

namespace CommandLine

variable {options : Options} {s : Surroundings} {yaml : YamlReader} {settings : Settings}

/-- Settings in effect have an address, with the port of the options or without. -/
theorem Options.exists_address (h : options.settings s yaml = .ok settings) :
    ∃ address, settings.server.socketAddress = .ok address := by
  obtain ⟨loaded, hload, h⟩ := bind_eq_ok_iff.mp h
  obtain ⟨overridden, hoverride, h⟩ := bind_eq_ok_iff.mp h
  obtain ⟨_, -, h⟩ := bind_eq_ok_iff.mp h
  cases h
  have hvalid := Settings.validate_of_load (mapError_eq_ok_iff.mp hload)
  obtain ⟨address, haddress⟩ := (Settings.validate_eq_ok_iff.mp hvalid).1
  exact Settings.exists_address_of_overridePort haddress (mapError_eq_ok_iff.mp hoverride)

/-- Where there is an address, nothing but the router decides about either command. -/
theorem Command.execute_of_address {address : SocketAddress}
    (h : settings.server.socketAddress = .ok address) :
    (∀ error, Http.Router.ofSettings settings = .error error →
      ∀ command : Command, command.execute settings = .error error) ∧
    ∀ router, Http.Router.ofSettings settings = .ok router →
      Command.check.execute settings = .ok (.printed (report "Configuration is valid" settings)) ∧
      Command.run.execute settings = .ok (.listening ⟨router, address⟩) := by
  constructor
  · intro error herror command
    cases command <;> simp [execute, Service.ofSettings, herror, bind, Except.bind]
  · intro router hrouter
    simp [execute, Service.ofSettings, hrouter, h, ok_mapError, bind, Except.bind, pure,
      Except.pure]

/-- Running fails as checking does. When checking succeeds, running gets to a service with the
router that was made for the check, at the address that the printed settings tell; and they are the
settings that are printed in place of any command. -/
theorem Options.check_predicts_run (path : Option String) (port : Option UInt16) (verbosity : Nat)
    (s : Surroundings) (yaml : YamlReader) :
    let options : Options := ⟨path, port, false, verbosity⟩
    (∀ error, options.execute .check s yaml = .error error →
      options.execute .run s yaml = .error error) ∧
    ∀ outcome, options.execute .check s yaml = .ok outcome → ∃ settings json service,
      options.settings s yaml = .ok settings ∧
      outcome = .printed (lines ["Configuration is valid", json]) ∧
      (∀ command, { options with printConfig := true }.execute command s yaml =
        .ok (.printed (lines ["Effective configuration:", json]))) ∧
      Http.Router.ofSettings settings = .ok service.router ∧
      options.execute .run s yaml = .ok (.listening service) ∧
      Settings.addressIn? json = some service.address := by
  intro options
  have hexecute : ∀ command : Command, options.execute command s yaml =
      (options.settings s yaml).bind command.execute := fun _ => rfl
  have hprint : ∀ command : Command, { options with printConfig := true }.execute command s yaml =
      (options.settings s yaml).bind fun settings =>
        .ok (.printed (report "Effective configuration:" settings)) := fun _ => rfl
  cases hsettings : options.settings s yaml with
  | error error =>
    simp only [hexecute, hsettings, Except.bind]
    exact ⟨fun _ h => h, nofun⟩
  | ok settings =>
    simp only [hexecute, hprint, hsettings, ok_bind]
    obtain ⟨address, haddress⟩ := exists_address hsettings
    obtain ⟨hfails, hserved⟩ := Command.execute_of_address haddress
    cases hrouter : Http.Router.ofSettings settings with
    | error error =>
      rw [hfails error hrouter .check, hfails error hrouter .run]
      exact ⟨fun _ h => h, nofun⟩
    | ok router =>
      obtain ⟨hcheck, hrun⟩ := hserved router hrouter
      rw [hcheck, hrun]
      refine ⟨nofun, fun outcome houtcome => ?_⟩
      cases houtcome
      exact ⟨settings, Json.writeIndented settings.document, ⟨router, address⟩, rfl, rfl,
        fun _ => rfl, hrouter, rfl, by
          rw [Settings.addressIn?_writeIndented]
          exact ServerSettings.socketAddress_eq_ok_iff.mp haddress⟩

/-- An address for this machine only, with a port of its own. -/
def loopback : Surroundings := ⟨fun _ => .unnamed, [("APP__SERVER__BIND_ADDR", "[::1]:80")]⟩

/-- Credentials for one site, with any headers. -/
def anyHeaders : Surroundings where
  file := fun _ => .unnamed
  environment := [
    ("APP__CORS__ALLOW_CREDENTIALS", "true"),
    ("APP__CORS__ALLOWED_ORIGINS", "[\"https://calc.example.com\"]"),
    ("APP__CORS__ALLOWED_HEADERS", "[\"*\"]")]

/-- The port of the options takes the place of the one in the environment, and a router that cannot
be made is found out by either command. -/
theorem Options.check_predicts_run_at_loopback :
    (∃ json service,
      (⟨none, some 8080, false, 0⟩ : Options).execute .check loopback =
        .ok (.printed (lines ["Configuration is valid", json])) ∧
      (⟨none, some 8080, false, 0⟩ : Options).execute .run loopback = .ok (.listening service) ∧
      Settings.addressIn? json = some service.address ∧ service.address.text = "[::1]:8080") ∧
    (⟨none, some 8080, false, 0⟩ : Options).execute .run anyHeaders =
      .error (.conflict .headers) := by
  obtain ⟨hfails, hserved⟩ := Options.check_predicts_run none (some 8080) 0 loopback Yaml.readTable?
  have haddress : ((⟨none, some 8080, false, 0⟩ : Options).execute .run loopback).map
      (fun | .listening service => service.address.text | .printed _ => "") =
        .ok "[::1]:8080" := by decide +kernel
  refine ⟨?_, (Options.check_predicts_run none (some 8080) 0 anyHeaders Yaml.readTable?).1 _
    (by decide +kernel)⟩
  cases hcheck : (⟨none, some 8080, false, 0⟩ : Options).execute .check loopback with
  | error error =>
    rw [hfails error hcheck] at haddress
    cases haddress
  | ok outcome =>
    obtain ⟨settings, json, service, -, rfl, -, -, hrun, hjson⟩ := hserved outcome hcheck
    rw [hrun] at haddress
    exact ⟨json, service, rfl, hrun, hjson, Except.ok.inj haddress⟩

end CommandLine
end Reckoner
