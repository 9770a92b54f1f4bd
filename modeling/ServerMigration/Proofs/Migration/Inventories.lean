import ServerMigration.Proofs.Cloud.Creation
import ServerMigration.Proofs.Migration.Parts

/-!
# Inventories that are collected in full

Taking the inventory of a host goes on when its addresses, its routes or its hardware are not
reported, and collects these failures.  If there are none, everything has been reported.

## Main definitions

* `SystemInfo.CollectedIn` : an inventory that has been collected in full.

## Main results

* `Work.runs_takeInventory` : an inventory without a failure has been collected in full.
* `Work.runs_takeInventory_of_collectedIn` : an inventory that is reported in full is taken.
-/

namespace ServerMigration

open Program

variable {trace : SiteTrace}

/-- These questions and answers are those of a host whose disks, addresses, routes and hardware have
all been reported, and the reports say what stands in the inventory. -/
def SystemInfo.CollectedIn (info : SystemInfo) (host : RemoteHost) (listBlockDevices : String)
    (trace : SiteTrace) : Prop :=
  ∃ disks addresses routes hardware,
    trace = [⟨.remote host listBlockDevices {}, .ok disks⟩,
        ⟨.remote host ipAddrCommand {}, .ok addresses⟩,
        ⟨.remote host ipRouteCommand .lenient, .ok routes⟩,
        ⟨.remote host hardwareCommand {}, .ok hardware⟩]
      ∧ Devices.ofLsblk disks = .ok info.blockDevices
      ∧ networkOfReports addresses routes = .ok info.network
      ∧ Hardware.ofReport hardware = some info.hardware

namespace Work

variable {α ε : Type} {before after : Progress} {result : Except CommandError α}

/-- If nothing has been collected, the result was a value. -/
theorem does_orRecord (operation : String) (message : ε → String) (result : Except ε α) :
    (orRecord operation message result).Does fun value trace told =>
      trace = [] ∧ value = result.toOption ∧ (told = [] → ∃ a, result = .ok a) := by
  cases result with
  | ok a => exact does_pure ⟨rfl, rfl, fun _ => ⟨a, rfl⟩⟩
  | error error =>
    refine (does_record _ _).bind ?_
    rintro _ _ _ ⟨rfl, rfl⟩
    exact does_pure ⟨rfl, rfl, fun told => nomatch told⟩

/-- If no failure has been collected, the addresses and the routes have been reported. -/
theorem does_collectNetwork (host : RemoteHost) :
    (collectNetwork host).Does fun network trace told => RequestsNoServer trace
      ∧ (told = [] → ∃ addresses routes,
        trace = [⟨.remote host ipAddrCommand {}, .ok addresses⟩,
            ⟨.remote host ipRouteCommand .lenient, .ok routes⟩]
          ∧ networkOfReports addresses routes = .ok network) := by
  refine (does_tryRemote _ _ _).bind ?_
  rintro _ _ _ ⟨addresses, rfl, rfl, rfl⟩
  refine (does_tryRemote _ _ _ _).bind ?_
  rintro _ _ _ ⟨routes, rfl, rfl, rfl⟩
  cases addresses with
  | error error => exact does_pure ⟨by simp, fun told => nomatch told⟩
  | ok addresses =>
    refine (does_orRecord _ _ _).bind ?_
    rintro _ _ toldParsing ⟨rfl, rfl, parsed⟩
    refine does_pure ⟨by simp, fun told => ?_⟩
    obtain ⟨hroutes, hparsing⟩ : complaint "ip route" routes = [] ∧ toldParsing = [] := by
      simpa [complaint] using told
    obtain ⟨routes, rfl⟩ := complaint_eq_nil_iff.mp hroutes
    obtain ⟨network, hnetwork⟩ := parsed hparsing
    change networkOfReports addresses routes = .ok network at hnetwork
    refine ⟨addresses, routes, rfl, ?_⟩
    change _ = Except.ok ((networkOfReports addresses routes).toOption.getD [])
    rw [hnetwork]
    rfl

/-- If no failure has been collected, the hardware has been reported. -/
theorem does_collectHardware (host : RemoteHost) :
    (collectHardware host).Does fun hardware trace told => RequestsNoServer trace
      ∧ (told = [] → ∃ report, trace = [⟨.remote host hardwareCommand {}, .ok report⟩]
          ∧ Hardware.ofReport report = some hardware) := by
  refine (does_tryRemote _ _ _).bind ?_
  rintro _ _ _ ⟨reply, rfl, rfl, rfl⟩
  cases reply with
  | error error => exact does_pure ⟨by simp, fun told => nomatch told⟩
  | ok report =>
    dsimp only [Except.toOption]
    split
    · next hardware hhardware => exact does_pure ⟨by simp, fun _ => ⟨report, rfl, hhardware⟩⟩
    · refine (does_record _ _).bind ?_
      rintro _ _ _ ⟨rfl, rfl⟩
      exact does_pure ⟨by simp, fun told => nomatch told⟩

/-- The disks have been reported, unless that ends the work. -/
theorem runs_collectDisks {host : RemoteHost} {listBlockDevices : String}
    {result : Except CommandError Devices}
    (h : Runs (collectDisks host listBlockDevices) before trace result after) :
    RequestsNoServer trace ∧ after = before ∧ ∀ devices, result = .ok devices →
      ∃ disks, trace = [⟨.remote host listBlockDevices {}, .ok disks⟩]
        ∧ Devices.ofLsblk disks = .ok devices := by
  rcases runs_bind_iff.mp h with
    ⟨error, hreport, rfl⟩ | ⟨disks, middle, first, second, hreport, hrest, rfl⟩
  · obtain ⟨reply, rfl, -, rfl⟩ := runs_remote_iff.mp hreport
    exact ⟨by simp, rfl, fun _ h => nomatch h⟩
  · obtain ⟨reply, rfl, hreply, rfl⟩ := runs_remote_iff.mp hreport
    obtain rfl : reply = .ok disks := mapError_eq_ok_iff.mp hreply.symm
    split at hrest
    · next devices hdevices =>
      obtain ⟨rfl, rfl, rfl⟩ := runs_pure_iff.mp hrest
      refine ⟨by simp, rfl, fun _ h => ?_⟩
      cases h
      exact ⟨disks, rfl, hdevices⟩
    · obtain ⟨rfl, rfl, rfl⟩ := runs_throw_iff.mp hrest
      exact ⟨by simp, rfl, fun _ h => nomatch h⟩

/-- **An inventory without a collected failure has been collected in full.** -/
theorem runs_takeInventory {host : RemoteHost} {listBlockDevices : String}
    {result : Except CommandError SystemInfo}
    (h : Runs (takeInventory host listBlockDevices) before trace result after) :
    RequestsNoServer trace ∧ after.source = before.source ∧ ∀ info, result = .ok info →
      ∃ told, after.errors = before.errors ++ told
        ∧ (told = [] → info.CollectedIn host listBlockDevices trace) := by
  rcases runs_bind_iff.mp h with
    ⟨error, hdisks, rfl⟩ | ⟨devices, middle, first, second, hdisks, hrest, rfl⟩
  · obtain ⟨silent, rfl, -⟩ := runs_collectDisks hdisks
    exact ⟨silent, rfl, fun _ h => nomatch h⟩
  · obtain ⟨silent, rfl, hreport⟩ := runs_collectDisks hdisks
    obtain ⟨disks, rfl, hdevices⟩ := hreport devices rfl
    have does : (collectNetwork host >>= fun network => collectHardware host >>= fun hardware =>
        pure { blockDevices := devices, network, hardware } : Work SystemInfo).Does
          fun info trace told => RequestsNoServer trace ∧ (told = [] → info.CollectedIn host
            listBlockDevices (⟨.remote host listBlockDevices {}, .ok disks⟩ :: trace)) := by
      refine (does_collectNetwork host).bind ?_
      rintro network traceNetwork toldNetwork ⟨silentNetwork, hnetwork⟩
      refine (does_collectHardware host).bind ?_
      rintro hardware traceHardware toldHardware ⟨silentHardware, hhardware⟩
      refine does_pure ⟨silentNetwork.append (by simpa using silentHardware), fun told => ?_⟩
      obtain ⟨rfl, rfl⟩ : toldNetwork = [] ∧ toldHardware = [] := by simpa using told
      obtain ⟨addresses, routes, rfl, hinterfaces⟩ := hnetwork rfl
      obtain ⟨report, rfl, hreport⟩ := hhardware rfl
      exact ⟨disks, addresses, routes, report, rfl, hdevices, hinterfaces, hreport⟩
    obtain ⟨info, told, rfl, rfl, silentRest, collected⟩ := does _ _ _ _ _ hrest
    refine ⟨silent.append silentRest, rfl, fun _ h => ?_⟩
    cases h
    exact ⟨told, rfl, collected⟩

/-! ### Reports of everything -/

theorem runs_collectDisks_of_ok {host : RemoteHost} {listBlockDevices disks : String}
    {devices : Devices} (h : Devices.ofLsblk disks = .ok devices) :
    Runs (collectDisks host listBlockDevices) before
      [⟨.remote host listBlockDevices {}, .ok disks⟩] (.ok devices) before := by
  refine (runs_remote_iff.mpr ⟨.ok disks, rfl, rfl, rfl⟩).bind ?_
  rw [h]
  exact .done _

theorem runs_tryRemote_ok (operation : String) (host : RemoteHost) (command output : String)
    (options : ExecOptions) :
    Runs (tryRemote operation host command options) before
      [⟨.remote host command options, .ok output⟩] (.ok (some output)) before :=
  Yields.ask _ (.done _)

theorem runs_collectNetwork_of_ok {host : RemoteHost} {addresses routes : String}
    {network : Dict NetworkInterface} (h : networkOfReports addresses routes = .ok network) :
    Runs (collectNetwork host) before
      [⟨.remote host ipAddrCommand {}, .ok addresses⟩,
        ⟨.remote host ipRouteCommand .lenient, .ok routes⟩] (.ok network) before := by
  refine (runs_tryRemote_ok _ _ _ _ _).bind ((runs_tryRemote_ok _ _ _ _ _).bind ?_)
  change Runs (orRecord "parse ip addr" DecodeError.message (networkOfReports addresses routes)
    >>= fun network => pure (network.getD [])) before [] _ _
  rw [h]
  exact .done _

theorem runs_collectHardware_of_ok {host : RemoteHost} {report : String} {hardware : Hardware}
    (h : Hardware.ofReport report = some hardware) :
    Runs (collectHardware host) before [⟨.remote host hardwareCommand {}, .ok report⟩]
      (.ok hardware) before := by
  refine (runs_tryRemote_ok _ _ _ _ _).bind ?_
  dsimp only
  rw [h]
  exact .done _

/-- **An inventory that is reported in full is taken.** -/
theorem runs_takeInventory_of_collectedIn {host : RemoteHost} {listBlockDevices : String}
    {info : SystemInfo} (collected : info.CollectedIn host listBlockDevices trace) :
    Runs (takeInventory host listBlockDevices) before trace (.ok info) before := by
  obtain ⟨disks, addresses, routes, report, rfl, hdisks, hnetwork, hhardware⟩ := collected
  refine (runs_collectDisks_of_ok hdisks).bind ?_
  refine (runs_collectNetwork_of_ok hnetwork).bind ?_
  exact (runs_collectHardware_of_ok hhardware).bind (.done _)

end Work

end ServerMigration
