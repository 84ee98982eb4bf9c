import OpPolicy.Device.Adb
import OpPolicy.Package.Listing
import OpPolicy.Package.Registry

set_option autoImplicit false

/-!
The packages of a setting: told apart as its project configuration says, and listed by a device.
-/

namespace OpPolicy

def Listing.Lists.configured : Setting (Except Error Listing.Lists) :=
  Dialogue.andThen Setting.project fun project =>
    Dialogue.andThen (Setting.whitelist project.packages) fun whitelist =>
      .done (.ok ⟨.ofList project.packages.webViewProviders, whitelist⟩)

def Registry.configured {ι : Type} : Setting (Except Error (Registry ι)) :=
  Dialogue.andThen Setting.project fun project =>
    .done (.ok { hostPackage := project.packages.hostPackage })

/-- A listing during which nothing invalidates the cache. -/
def Listing.report (lists : Listing.Lists) : Shell Listing.Report :=
  (Listing.fetch lists).bind fun outcome => .done ⟨outcome, 0⟩

/-- Let the device list packages for a program that asks for listings. -/
def Adb.listFor {ι α : Type} (adb : Adb) (lists : Listing.Lists) (m : Reading ι α) : Host α :=
  m.through fun _ => adb.send (Listing.report lists)

end OpPolicy
