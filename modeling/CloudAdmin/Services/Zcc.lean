import CloudAdmin.Services.Listing

/-!
# ZCC

The connector on the users' devices. What is to be done stands in the path of a URL.
-/

namespace CloudAdmin.Zcc

/-- Something that is done at once. -/
def operation (path : String) : Resource := ⟨.product .zcc, path, .single⟩

/-- The devices that are enrolled. -/
def devices : Resource := ⟨.product .zcc, "getDevices", .zcc⟩

def trustedNetworks : Resource :=
  ⟨.product .zcc, "webTrustedNetwork/listByCompany", .envelope "trustedNetworkContracts"⟩

def listings : List Listing := [
  ⟨devices, "devices", "device", [.list]⟩,
  ⟨trustedNetworks, "trusted_networks", "trusted_network", [.list]⟩]

def post (path : String) (body : Record) : ServiceCall :=
  .record (operation path) .post "" [] (some body.toValue)

def removeDevices : Record → ServiceCall :=
  post "removeDevices"

/-- Remove devices even if they do not answer. -/
def forceRemoveDevices : Record → ServiceCall :=
  post "forceRemoveDevices"

/-- The password that unlocks a device once. -/
def oneTimePassword (device : String) : ServiceCall :=
  .record (operation "getOtp") .get "" [("udid", device)] none

/-- The passwords of a user's devices. -/
def passwords (username system : String) : ServiceCall :=
  .record (operation "getPasswords") .get "" [("username", username), ("osType", system)] none

def addTrustedNetwork : Record → ServiceCall :=
  post "webTrustedNetwork/create"

def updateTrustedNetwork (body : Record) : ServiceCall :=
  .edit (operation "webTrustedNetwork/edit") body

def deleteTrustedNetwork (id : String) : ServiceCall :=
  .command (operation "webTrustedNetwork") .delete (Url.segment id ++ "/delete") [] none

/-- What devices do when the service fails. -/
def failOpenPolicy : ServiceCall :=
  .list (operation "getFailOpenPolicy") []

/-- Replace what devices do when the service fails. -/
def updateFailOpenPolicy (body : Record) : ServiceCall :=
  .edit (operation "webFailOpenPolicy/edit") body

end CloudAdmin.Zcc
