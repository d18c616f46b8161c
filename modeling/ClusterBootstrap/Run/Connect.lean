import ClusterBootstrap.Client
import ClusterBootstrap.Run.Bootstrap

/-!
# A run over the network

Valid settings make a client, and the client is the control plane of the run.
-/

namespace ClusterBootstrap

/-- A whole run over the network.  Settings that are refused end it before anything is logged or sent. -/
def connect (settings : BootstrapSettings) (network : Net.Network) :
    Except BootstrapError (Progress Net.Network) := do
  settings.validate.mapError SettingsFault.toError
  let client ← Client.ofSettings settings.client
  let progress := bootstrap client.plane settings network
  return { progress with log := Client.openingRecord settings.client :: progress.log }

end ClusterBootstrap
