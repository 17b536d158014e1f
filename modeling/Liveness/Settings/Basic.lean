import Liveness.Chain
import Liveness.Numeric.Binary64

namespace Liveness

open Numeric (Binary64)

structure Settings where
  statusPath : String := "data/status.db"
  primaryPath : String := ""
  secondaryPath : String := ""
  siteDomain : String := "beaconcha.in"
  cacheEndpoint : String := ""
  servicesFile : String := "services.yaml"
  probeInterval : Binary64 := .ofInt 60
  storeTimeout : Binary64 := .ofInt 60
  cacheTimeout : Binary64 := .ofInt 30
  httpTimeout : Binary64 := .ofInt 10
  chain : Chain := {}
  executableName : String := "beaconwatch"
  logLevel : String := "INFO"
deriving Inhabited

end Liveness
