import Liveness.Verdict

namespace Liveness.Fleet

def defaultServices : List String :=
  ["eth1indexer", "slotVizUpdater", "slotUpdater", "latestProposedSlotUpdater", "epochUpdater",
   "rewardsExporter", "mempoolUpdater", "indexPageDataUpdater", "latestBlockUpdater",
   "notification-collector", "relaysUpdater", "ethstoreExporter", "statsUpdater", "poolsUpdater",
   "epochExporter", "statistics", "poolInfoUpdater"]

/-- Names seen first, in order, and names that came again, in order; `seen` came before. -/
def splitRepeats (seen : List String) : List String → List String × List String
  | [] => ([], [])
  | name :: rest =>
    if name ∈ seen then
      let (first, again) := splitRepeats seen rest
      (first, name :: again)
    else
      let (first, again) := splitRepeats (name :: seen) rest
      (name :: first, again)

def repeatWarning (name : String) : LogEntry :=
  ⟨.warning, s!"Duplicate expected service ignored: {name}"⟩

def uniqueServices (names : List String) : List String × List LogEntry :=
  let (first, again) := splitRepeats [] names
  (first, again.map repeatWarning)

end Liveness.Fleet
