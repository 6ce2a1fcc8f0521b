import ChartLayer.Feed.Annotations
import ChartLayer.Feed.Bars
import ChartLayer.Feed.Zones

/-!
# Snapshots

A snapshot is a document that holds all that there is to show at one moment: bars, zones, pools,
levels and sessions. The zones are looked for in the document itself, everything else in the section
of its name.
-/

namespace ChartLayer

/-- All deliveries of one moment. -/
structure Snapshot where
  bars : Feed.Delivery Bar
  zones : Feed.Delivery Zone
  pools : Feed.Delivery Pool
  levels : Feed.Delivery Level
  sessions : Feed.Delivery Session
  deriving DecidableEq, Repr

namespace Snapshot

/-- The section of a document; one that is missing is empty.
mirrors `section` -/
def part (doc : Json) (key : String) : Json := (doc.get? key).getD .null

/-- The snapshot in a document; `places` is the precision of the identities of zones. -/
def ofJson (places : Nat) (doc : Json) : Snapshot where
  bars := Feed.readBars (part doc "bars")
  zones := Feed.readZones places doc
  pools := Feed.readPools (part doc "pools")
  levels := Feed.readLevels (part doc "levels")
  sessions := Feed.readSessions (part doc "sessions")

/-- All that was dropped. -/
def issues (s : Snapshot) : List Issue :=
  s.bars.issues ++ s.zones.issues ++ s.pools.issues ++ s.levels.issues ++ s.sessions.issues

end Snapshot

end ChartLayer
