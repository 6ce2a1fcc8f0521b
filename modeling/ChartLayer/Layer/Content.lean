import ChartLayer.Layer.Basic

/-!
# What the layer shows

Bars, zones, pools, levels and sessions come from the host; each delivery replaces the one before.
An item that cannot be drawn is reported and left out, and of several items with one identity the
last is drawn. A history that does not continue the one before is another dataset: everything known
about the old one is dropped and the time axis is fitted anew.
-/

namespace ChartLayer

/-! ## Items with an identity -/

/-- The last item of each key, in the order of the last ones. -/
def lastOfEach {β : Type} (key : β → String) : List β → List β
  | [] => []
  | x :: rest =>
    if rest.any fun y => key y == key x then lastOfEach key rest else x :: lastOfEach key rest

/-- The items whose key comes again. -/
def supersededOf {β : Type} (key : β → String) : List β → List β
  | [] => []
  | x :: rest =>
    if rest.any fun y => key y == key x then x :: supersededOf key rest else supersededOf key rest

/-- What is wanted on the surface, by key; of a key the last item counts. -/
def drawingsOf {β : Type} (key : β → String) (drawing : β → Drawing) (items : List β) :
    DesiredDrawings :=
  items.foldl (fun drawings x => drawings.insert (key x) (drawing x)) ∅

def Pool.isFinite (p : Pool) : Bool := p.top.isFinite && p.bottom.isFinite

/-- A session is known by its tag and its start. -/
def Session.identity (s : Session) : String := s.tag ++ "@" ++ timeText s.start

/-- Whether a session takes any time. -/
def Session.lasts (s : Session) : Bool := s.start < s.stop

namespace Layer

variable {σ : Type} [Surface σ]

/-! ## Selection -/

/-- Selects the zones anew and draws their clusters.
mirrors `OverlayEngine::refresh_zones` -/
def refresh (l : Layer σ) : Layer σ :=
  let (selection, selector) := l.selector.select l.zones l.bars l.view l.limit
  let l := { l with selection, selector }.report (Selector.issues l.zones)
  let (changes, l) :=
    l.reconcile .zone (drawingsOf ZoneCluster.id Drawing.ofCluster selection.clusters)
  if changes.isEmpty && selection.isEmpty && l.labels.placed.isEmpty then l
  else l.scheduleLabels

/-! ## Bars -/

/-- Drops all that is known about a dataset, except for its bars.
mirrors `OverlayEngine::switch_dataset` -/
def forgetDataset (l : Layer σ) : Layer σ :=
  let (_, registry, surface) := l.registry.clearAll l.surface
  let surface := Surface.showLabels {} surface
  let surface := Surface.enablePan true surface
  let surface := Surface.invalidatePrices surface
  { l with
    surface
    registry
    generation := l.generation + 1
    scale := l.scale.clear
    selector := l.selector.clear
    zones := []
    pools := []
    selection := {}
    pointer := l.pointer.cancel
    wheel := l.wheel.cancel
    gestureRetryDue := false
    labelRetryUsed := false
    labels := {} }

/-- Draws all bars and what depends on them. -/
def drawBars (l : Layer σ) : Layer σ := (l.onSurface (Surface.showBars l.bars.bars)).refresh

/-- A whole history.
mirrors `OverlayEngine::set_bars` -/
def setBars (bars : List Bar) (l : Layer σ) : Layer σ :=
  let (outcome, series) := l.bars.setBars bars
  let l := { l with bars := series }.report outcome.issues
  if outcome.datasetChanged then l.forgetDataset.drawBars.onSurface Surface.fitTimes
  else l.keepingTimes drawBars

/-- What to report about a bar update that was rejected. -/
def rejectedUpdate (bar : Bar) : Issue :=
  if bar.isFinite then .barUpdateTooOld bar.time else .barUpdateNotFinite bar.time

/-- The last bar, or one behind it. Only a bar that is new or complete can change the selection.
mirrors `OverlayEngine::update_last_bar` -/
def updateBar (bar : Bar) (l : Layer σ) : Layer σ :=
  match l.bars.updateLast bar with
  | (.rejected, _) => l.report [rejectedUpdate bar]
  | (update, series) =>
    let l := { l with bars := series }.onSurface (Surface.showBar bar)
    if update = .appended ∨ bar.complete = true then l.refresh else l

/-- The preview of the bar that is forming.
mirrors `OverlayEngine::set_live_bar` -/
def previewBar (bar : Bar) (l : Layer σ) : Layer σ :=
  match l.bars.setLive bar with
  | (true, series) => { l with bars := series }.onSurface (Surface.showBar bar)
  | (false, _) => l.report [.liveBarRejected bar.time]

/-- mirrors `OverlayEngine::clear_live_bar` -/
def clearPreview (l : Layer σ) : Layer σ := { l with bars := l.bars.clearLive }

/-- The last price; only the badge shows it.
mirrors `OverlayEngine::on_price_tick` -/
def priceTick (price : Float) (l : Layer σ) : Layer σ :=
  if price.isFinite then l.onSurface (Surface.setBadge (some price))
  else l.report [.tickNotFinite]

/-! ## Zones -/

/-- mirrors `OverlayEngine::set_zones` -/
def setZones (zones : List Zone) : Layer σ → Layer σ :=
  keepingTimes fun l => { l with zones }.refresh

/-- Puts a zone into a list, in the place of the first one of its identity if there is one. -/
def putZone (zone : Zone) : List Zone → List Zone
  | [] => [zone]
  | z :: rest => if z.id = zone.id then zone :: rest else z :: putZone zone rest

/-- One zone, new or changed.
mirrors `OverlayEngine::upsert_zone` -/
def mergeZone (zone : Zone) (l : Layer σ) : Layer σ :=
  { l with zones := putZone zone l.zones }.refresh

/-- The view; none is the spacing of the bars.
mirrors `OverlayEngine::set_view_timeframe` -/
def setView (view : Option Timeframe) (l : Layer σ) : Layer σ :=
  if l.view = view then l else { l with view }.refresh

/-- mirrors `OverlayEngine::set_zone_limit_mode` -/
def setLimit (limit : LimitMode) (l : Layer σ) : Layer σ :=
  if l.limit = limit then l else { l with limit }.refresh

/-- The zones that hold a price, the best first.
mirrors `OverlayEngine::hit_test` -/
def zonesAt (price : Float) (l : Layer σ) : List Zone := l.selection.zonesAt price

/-! ## Pools, levels and sessions -/

/-- What to report about a delivery of pools. -/
def poolIssues (pools : List Pool) : List Issue :=
  (pools.filter fun p => !p.isFinite).map (fun p => .poolNotFinite p.id)
    ++ (supersededOf Pool.id (pools.filter Pool.isFinite)).map fun p => .poolRepeated p.id

/-- mirrors `OverlayEngine::set_pools_selected` -/
def setPools (pools : List Pool) : Layer σ → Layer σ :=
  keepingTimes fun l =>
    let kept := lastOfEach Pool.id (pools.filter Pool.isFinite)
    let l := { l with pools := kept }.report (poolIssues pools)
    (l.reconcile .pool (drawingsOf Pool.id Drawing.ofPool kept)).2.scheduleLabels

/-- A level on its tick, with the timeframe for which it is shown if it has none of its own. -/
def preparedLevel (timeframe : Option Timeframe) (tickSize : Float) (level : Level) : Level :=
  { level with
    price := onTick level.price tickSize
    timeframe := level.timeframe.or timeframe }

/-- The levels with a price. -/
def finiteLevels (levels : List Level) : List Level := levels.filter fun v => v.price.isFinite

/-- What to report about a delivery of levels. -/
def levelIssues (levels : List Level) : List Issue :=
  (levels.filter fun v => !v.price.isFinite).map (fun v => .levelPriceNotFinite v.id)
    ++ (supersededOf Level.id (finiteLevels levels)).map fun v => .levelRepeated v.id

/-- mirrors `OverlayEngine::set_levels_selected` -/
def setLevels (levels : List Level) (timeframe : Option Timeframe) (tickSize : Float) :
    Layer σ → Layer σ :=
  keepingTimes fun l =>
    let prepared := (finiteLevels levels).map (preparedLevel timeframe tickSize)
    let l := l.report (levelIssues levels)
    (l.reconcile .level (drawingsOf Level.id Drawing.ofLevel prepared)).2

/-- What to report about a delivery of sessions. -/
def sessionIssues (sessions : List Session) : List Issue :=
  (sessions.filter fun s => !s.lasts).map fun s => .sessionBackwards s.tag

/-- mirrors `OverlayEngine::set_sessions` -/
def setSessions (sessions : List Session) : Layer σ → Layer σ :=
  keepingTimes fun l =>
    let drawings := drawingsOf Session.identity Drawing.ofSession (sessions.filter Session.lasts)
    ((l.report (sessionIssues sessions)).reconcile .session drawings).2

end Layer

end ChartLayer
