import ChartLayer.Proofs.Drawing.Mirror
import ChartLayer.Proofs.Layer.Content
import ChartLayer.Proofs.Layer.LastOfEach
import ChartLayer.Proofs.Layer.Picture
import ChartLayer.Proofs.Zone.Answer

/-!
# What is drawn is what is selected

On a surface in memory, whatever a host asks of a layer and in whatever order, the drawings are
those of the clusters selected, of the pools kept, and of the levels and sessions delivered last:
one for each, and no other. `Marks` remembers the deliveries, `Layer.Reaches` are the runs,
`Layer.InLine` is the invariant.

* `InLine.refresh`, `InLine.setBars`, …: each operation that draws keeps it. The others leave the
  picture alone.
* `shows_what_is_selected`: so it holds after every run.
-/

namespace ChartLayer

/-! ## One family -/

/-- The drawings of one family are those of some items with different identities, one of each. -/
structure MemorySurface.Shows {β : Type} (family : DrawingFamily) (key : β → String)
    (drawing : β → Drawing) (items : List β) (s : MemorySurface) : Prop where
  distinct : (items.map key).Nodup
  identities : ((s.drawings.filter fun p => p.key.family = family).map fun p => p.key.identity).Perm
    (items.map key)
  looks : ∀ p ∈ s.drawings, ∀ x ∈ items, p.key = ⟨family, key x⟩ → p.drawing.LooksLike (drawing x)

/-- The registry holds of one family the drawings of some items, one of each. -/
structure Registry.Draws {β : Type} (family : DrawingFamily) (key : β → String)
    (drawing : β → Drawing) (items : List β) (r : Registry) : Prop where
  distinct : (items.map key).Nodup
  lists : r.Lists family (drawingsOf key drawing items)

theorem DrawingKey.eq_mk {family : DrawingFamily} {key : DrawingKey} (h : key.family = family) :
    key = ⟨family, key.identity⟩ := by
  cases h
  rfl

namespace Registry

variable {β : Type} {family : DrawingFamily} {key : β → String} {drawing : β → Drawing}
  {items : List β} {r : Registry} {s : MemorySurface}

theorem draws_nil (family : DrawingFamily) (key : β → String) (drawing : β → Drawing) :
    ({} : Registry).Draws family key drawing [] :=
  ⟨List.nodup_nil, lists_empty family⟩

theorem draws_reconcile (hdistinct : (items.map key).Nodup) (family : DrawingFamily)
    (drawing : β → Drawing) (r : Registry) (s : MemorySurface) :
    (r.reconcile family (drawingsOf key drawing items) s).registry.Draws family key drawing items :=
  ⟨hdistinct, lists_reconcile family _ r s⟩

theorem Draws.reconcile_of_ne (h : r.Draws family key drawing items) {other : DrawingFamily}
    (hne : family ≠ other) (desired : DesiredDrawings) (s : MemorySurface) :
    (r.reconcile other desired s).registry.Draws family key drawing items :=
  ⟨h.distinct, h.lists.reconcile_of_ne hne desired s⟩

theorem Draws.entry_of_mem (h : r.Draws family key drawing items) {x : β} (hx : x ∈ items) :
    ∃ e, r.entries[(⟨family, key x⟩ : DrawingKey)]? = some e ∧
      e.drawing.LooksLike (drawing x) := by
  have hrel := h.lists (key x)
  rw [getElem?_drawingsOf_of_mem h.distinct hx] at hrel
  generalize r.entries[(⟨family, key x⟩ : DrawingKey)]? = entry at hrel
  cases hrel with
  | some hlooks => exact ⟨_, rfl, hlooks⟩

theorem Draws.mem_of_entry (h : r.Draws family key drawing items) {identity : String}
    {e : RegistryEntry} (he : r.entries[(⟨family, identity⟩ : DrawingKey)]? = some e) :
    identity ∈ items.map key := by
  have hrel := h.lists identity
  rw [he] at hrel
  by_cases hmem : identity ∈ items.map key
  · exact hmem
  · rw [getElem?_drawingsOf_of_notMem hmem] at hrel
    cases hrel

/-- What the registry holds of a family, the surface shows. -/
theorem Draws.shows (h : r.Draws family key drawing items) (hmirror : r.Mirrored s) :
    s.Shows family key drawing items := by
  refine ⟨h.distinct, ?_, fun p hp x hx hkey => ?_⟩
  · have hnodup : ((s.drawings.filter fun p => p.key.family = family).map
        fun p => p.key.identity).Nodup := by
      refine (hmirror.handles.of_map.filter _).map_on fun p hp q hq hidentity => ?_
      obtain ⟨hp, hpf⟩ := List.mem_filter.mp hp
      obtain ⟨hq, hqf⟩ := List.mem_filter.mp hq
      have hkey : p.key = q.key := by
        rw [DrawingKey.eq_mk (of_decide_eq_true hpf), DrawingKey.eq_mk (of_decide_eq_true hqf),
          hidentity]
      exact hmirror.eq_of_key_eq hp hq hkey
    refine (List.perm_ext_iff_of_nodup hnodup h.distinct).mpr fun identity => ?_
    constructor
    · intro hmem
      obtain ⟨p, hp, rfl⟩ := List.mem_map.mp hmem
      obtain ⟨hp, hfamily⟩ := List.mem_filter.mp hp
      have hentry := hmirror.owner p hp
      rw [DrawingKey.eq_mk (of_decide_eq_true hfamily)] at hentry
      exact h.mem_of_entry hentry
    · intro hmem
      obtain ⟨x, hx, rfl⟩ := List.mem_map.mp hmem
      obtain ⟨e, he, -⟩ := h.entry_of_mem hx
      have hdrawn := hmirror.drawn he
      exact List.mem_map.mpr ⟨_, List.mem_filter.mpr ⟨hdrawn, decide_eq_true rfl⟩, rfl⟩
  · obtain ⟨e, he, hlooks⟩ := h.entry_of_mem hx
    have hentry := hmirror.owner p hp
    rw [hkey, he] at hentry
    cases hentry
    exact hlooks

end Registry

/-! ## The deliveries -/

/-- The levels and the sessions that were delivered last, those that can be drawn and of each
identity the last one. -/
structure Marks where
  levels : List Level := []
  sessions : List Session := []

/-- A delivery replaces the one before, and another dataset drops them all. -/
def Marks.after {σ : Type} (l : Layer σ) (m : Marks) : Command → Marks
  | .setBars bars => if (l.bars.setBars bars).1.datasetChanged then {} else m
  | .setLevels levels timeframe tickSize =>
    let prepared := (Layer.finiteLevels levels).map (Layer.preparedLevel timeframe tickSize)
    { m with levels := lastOfEach Level.id prepared }
  | .setSessions sessions =>
    { m with sessions := lastOfEach Session.identity (sessions.filter Session.lasts) }
  | _ => m

namespace Layer

/-- What can come of a layer on an empty surface in memory, and which deliveries it has seen: the
host gives commands, sets the clock, and does with its surface what it likes, except for the
drawings. -/
inductive Reaches : Marks → Layer MemorySurface → Prop
  | create {surface : MemorySurface} {settings : Settings} {l : Layer MemorySurface} :
      surface.drawings = [] → create? surface settings = .ok l → Reaches {} l
  | command {m : Marks} {l : Layer MemorySurface} (c : Command) :
      Reaches m l → Reaches (m.after l c) (l.step c)
  | clock {m : Marks} {l : Layer MemorySurface} (now : Nat) :
      Reaches m l → Reaches m (l.setClock now)
  | host {m : Marks} {l : Layer MemorySurface} {surface : MemorySurface} : Reaches m l →
      surface.drawings = l.surface.drawings → surface.nextHandle = l.surface.nextHandle →
        Reaches m { l with surface }

/-! ## The invariant -/

/-- Selection, pools and deliveries, the registry and the surface are all in line. -/
structure InLine (m : Marks) (l : Layer MemorySurface) : Prop where
  mirrored : l.registry.Mirrored l.surface
  zones : l.registry.Draws .zone ZoneCluster.id Drawing.ofCluster l.selection.clusters
  pools : l.registry.Draws .pool Pool.id Drawing.ofPool l.pools
  levels : l.registry.Draws .level Level.id Drawing.ofLevel m.levels
  sessions : l.registry.Draws .session Session.identity Drawing.ofSession m.sessions

variable {m : Marks} {l l' : Layer MemorySurface}

theorem inLine_nothing (hregistry : l.registry = {}) (hdrawings : l.surface.drawings = [])
    (hselection : l.selection = {}) (hpools : l.pools = []) : InLine {} l where
  mirrored := by rw [hregistry]; exact Registry.mirrored_empty hdrawings
  zones := by rw [hregistry, hselection]; exact Registry.draws_nil _ _ _
  pools := by rw [hregistry, hpools]; exact Registry.draws_nil _ _ _
  levels := by rw [hregistry]; exact Registry.draws_nil _ _ _
  sessions := by rw [hregistry]; exact Registry.draws_nil _ _ _

/-- Only the picture matters. -/
theorem InLine.of_picture (h : InLine m l) (hsame : l'.picture = l.picture) : InLine m l' := by
  obtain ⟨hregistry, hdrawings, hnext, hselection, hpools⟩ := Picture.mk.inj hsame
  refine ⟨?_, ?_, ?_, ?_, ?_⟩
  · rw [hregistry]; exact h.mirrored.of_eq hdrawings hnext
  · rw [hregistry, hselection]; exact h.zones
  · rw [hregistry, hpools]; exact h.pools
  · rw [hregistry]; exact h.levels
  · rw [hregistry]; exact h.sessions

/-! ## Operations that draw -/

/-- **Selecting anew.** -/
theorem InLine.refresh (h : InLine m l) : InLine m l.refresh := by
  let drawings := drawingsOf ZoneCluster.id Drawing.ofCluster l.reselected.selection.clusters
  have hdistinct : (l.reselected.selection.clusters.map ZoneCluster.id).Nodup :=
    l.selector.nodup_ids_clusters ⟨l.zones, l.bars, l.view, l.limit⟩
  have hdrawn : InLine m l.reselected.drawSelection.2 :=
    { mirrored := Registry.mirrored_invariant.reconcile h.mirrored .zone drawings
      zones := Registry.draws_reconcile hdistinct .zone Drawing.ofCluster l.registry l.surface
      pools := h.pools.reconcile_of_ne (by decide) drawings l.surface
      levels := h.levels.reconcile_of_ne (by decide) drawings l.surface
      sessions := h.sessions.reconcile_of_ne (by decide) drawings l.surface }
  rcases refresh_cases l with ⟨-, -, heq⟩ | heq <;> rw [heq]
  · exact hdrawn
  · exact hdrawn.of_picture (picture_scheduleLabels _)

theorem inLine_forgetDataset (h : InLine m l) : InLine {} l.forgetDataset :=
  inLine_nothing rfl h.mirrored.shown_clearAll rfl rfl

theorem InLine.drawBars (h : InLine m l) : InLine m l.drawBars :=
  InLine.refresh (h.of_picture (picture_showBars l _))

/-- **A history.** Another dataset takes all drawings with it, also those of levels and sessions. -/
theorem InLine.setBars (h : InLine m l) (bars : List Bar) :
    InLine (m.after l (.setBars bars)) (l.setBars bars) := by
  have hbars : InLine m (({ l with bars := (l.bars.setBars bars).2 } : Layer MemorySurface).report
      (l.bars.setBars bars).1.issues) := h.of_picture rfl
  unfold Layer.setBars Marks.after
  dsimp only
  split
  · exact (inLine_forgetDataset hbars).drawBars.of_picture (picture_fitTimes _)
  · exact hbars.drawBars.of_picture (picture_keepingTimes _ _)

theorem InLine.updateBar (h : InLine m l) (bar : Bar) : InLine m (l.updateBar bar) := by
  have htaken : InLine m (l.takeBar bar) := h.of_picture (picture_showBar _ bar)
  rcases l.updateBar_cases bar with heq | heq | heq <;> rw [heq]
  · exact h.of_picture (picture_report _ _)
  · exact htaken
  · exact htaken.refresh

theorem InLine.setZones (h : InLine m l) (zones : List Zone) : InLine m (l.setZones zones) := by
  have hzones : InLine m ({ l with zones } : Layer MemorySurface) := h.of_picture rfl
  exact hzones.refresh.of_picture (picture_keepingTimes _ _)

theorem InLine.mergeZone (h : InLine m l) (zone : Zone) : InLine m (l.mergeZone zone) := by
  have hzones : InLine m ({ l with zones := putZone zone l.zones } : Layer MemorySurface) :=
    h.of_picture rfl
  exact hzones.refresh

theorem InLine.setView (h : InLine m l) (view : Option Timeframe) : InLine m (l.setView view) := by
  have hview : InLine m ({ l with view } : Layer MemorySurface) := h.of_picture rfl
  unfold Layer.setView
  split
  · exact h
  · exact hview.refresh

theorem InLine.setLimit (h : InLine m l) (limit : LimitMode) : InLine m (l.setLimit limit) := by
  have hlimit : InLine m ({ l with limit } : Layer MemorySurface) := h.of_picture rfl
  unfold Layer.setLimit
  split
  · exact h
  · exact hlimit.refresh

theorem InLine.setPools (h : InLine m l) (pools : List Pool) : InLine m (l.setPools pools) := by
  let kept := lastOfEach Pool.id (pools.filter Pool.isFinite)
  let drawings := drawingsOf Pool.id Drawing.ofPool kept
  let drawn : Layer MemorySurface :=
    ((({ l with pools := kept } : Layer MemorySurface).report (poolIssues pools)).reconcile .pool
      drawings).2
  have hdrawn : InLine m drawn :=
    { mirrored := Registry.mirrored_invariant.reconcile h.mirrored .pool drawings
      zones := h.zones.reconcile_of_ne (by decide) drawings l.surface
      pools := Registry.draws_reconcile (nodup_lastOfEach _ _) .pool Drawing.ofPool l.registry
        l.surface
      levels := h.levels.reconcile_of_ne (by decide) drawings l.surface
      sessions := h.sessions.reconcile_of_ne (by decide) drawings l.surface }
  refine hdrawn.of_picture ?_
  exact (picture_keepingTimes _ _).trans (picture_scheduleLabels _)

theorem InLine.setLevels (h : InLine m l) (levels : List Level) (timeframe : Option Timeframe)
    (tickSize : Float) :
    InLine (m.after l (.setLevels levels timeframe tickSize))
      (l.setLevels levels timeframe tickSize) := by
  let prepared := (finiteLevels levels).map (preparedLevel timeframe tickSize)
  let drawings := drawingsOf Level.id Drawing.ofLevel prepared
  have hlast : drawings = drawingsOf Level.id Drawing.ofLevel (lastOfEach Level.id prepared) :=
    (drawingsOf_lastOfEach _ _ _).symm
  have hdrawn : InLine (m.after l (.setLevels levels timeframe tickSize))
      ((l.report (levelIssues levels)).reconcile .level drawings).2 :=
    { mirrored := Registry.mirrored_invariant.reconcile h.mirrored .level drawings
      zones := h.zones.reconcile_of_ne (by decide) drawings l.surface
      pools := h.pools.reconcile_of_ne (by decide) drawings l.surface
      levels := by
        rw [hlast]
        exact Registry.draws_reconcile (nodup_lastOfEach _ _) .level Drawing.ofLevel l.registry
          l.surface
      sessions := h.sessions.reconcile_of_ne (by decide) drawings l.surface }
  exact hdrawn.of_picture (picture_keepingTimes _ _)

theorem InLine.setSessions (h : InLine m l) (sessions : List Session) :
    InLine (m.after l (.setSessions sessions)) (l.setSessions sessions) := by
  let lasting := sessions.filter Session.lasts
  let drawings := drawingsOf Session.identity Drawing.ofSession lasting
  have hlast : drawings =
      drawingsOf Session.identity Drawing.ofSession (lastOfEach Session.identity lasting) :=
    (drawingsOf_lastOfEach _ _ _).symm
  have hdrawn : InLine (m.after l (.setSessions sessions))
      ((l.report (sessionIssues sessions)).reconcile .session drawings).2 :=
    { mirrored := Registry.mirrored_invariant.reconcile h.mirrored .session drawings
      zones := h.zones.reconcile_of_ne (by decide) drawings l.surface
      pools := h.pools.reconcile_of_ne (by decide) drawings l.surface
      levels := h.levels.reconcile_of_ne (by decide) drawings l.surface
      sessions := by
        rw [hlast]
        exact Registry.draws_reconcile (nodup_lastOfEach _ _) .session Drawing.ofSession l.registry
          l.surface }
  exact hdrawn.of_picture (picture_keepingTimes _ _)

/-! ## Any run -/

/-- **One command.** Whatever the layer is asked to do, short of its own end, keeps all in line. -/
theorem InLine.performLive (h : InLine m l) {c : Command} (hc : c ≠ .dispose) :
    InLine (m.after l c) (l.performLive c).2 := by
  cases c with
  | setBars bars => exact h.setBars bars
  | updateBar bar => exact h.updateBar bar
  | setZones zones => exact h.setZones zones
  | mergeZone zone => exact h.mergeZone zone
  | setPools pools => exact h.setPools pools
  | setLevels levels timeframe tickSize => exact h.setLevels levels timeframe tickSize
  | setSessions sessions => exact h.setSessions sessions
  | setView view => exact h.setView view
  | setLimit limit => exact h.setLimit limit
  | dispose => exact absurd rfl hc
  | previewBar bar => exact h.of_picture (picture_previewBar l bar)
  | clearPreview => exact h.of_picture (picture_clearPreview l)
  | priceTick price => exact h.of_picture (picture_priceTick l price)
  | gesture g => exact h.of_picture (picture_gesture l g)
  | viewportChanged => exact h.of_picture (picture_scheduleLabels l)
  | resize => exact h.of_picture (picture_resize l)
  | resetView => exact h.of_picture (picture_resetView l)
  | autoscale base => exact h.of_picture (picture_autoscale l base)
  | report issues => exact h.of_picture (picture_report l issues)
  | frame => exact h.of_picture (picture_frame l)

theorem inLine_create {surface : MemorySurface} {settings : Settings}
    (hempty : surface.drawings = []) (hcreate : create? surface settings = .ok l) : InLine {} l := by
  rw [eq_fresh_of_create? hcreate]
  exact inLine_nothing rfl hempty rfl rfl

theorem Reaches.inLine (h : Reaches m l) (hlive : l.disposed = false) : InLine m l := by
  induction h with
  | create hempty hcreate =>
    exact inLine_create hempty hcreate
  | @command m l c _ ih =>
    have hbefore := live_of_step hlive
    rw [step_of_live hbefore] at hlive ⊢
    refine (ih hbefore).performLive ?_
    rintro rfl
    cases hlive
  | clock now _ ih => exact (ih hlive).of_picture rfl
  | host _ hdrawings hnext ih =>
    refine (ih hlive).of_picture ?_
    unfold picture
    rw [hdrawings, hnext]

/-- **What is drawn is what is selected.** Until its end a layer on a surface in memory shows one
band for each cluster of the selection, one drawing for each pool kept and for each level and
session delivered last since the last change of the dataset, and nothing else. -/
theorem shows_what_is_selected (h : Reaches m l) (hlive : l.disposed = false) :
    l.surface.Shows .zone ZoneCluster.id Drawing.ofCluster l.selection.clusters ∧
      l.surface.Shows .pool Pool.id Drawing.ofPool l.pools ∧
      l.surface.Shows .level Level.id Drawing.ofLevel m.levels ∧
      l.surface.Shows .session Session.identity Drawing.ofSession m.sessions := by
  have hline := h.inLine hlive
  exact ⟨hline.zones.shows hline.mirrored, hline.pools.shows hline.mirrored,
    hline.levels.shows hline.mirrored, hline.sessions.shows hline.mirrored⟩

/-- A layer that has not been asked for anything yet. -/
def untouched : Layer MemorySurface where
  surface := .unmeasured
  settings := {}
  scale := { rules := ({} : Settings).gestures }
  selector := { rules := {} }
  log := { interval := 5000 }
  view := none
  limit := .near2

theorem create?_untouched : create? MemorySurface.unmeasured {} = .ok untouched := by
  have hvalid : ({} : Settings).validate = .ok () := by decide +kernel
  unfold create?
  rw [hvalid]
  rfl

/-- The first pool is superseded by the second. -/
def mixedCommands : List Command :=
  let zone : Zone :=
    { id := "z", min := 99.0, max := 100.0, direction := .neutral, kind := .orderBlock,
      role := .pointOfInterest, state := .tested, score := 0.0, timeframe := quarterHour,
      originTime := 0 }
  [.setBars [⟨900, 100.0, 101.0, 99.0, 100.0, 1.0, true⟩], .setZones [zone],
    .setPools [⟨"p", quarterHour, 102.0, 101.0, .active, "eqh", .buySide⟩,
      ⟨"p", quarterHour, 103.0, 101.0, .swept, "eqh", .buySide⟩],
    .setLevels [⟨"pdh", 104.0, .premium, none⟩] none 0.5]

theorem shows_what_is_selected_of_mixed :
    ∃ m l, l = untouched.run mixedCommands ∧ Reaches m l ∧ l.disposed = false ∧
      l.surface.drawings.map (fun p => p.key) = [⟨.zone, "z"⟩, ⟨.pool, "p"⟩, ⟨.level, "pdh"⟩] ∧
      l.surface.Shows .zone ZoneCluster.id Drawing.ofCluster l.selection.clusters ∧
      l.surface.Shows .pool Pool.id Drawing.ofPool l.pools ∧
      l.surface.Shows .level Level.id Drawing.ofLevel m.levels ∧
      l.surface.Shows .session Session.identity Drawing.ofSession m.sessions := by
  have hreach : ∃ m, Reaches m (untouched.run mixedCommands) :=
    ⟨_, (((Reaches.create rfl create?_untouched).command _).command _).command _ |>.command _⟩
  obtain ⟨m, hreach⟩ := hreach
  have hlive : (untouched.run mixedCommands).disposed = false := by decide +kernel
  exact ⟨m, _, rfl, hreach, hlive, by decide +kernel, shows_what_is_selected hreach hlive⟩

end Layer

end ChartLayer
