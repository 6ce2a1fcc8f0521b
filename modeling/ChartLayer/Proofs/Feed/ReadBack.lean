import ChartLayer.Proofs.Feed.Items
import ChartLayer.Proofs.Feed.StrictFields
import ChartLayer.Proofs.Text.Lowered
import ChartLayer.Proofs.Time.Label

/-!
# What is read is read again

Reading a delivery puts its items into a normal form: prices in order, texts trimmed, kinds in lower
case, everything that was left out filled in. An item in that form, written strictly, is read as
itself. So reading again changes nothing (`read_again`), whatever the first document was.

The form is `WellFormed`, with what pools, levels and sessions keep besides (`Pool.Settled` and its
like). For each record one theorem says that what is read has the form (`settled_of_readPool`), and
one that what has it is read back (`readPool_toJson`).
-/

namespace ChartLayer

open Quantity (larger smaller)
open Timestamp (CountsSeconds)

/-! ## Numbers in order -/

/-- Nothing is raised to what is not greater. -/
theorem larger_eq_left {a b : Float} (ha : IsNumber a) (h : ¬a < b) : larger a b = a := by
  rw [larger, if_pos (isNumber_iff.mpr ha), decide_eq_false h, Bool.and_false]
  rfl

/-- Nothing is lowered to what is not smaller. -/
theorem smaller_eq_left {a b : Float} (ha : IsNumber a) (h : ¬b < a) : smaller a b = a := by
  rw [smaller, if_pos (isNumber_iff.mpr ha), decide_eq_false h, Bool.and_false]
  rfl

theorem smaller_eq_right {a b : Float} (hb : IsNumber b) (h : b < a) : smaller a b = b := by
  obtain ⟨-, ha, -⟩ := lt_iff.mp h
  rw [smaller, if_pos (isNumber_iff.mpr ha), isNumber_iff.mpr hb, decide_eq_true h]
  rfl

/-- The larger and the smaller of two numbers differ, unless they are the same one of both. -/
theorem smaller_lt_larger_or_eq {a b : Float} (ha : IsNumber a) (hb : IsNumber b) :
    smaller a b < larger a b ∨ smaller a b = larger a b := by
  by_cases hab : a < b
  · rw [smaller_eq_left ha (double_not_lt_of_le (double_le_of_lt hab)), larger,
      if_pos (isNumber_iff.mpr ha), isNumber_iff.mpr hb, decide_eq_true hab]
    exact Or.inl hab
  · rw [larger_eq_left ha hab]
    by_cases hba : b < a
    · rw [smaller_eq_right hb hba]
      exact Or.inl hba
    · exact Or.inr (smaller_eq_left ha hba)

/-! ## What was read -/

/-- A kind with a word of its own. -/
def ZoneKind.IsNamed : ZoneKind → Prop
  | other _ => False
  | _ => True

instance : DecidablePred ZoneKind.IsNamed
  | .other _ => isFalse id
  | .supply | .demand | .orderBlock | .fairValueGap | .breaker | .liquidity => isTrue trivial

/-- A pool as it is read: its kind is a trimmed text in lower case, and edges that do not differ are
one and the same. -/
structure Pool.Settled (p : Pool) : Prop extends p.WellFormed where
  edges : p.bottom < p.top ∨ p.bottom = p.top
  kind : IsTrimmedText p.kind
  lowered : lowercase p.kind = p.kind

/-- A level as it is read: its id is a trimmed text. -/
structure Level.Settled (l : Level) : Prop where
  wellFormed : l.WellFormed
  id : IsTrimmedText l.id

/-- A session as it is read: its tag is a trimmed text. -/
structure Session.Settled (s : Session) : Prop where
  wellFormed : s.WellFormed
  tag : IsTrimmedText s.tag

namespace Feed

/-! ## Words -/

theorem written_direction (direction : ZoneDirection) :
    Written (fun v => (text? v).map zoneDirection) direction.toJson direction := by
  cases direction <;> exact ⟨rfl, by decide +kernel⟩

theorem written_kind {kind : ZoneKind} (h : kind.IsNamed) :
    Written (fun v => (text? v).map zoneKind) kind.toJson kind := by
  cases kind
  case other => exact h.elim
  all_goals exact ⟨rfl, by decide +kernel⟩

theorem written_role (role : ZoneRole) :
    Written (fun v => (text? v).map zoneRole) role.toJson role := by
  cases role <;> exact ⟨rfl, by decide +kernel⟩

theorem written_state (state : ZoneState) :
    Written (fun v => (text? v).bind zoneState?) (.text state.name) state := by
  cases state <;> exact ⟨rfl, by decide +kernel⟩

theorem written_levelKind (kind : LevelKind) :
    Written (fun v => (text? v).map levelKind) (.text kind.name) kind := by
  cases kind <;> exact ⟨rfl, by decide +kernel⟩

theorem written_status (status : PoolStatus) :
    Written (fun v => (text? v).map fun s => poolStatus (some s) false) status.toJson status := by
  cases status <;> exact ⟨rfl, by decide +kernel⟩

theorem written_side (side : PoolSide) (kind : String) :
    Written (fun v => (text? v).map fun s => poolSide (some s) kind) side.toJson side := by
  cases side with
  | buySide =>
    have htext : text? PoolSide.buySide.toJson = some "buy_side" := by decide +kernel
    refine ⟨rfl, ?_⟩
    rw [htext, Option.map_some, poolSide, if_pos (by decide +kernel)]
  | sellSide =>
    have htext : text? PoolSide.sellSide.toJson = some "sell_side" := by decide +kernel
    refine ⟨rfl, ?_⟩
    rw [htext, Option.map_some, poolSide, if_neg (by decide +kernel), if_pos (by decide +kernel)]

theorem written_timeframe (tf : Timeframe) :
    Written (fun v => (text? v).bind Timeframe.parse?) tf.toJson tf := by
  have htext := written_text tf.isTrimmedText_label
  refine ⟨rfl, ?_⟩
  rw [Timeframe.toJson, htext.read_eq, Option.bind_some, tf.parse?_label]

/-! ## Bars -/

/-- **Bars.** High and low hold the open and the close already. -/
theorem readBar_toJson {b : Bar} (hb : b.WellFormed) (htime : CountsSeconds b.time) :
    readBar b.toJson = .ok b := by
  have hprices := hb.prices
  simp only [Bar.isFinite, Bool.and_eq_true] at hprices
  obtain ⟨⟨⟨hopen, hhigh⟩, hlow⟩, hclose⟩ := hprices
  rw [readBar]
  -- what must be there, field by field, in the order in which it is read
  refine (require_bind ((written_time htime).bind_field? rfl)).trans ?_
  refine (require_bind ((written_float hopen).bind_field? rfl)).trans ?_
  refine (require_bind ((written_float hhigh).bind_field? rfl)).trans ?_
  refine (require_bind ((written_float hlow).bind_field? rfl)).trans ?_
  refine (require_bind ((written_float hclose).bind_field? rfl)).trans ?_
  rw [hopen, hhigh, hlow, hclose]
  refine congrArg Except.ok (?_ : _ = Bar.mk b.time b.openPrice b.highPrice b.lowPrice b.closePrice
    b.volume b.complete)
  congr 1
  case e_highPrice =>
    rw [larger_eq_left (.of_isFinite hhigh) (double_not_lt_of_le hb.open_le_high),
      larger_eq_left (.of_isFinite hhigh) (double_not_lt_of_le hb.close_le_high)]
  case e_lowPrice =>
    rw [smaller_eq_left (.of_isFinite hlow) (double_not_lt_of_le hb.low_le_open),
      smaller_eq_left (.of_isFinite hlow) (double_not_lt_of_le hb.low_le_close)]
  case e_volume => exact finiteOf?_getD hb.volume rfl

/-! ## Zones -/

theorem isTrimmedText_of_isAnonymousId {id : String} (h : IsAnonymousId id) :
    IsTrimmedText id := by
  obtain ⟨digits, rfl, -, hdigits⟩ := h
  have hblank : ("0123456789abcdef".toList.all fun c => !isBlank c) = true := by decide +kernel
  have hmark : Unblank "anon-" := by decide
  refine (hmark.append (unblank_ofList fun c hc => ?_)).isTrimmedText (by simp)
  simpa using List.all_eq_true.mp hblank c (hdigits c hc)

theorem isTrimmedText_id {z : Zone} (hz : z.WellFormed) : IsTrimmedText z.id :=
  hz.id.elim id isTrimmedText_of_isAnonymousId

theorem roleOf_eq {fs : Fields} {role : ZoneRole}
    (h : (textOf? fs ["role"]).map zoneRole = some role) : roleOf fs = role := by
  obtain ⟨raw, hraw, hrole⟩ := Option.map_eq_some_iff.mp h
  rw [roleOf, hraw]
  exact hrole

/-- **Zones.** Nothing is left to be inferred: neither precision nor hint matter. -/
theorem readZone_toJson {z : Zone} (hz : z.WellFormed) (hkind : z.kind.IsNamed)
    (horigin : CountsSeconds z.originTime) (hinvalidated : ∀ t ∈ z.invalidatedTime, CountsSeconds t)
    (hint : Option ZoneKind) (places : Nat) : readZone hint places z.toJson = .ok z := by
  rw [readZone]
  refine (require_bind ((written_text z.timeframe.isTrimmedText_label).bind_field? rfl)).trans ?_
  refine (require_bind z.timeframe.parse?_label).trans ?_
  refine (require_bind ((written_time horigin).bind_field? rfl)).trans ?_
  refine (require_bind ((written_float hz.min).bind_field? rfl)).trans ?_
  refine (require_bind ((written_float hz.max).bind_field? rfl)).trans ?_
  rw [hz.min, hz.max, if_pos hz.ordered]
  refine congrArg Except.ok (?_ : _ = Zone.mk z.id z.min z.max z.direction z.kind z.role z.state
    z.score z.strength z.confidence z.timeframe z.originTime z.invalidatedTime z.why)
  congr 1
  case e_id => exact getD_eq_of_eq_some ((written_text (isTrimmedText_id hz)).bind_field? rfl)
  case e_direction => exact getD_eq_of_eq_some ((written_direction z.direction).map_textOf? rfl)
  case e_kind =>
    rw [(written_kind hkind).map_textOf? rfl]
    rfl
  case e_role => exact roleOf_eq ((written_role z.role).map_textOf? rfl)
  case e_state => exact getD_eq_of_eq_some ((written_state z.state).bind_textOf? rfl)
  case e_score => exact finiteOf?_getD hz.score rfl
  case e_strength => exact finiteOf?_option hz.strength rfl rfl
  case e_confidence => exact finiteOf?_option hz.confidence rfl rfl
  case e_invalidatedTime =>
    exact bind_field?_option (fun t ht => written_time (hinvalidated t ht)) rfl rfl
  case e_why => exact textsOf_list hz.why rfl

/-! ## Pools -/

theorem lowered_kind (fs : Fields) (names : List String) :
    let kind := ((textOf? fs names).map lowercase).getD "pool"
    IsTrimmedText kind ∧ lowercase kind = kind := by
  cases h : textOf? fs names with
  | none => exact ⟨Unblank.isTrimmedText (by decide) (by decide), by decide +kernel⟩
  | some s => exact ⟨(isTrimmedText_of_textOf h).lowercase, lowercase_lowercase s⟩

theorem settled_of_readPool {doc : Json} {p : Pool} (h : readPool doc = .ok p) : p.Settled := by
  have hwell := wellFormed_of_readPool h
  unfold readPool at h
  obtain ⟨fs, -, h⟩ := exists_of_bind_ok h
  obtain ⟨id, -, h⟩ := exists_of_bind_ok h
  obtain ⟨raw, -, h⟩ := exists_of_bind_ok h
  obtain ⟨timeframe, -, h⟩ := exists_of_bind_ok h
  obtain ⟨a, -, h⟩ := exists_of_bind_ok h
  obtain ⟨b, -, h⟩ := exists_of_bind_ok h
  split at h
  · cases h
  · next hfinite =>
    cases h
    simp only [Bool.not_eq_true', Bool.not_eq_false, Bool.and_eq_true] at hfinite
    obtain ⟨hkind, hlowered⟩ := lowered_kind fs ["kind", "type"]
    exact { hwell with
      edges := smaller_lt_larger_or_eq (.of_isFinite hfinite.1) (.of_isFinite hfinite.2)
      kind := hkind
      lowered := hlowered }

theorem written_lowered {p : Pool} (hp : p.Settled) :
    Written (fun v => (text? v).map lowercase) (.text p.kind) p.kind := by
  refine ⟨rfl, ?_⟩
  rw [(written_text hp.kind).read_eq, Option.map_some, hp.lowered]

theorem readPool_toJson {p : Pool} (hp : p.Settled) : readPool p.toJson = .ok p := by
  have htop : IsNumber p.top := .of_isFinite hp.top
  rw [readPool]
  refine (require_bind ((written_text hp.id).bind_field? rfl)).trans ?_
  refine (require_bind ((written_text p.timeframe.isTrimmedText_label).bind_field? rfl)).trans ?_
  refine (require_bind p.timeframe.parse?_label).trans ?_
  refine (require_bind ((written_float hp.top).bind_field? rfl)).trans ?_
  refine (require_bind ((written_float hp.bottom).bind_field? rfl)).trans ?_
  rw [hp.top, hp.bottom]
  refine congrArg Except.ok (?_ : _ = Pool.mk p.id p.timeframe p.top p.bottom p.status p.kind p.side)
  congr 1
  case e_top => exact larger_eq_left htop (double_not_lt_of_le hp.ordered)
  case e_bottom =>
    rcases hp.edges with hlt | heq
    · exact smaller_eq_right (.of_isFinite hp.bottom) hlt
    · rw [heq]
      exact smaller_eq_left htop (double_not_lt_of_le htop.le_refl)
  case e_status =>
    exact apply_eq_of_map_some (fun named => poolStatus named false)
      ((written_status p.status).map_textOf? rfl)
  case e_kind => exact getD_eq_of_eq_some ((written_lowered hp).map_textOf? rfl)
  case e_side =>
    exact apply_eq_of_map_some (fun named => poolSide named _)
      ((written_side p.side _).map_textOf? rfl)

/-! ## Levels -/

theorem isTrimmedText_textOf?_getD (fs : Fields) (names : List String) {s : String}
    (hs : IsTrimmedText s) : IsTrimmedText ((textOf? fs names).getD s) := by
  cases h : textOf? fs names with
  | none => exact hs
  | some t => exact isTrimmedText_of_textOf h

theorem isTrimmedText_levelId (kind : LevelKind) (timeframe : Option Timeframe) :
    IsTrimmedText (levelId kind timeframe) := by
  have hkind : Unblank kind.name := by cases kind <;> decide
  have htimeframe : Unblank ((timeframe.map Timeframe.label).getD "any") := by
    cases timeframe with
    | none => decide
    | some tf => exact tf.unblank_label
  refine ((hkind.append (by decide)).append htimeframe).isTrimmedText ?_
  simp [String.append_eq_empty_iff]

theorem settled_of_readLevel {doc : Json} {l : Level} (h : readLevel doc = .ok l) :
    l.Settled := by
  refine ⟨wellFormed_of_readLevel h, ?_⟩
  unfold readLevel at h
  obtain ⟨fs, -, h⟩ := exists_of_bind_ok h
  obtain ⟨price, -, h⟩ := exists_of_bind_ok h
  split at h
  · cases h
  · cases h
    exact isTrimmedText_textOf?_getD fs _ (isTrimmedText_levelId ..)

theorem readLevel_toJson {l : Level} (hl : l.Settled) : readLevel l.toJson = .ok l := by
  have hprice : l.price.isFinite = true := hl.wellFormed
  rw [readLevel]
  refine (require_bind ((written_float hprice).bind_field? rfl)).trans ?_
  rw [hprice]
  refine congrArg Except.ok (?_ : _ = Level.mk l.id l.price l.kind l.timeframe)
  congr 1
  case e_id => exact getD_eq_of_eq_some ((written_text hl.id).bind_field? rfl)
  case e_kind => exact getD_eq_of_eq_some ((written_levelKind l.kind).map_textOf? rfl)
  case e_timeframe =>
    rw [textOf?, Option.bind_assoc]
    exact bind_field?_option (fun tf _ => written_timeframe tf) rfl rfl

/-! ## Sessions -/

theorem settled_of_readSession {doc : Json} {s : Session} (h : readSession doc = .ok s) :
    s.Settled := by
  refine ⟨wellFormed_of_readSession h, ?_⟩
  unfold readSession at h
  obtain ⟨fs, -, h⟩ := exists_of_bind_ok h
  obtain ⟨start, -, h⟩ := exists_of_bind_ok h
  obtain ⟨stop, -, h⟩ := exists_of_bind_ok h
  split at h
  · cases h
  · cases h
    exact isTrimmedText_textOf?_getD fs _ (Unblank.isTrimmedText (by decide) (by decide))

theorem readSession_toJson {s : Session} (hs : s.Settled) (hstart : CountsSeconds s.start)
    (hstop : CountsSeconds s.stop) : readSession s.toJson = .ok s := by
  rw [readSession]
  refine (require_bind ((written_time hstart).bind_field? rfl)).trans ?_
  refine (require_bind ((written_time hstop).bind_field? rfl)).trans ?_
  rw [if_neg (Int64.not_le.mpr hs.wellFormed)]
  refine congrArg Except.ok (?_ : _ = Session.mk s.start s.stop s.tag)
  congr 1
  case e_tag => exact getD_eq_of_eq_some ((written_text hs.tag).bind_field? rfl)

/-! ## All of them -/

/-- **What is read is read again.** Whatever an item was read from, the document that it is written
to is read as that item, under every hint and at every precision. Times must be ones that are taken
for seconds, and the kind of a zone must have a word of its own. -/
theorem read_again (doc : Json) :
    (∀ b, readBar doc = .ok b → CountsSeconds b.time → readBar b.toJson = .ok b) ∧
      (∀ hint places z, readZone hint places doc = .ok z → z.kind.IsNamed →
        CountsSeconds z.originTime → (∀ t ∈ z.invalidatedTime, CountsSeconds t) →
          ∀ hint' places', readZone hint' places' z.toJson = .ok z) ∧
      (∀ p, readPool doc = .ok p → readPool p.toJson = .ok p) ∧
      (∀ l, readLevel doc = .ok l → readLevel l.toJson = .ok l) ∧
      ∀ s, readSession doc = .ok s → CountsSeconds s.start → CountsSeconds s.stop →
        readSession s.toJson = .ok s := by
  refine ⟨?bars, ?zones, ?pools, ?levels, ?sessions⟩
  case bars => exact fun _ h htime => readBar_toJson (wellFormed_of_readBar h) htime
  case zones =>
    intro hint places z h hkind horigin hinvalidated hint' places'
    exact readZone_toJson (wellFormed_of_readZone h) hkind horigin hinvalidated hint' places'
  case pools => exact fun _ h => readPool_toJson (settled_of_readPool h)
  case levels => exact fun _ h => readLevel_toJson (settled_of_readLevel h)
  case sessions =>
    exact fun _ h hstart hstop => readSession_toJson (settled_of_readSession h) hstart hstop

/-- A record that can be read as any item, with nothing in it as the strict form has it. -/
def looseItem : Json :=
  .record
    [("t", .text " 1700000000 "), ("o", .text "1.5"), ("h", .int 1), ("l", .float 2.5),
     ("c", .float 2.0), ("x", .int 0), ("pool_id", .int 7), ("tf", .text " 15M "),
     ("top", .int 1), ("bottom", .text "3"), ("zone_type", .text "Demand-Zone"),
     ("touch_count", .int 2), ("notes", .list [.text " swept ", .null, .int 3]),
     ("end_time", .text "2023-11-15 00:00:00"), ("value", .text "7.25"), ("zone", .text "EQ"),
     ("from", .int 1700000000), ("to", .text "2023-11-15T00:00:00Z"),
     ("session", .text " London ")]

theorem looseItem_read_again :
    (∃ b, readBar looseItem = .ok b ∧ readBar b.toJson = .ok b) ∧
      (∃ z, readZone none 2 looseItem = .ok z ∧ readZone (some .supply) 5 z.toJson = .ok z) ∧
      (∃ p, readPool looseItem = .ok p ∧ readPool p.toJson = .ok p) ∧
      (∃ l, readLevel looseItem = .ok l ∧ readLevel l.toJson = .ok l) ∧
      ∃ s, readSession looseItem = .ok s ∧ readSession s.toJson = .ok s := by
  have hbar : (readBar looseItem).toOption.any (fun b => decide (CountsSeconds b.time)) = true := by
    decide +kernel
  have hzone : (readZone none 2 looseItem).toOption.any (fun z => decide z.kind.IsNamed &&
      decide (CountsSeconds z.originTime) &&
      z.invalidatedTime.all fun t => decide (CountsSeconds t)) = true := by
    decide +kernel
  have hpool : (readPool looseItem).isOk = true := by decide +kernel
  have hlevel : (readLevel looseItem).isOk = true := by decide +kernel
  have hsession : (readSession looseItem).toOption.any (fun s => decide (CountsSeconds s.start) &&
      decide (CountsSeconds s.stop)) = true := by
    decide +kernel
  obtain ⟨b, hb, htime⟩ := exists_ok_of_any hbar
  obtain ⟨z, hz, hfits⟩ := exists_ok_of_any hzone
  obtain ⟨p, hp⟩ := exists_ok_of_isOk hpool
  obtain ⟨l, hl⟩ := exists_ok_of_isOk hlevel
  obtain ⟨s, hs, htimes⟩ := exists_ok_of_any hsession
  simp only [Bool.and_eq_true, decide_eq_true_eq, Option.all_eq_true] at htime hfits htimes
  obtain ⟨⟨hkind, horigin⟩, hinvalidated⟩ := hfits
  obtain ⟨hbars, hzones, hpools, hlevels, hsessions⟩ := read_again looseItem
  exact ⟨⟨b, hb, hbars b hb htime⟩,
    ⟨z, hz, hzones none 2 z hz hkind horigin (by simpa using hinvalidated) (some .supply) 5⟩,
    ⟨p, hp, hpools p hp⟩, ⟨l, hl, hlevels l hl⟩,
    ⟨s, hs, hsessions s hs htimes.1 htimes.2⟩⟩

end Feed

end ChartLayer
