import ChartLayer.Feed.Annotations
import ChartLayer.Feed.Bars
import ChartLayer.Feed.Zones
import ChartLayer.Proofs.Number.Units
import ChartLayer.Proofs.Outcome
import ChartLayer.Proofs.Text.Trimmed

/-!
# Items of a delivery are well formed

Whatever a document holds, an item that is read from it has what everything behind it relies on:
finite prices in order, a timeframe that lasts, ids and reasons that are trimmed texts
(`Bar.WellFormed` and its like). Each is proved from what the readers of single fields promise:
`isTrimmedText_of_textOf`, `isFinite_of_finiteOf`, and of an id that is made from a digest,
`isAnonymousId_anonymousId`.
-/

namespace ChartLayer

open Quantity (larger smaller)

/-! ## Ids made from a digest -/

namespace Digest

@[simp] theorem length_bytesOf (count n : Nat) : (bytesOf count n).length = count := by
  rw [bytesOf, List.length_map, List.length_reverse, List.length_range]

theorem length_sha256 (message : List UInt8) : (sha256 message).length = 32 := by
  simp [sha256, State.toBytes]

/-- A lower case hexadecimal digit. -/
def IsHexDigit (c : Char) : Prop := c ∈ "0123456789abcdef".toList

theorem isHexDigit_digitChar {n : Nat} (h : n < 16) : IsHexDigit (Nat.digitChar n) := by
  have hall : ∀ k < 16, Nat.digitChar k ∈ "0123456789abcdef".toList := by decide
  exact hall n h

theorem toList_hex (bytes : List UInt8) : (hex bytes).toList = bytes.flatMap hexDigits := by
  rw [hex, String.toList_ofList]

theorem length_hex (bytes : List UInt8) : (hex bytes).toList.length = 2 * bytes.length := by
  rw [toList_hex]
  induction bytes with
  | nil => rfl
  | cons b rest ih =>
    rw [List.flatMap_cons, List.length_append, ih, List.length_cons, hexDigits]
    simp only [List.length_cons, List.length_nil]
    omega

theorem isHexDigit_of_mem_hex {bytes : List UInt8} {c : Char} (h : c ∈ (hex bytes).toList) :
    IsHexDigit c := by
  rw [toList_hex] at h
  obtain ⟨b, -, hc⟩ := List.mem_flatMap.mp h
  have hb : b.toNat < 256 := b.toNat_lt
  rw [hexDigits, List.mem_pair] at hc
  rcases hc with rfl | rfl
  · exact isHexDigit_digitChar (by omega)
  · exact isHexDigit_digitChar (by omega)

end Digest

namespace Feed

/-- The mark of zones that came without an id, and sixteen hexadecimal digits. -/
def IsAnonymousId (id : String) : Prop :=
  ∃ digits : List Char, id = "anon-" ++ String.ofList digits ∧ digits.length = 16 ∧
    ∀ c ∈ digits, Digest.IsHexDigit c

theorem isAnonymousId_anonymousId (timeframe : Timeframe) (kind : ZoneKind) (role : ZoneRole)
    (origin : Time) (min max : Float) (places : Nat) :
    IsAnonymousId (anonymousId timeframe kind role origin min max places) := by
  refine ⟨_, rfl, ?_, fun c hc => Digest.isHexDigit_of_mem_hex (List.mem_of_mem_take hc)⟩
  rw [List.length_take, Digest.length_hex, Digest.length_sha256]
  rfl

/-! ## Single fields -/

theorem eq_some_of_require {α : Type} {issue : Issue} {o : Option α} {a : α}
    (h : require issue o = .ok a) : o = some a := by
  cases o with
  | none => cases h
  | some b => cases h; rfl

theorem isTrimmedText_of_text {v : Json} {s : String} (h : text? v = some s) :
    IsTrimmedText s := by
  cases v with
  | text t =>
    rw [text?] at h
    cases hblank : allBlank t with
    | true => rw [hblank] at h; cases h
    | false =>
      rw [hblank] at h
      cases h
      exact isTrimmedText_trimmed hblank
  | number n => cases h; exact isTrimmedText_numberText n
  | null | bool _ | list _ | record _ => cases h

theorem isTrimmedText_of_textOf {fs : Fields} {names : List String} {s : String}
    (h : textOf? fs names = some s) : IsTrimmedText s := by
  obtain ⟨v, -, hv⟩ := Option.bind_eq_some_iff.mp h
  exact isTrimmedText_of_text hv

theorem isTrimmedText_of_textsOf {fs : Fields} {names : List String} :
    ∀ s ∈ textsOf fs names, IsTrimmedText s := by
  intro s hs
  rw [textsOf] at hs
  split at hs
  · obtain ⟨v, -, hv⟩ := List.mem_filterMap.mp hs
    exact isTrimmedText_of_text hv
  · exact isTrimmedText_of_text (Option.mem_toList.mp hs)
  · cases hs

theorem isFinite_of_finiteOf {fs : Fields} {names : List String} {x : Float}
    (h : finiteOf? fs names = some x) : x.isFinite = true :=
  (Option.filter_eq_some_iff.mp h).2

theorem isFinite_finiteOf_getD (fs : Fields) (names : List String) :
    ((finiteOf? fs names).getD 0.0).isFinite = true := by
  cases h : finiteOf? fs names with
  | none => decide +kernel
  | some x => exact isFinite_of_finiteOf h

end Feed

/-! ## What is well formed -/

/-- A bar with finite prices and volume, whose open and close lie between low and high. -/
structure Bar.WellFormed (b : Bar) : Prop where
  prices : b.isFinite = true
  volume : b.volume.isFinite = true
  low_le_open : b.lowPrice ≤ b.openPrice
  low_le_close : b.lowPrice ≤ b.closePrice
  open_le_high : b.openPrice ≤ b.highPrice
  close_le_high : b.closePrice ≤ b.highPrice

/-- A zone with finite bounds in order and finite grades, a timeframe that lasts, an id that is a
trimmed text or made from a digest, and reasons that are trimmed texts. -/
structure Zone.WellFormed (z : Zone) : Prop where
  min : z.min.isFinite = true
  max : z.max.isFinite = true
  ordered : z.min ≤ z.max
  score : z.score.isFinite = true
  strength : ∀ x ∈ z.strength, x.isFinite = true
  confidence : ∀ x ∈ z.confidence, x.isFinite = true
  timeframe : 0 < z.timeframe.secs
  id : IsTrimmedText z.id ∨ Feed.IsAnonymousId z.id
  why : ∀ reason ∈ z.why, IsTrimmedText reason

/-- A pool with finite edges in order and a trimmed text as id. -/
structure Pool.WellFormed (p : Pool) : Prop where
  bottom : p.bottom.isFinite = true
  top : p.top.isFinite = true
  ordered : p.bottom ≤ p.top
  id : IsTrimmedText p.id

/-- A level with a finite price. -/
def Level.WellFormed (l : Level) : Prop := l.price.isFinite = true

/-- A session that ends after it starts. -/
def Session.WellFormed (s : Session) : Prop := s.start < s.stop

namespace Feed

/-- **Bars.** The high and the low are widened to hold the open and the close. -/
theorem wellFormed_of_readBar {doc : Json} {b : Bar} (h : readBar doc = .ok b) : b.WellFormed := by
  unfold readBar at h
  obtain ⟨fs, -, h⟩ := exists_of_bind_ok h
  obtain ⟨time, -, h⟩ := exists_of_bind_ok h
  obtain ⟨openPrice, -, h⟩ := exists_of_bind_ok h
  obtain ⟨high, -, h⟩ := exists_of_bind_ok h
  obtain ⟨low, -, h⟩ := exists_of_bind_ok h
  obtain ⟨closePrice, -, h⟩ := exists_of_bind_ok h
  split at h
  · cases h
  · next hfinite =>
    cases h
    simp only [Bool.not_eq_true', Bool.not_eq_false, Bool.and_eq_true] at hfinite
    obtain ⟨⟨⟨hopen, hhigh⟩, hlow⟩, hclose⟩ := hfinite
    have hraised := isFinite_larger hhigh hopen
    have hlowered := isFinite_smaller hlow hopen
    obtain ⟨-, -, hopenraised⟩ := larger_spec (.of_isFinite hhigh) (.of_isFinite hopen)
    obtain ⟨-, hraisedtop, hclosetop⟩ := larger_spec (.of_isFinite hraised) (.of_isFinite hclose)
    obtain ⟨-, -, hopenlowered⟩ := smaller_spec (.of_isFinite hlow) (.of_isFinite hopen)
    obtain ⟨-, hlowbottom, hclosebottom⟩ :=
      smaller_spec (.of_isFinite hlowered) (.of_isFinite hclose)
    exact {
      prices := by
        simp only [Bar.isFinite, hopen, hclose, isFinite_larger hraised hclose,
          isFinite_smaller hlowered hclose, Bool.and_self]
      volume := isFinite_finiteOf_getD fs _
      low_le_open := double_le_trans hlowbottom hopenlowered
      low_le_close := hclosebottom
      open_le_high := double_le_trans hopenraised hraisedtop
      close_le_high := hclosetop }

theorem bounds_in_order {a b : Float} (ha : a.isFinite = true) (hb : b.isFinite = true) :
    let bounds := if a ≤ b then (a, b) else (b, a)
    bounds.1.isFinite = true ∧ bounds.2.isFinite = true ∧ bounds.1 ≤ bounds.2 := by
  dsimp only
  split
  · next hle => exact ⟨ha, hb, hle⟩
  · next hle => exact ⟨hb, ha, (IsNumber.of_isFinite hb).le_of_not_le (.of_isFinite ha) hle⟩

/-- The id of a zone: its own, or one made from its digest. -/
theorem isTrimmedText_or_anonymous (fs : Fields) (names : List String) (timeframe : Timeframe)
    (kind : ZoneKind) (role : ZoneRole) (origin : Time) (min max : Float) (places : Nat) :
    let id := (textOf? fs names).getD (anonymousId timeframe kind role origin min max places)
    IsTrimmedText id ∨ IsAnonymousId id := by
  cases h : textOf? fs names with
  | some s => exact Or.inl (isTrimmedText_of_textOf h)
  | none => exact Or.inr (isAnonymousId_anonymousId ..)

/-- **Zones.** The bounds are put in order, and grades that are not finite count as missing. -/
theorem wellFormed_of_readZone {hint : Option ZoneKind} {places : Nat} {doc : Json} {z : Zone}
    (h : readZone hint places doc = .ok z) : z.WellFormed := by
  unfold readZone at h
  obtain ⟨fs, -, h⟩ := exists_of_bind_ok h
  obtain ⟨raw, -, h⟩ := exists_of_bind_ok h
  obtain ⟨timeframe, -, h⟩ := exists_of_bind_ok h
  obtain ⟨originTime, -, h⟩ := exists_of_bind_ok h
  obtain ⟨a, -, h⟩ := exists_of_bind_ok h
  obtain ⟨b, -, h⟩ := exists_of_bind_ok h
  by_cases hfinite : (a.isFinite && b.isFinite) = true
  · rw [hfinite] at h
    rw [Bool.and_eq_true] at hfinite
    have hbounds := bounds_in_order hfinite.1 hfinite.2
    generalize (if a ≤ b then (a, b) else (b, a)) = bounds at h hbounds
    obtain ⟨low, high⟩ := bounds
    obtain ⟨hlow, hhigh, hle⟩ := hbounds
    cases h
    exact {
      min := hlow
      max := hhigh
      ordered := hle
      score := isFinite_finiteOf_getD fs _
      strength := fun _ hx => isFinite_of_finiteOf hx
      confidence := fun _ hx => isFinite_of_finiteOf hx
      timeframe := timeframe.positive
      id := isTrimmedText_or_anonymous fs _ timeframe _ _ originTime low high places
      why := isTrimmedText_of_textsOf }
  · rw [Bool.eq_false_of_not_eq_true hfinite] at h
    cases h

theorem wellFormed_of_readPool {doc : Json} {p : Pool} (h : readPool doc = .ok p) :
    p.WellFormed := by
  unfold readPool at h
  obtain ⟨fs, -, h⟩ := exists_of_bind_ok h
  obtain ⟨id, hid, h⟩ := exists_of_bind_ok h
  obtain ⟨raw, -, h⟩ := exists_of_bind_ok h
  obtain ⟨timeframe, -, h⟩ := exists_of_bind_ok h
  obtain ⟨a, -, h⟩ := exists_of_bind_ok h
  obtain ⟨b, -, h⟩ := exists_of_bind_ok h
  split at h
  · cases h
  · next hfinite =>
    cases h
    simp only [Bool.not_eq_true', Bool.not_eq_false, Bool.and_eq_true] at hfinite
    obtain ⟨ha, hb⟩ := hfinite
    obtain ⟨-, hatop, -⟩ := larger_spec (.of_isFinite ha) (.of_isFinite hb)
    obtain ⟨-, hbottoma, -⟩ := smaller_spec (.of_isFinite ha) (.of_isFinite hb)
    exact {
      bottom := isFinite_smaller ha hb
      top := isFinite_larger ha hb
      ordered := double_le_trans hbottoma hatop
      id := isTrimmedText_of_textOf (eq_some_of_require hid) }

theorem wellFormed_of_readLevel {doc : Json} {l : Level} (h : readLevel doc = .ok l) :
    l.WellFormed := by
  unfold readLevel at h
  obtain ⟨fs, -, h⟩ := exists_of_bind_ok h
  obtain ⟨price, -, h⟩ := exists_of_bind_ok h
  split at h
  · cases h
  · next hfinite =>
    cases h
    rw [Level.WellFormed]
    simpa using hfinite

theorem wellFormed_of_readSession {doc : Json} {s : Session} (h : readSession doc = .ok s) :
    s.WellFormed := by
  unfold readSession at h
  obtain ⟨fs, -, h⟩ := exists_of_bind_ok h
  obtain ⟨start, -, h⟩ := exists_of_bind_ok h
  obtain ⟨stop, -, h⟩ := exists_of_bind_ok h
  split at h
  · cases h
  · next hle =>
    cases h
    exact Int64.not_le.mp hle

end Feed

end ChartLayer
