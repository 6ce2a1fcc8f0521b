import ChartLayer.Proofs.Bar.Series

/-!
# Within one dataset the signature only grows

Another dataset is told by comparing a history with the signature before it, and only with that one.
Yet the signatures of a whole run are comparable: as long as no history tells another dataset, each
signature extends every earlier one, since extending is a preorder and single bars only extend.

* `Continues`: the later series holds the dataset of the earlier one, with bars added at its end.
* `continues_serve`, `continues_serveAll`: one request, and any run within one dataset.
* `signature_only_grows`: any two points of a run, and what the series held tells of itself.
-/

namespace ChartLayer

namespace SeriesSignature

theorem extends_iff {next earlier : SeriesSignature} :
    next.extends earlier = true ↔ next.firstTime = earlier.firstTime ∧
      earlier.lastTime ≤ next.lastTime ∧ earlier.count ≤ next.count := by
  simp [SeriesSignature.extends, and_assoc]

theorem extends_refl (s : SeriesSignature) : s.extends s = true :=
  extends_iff.mpr ⟨rfl, Int64.le_refl _, Nat.le_refl _⟩

theorem extends_trans {a b c : SeriesSignature} (hba : b.extends a = true)
    (hcb : c.extends b = true) : c.extends a = true := by
  obtain ⟨hfirst, hlast, hcount⟩ := extends_iff.mp hba
  obtain ⟨hfirst', hlast', hcount'⟩ := extends_iff.mp hcb
  exact extends_iff.mpr
    ⟨hfirst'.trans hfirst, Int64.le_trans hlast hlast', Nat.le_trans hcount hcount'⟩

end SeriesSignature

namespace BarSeries

/-! ## Signatures of a list -/

theorem signatureOf?_concat (bars : List Bar) (b : Bar) :
    signatureOf? (bars ++ [b]) = some ⟨(bars.head?.getD b).time, b.time, bars.length + 1⟩ := by
  unfold signatureOf?
  rw [List.head?_append, List.getLast?_concat, List.length_append]
  cases bars.head? <;> rfl

/-- A last bar of the same time leaves the signature. -/
theorem signatureOf?_replace_last {earlier : List Bar} {last b : Bar} (htime : last.time = b.time) :
    signatureOf? (earlier ++ [b]) = signatureOf? (earlier ++ [last]) := by
  rw [signatureOf?_concat, signatureOf?_concat, htime]
  cases earlier with
  | nil => rw [List.head?_nil, Option.getD_none, Option.getD_none, htime]
  | cons first rest => rfl

/-! ## One request -/

/-- The later series holds the dataset of the earlier one, if there was one. -/
def Continues (earlier later : BarSeries) : Prop :=
  ∀ e ∈ earlier.signature?, ∃ l ∈ later.signature?, l.extends e = true

theorem continues_of_eq {s t : BarSeries} (h : t.signature? = s.signature?) : Continues s t :=
  fun e he => ⟨e, h ▸ he, e.extends_refl⟩

theorem Continues.trans {s t u : BarSeries} (hst : Continues s t) (htu : Continues t u) :
    Continues s u := by
  intro e he
  obtain ⟨m, hm, hme⟩ := hst e he
  obtain ⟨l, hl, hlm⟩ := htu m hm
  exact ⟨l, hl, SeriesSignature.extends_trans hme hlm⟩

/-- Whether a request leaves the dataset held: a history that tells another one, or a series that is
cleared. -/
def Request.leaves (s : BarSeries) : Request → Bool
  | .setBars bars => (s.setBars bars).1.datasetChanged
  | .clear => true
  | _ => false

variable {s : BarSeries}

/-- **A history.** One that does not tell another dataset extends the signature. -/
theorem continues_setBars {bars : List Bar} (h : (s.setBars bars).1.datasetChanged = false) :
    Continues s (s.setBars bars).2 := by
  intro e he
  change isOtherDataset s.signature? (s.setBars bars).2.signature? = false at h
  rw [Option.mem_def.mp he] at h
  cases hnext : (s.setBars bars).2.signature? with
  | none => rw [hnext] at h; cases h
  | some l =>
    rw [hnext] at h
    exact ⟨l, rfl, by simpa [isOtherDataset] using h⟩

/-- **An update.** The last bar is replaced by one of its time, or a later one goes behind it. -/
theorem continues_updateLast (bar : Bar) : Continues s (s.updateLast bar).2 := by
  have hstep := updateStep bar s
  generalize s.updateLast bar = out at hstep ⊢
  cases hstep with
  | rejected => exact continues_of_eq rfl
  | replaced earlier last _ hbars htime =>
    apply continues_of_eq
    change signatureOf? _ = signatureOf? s.bars
    rw [hbars, signatureOf?_replace_last htime]
  | appended _ hlater =>
    intro e he
    cases hlast : s.bars.getLast? with
    | none =>
      -- an empty series has no signature
      unfold signature? at he
      rw [List.getLast?_eq_none_iff.mp hlast] at he
      cases he
    | some last =>
      obtain ⟨earlier, hbars⟩ := List.getLast?_eq_some_iff.mp hlast
      refine ⟨_, signatureOf?_concat s.bars bar, ?_⟩
      unfold signature? at he
      rw [hbars, signatureOf?_concat] at he
      cases he
      refine SeriesSignature.extends_iff.mpr ⟨?_, Int64.le_of_lt (hlater last hlast), ?_⟩
      · rw [hbars]
        cases earlier <;> rfl
      · rw [hbars, List.length_append]
        exact Nat.le_succ _

theorem bars_setLive (bar : Bar) : (s.setLive bar).2.bars = s.bars := by
  have hstep := previewStep bar s
  generalize s.setLive bar = out at hstep ⊢
  cases hstep <;> rfl

/-- **One request.** A request that does not leave the dataset continues it. -/
theorem continues_serve {r : Request} (h : r.leaves s = false) : Continues s (s.serve r) := by
  cases r with
  | setBars bars => exact continues_setBars h
  | updateLast bar => exact continues_updateLast bar
  | setLive bar => exact continues_of_eq (congrArg signatureOf? (bars_setLive bar))
  | clearLive => exact continues_of_eq rfl
  | clear => cases h

/-! ## Any run -/

/-- The series after some requests. -/
def serveAll (requests : List Request) (s : BarSeries) : BarSeries := requests.foldl serve s

theorem serveAll_afterAll (history requests : List Request) :
    (afterAll history).serveAll requests = afterAll (history ++ requests) :=
  (List.foldl_append (f := serve) ..).symm

/-- None of the requests leaves the dataset that is held when it comes. -/
def staysWithin (s : BarSeries) : List Request → Bool
  | [] => true
  | r :: rest => !r.leaves s && staysWithin (s.serve r) rest

theorem staysWithin_append {first rest : List Request} :
    s.staysWithin (first ++ rest) = true ↔
      s.staysWithin first = true ∧ (s.serveAll first).staysWithin rest = true := by
  induction first generalizing s with
  | nil => simp [staysWithin, serveAll]
  | cons r first ih =>
    rw [List.cons_append, staysWithin, staysWithin, Bool.and_eq_true, Bool.and_eq_true, ih,
      and_assoc]
    rfl

/-- **A run.** -/
theorem continues_serveAll {requests : List Request} (h : s.staysWithin requests = true) :
    Continues s (s.serveAll requests) := by
  induction requests generalizing s with
  | nil => exact continues_of_eq rfl
  | cons r rest ih =>
    obtain ⟨hr, hrest⟩ := Bool.and_eq_true_iff.mp h
    exact (continues_serve (Bool.not_eq_true' _ ▸ hr)).trans (ih hrest)

/-! ## The series held, delivered again -/

theorem sortedFinite_of_sound (h : Sound s) : sortedFinite s.bars = s.bars := by
  unfold sortedFinite
  rw [List.filter_eq_self.mpr h.finite]
  apply List.mergeSort_of_pairwise
  exact h.inOrder.imp fun hlt => decide_eq_true (Int64.le_of_lt hlt)

theorem lastPerTime_of_chronological {bars : List Bar} (h : Chronological bars) :
    lastPerTime bars = bars := by
  fun_induction lastPerTime bars with
  | case1 | case2 => rfl
  | case3 b c rest heq _ =>
    exact absurd heq (Int64.ne_of_lt ((List.pairwise_cons.mp h).1 c List.mem_cons_self))
  | case4 b c rest _ ih => rw [ih h.of_cons]

/-- A series that is delivered to itself is the same dataset and stays as it is. -/
theorem setBars_self (h : Sound s) :
    (s.setBars s.bars).1.datasetChanged = false ∧ (s.setBars s.bars).2.bars = s.bars := by
  have hbars : (s.setBars s.bars).2.bars = s.bars := by
    change lastPerTime (sortedFinite s.bars) = s.bars
    rw [sortedFinite_of_sound h, lastPerTime_of_chronological h.inOrder]
  refine ⟨?_, hbars⟩
  change isOtherDataset (signatureOf? s.bars) (signatureOf? (s.setBars s.bars).2.bars) = false
  rw [hbars]
  cases signatureOf? s.bars with
  | none => rfl
  | some e => simp [isOtherDataset, e.extends_refl]

/-- **The signature only grows.** Take any series that some requests have led to, and a run from
there in which no history tells another dataset and the series is not cleared. At any two points of
the run, if there was a bar at the earlier one, then there is at the later one, and the signature
there extends the earlier signature. The series held at any point is told to be the same dataset
when it is delivered as a history, and stays as it is. -/
theorem signature_only_grows (history : List Request) {requests : List Request}
    (h : (afterAll history).staysWithin requests = true) {earlier later : List Request}
    (hearlier : earlier <+: later) (hlater : later <+: requests) :
    Continues (afterAll (history ++ earlier)) (afterAll (history ++ later)) ∧
      let s := afterAll (history ++ later)
      (s.setBars s.bars).1.datasetChanged = false ∧ (s.setBars s.bars).2.bars = s.bars := by
  obtain ⟨between, rfl⟩ := hearlier
  obtain ⟨rest, rfl⟩ := hlater
  refine ⟨?_, setBars_self (sound_run _)⟩
  have hbetween := (staysWithin_append.mp (staysWithin_append.mp h).1).2
  rw [serveAll_afterAll] at hbetween
  rw [← List.append_assoc, ← serveAll_afterAll (history ++ earlier)]
  exact continues_serveAll hbetween

/-- A preview, the same history with another price, the bar after it, and a bar that is too old. -/
def growingRequests : List Request :=
  [.setLive ⟨1800, 3.0, 3.0, 3.0, 3.0, 0.0, false⟩,
    .setBars [⟨900, 2.0, 2.0, 2.0, 2.0, 0.0, true⟩],
    .updateLast ⟨1800, 3.0, 3.0, 3.0, 3.0, 0.0, true⟩,
    .updateLast ⟨0, 9.0, 9.0, 9.0, 9.0, 0.0, true⟩]

theorem signature_of_growing :
    let history := [.clear, .setBars [⟨900, 1.0, 1.0, 1.0, 1.0, 0.0, true⟩]]
    let s := afterAll (history ++ growingRequests)
    (afterAll history).staysWithin growingRequests = true ∧
      (afterAll history).signature? = some ⟨900, 900, 1⟩ ∧ s.signature? = some ⟨900, 1800, 2⟩ ∧
      Continues (afterAll history) s ∧ (s.setBars s.bars).1.datasetChanged = false ∧
      (s.setBars s.bars).2.bars = s.bars := by
  intro history s
  have hstays : (afterAll history).staysWithin growingRequests = true := by decide +kernel
  exact ⟨hstays, by decide +kernel, by decide +kernel,
    signature_only_grows history hstays List.nil_prefix (List.prefix_refl _)⟩

end BarSeries

end ChartLayer
