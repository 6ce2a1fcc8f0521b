import ChartLayer.Feed.Field
import ChartLayer.Proofs.Number.WholeNumbers
import ChartLayer.Proofs.Text.Trimmed
import ChartLayer.Record.Write

/-!
# Fields of the strict form

The strict form of a record is a loose one, too. Each field stands under the one name that its
reader looks for before all others that are there, and it is written so that the reader takes it for
what it is (`Written`): a finite double as a number, a trimmed text as a text, a point in time as
seconds, if it is no greater than seconds can be (`Timestamp.CountsSeconds`).

* `Written.bind_field?`: a field that must be there.
* `bind_field?_option`: a field that is null where nothing is known.
* `Written.map_textOf?`, `textsOf_list`, `finiteOf?_option`: what that says of words, reasons and
  grades.
-/

namespace ChartLayer

/-! ## Times -/

namespace Timestamp

/-- Written as a number, the time counts as seconds. -/
def CountsSeconds (t : Time) : Prop := t.toInt.natAbs < 10 ^ 11

instance (t : Time) : Decidable (CountsSeconds t) := inferInstanceAs (Decidable (_ < _))

theorem saturate_toInt (t : Time) : saturate t.toInt = t := by
  have hmin : Int64.minValue.toInt ≤ t.toInt := t.le_toInt
  have hmax : t.toInt ≤ Int64.maxValue.toInt := t.toInt_le
  rw [saturate, min_eq_left hmax, max_eq_right hmin, Int64.ofInt_toInt]

theorem not_millisecondsFrom_le {t : Time} (h : CountsSeconds t) :
    ¬millisecondsFrom ≤ (Float.ofInt t.toInt).abs := by
  intro hle
  have hfrom : millisecondsFrom = Float.ofNat (10 ^ 11) := by decide +kernel
  have hunits := (le_iff.mp hle).2.2
  have hbits : t.toInt.natAbs < 2 ^ 53 := h.trans (by decide)
  rw [hfrom, units_ofNat (by decide), units_abs, units_ofInt hbits, abs_mul, Nat.abs_cast,
    ← Int.natCast_natAbs] at hunits
  have hpos : (0 : Int) < Binary64.perOne := Int.natCast_pos.mpr Binary64.perOne_pos
  have hle' := Int.le_of_mul_le_mul_right hunits hpos
  rw [CountsSeconds] at h
  omega

end Timestamp

theorem timestamp?_timeJson {t : Time} (h : Timestamp.CountsSeconds t) :
    timestamp? (timeJson t) = some t := by
  have hbits : t.toInt.natAbs < 2 ^ 53 := h.trans (by decide)
  change Timestamp.ofFloat? (Float.ofInt t.toInt) = some t
  rw [Timestamp.ofFloat?, if_neg (Timestamp.not_millisecondsFrom_le h), if_pos (isFinite_ofInt hbits),
    floorInt?_ofInt hbits, Option.map_some, Timestamp.saturate_toInt]

/-! ## Texts -/

theorem IsTrimmedText.allBlank_eq_false {s : String} (h : IsTrimmedText s) :
    allBlank s = false := by
  by_contra hblank
  rw [Bool.not_eq_false] at hblank
  have hnil : s.toList.dropWhile isBlank = [] :=
    List.dropWhile_eq_nil_iff.mpr (List.all_eq_true.mp hblank)
  have hempty : (trimmed s).toList = [] := by rw [toList_trimmed, hnil]; rfl
  rw [h.trimmed_eq] at hempty
  exact h.nonempty (String.toList_eq_nil_iff.mp hempty)

namespace Feed

/-! ## What is written for a value -/

/-- A document that is not null, and that is read as `a`. -/
structure Written {α : Type} (read : Json → Option α) (v : Json) (a : α) : Prop where
  not_null : v.isNull = false
  read_eq : read v = some a

theorem written_text {s : String} (h : IsTrimmedText s) : Written text? (.text s) s := by
  refine ⟨rfl, ?_⟩
  rw [text?, h.allBlank_eq_false, h.trimmed_eq]
  rfl

theorem written_float {x : Float} (h : x.isFinite = true) : Written number? (.float x) x := by
  rw [Json.float, if_pos h]
  exact ⟨rfl, rfl⟩

theorem written_time {t : Time} (h : Timestamp.CountsSeconds t) :
    Written timestamp? (timeJson t) t :=
  ⟨rfl, timestamp?_timeJson h⟩

/-! ## Fields -/

section Fields

variable {α : Type} {read : Json → Option α} {fs : Fields} {name : String} {names : List String}
  {v : Json} {a : α}

/-- The field under the first name that is there. -/
theorem field?_eq_some (h : names.findSome? (fs.lookup ·) = some v) (hv : v.isNull = false) :
    field? fs names = some v := by
  induction names with
  | nil => cases h
  | cons name names ih =>
    rw [List.findSome?_cons] at h
    rw [field?, List.findSome?_cons]
    cases hname : fs.lookup name with
    | none =>
      rw [hname] at h
      exact ih h
    | some w =>
      rw [hname] at h
      cases h
      simp [Option.filter, hv]

theorem field?_eq_none (h : names.findSome? (fs.lookup ·) = none) : field? fs names = none := by
  rw [field?, List.findSome?_eq_none_iff]
  intro name hname
  rw [List.findSome?_eq_none_iff.mp h name hname]
  rfl

/-- A field that must be there. -/
theorem Written.bind_field? (hv : Written read v a)
    (h : names.findSome? (fs.lookup ·) = some v) : (field? fs names).bind read = some a := by
  rw [field?_eq_some h hv.not_null]
  exact hv.read_eq

/-- A field that is null where nothing is known. -/
theorem bind_field?_option {write : α → Json} {o : Option α}
    (hwritten : ∀ a ∈ o, Written read (write a) a)
    (h : fs.lookup name = some (.option write o)) (hnames : names.findSome? (fs.lookup ·) = none) :
    (field? fs (name :: names)).bind read = o := by
  cases o with
  | none =>
    have hnull : field? fs (name :: names) = field? fs names := by
      rw [field?, List.findSome?_cons, h]
      rfl
    rw [hnull, field?_eq_none hnames]
    rfl
  | some a =>
    refine (hwritten a rfl).bind_field? ?_
    rw [List.findSome?_cons, h]
    rfl

theorem Written.map_textOf? {word : String → α} (hv : Written (fun v => (text? v).map word) v a)
    (h : names.findSome? (fs.lookup ·) = some v) : (textOf? fs names).map word = some a := by
  rw [textOf?, Option.map_bind]
  exact hv.bind_field? h

theorem Written.bind_textOf? {word : String → Option α}
    (hv : Written (fun v => (text? v).bind word) v a)
    (h : names.findSome? (fs.lookup ·) = some v) : (textOf? fs names).bind word = some a := by
  rw [textOf?, Option.bind_assoc]
  exact hv.bind_field? h

theorem textsOf_list {texts : List String} (htexts : ∀ s ∈ texts, IsTrimmedText s)
    (h : names.findSome? (fs.lookup ·) = some (.list (texts.map .text))) :
    textsOf fs names = texts := by
  have hread : (texts.map Json.text).filterMap text? = texts := by
    rw [List.filterMap_map]
    refine (List.filterMap_congr fun s hs => ?_).trans List.filterMap_some
    exact (written_text (htexts s hs)).read_eq
  rw [textsOf, field?_eq_some h rfl]
  exact hread

/-- A finite grade that must be there. -/
theorem finiteOf?_getD {x : Float} (hx : x.isFinite = true)
    (h : names.findSome? (fs.lookup ·) = some (.float x)) : (finiteOf? fs names).getD 0.0 = x := by
  rw [finiteOf?, numberOf?, (written_float hx).bind_field? h, Option.filter_some, if_pos hx]
  rfl

/-- A finite grade that may be unknown. -/
theorem finiteOf?_option {o : Option Float} (ho : ∀ x ∈ o, x.isFinite = true)
    (h : fs.lookup name = some (.option .float o))
    (hnames : names.findSome? (fs.lookup ·) = none) : finiteOf? fs (name :: names) = o := by
  rw [finiteOf?, numberOf?, bind_field?_option (fun x hx => written_float (ho x hx)) h hnames]
  cases o with
  | none => rfl
  | some x => exact if_pos (ho x rfl)

end Fields

/-! ## Values that are there -/

theorem require_bind {α β : Type} {issue : Issue} {o : Option α} {a : α}
    {next : α → Except Issue β} (h : o = some a) : (require issue o >>= next) = next a := by
  rw [h]
  rfl

theorem getD_eq_of_eq_some {α : Type} {o : Option α} {a d : α} (h : o = some a) : o.getD d = a := by
  rw [h]
  rfl

theorem apply_eq_of_map_some {α β : Type} {o : Option α} {b : β} (f : Option α → β)
    (h : (o.map fun a => f (some a)) = some b) : f o = b := by
  obtain ⟨a, rfl, hb⟩ := Option.map_eq_some_iff.mp h
  exact hb

end Feed

end ChartLayer
