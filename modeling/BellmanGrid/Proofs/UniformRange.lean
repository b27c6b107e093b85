import BellmanGrid.Grid.Range
import BellmanGrid.Proofs.ExactNumber
import BellmanGrid.Proofs.IntegerDoubles
import Mathlib.Data.Rat.Floor
import Mathlib.Tactic.FieldSimp
import Mathlib.Tactic.Linarith
import Mathlib.Tactic.Positivity
import Mathlib.Tactic.Ring

/-!
Grids over a range in exact arithmetic.

The points of a range have one common gap.  It is the step, unless the range is nearly a whole
number of steps: then the gap is stretched or shortened a little, so that the last point is the
upper bound.  Never does another whole step fit behind the last point.
-/

namespace BellmanGrid

/-! ### Rounding to integers -/

theorem roundQuotient_cases (numerator denominator : Nat) :
    (roundQuotient numerator denominator = numerator / denominator ∧
        2 * (numerator % denominator) ≤ denominator) ∨
      roundQuotient numerator denominator = numerator / denominator + 1 ∧
        denominator ≤ 2 * (numerator % denominator) := by
  rw [roundQuotient]
  split
  · next hbelow => exact Or.inl ⟨rfl, hbelow.le⟩
  · split
    · next habove => exact Or.inr ⟨rfl, habove.le⟩
    · rcases Nat.mod_two_eq_zero_or_one (numerator / denominator) with heven | hodd
      · exact Or.inl ⟨by rw [heven, Nat.add_zero], by omega⟩
      · exact Or.inr ⟨by rw [hodd], by omega⟩

/-- A quotient is rounded by at most one half. -/
theorem abs_sub_roundQuotient_le (numerator : Nat) {denominator : Nat} (hpos : 0 < denominator) :
    |(numerator : Rat) / denominator - roundQuotient numerator denominator| ≤ 1 / 2 := by
  have hdenominator : (0 : Rat) < denominator := by exact_mod_cast hpos
  have hparts : (numerator : Rat) =
      denominator * (numerator / denominator : Nat) + (numerator % denominator : Nat) := by
    exact_mod_cast (Nat.div_add_mod numerator denominator).symm
  rw [abs_le, le_sub_iff_add_le, sub_le_iff_le_add, le_div_iff₀ hdenominator,
    div_le_iff₀ hdenominator]
  obtain ⟨hround, hsmall⟩ | ⟨hround, hlarge⟩ := roundQuotient_cases numerator denominator
  · have hsmall : (2 : Rat) * (numerator % denominator : Nat) ≤ denominator := by
      exact_mod_cast hsmall
    have hnonneg : (0 : Rat) ≤ (numerator % denominator : Nat) := Nat.cast_nonneg _
    rw [hround]
    constructor <;> linarith
  · have hlarge : (denominator : Rat) ≤ 2 * (numerator % denominator : Nat) := by
      exact_mod_cast hlarge
    have hless : ((numerator % denominator : Nat) : Rat) < denominator := by
      exact_mod_cast Nat.mod_lt numerator hpos
    rw [hround]
    push_cast
    constructor <;> linarith

theorem roundInt_of_nonneg {number : Rat} (hnonneg : 0 ≤ number) :
    Number.roundInt number = (roundQuotient number.num.natAbs number.den : Nat) := by
  show (if number < 0 then _ else _) = _
  rw [if_neg hnonneg.not_gt]

/-- No integer is nearer to a quantity than the one that it is rounded to. -/
theorem abs_sub_roundInt_le {number : Rat} (hnonneg : 0 ≤ number) (other : Int) :
    |number - (Number.roundInt number : Int)| ≤ |number - other| := by
  have hquotient : number = (number.num.natAbs : Rat) / number.den := by
    rw [Nat.cast_natAbs, abs_of_nonneg (Rat.num_nonneg.mpr hnonneg)]
    exact (Rat.num_div_den number).symm
  have hhalf : |number - (Number.roundInt number : Int)| ≤ 1 / 2 := by
    rw [roundInt_of_nonneg hnonneg, Int.cast_natCast]
    nth_rewrite 1 [hquotient]
    exact abs_sub_roundQuotient_le _ number.den_pos
  by_cases hsame : other = Number.roundInt number
  · rw [hsame]
  · have hapart : (1 : Rat) ≤ |((Number.roundInt number : Int) : Rat) - other| := by
      exact_mod_cast Int.one_le_abs (sub_ne_zero.mpr (Ne.symm hsame))
    have htriangle := abs_sub_le ((Number.roundInt number : Int) : Rat) number other
    rw [abs_sub_comm _ number] at htriangle
    linarith

namespace Grid

/-! ### The number of steps -/

/-- How far a number of steps may be from an integer that it is taken for. -/
def tolerated (steps : Rat) : Rat :=
  stepTolerance * max 1 steps

theorem tolerated_nonneg (steps : Rat) : 0 ≤ tolerated steps := by
  have hlarger : (0 : Rat) ≤ max 1 steps := zero_le_one.trans (le_max_left 1 steps)
  have htolerance : (0 : Rat) ≤ stepTolerance := by
    show (0 : Rat) ≤ ((1 : Int) : Rat) / ((Int.pow 10 9 : Int) : Rat)
    norm_num
  exact mul_nonneg htolerance hlarger

theorem tolerated_of_le_one {steps : Rat} (hle : steps ≤ 1) : tolerated steps < 1 / 2 := by
  rw [tolerated, max_eq_left hle, mul_one]
  show ((1 : Int) : Rat) / ((Int.pow 10 9 : Int) : Rat) < 1 / 2
  norm_num

theorem larger_one (steps : Rat) : Number.larger (Number.ofInt 1) steps = max 1 steps := by
  rw [Number.larger, max_def_lt]
  exact if_congr decide_eq_true_iff rfl rfl

theorem atMost_tolerance_iff (steps : Rat) (whole : Int) :
    Number.atMost (Number.magnitude (steps - Number.ofInt whole))
      (stepTolerance * Number.larger (Number.ofInt 1) steps) = true ↔
        |steps - whole| ≤ tolerated steps := by
  rw [larger_one, ExactNumber.atMost_iff (K := Rat), ExactDistance.value_magnitude]
  exact Iff.rfl

/-- A number of steps is taken for the nearest integer if that is near enough, and is cut off to the
integer below it if no integer is. -/
theorem stepCount_cases {steps : Rat} (hnonneg : 0 ≤ steps) :
    (∃ count : Nat, stepCount steps = ((count : Int), true) ∧ |steps - count| ≤ tolerated steps ∧
      ∀ other : Int, |steps - count| ≤ |steps - other|) ∨
    ∃ count : Nat, stepCount steps = ((count : Int), false) ∧ (count : Rat) ≤ steps ∧
      steps < count + 1 ∧ ∀ other : Int, ¬ |steps - other| ≤ tolerated steps := by
  have hnearest := abs_sub_roundInt_le hnonneg
  rw [stepCount]
  by_cases hnear : |steps - (Number.roundInt steps : Int)| ≤ tolerated steps
  · left
    obtain ⟨count, hcount⟩ : ∃ count : Nat, Number.roundInt steps = (count : Int) :=
      ⟨_, roundInt_of_nonneg hnonneg⟩
    rw [if_pos ((atMost_tolerance_iff _ _).mpr hnear), hcount]
    rw [hcount] at hnear hnearest
    exact ⟨count, rfl, hnear, hnearest⟩
  · right
    obtain ⟨count, hcount⟩ := Int.eq_ofNat_of_zero_le (Int.floor_nonneg.mpr hnonneg)
    have hfloor : Number.floorInt steps = (count : Int) := hcount
    have hbelow := Int.floor_le steps
    have habove := Int.lt_floor_add_one steps
    rw [hcount] at hbelow habove
    rw [if_neg (mt (atMost_tolerance_iff _ _).mp hnear), hfloor]
    exact ⟨count, rfl, hbelow, habove, fun other hother => hnear ((hnearest other).trans hother)⟩

/-! ### Gaps -/

/-- `count` gaps fit into a range: they do not pass the upper bound, leave less than a step of the
range, and are steps unless the range is nearly a whole number of steps. -/
structure Fits (lower upper step : Rat) (count : Nat) (gap : Rat) : Prop where
  gap_pos : 0 < gap
  last_le : lower + count * gap ≤ upper
  rest_lt : upper - (lower + count * gap) < step
  near : ∀ whole : Int, 1 ≤ whole →
    |(upper - lower) / step - whole| ≤ tolerated ((upper - lower) / step) →
      lower + count * gap = upper ∧
        |gap - step| ≤ tolerated ((upper - lower) / step) * step / count
  apart : (∀ whole : Int, 1 ≤ whole →
    ¬ |(upper - lower) / step - whole| ≤ tolerated ((upper - lower) / step)) → gap = step
  exact : ∀ whole : Int, (upper - lower) / step = whole → (count : Int) = whole ∧ gap = step

section Fits

variable {lower upper step : Rat} {count : Nat}

/-- A range that is taken for one or more whole steps is divided evenly. -/
theorem fits_of_near (hstep : 0 < step) (hcount : 0 < count)
    (hnear : |(upper - lower) / step - count| ≤ tolerated ((upper - lower) / step))
    (hnearest : ∀ other : Int,
      |(upper - lower) / step - count| ≤ |(upper - lower) / step - other|) :
    Fits lower upper step count ((upper - lower) / count) := by
  have hwidth : upper - lower = (upper - lower) / step * step := (div_mul_cancel₀ _ hstep.ne').symm
  have hone : (1 : Rat) ≤ count := by exact_mod_cast hcount
  have hpos : (0 : Rat) < count := zero_lt_one.trans_le hone
  have hlast : lower + count * ((upper - lower) / count) = upper := by
    field_simp
    ring
  have hdifference : (upper - lower) / count - step =
      ((upper - lower) / step - count) * step / count := by
    field_simp
  have hsteps : 0 < (upper - lower) / step := by
    have hzero := hnearest 0
    rw [Int.cast_zero, sub_zero] at hzero
    by_contra hneg
    rw [abs_of_nonpos (not_lt.mp hneg), abs_sub_comm, abs_of_pos (by linarith)] at hzero
    linarith
  refine ⟨div_pos ?_ hpos, hlast.le, ?_, fun _ _ _ => ⟨hlast, ?_⟩, fun hapart => ?_,
    fun whole hwhole => ?_⟩
  · rw [hwidth]
    exact mul_pos hsteps hstep
  · rw [hlast, sub_self]
    exact hstep
  · rw [hdifference, abs_div, abs_mul, abs_of_pos hstep, abs_of_pos hpos]
    gcongr
  · exact absurd hnear (hapart count (by exact_mod_cast hcount))
  · have hequal := hnearest whole
    rw [hwhole, sub_self, abs_zero, abs_nonpos_iff, sub_eq_zero] at hequal
    rw [hwhole, hequal, sub_self, zero_mul, zero_div, sub_eq_zero] at hdifference
    exact ⟨by exact_mod_cast hequal.symm, hdifference⟩

/-- A range that is taken for no step at all has one point. -/
theorem fits_zero (hstep : 0 < step) (hle : lower ≤ upper)
    (hnearest : ∀ other : Int, |(upper - lower) / step| ≤ |(upper - lower) / step - other|) :
    Fits lower upper step 0 step := by
  have hwidth : upper - lower = (upper - lower) / step * step := (div_mul_cancel₀ _ hstep.ne').symm
  have hsteps : 0 ≤ (upper - lower) / step := div_nonneg (by linarith) hstep.le
  have hhalf : (upper - lower) / step ≤ 1 / 2 := by
    have hone := hnearest 1
    rw [abs_of_nonneg hsteps, Int.cast_one] at hone
    by_contra hlarge
    rcases abs_cases ((upper - lower) / step - 1) with ⟨habs, _⟩ | ⟨habs, _⟩ <;> linarith
  refine ⟨hstep, by simpa using hle, ?_, fun whole hwhole hnear => ?_, fun _ => rfl,
    fun whole hwhole => ⟨?_, rfl⟩⟩
  · rw [Nat.cast_zero, zero_mul, add_zero, hwidth]
    nlinarith
  · have hone : (1 : Rat) ≤ whole := by exact_mod_cast hwhole
    have htolerated := tolerated_of_le_one (hhalf.trans (by norm_num))
    rw [abs_of_nonpos (by linarith)] at hnear
    linarith
  · have hequal := hnearest whole
    rw [hwhole, sub_self, abs_zero, abs_nonpos_iff] at hequal
    exact_mod_cast hequal.symm

/-- A range that is taken for no whole number of steps has steps as gaps. -/
theorem fits_of_apart (hstep : 0 < step) (hbelow : (count : Rat) ≤ (upper - lower) / step)
    (habove : (upper - lower) / step < count + 1)
    (hapart : ∀ other : Int,
      ¬ |(upper - lower) / step - other| ≤ tolerated ((upper - lower) / step)) :
    Fits lower upper step count step := by
  rw [le_div_iff₀ hstep] at hbelow
  rw [div_lt_iff₀ hstep] at habove
  refine ⟨hstep, by linarith, by linarith, fun whole _ hnear => absurd hnear (hapart whole),
    fun _ => rfl, fun whole hwhole => absurd ?_ (hapart whole)⟩
  rw [hwhole, sub_self, abs_zero]
  exact tolerated_nonneg _

end Fits

/-- A range has gaps that fit, and its last point is the one behind them. -/
theorem exists_fits {lower upper step : Rat} (hstep : 0 < step) (hle : lower ≤ upper) :
    ∃ (count : Nat) (gap : Rat) (aligned : Bool), Fits lower upper step count gap ∧
      stepCount ((upper - lower) / step) = ((count : Int), aligned) ∧
      (0 < count → (if aligned then upper else lower + (count : Rat) * step) =
        lower + (count : Rat) * gap) := by
  have hsteps : 0 ≤ (upper - lower) / step := div_nonneg (by linarith) hstep.le
  obtain ⟨count, hcount, hnear, hnearest⟩ | ⟨count, hcount, hbelow, habove, hapart⟩ :=
    stepCount_cases hsteps
  · rcases Nat.eq_zero_or_pos count with rfl | hpos
    · simp only [Nat.cast_zero, sub_zero] at hnearest
      exact ⟨0, step, true, fits_zero hstep hle hnearest, hcount,
        fun hlt => absurd hlt (lt_irrefl 0)⟩
    · have hfits := fits_of_near hstep hpos hnear hnearest
      have hlast := (hfits.near count (by exact_mod_cast hpos) (by exact_mod_cast hnear)).1
      exact ⟨count, _, true, hfits, hcount, fun _ => hlast.symm⟩
  · exact ⟨count, step, false, fits_of_apart hstep hbelow habove hapart, hcount, fun _ => rfl⟩

/-! ### Points -/

/-- The points `lower`, `lower + gap`, and so on, up to `count` gaps. -/
def uniformPoints (lower gap : Rat) (count : Nat) : Array Rat :=
  Array.ofFn fun index : Fin (count + 1) => lower + index.val * gap

theorem spaced_eq_uniformPoints {lower gap last : Rat} {count : Nat} (hgap : 0 < gap)
    (hlast : 0 < count → last = lower + count * gap) :
    spaced lower last count = uniformPoints lower gap count := by
  rcases Nat.eq_zero_or_pos count with rfl | hpos
  · show #[(0 : Rat) * (last - lower) + lower] = #[lower + ((0 : Nat) : Rat) * gap]
    rw [zero_mul, zero_add, Nat.cast_zero, zero_mul, add_zero]
  · obtain rfl := hlast hpos
    have hcount : (count : Rat) ≠ 0 := by exact_mod_cast hpos.ne'
    have hquotient : (lower + count * gap - lower) / (Number.ofInt (count : Int) : Rat) = gap := by
      show (lower + count * gap - lower) / ((count : Int) : Rat) = gap
      rw [Int.cast_natCast]
      field_simp
      ring
    have hsame : Number.same gap Number.zero = false := beq_false_of_ne hgap.ne'
    rw [spaced, if_neg hpos.ne', uniformPoints]
    simp only [hquotient, hsame, Bool.false_eq_true, if_false]
    congr 1
    funext index
    split
    · next hend => rw [hend]
    · show ((index.val : Int) : Rat) * gap + lower = lower + index.val * gap
      rw [Int.cast_natCast, add_comm]

theorem exists_ofPoints_uniformPoints (name : String) (lower : Rat) {gap : Rat} (hgap : 0 < gap)
    (count : Nat) : ∃ grid, ofPoints name (uniformPoints lower gap count) = .ok grid ∧
      grid.name = name ∧ grid.points = uniformPoints lower gap count := by
  have hsize : (uniformPoints lower gap count).size = count + 1 := Array.size_ofFn
  have hnonempty : 0 < (uniformPoints lower gap count).size := by omega
  have hfinite : (uniformPoints lower gap count).all Number.isFinite = true :=
    Array.all_eq_true.mpr fun _ _ => rfl
  have hrises : risesFrom (uniformPoints lower gap count) 0 = true := by
    apply risesFrom_of_less
    intro index hnext
    have hdifference : (uniformPoints lower gap count)[index + 1] -
        (uniformPoints lower gap count)[index] = gap := by
      simp only [uniformPoints, Array.getElem_ofFn]
      push_cast
      ring
    rw [hdifference]
    exact decide_eq_true hgap
  rw [ofPoints, dif_pos hnonempty, dif_pos hfinite, dif_pos hrises]
  exact ⟨_, rfl, rfl, rfl⟩

/-! ### Ranges -/

/-- A range in order is refused only by the storage. -/
theorem range_eq (name : String) {lower upper step : Rat} (hstep : 0 < step) (hle : lower ≤ upper) :
    ∃ (count : Nat) (gap : Rat), Fits lower upper step count gap ∧
      range name lower upper step =
        match Storage.checkRange (count + 1) with
        | .error cause => .error ⟨name, .storage cause⟩
        | .ok () => ofPoints name (uniformPoints lower gap count) := by
  obtain ⟨count, gap, aligned, hfits, hcount, hlast⟩ := exists_fits hstep hle
  refine ⟨count, gap, hfits, ?_⟩
  have hpositive : Number.atMost step Number.zero = false := decide_eq_false hstep.not_ge
  have horder : Number.less upper lower = false := decide_eq_false hle.not_gt
  have hfinite : ∀ number : Rat, Number.isFinite number = true := fun _ => rfl
  -- The test of the storage stands under a name, so that no step computes its limits.
  obtain ⟨check, hcheck⟩ : ∃ check, Storage.checkRange = check := ⟨_, rfl⟩
  rw [range, hcheck, hfinite, hfinite, hfinite, hpositive, horder, if_neg (by decide),
    if_neg (by decide), if_neg (by decide)]
  extract_lets steps
  have hsteps : stepCount steps = ((count : Int), aligned) := hcount
  rw [hfinite, if_neg (by decide), hsteps,
    ← spaced_eq_uniformPoints hfits.gap_pos hlast]
  rfl

/-- A range with a step that is not above zero, or that ends before it starts, is refused. -/
theorem range_eq_error {α : Type} [Number α] (name : String) {lower upper step : α}
    (hfinite : Number.isFinite lower = true ∧ Number.isFinite upper = true ∧
      Number.isFinite step = true)
    (hrefused : Number.atMost step Number.zero = true ∨ Number.less upper lower = true) :
    range name lower upper step = .error ⟨name,
      if Number.atMost step Number.zero then .stepNotPositive step else .inverted upper lower⟩ := by
  obtain ⟨hlower, hupper, hstep⟩ := hfinite
  rw [range, hlower, hupper, hstep, if_neg (by decide)]
  cases hpositive : Number.atMost step Number.zero with
  | true => rw [if_pos rfl, if_pos rfl]
  | false =>
      rw [hpositive] at hrefused
      rw [if_neg Bool.false_ne_true, if_pos (hrefused.resolve_left Bool.false_ne_true),
        if_neg Bool.false_ne_true]

/-- The points of a grid are `lower`, `lower + gap`, and so on, up to `count` gaps. -/
def IsUniform (grid : Grid Rat) (lower gap : Rat) (count : Nat) : Prop :=
  grid.size = count + 1 ∧ ∀ index : Fin grid.size, grid.point index = lower + index.val * gap

theorem isUniform_of_points {grid : Grid Rat} {lower gap : Rat} {count : Nat}
    (hpoints : grid.points = uniformPoints lower gap count) : grid.IsUniform lower gap count := by
  refine ⟨?_, fun index => ?_⟩
  · rw [size, hpoints]
    exact Array.size_ofFn
  · simp only [point, hpoints, uniformPoints, Array.getElem_ofFn]

/-- Points that take less memory than is granted are stored. -/
theorem checkRange_eq_ok {count : Nat} (hpos : 0 < count) (hbytes : 8 * count < Storage.granted) :
    Storage.checkRange count = .ok () := by
  have hgranted : Storage.granted = 2 ^ 40 := rfl
  have hlimit : Nat.pow 2 63 = 2 ^ 63 := rfl
  have hcount : ((FiniteDouble.ofFloat (floatOfInt count)).truncate).toNat = count := by
    rw [truncate_ofFloat_floatOfInt (by omega), Int.toNat_natCast]
  have hextent : extent [count] = count := Nat.mul_one count
  have hfilter : [count].filter (0 < ·) = [count] := List.filter_cons_of_pos (decide_eq_true hpos)
  rw [Storage.checkRange, hcount, hlimit, if_neg (by omega), if_neg (by omega),
    Storage.check_eq_ok_iff, hlimit, hfilter, hextent, List.forall_mem_singleton]
  omega

/-- In exact arithmetic a range in order has gaps that fit, and its grid has the points that these
gaps lead to, unless so many points cannot be stored.  A range with a step that is not above zero,
or that ends before it starts, is refused as an invalid grid, by doubles as well. -/
theorem range_law (name : String) (lower upper step : Rat) :
    (0 < step ∧ lower ≤ upper → ∃ (count : Nat) (gap : Rat), Fits lower upper step count gap ∧
      (8 * (count + 1) < Storage.granted → ∃ grid, range name lower upper step = .ok grid) ∧
      (∀ grid, range name lower upper step = .ok grid →
        grid.name = name ∧ grid.IsUniform lower gap count) ∧
      ∀ error, range name lower upper step = .error error →
        ∃ cause, error = ⟨name, .storage cause⟩) ∧
    (step ≤ 0 ∨ upper < lower → range name lower upper step =
      .error ⟨name, if step ≤ 0 then .stepNotPositive step else .inverted upper lower⟩) ∧
    ∀ low high width : Float, (Number.isFinite low = true ∧ Number.isFinite high = true ∧
        Number.isFinite width = true) → (Number.atMost width Number.zero = true ∨
        Number.less high low = true) →
      ∃ error, range name low high width = .error error ∧ kind error = .invalidGrid := by
  refine ⟨fun ⟨hstep, hle⟩ => ?_, fun hrefused => ?_, fun low high width hfinite hrefused => ?_⟩
  · obtain ⟨count, gap, hfits, hrange⟩ := range_eq name hstep hle
    obtain ⟨grid, hgrid, hname, hpoints⟩ :=
      exists_ofPoints_uniformPoints name lower hfits.gap_pos count
    rw [hrange, hgrid]
    refine ⟨count, gap, hfits,
      fun hbytes => ⟨grid, by rw [checkRange_eq_ok count.succ_pos hbytes]⟩, ?_⟩
    cases Storage.checkRange (count + 1) with
    | error cause =>
        refine ⟨fun _ hother => ?_, fun error herror => ⟨cause, (Except.error.inj herror).symm⟩⟩
        cases hother
    | ok _ =>
        refine ⟨fun other hother => ?_, fun _ herror => ?_⟩
        · obtain rfl := Except.ok.inj hother
          exact ⟨hname, isUniform_of_points hpoints⟩
        · cases herror
  · rw [range_eq_error name ⟨rfl, rfl, rfl⟩ (hrefused.imp decide_eq_true decide_eq_true)]
    congr 2
    exact if_congr decide_eq_true_iff rfl rfl
  · refine ⟨_, range_eq_error name hfinite hrefused, ?_⟩
    cases Number.atMost width Number.zero <;> rfl

/-- Two halves up to one; no step at all is refused. -/
theorem range_zero_one :
    (∃ grid, range "state" (0 : Rat) 1 (1 / 2) = .ok grid ∧ grid.IsUniform 0 (1 / 2) 2) ∧
      range "state" (0 : Rat) 1 0 = .error ⟨"state", .stepNotPositive 0⟩ ∧
      ∃ error, range "state" 0.0 1.0 0.0 = .error error ∧ kind error = .invalidGrid := by
  refine ⟨?_, ?_, ?_⟩
  · obtain ⟨count, gap, hfits, hstored, hpoints, -⟩ :=
      (range_law "state" 0 1 (1 / 2)).1 ⟨by norm_num, by norm_num⟩
    obtain ⟨hcount, rfl⟩ := hfits.exact 2 (by norm_num)
    obtain rfl : count = 2 := by exact_mod_cast hcount
    obtain ⟨grid, hgrid⟩ := hstored (by decide)
    exact ⟨grid, hgrid, (hpoints grid hgrid).2⟩
  · exact (range_law "state" 0 1 0).2.1 (Or.inl le_rfl)
  · exact (range_law "state" 0 1 0).2.2 0.0 1.0 0.0 (by decide +kernel) (Or.inl (by decide +kernel))

/-- A range in order can have too many points to be stored. -/
theorem exists_range_not_stored :
    0 < (1 : Rat) ∧ (0 : Rat) ≤ 2 ^ 40 ∧ range "state" (0 : Rat) (2 ^ 40) 1 =
      .error ⟨"state", .storage (.outOfMemory .number [2 ^ 40 + 1])⟩ := by
  have hrefused : Storage.checkRange (2 ^ 40 + 1) = .error (.outOfMemory .number [2 ^ 40 + 1]) := by
    decide +kernel
  refine ⟨zero_lt_one, by positivity, ?_⟩
  obtain ⟨count, gap, hfits, hrange⟩ :=
    range_eq "state" (zero_lt_one : (0 : Rat) < 1) (by positivity : (0 : Rat) ≤ 2 ^ 40)
  obtain ⟨hcount, -⟩ := hfits.exact (2 ^ 40) (by norm_num)
  obtain rfl : count = 2 ^ 40 := by exact_mod_cast hcount
  rw [hrange, hrefused]

end Grid

end BellmanGrid
