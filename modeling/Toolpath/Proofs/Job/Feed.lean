import Toolpath.Proofs.Frame.Printed
import Toolpath.Proofs.Job.Composed
import Toolpath.Proofs.Number.Scaling

/-!
# The feed of a job

A feed is checked when it is entered, and is converted and rounded to one place only then. The
conversion keeps the order of feeds but neither bound of the check: it may pass the largest finite
double, and what is left of a small feed may be printed as zero. A feed move carries a usable feed
exactly where the converted feed is finite and more than half of the last place.
-/

namespace Toolpath

/-! ## Converting feeds -/

namespace FeedUnit

open Binary64

theorem ticks_millimetresPerInch_pos : 0 < millimetresPerInch.ticks := by
  decide +kernel

theorem toMillimetresPerMinute_mono (u : FeedUnit) {v w : Binary64} (h : v.le w) :
    (u.toMillimetresPerMinute v).le (u.toMillimetresPerMinute w) := by
  have hinch := scales_mul (c := millimetresPerInch) (by decide +kernel)
    ticks_millimetresPerInch_pos
  have hsecond := scales_mul (c := 60) (by decide +kernel) (by decide +kernel)
  cases u with
  | millimetresPerMinute => exact h
  | millimetresPerSecond => exact hsecond.mono h
  | inchesPerMinute => exact hinch.mono h
  | inchesPerSecond => exact hsecond.mono (hinch.mono h)

theorem convert_mono (u : FeedUnit) (unit : Option LengthUnit) {v w : Binary64} (h : v.le w) :
    (u.convert v unit).le (u.convert w unit) := by
  have hinch := scales_div (c := millimetresPerInch) (by decide +kernel)
    ticks_millimetresPerInch_pos
  rcases unit with _ | _ | _
  · exact h
  · exact hinch.mono (u.toMillimetresPerMinute_mono h)
  · exact u.toMillimetresPerMinute_mono h

/-- Feeds from 1.27 to 10³⁰⁵ stay within what can be printed, whatever their unit is. -/
theorem convert_of_le_of_le (u : FeedUnit) (unit : Option LengthUnit) {v : Binary64}
    (hlow : (Decimal.mk false 127 (-2)).toBinary64.le v)
    (hhigh : v.le (Decimal.mk false 1 305).toBinary64) :
    (u.convert v unit).isFinite ∧ Binary64.unit < 20 * (u.convert v unit).ticks := by
  -- Both ends are computed in every unit, and the order takes care of what lies between.
  have hends (u : FeedUnit) (unit : Option LengthUnit) :
      (u.convert (Decimal.mk false 1 305).toBinary64 unit).isFinite ∧
        (u.convert (Decimal.mk false 127 (-2)).toBinary64 unit).isFinite ∧
        Binary64.unit < 20 * (u.convert (Decimal.mk false 127 (-2)).toBinary64 unit).ticks := by
    rcases unit with _ | _ | _ <;> cases u <;> decide +kernel
  obtain ⟨hfar, hnear, hbound⟩ := hends u unit
  have hlow := u.convert_mono unit hlow
  have hhigh := u.convert_mono unit hhigh
  refine ⟨isFinite_of_le hlow hhigh hnear hfar, hbound.trans_le ?_⟩
  exact Int.mul_le_mul_of_nonneg_left (le_iff.mp hlow).2.2 (by norm_num)

end FeedUnit

/-! ## Printing feeds -/

theorem roundHalfEven_eq_zero_iff {d : Nat} (hd : 0 < d) (a : Nat) :
    roundHalfEven a d = 0 ↔ 2 * a ≤ d := by
  have hround := isHalfEven_roundHalfEven hd a
  constructor
  · intro h
    have hle := hround.1
    rw [h, Nat.cast_zero, zero_mul, zero_sub, abs_neg, Nat.abs_cast] at hle
    omega
  · intro h
    have hzero : IsHalfEven 0 a d := by
      rw [IsHalfEven, zero_mul, zero_sub, abs_neg, Nat.abs_cast]
      omega
    exact_mod_cast hround.unique hd hzero

theorem Binary64.scaled_eq_zero_iff (places : Nat) (x : Binary64) :
    x.scaled places = 0 ↔ 2 * (x.magnitude * 10 ^ places) ≤ unit :=
  roundHalfEven_eq_zero_iff unit_pos _

/-- The move carries a feed that is a positive number with finitely many digits. -/
def PrintsFeed (command : String) : Prop :=
  ∃ (n : Numeral) (target : List Char), n.Proper ∧ n.Plain ∧
    command.toList = 'G' :: '1' :: ' ' :: 'F' :: n.text ++ ' ' :: target ∧
    n.decimal.negative = false ∧ 0 < n.decimal.coefficient

theorem split?_fixedText_append (x : Binary64) (rest : List Char) :
    Numeral.split? (fixedText 1 x ++ ' ' :: rest) =
      if x.isFinite then some (Numeral.ofPlaces x.isNegative 1 (x.scaled 1), ' ' :: rest)
      else none := by
  cases hx : x.isFinite with
  | true =>
      have hproper := Numeral.proper_ofPlaces x.isNegative one_pos (x.scaled 1)
      rw [if_pos rfl, fixedText_eq 1 hx, Numeral.split?_text_append hproper (Numeral.stops_blank _)]
  | false =>
      -- A word stands where the numeral would have to begin.
      rw [if_neg Bool.false_ne_true, fixedText, hx, if_neg Bool.false_ne_true]
      cases x with
      | nan => rfl
      | infinity s => cases s <;> rfl
      | finite s m p hc => cases hx

theorem decimal_ofPlaces_pos_iff (x : Binary64) :
    ((Numeral.ofPlaces x.isNegative 1 (x.scaled 1)).decimal.negative = false ∧
      0 < (Numeral.ofPlaces x.isNegative 1 (x.scaled 1)).decimal.coefficient) ↔
      Binary64.unit < 20 * x.ticks := by
  have hzero := Binary64.scaled_eq_zero_iff 1 x
  rw [Numeral.decimal_ofPlaces _ one_pos]
  dsimp only
  constructor
  · rintro ⟨hnegative, hpos⟩
    rw [Binary64.ticks_of_not_isNegative hnegative]
    omega
  · intro hbound
    have hnegative := Binary64.not_isNegative_of_ticks_pos (x := x) (by omega)
    rw [Binary64.ticks_of_not_isNegative hnegative] at hbound
    exact ⟨hnegative, by omega⟩

/-- A feed is printed as a positive number where it is finite and more than half of a tenth. -/
theorem printsFeed_feedMove_iff (feed : Binary64) (target : String) :
    PrintsFeed (feedMove feed target) ↔ feed.isFinite ∧ Binary64.unit < 20 * feed.ticks := by
  have hsplit := split?_fixedText_append feed target.toList
  rw [← decimal_ofPlaces_pos_iff]
  unfold PrintsFeed
  simp only [toList_feedMove, List.cons_append, List.cons.injEq, true_and]
  constructor
  · rintro ⟨n, rest, hn, -, heq, hpositive⟩
    rw [heq, Numeral.split?_text_append hn (Numeral.stops_blank rest)] at hsplit
    split at hsplit
    next hfinite =>
      obtain ⟨rfl, -⟩ := Prod.mk.inj (Option.some.inj hsplit)
      exact ⟨hfinite, hpositive⟩
    next => cases hsplit
  · rintro ⟨hfinite, hpositive⟩
    exact ⟨_, target.toList, Numeral.proper_ofPlaces _ one_pos _, Numeral.plain_ofPlaces _ _ _,
      by rw [fixedText_eq 1 hfinite], hpositive⟩

/-! ## The feed of composed commands -/

theorem forall_printsFeed_compose_iff {s : Settings} {frame : Frame} {start : Point}
    {feedText : String} {feed : Binary64} {commands : List String}
    (h : compose s frame start feedText = .ok (feed, commands)) :
    (∀ c ∈ commands, IsFeedMove c → PrintsFeed c) ↔
      feed.isFinite ∧ Binary64.unit < 20 * feed.ticks := by
  have hmoves {c : String} := mem_feedMoves_of_compose h (c := c)
  constructor
  · intro hprints
    have hcorner : frame.bounds.max ∈ frame.bounds.corners.tail := by simp [Box.corners]
    obtain ⟨hmem, hmove⟩ := hmoves.mpr ⟨_, hcorner, rfl⟩
    exact (printsFeed_feedMove_iff feed _).mp (hprints _ hmem hmove)
  · intro hfeed c hmem hmove
    obtain ⟨q, -, rfl⟩ := hmoves.mp ⟨hmem, hmove⟩
    exact (printsFeed_feedMove_iff feed _).mpr hfeed

theorem Settings.isUsableFeed_of_validate {s : Settings} (h : s.validate = .ok ()) :
    isUsableFeed s.defaultFeed := by
  unfold validate at h
  split at h
  · cases h
  next hfeed => simpa using hfeed

/-- The feed that was entered is usable, but the feed that it is converted to is so, in the report and
in every feed move, exactly where it is finite and more than half of a tenth. Feeds from 1.27 to
10³⁰⁵ are converted to such feeds whatever their unit is. -/
theorem compose_feed_usable_iff {s : Settings} (hs : s.validate = .ok ()) (program : String)
    (start : Point) (feedText : String) {feed : Binary64} {commands : List String}
    (h : compose s (Frame.ofProgram program) start feedText = .ok (feed, commands)) :
    ∃ entered, enteredFeed s (trimmed feedText) = .ok entered ∧ Settings.isUsableFeed entered ∧
      feed = s.feedUnit.convert entered (Frame.ofProgram program).unit ∧
      ((Settings.isUsableFeed feed ∧ ∀ c ∈ commands, IsFeedMove c → PrintsFeed c) ↔
        feed.isFinite ∧ Binary64.unit < 20 * feed.ticks) ∧
      ((Decimal.mk false 127 (-2)).toBinary64.le entered →
        entered.le (Decimal.mk false 1 305).toBinary64 →
        Settings.isUsableFeed feed ∧ ∀ c ∈ commands, IsFeedMove c → PrintsFeed c) := by
  have hprints := forall_printsFeed_compose_iff h
  obtain ⟨entered, hentered, rfl, -⟩ := compose_eq_ok_iff.mp h
  generalize hfeed : s.feedUnit.convert entered (Frame.ofProgram program).unit = feed at *
  have hiff : (Settings.isUsableFeed feed ∧ ∀ c ∈ commands, IsFeedMove c → PrintsFeed c) ↔
      feed.isFinite ∧ Binary64.unit < 20 * feed.ticks := by
    rw [hprints, and_iff_right_iff_imp]
    rintro ⟨hfinite, hbound⟩
    refine Settings.isUsableFeed_iff.mpr ⟨hfinite, ?_⟩
    refine Binary64.lt_iff.mpr ⟨Binary64.zero_ne_nan, Binary64.ne_nan_of_isFinite hfinite, ?_⟩
    rw [Binary64.ticks_zero]
    omega
  refine ⟨entered, hentered, ?_, hfeed.symm, hiff, fun hlow hhigh ↦ hiff.mpr ?_⟩
  · exact isUsableFeed_of_enteredFeed (Settings.isUsableFeed_of_validate hs) hentered
  · rw [← hfeed]
    exact s.feedUnit.convert_of_le_of_le _ hlow hhigh

theorem compose_feed_usable_iff_metric :
    let frame := Frame.ofProgram "G21\nG1 X4 Y2"
    Settings.default.validate = .ok () ∧
      ∃ commands, compose .default frame .origin " 100" = .ok (2540, commands) ∧
        Settings.isUsableFeed 2540 ∧ ∀ c ∈ commands, IsFeedMove c → PrintsFeed c := by
  intro frame
  have hvalid : Settings.default.validate = .ok () := by decide +kernel
  have hcompose : compose .default frame .origin " 100" = .ok (2540, ["G21", "G90",
      "G0 X0.000 Y0.000", "G1 F2540.0 X4.000 Y0.000", "G1 F2540.0 X4.000 Y2.000",
      "G1 F2540.0 X0.000 Y2.000", "G1 F2540.0 X0.000 Y0.000", "G0 X0.000 Y0.000",
      "#1000=100 M221", "M30"]) := by decide +kernel
  obtain ⟨entered, -, -, -, husable, -⟩ := compose_feed_usable_iff hvalid _ _ _ hcompose
  exact ⟨hvalid, _, hcompose, husable.mpr (by decide +kernel)⟩

/-- A feed that passes the check may overflow when it is converted, and vanish when it is printed. -/
theorem compose_feed_not_usable :
    let fast : Settings := { Settings.default with feedUnit := .inchesPerSecond }
    let hundredth := (Decimal.mk false 1 (-2)).toBinary64
    let slow : Settings := { Settings.default with defaultFeed := hundredth }
    (fast.validate = .ok () ∧ ∃ commands,
      compose fast (Frame.ofProgram "G21\nG1 X4 Y2") .origin "1e306" =
        .ok (.infinity false, commands) ∧
      "G1 Finf X4.000 Y0.000" ∈ commands ∧ ¬PrintsFeed "G1 Finf X4.000 Y0.000") ∧
    slow.validate = .ok () ∧ ∃ commands,
      compose slow (Frame.ofProgram "G1 X4 Y2") .origin "" = .ok (hundredth, commands) ∧
      "G1 F0.0 X4.000 Y0.000" ∈ commands ∧ ¬PrintsFeed "G1 F0.0 X4.000 Y0.000" := by
  intro fast hundredth slow
  have hfast : compose fast (Frame.ofProgram "G21\nG1 X4 Y2") .origin "1e306" =
      .ok (.infinity false, ["G21", "G90", "G0 X0.000 Y0.000", "G1 Finf X4.000 Y0.000",
        "G1 Finf X4.000 Y2.000", "G1 Finf X0.000 Y2.000", "G1 Finf X0.000 Y0.000",
        "G0 X0.000 Y0.000", "#1000=1e306 M221", "M30"]) := by decide +kernel
  have hslow : compose slow (Frame.ofProgram "G1 X4 Y2") .origin "" =
      .ok (hundredth, ["G90", "G0 X0.000 Y0.000", "G1 F0.0 X4.000 Y0.000",
        "G1 F0.0 X4.000 Y2.000", "G1 F0.0 X0.000 Y2.000", "G1 F0.0 X0.000 Y0.000",
        "G0 X0.000 Y0.000", "M30"]) := by decide +kernel
  have hinf : "G1 Finf X4.000 Y0.000" = feedMove (.infinity false) "X4.000 Y0.000" := by
    decide +kernel
  have hzero : "G1 F0.0 X4.000 Y0.000" = feedMove hundredth "X4.000 Y0.000" := by
    decide +kernel
  refine ⟨⟨by decide +kernel, _, hfast, by simp, ?_⟩, by decide +kernel, _, hslow, by simp, ?_⟩
  · rw [hinf, printsFeed_feedMove_iff]
    decide +kernel
  · rw [hzero, printsFeed_feedMove_iff]
    decide +kernel

end Toolpath
