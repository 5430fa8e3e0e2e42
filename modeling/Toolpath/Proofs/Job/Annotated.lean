import Toolpath.Proofs.Frame.Printed
import Toolpath.Proofs.Job.Composed
import Toolpath.Proofs.Number.Middles

/-!
# Annotated outlines

Composing writes one feed into every feed move of the outline and appends the closing part. A printed feed
is a numeral with one place or a word. It holds no blank, so what stands between `G1 F` and the next blank
is the feed, and leaving it out gives the outline back. Composing fails on the feed text alone, unless that is blank or spells a number whose double
is finite and greater than zero.
-/

namespace Toolpath

/-- What stands behind `G1 F` up to the next blank. -/
def feedOf? (command : String) : Option String :=
  match command.toList with
  | 'G' :: '1' :: ' ' :: 'F' :: cs => some (String.ofList (cs.takeWhile (· ≠ ' ')))
  | _ => none

/-- The command without the feed behind `G1 ` and the blank behind the feed. -/
def withoutFeed (command : String) : String :=
  match command.toList with
  | 'G' :: '1' :: ' ' :: 'F' :: cs => "G1 " ++ String.ofList ((cs.dropWhile (· ≠ ' ')).drop 1)
  | _ => command

/-! ## Printed feeds -/

/-- The numeral has one place, no zero in front of other digits, and the number of tenths nearest to the
feed, of two such numbers the even one. -/
structure Numeral.IsTenthsOf (n : Numeral) (feed : Binary64) : Prop where
  sign : n.sign = if feed.isNegative then some '-' else none
  whole : IsRun n.whole
  lead : ∀ ds, n.whole = '0' :: ds → ds = []
  fraction : ∃ d, n.fraction = some [d] ∧ isDigit d
  nearest : IsHalfEven n.decimal.coefficient (feed.magnitude * 10) Binary64.unit

/-- How a feed is printed. One that is not finite has a word. -/
inductive PrintedFeed : Binary64 → String → Prop
  | tenths {feed : Binary64} {n : Numeral} (finite : feed.isFinite) (tenths : n.IsTenthsOf feed) :
      PrintedFeed feed (String.ofList n.text)
  | infinite (negative : Bool) : PrintedFeed (.infinity negative) (if negative then "-inf" else "inf")
  | absent : PrintedFeed .nan "NaN"

theorem Numeral.isTenthsOf_ofPlaces (feed : Binary64) :
    (ofPlaces feed.isNegative 1 (feed.scaled 1)).IsTenthsOf feed where
  sign := rfl
  whole := isRun_digitsOfNat _
  lead ds h := (eq_zero_of_digitsOfNat h).2
  fraction := by
    have hlength := length_paddedDigits one_pos (Nat.mod_lt (feed.scaled 1) (by norm_num))
    obtain ⟨d, hd⟩ := List.length_eq_one_iff.mp hlength
    refine ⟨d, congrArg some hd, isDigit_of_mem_paddedDigits (hd ▸ List.mem_singleton_self d)⟩
  nearest := by
    rw [decimal_ofPlaces _ one_pos]
    exact_mod_cast isHalfEven_roundHalfEven Binary64.unit_pos (feed.magnitude * Nat.pow 10 1)

theorem printedFeed_fixed (feed : Binary64) : PrintedFeed feed (fixed 1 feed) := by
  cases feed with
  | nan => exact .absent
  | infinity negative => cases negative <;> exact .infinite _
  | finite s m p h =>
      rw [fixed, fixedText_eq 1 rfl]
      exact .tenths rfl (Numeral.isTenthsOf_ofPlaces _)

/-! ## Feeds in commands -/

theorem feed_notMem_fixedText {places : Nat} (hp : 0 < places) (v : Binary64) :
    'F' ∉ fixedText places v := by
  intro hF
  cases hv : v.isFinite with
  | true =>
      rw [fixedText_eq places hv] at hF
      exact absurd (Word.isLetter_eq_false_of_mem_text (Numeral.proper_ofPlaces _ hp _) hF) (by decide)
  | false =>
      rw [fixedText, hv, if_neg Bool.false_ne_true] at hF
      revert hF
      cases v with
      | nan => decide
      | infinity negative => cases negative <;> decide
      | finite s m p h => cases hv

theorem feed_notMem_targetWords (p : Point) : 'F' ∉ (targetWords p).toList := by
  have hcoord (v : Binary64) : 'F' ∉ coordText v := by
    unfold coordText
    dsimp only
    split
    · decide
    · exact feed_notMem_fixedText (by norm_num) v
  simp [targetWords, coord, hcoord]

theorem feed_notMem_of_mem_outline {b : Box} {u : Option LengthUnit} {c : String}
    (h : c ∈ (Outline.ofBox b u).commands) : 'F' ∉ c.toList := by
  have hunit (v : LengthUnit) : 'F' ∉ v.command.toList := by cases v <;> simp [LengthUnit.command]
  simp only [Outline.ofBox, Box.corners, List.map_cons, List.map_nil, List.mem_append,
    Option.mem_toList, Option.map_eq_some_iff, List.mem_cons, List.not_mem_nil, or_false] at h
  rcases h with ⟨v, -, rfl⟩ | rfl | rfl | rfl | rfl | rfl | rfl
  · exact hunit v
  all_goals simp [feed_notMem_targetWords]

theorem splitFeed (feed : Binary64) (target : List Char) :
    (fixedText 1 feed ++ ' ' :: target).takeWhile (· ≠ ' ') = fixedText 1 feed ∧
      (fixedText 1 feed ++ ' ' :: target).dropWhile (· ≠ ' ') = ' ' :: target := by
  refine takeWhile_append_of_stops (fun c hc ↦ ?_) _ (by simp)
  have hblank := (fixedText_spec one_pos feed c hc).1
  simp only [ne_eq, decide_not, Bool.not_eq_true', decide_eq_false_iff_not]
  rintro rfl
  exact absurd hblank (by decide)

theorem feedOf?_feedMove (feed : Binary64) (target : String) :
    feedOf? (feedMove feed target) = some (fixed 1 feed) := by
  unfold feedOf?
  rw [toList_feedMove]
  exact congrArg (some ∘ String.ofList) (splitFeed feed target.toList).1

theorem withoutFeed_feedMove (feed : Binary64) (target : String) :
    withoutFeed (feedMove feed target) = "G1 " ++ target := by
  unfold withoutFeed
  rw [toList_feedMove]
  change "G1 " ++ String.ofList (((fixedText 1 feed ++ ' ' :: target.toList).dropWhile _).drop 1) = _
  rw [(splitFeed feed target.toList).2, List.drop_one, List.tail_cons, String.ofList_toList]

theorem count_feedMove (feed : Binary64) {target : String} (h : 'F' ∉ target.toList) :
    (feedMove feed target).toList.count 'F' = 1 := by
  rw [toList_feedMove]
  simp [List.count_eq_zero.mpr h, List.count_eq_zero.mpr (feed_notMem_fixedText one_pos feed)]

/-- A feed is put into the feed moves once and into nothing else, and it can be taken out again. -/
theorem annotate_spec (feed : Binary64) {c : String} (hc : 'F' ∉ c.toList) :
    (IsFeedMove (annotate feed c) ↔ IsFeedMove c) ∧ withoutFeed (annotate feed c) = c ∧
      (IsFeedMove c → feedOf? (annotate feed c) = some (fixed 1 feed)) ∧
      (annotate feed c).toList.count 'F' = if IsFeedMove c then 1 else 0 := by
  by_cases hmove : IsFeedMove c
  · obtain ⟨target, htarget⟩ := hmove
    obtain rfl : "G1 " ++ String.ofList target = c := by
      rw [← String.toList_inj, ← htarget]
      simp
    have hfree : 'F' ∉ (String.ofList target).toList := by
      simp only [String.toList_append, List.mem_append, not_or] at hc
      exact hc.2
    have hmove : IsFeedMove ("G1 " ++ String.ofList target) := ⟨target, htarget⟩
    rw [annotate_append, if_pos hmove]
    exact ⟨iff_of_true (isFeedMove_feedMove _ _) hmove, withoutFeed_feedMove _ _,
      fun _ ↦ feedOf?_feedMove _ _, count_feedMove _ hfree⟩
  · rw [annotate_eq_self hmove, if_neg hmove]
    refine ⟨Iff.rfl, ?_, fun h ↦ absurd h hmove, List.count_eq_zero.mpr hc⟩
    unfold withoutFeed
    split
    next cs hcs => exact absurd ⟨'F' :: cs, hcs.symm⟩ hmove
    next => rfl

/-! ## The whole -/

theorem closing_eq (s : Settings) (start : Point) (text : String) :
    closing s start text = (if s.returnToStart then ["G0 " ++ targetWords start] else []) ++
      ((s.restoreCall.filter fun _ ↦ text ≠ "").map (restoreLine s text)).toList ++
      if s.endProgram then ["M30"] else [] := by
  unfold closing
  cases s.restoreCall with
  | none => rfl
  | some call => by_cases htext : text = "" <;> simp [htext, restoreLine, Option.filter]

/-- A text that is not blank is accepted exactly if it spells a number whose double is finite and greater
than zero. -/
theorem feedAccepted_iff {text : String} : FeedAccepted text ↔ text = "" ∨ ∃ number : Spelling,
    number.Proper ∧ number.text = text.toList ∧ 1 / 2 ^ 1075 < number.decimal.value ∧
      number.decimal.value < Binary64.overflowBound := by
  refine or_congr_right ⟨?_, ?_⟩
  · rintro ⟨v, hread, hfinite, hpos⟩
    obtain ⟨number, hproper, htext, rfl⟩ := Spelling.exists_of_read? hread hfinite
    exact ⟨number, hproper, htext, (Decimal.isFinite_and_lt_toBinary64_iff _).mp ⟨hfinite, hpos⟩⟩
  · rintro ⟨number, hproper, htext, hvalue⟩
    refine ⟨number.decimal.toBinary64, ?_, (Decimal.isFinite_and_lt_toBinary64_iff _).mpr hvalue⟩
    rw [Binary64.ofString?, ← htext, Spelling.read?_text hproper]

/-- What is composed is the outline with one printed feed in each of its four feed moves, followed by the
rapid back, the line that restores the feed setting and the end, each of them only where the settings ask for
it. Composing fails exactly where the trimmed feed text is not empty and spells no number whose double is
finite and greater than zero. -/
theorem compose_annotates (s : Settings) (frame : Frame) (start : Point) (feedText : String) :
    let text := trimmed feedText
    (∀ feed commands, compose s frame start feedText = .ok (feed, commands) →
      ∃ annotated appended, commands = annotated ++ appended ∧
        annotated.map withoutFeed = frame.outline.commands ∧
        (annotated.filter IsFeedMove).map feedOf? = List.replicate 4 (some (fixed 1 feed)) ∧
        PrintedFeed feed (fixed 1 feed) ∧
        (∀ c ∈ annotated, c.toList.count 'F' = if IsFeedMove c then 1 else 0) ∧
        appended = (if s.returnToStart then ["G0 " ++ targetWords start] else []) ++
          ((s.restoreCall.filter fun _ ↦ text ≠ "").map (restoreLine s text)).toList ++
          if s.endProgram then ["M30"] else []) ∧
    ∀ e, compose s frame start feedText = .error e ↔ e = .invalidFeedRate text ∧ text ≠ "" ∧
      ¬∃ number : Spelling, number.Proper ∧ number.text = text.toList ∧
        1 / 2 ^ 1075 < number.decimal.value ∧ number.decimal.value < Binary64.overflowBound := by
  intro text
  refine ⟨fun feed commands h ↦ ?_, fun e ↦ ?_⟩
  · obtain ⟨entered, -, -, rfl⟩ := compose_eq_ok_iff.mp h
    have hspec {c : String} (hc : c ∈ frame.outline.commands) :=
      annotate_spec feed (feed_notMem_of_mem_outline hc)
    refine ⟨_, _, rfl, ?_, ?_, printedFeed_fixed feed, ?_, closing_eq s start text⟩
    · rw [List.map_map]
      exact (List.map_congr_left fun c hc ↦ (hspec hc).2.1).trans (List.map_id _)
    · rw [Frame.outline, filter_annotated, List.map_map]
      simp [Box.corners, feedOf?_feedMove, List.replicate]
    · rw [List.forall_mem_map]
      intro c hc
      simp only [(hspec hc).1]
      exact (hspec hc).2.2.2
  · rw [compose_eq_error_iff, feedAccepted_iff, not_or, and_comm]

/-- An infinite coordinate is printed in small letters and is not taken for a feed. -/
theorem compose_annotates_infinite :
    let frame : Frame :=
      { bounds := ⟨⟨.infinity true, 0⟩, ⟨.infinity false, 1⟩⟩, unit := some .millimetre, tally := {} }
    ∃ annotated appended,
      compose .default frame .origin " 2.5e2 " = .ok (6350, annotated ++ appended) ∧
      annotated.map withoutFeed = ["G21", "G90", "G0 X-inf Y0.000", "G1 Xinf Y0.000",
        "G1 Xinf Y1.000", "G1 X-inf Y1.000", "G1 X-inf Y0.000"] ∧
      (annotated.filter IsFeedMove).map feedOf? = List.replicate 4 (some "6350.0") ∧
      PrintedFeed 6350 "6350.0" ∧
      appended = ["G0 X0.000 Y0.000", "#1000=2.5e2 M221", "M30"] := by
  intro frame
  let commands := ["G21", "G90", "G0 X-inf Y0.000", "G1 F6350.0 Xinf Y0.000", "G1 F6350.0 Xinf Y1.000",
    "G1 F6350.0 X-inf Y1.000", "G1 F6350.0 X-inf Y0.000", "G0 X0.000 Y0.000", "#1000=2.5e2 M221", "M30"]
  have hcompose : compose .default frame .origin " 2.5e2 " = .ok (6350, commands) := by decide +kernel
  have hprints : fixed 1 6350 = "6350.0" := by decide +kernel
  obtain ⟨annotated, appended, hcommands, houtline, hfeeds, hprinted, -, happended⟩ :=
    (compose_annotates .default frame .origin " 2.5e2 ").1 6350 commands hcompose
  rw [hprints] at hfeeds hprinted
  refine ⟨annotated, appended, by rw [← hcommands, hcompose], houtline.trans ?_, hfeeds, hprinted,
    happended.trans ?_⟩
  · decide +kernel
  · decide +kernel

end Toolpath
