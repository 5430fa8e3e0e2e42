import Toolpath.Proofs.Frame.Printed
import Toolpath.Proofs.Frame.Visits
import Toolpath.Proofs.Job.Composed

/-!
# Tracing the outline

The commands of a job make the moves of the outline. The feed in a feed move is no code and no
coordinate, however it is printed, and neither is the number in the restoring line, however it was
entered. What is left besides is the way back to the start.
-/

namespace Toolpath

/-! ## Letters of printed and entered numbers -/

theorem notMem_uppercase {letter : Char} {cs : List Char} (h : ∀ c ∈ cs, letter ∉ upperChar c) :
    letter ∉ uppercase cs := by
  intro hmem
  obtain ⟨c, hc, hletter⟩ := List.mem_flatMap.mp hmem
  exact h c hc hletter

theorem notMem_upperChar_of_isNumberChar {letter c : Char} (hl : Word.IsMotionLetter letter)
    (hc : isNumberChar c) : letter ∉ upperChar c := by
  have hletter : Word.isLetter letter ∧ letter ≠ 'E' := by
    rcases hl with rfl | rfl | rfl <;> decide
  exact fun hmem ↦ hletter.2 ((isNumberChar_spec hc).2.2 letter hmem hletter.1)

theorem notMem_uppercase_fixedText {letter : Char} (hl : Word.IsMotionLetter letter)
    {places : Nat} (hp : 0 < places) (v : Binary64) : letter ∉ uppercase (fixedText places v) := by
  cases hv : v.isFinite with
  | true =>
      apply notMem_uppercase
      intro c hc
      apply notMem_upperChar_of_isNumberChar hl
      rw [fixedText_eq places hv, Numeral.text_eq, List.mem_append, Option.mem_toList] at hc
      rcases hc with hc | hc
      · exact isNumberChar_of_sign ((Numeral.proper_ofPlaces _ hp _).sign c hc)
      · rcases Numeral.isDigit_or_of_mem_body (Numeral.plain_ofPlaces _ _ _) hc with hc | rfl
        · exact isNumberChar_of_isDigit hc
        · decide
  | false =>
      -- A word has letters, but none of those that move.
      have hword : uppercase (fixedText places v) = ['N', 'A', 'N'] ∨
          uppercase (fixedText places v) = ['I', 'N', 'F'] ∨
          uppercase (fixedText places v) = ['-', 'I', 'N', 'F'] := by
        rw [fixedText, hv, if_neg Bool.false_ne_true]
        cases v with
        | nan => decide +kernel
        | infinity negative => cases negative <;> decide +kernel
        | finite s m p h => cases hv
      rcases hword with h | h | h <;> rw [h] <;> rcases hl with rfl | rfl | rfl <;> decide

/-! ## Feed moves -/

namespace Block

open Word

theorem keptOf_ofLine_feedMove {letter : Char} (hl : IsMotionLetter letter) (feed : Binary64)
    {q : Point} (hq : q.Finite) : keptOf letter (ofLine (feedMove feed (targetWords q)).toList) =
      keptOf letter (ofLine (line (target ['1'] q))) := by
  have hcode : ∀ c ∈ ['G', '1'], c ≠ ';' := by simp
  have hfeed : ∀ c ∈ 'F' :: fixedText 1 feed, c ≠ ';' :=
    List.forall_mem_cons.mpr ⟨by decide, fun c hc ↦ (fixedText_spec one_pos feed c hc).2⟩
  have hnone : letter ∉ uppercase ('F' :: fixedText 1 feed) := by
    have hF : letter ≠ 'F' := by rcases hl with rfl | rfl | rfl <;> decide
    rw [uppercase_cons (by decide), List.mem_cons, not_or]
    exact ⟨hF, notMem_uppercase_fixedText hl one_pos feed⟩
  have hblank : isBlank ' ' := by decide
  rw [toList_feedMove, line_target ['1'] hq]
  change keptOf letter (ofLine (['G', '1'] ++ ' ' :: ('F' :: fixedText 1 feed ++ ' ' :: _))) =
    keptOf letter (ofLine (['G', '1'] ++ ' ' :: _))
  rw [ofLine_append_blank hblank hcode, ofLine_append_blank hblank hcode,
    ofLine_append_blank hblank hfeed, keptOf_append, keptOf_append, keptOf_append,
    keptOf_scan_of_notMem hnone, List.nil_append]

theorem read?_feedMove {q : Point} (hq : q.Finite) (feed : Binary64) :
    ∃ b, read? (feedMove feed (targetWords q)).toList = some b ∧
      b.codes = [1] ∧ b.x = some q.readBack.x ∧ b.y = some q.readBack.y := by
  have hplain : read? (line (target ['1'] q)) =
      some { codes := [1], x := some q.readBack.x, y := some q.readBack.y } := by
    rw [read?_line (by simp [target]) (plain_target writes_one q), ofWords_target writes_one hq]
  -- Without the feed the block is known, and the feed adds no word with a letter that counts.
  have hkept := eq_ofKept_of_read? hplain
  have hcodes := congrArg Block.codes hkept
  have hx := congrArg Block.x hkept
  have hy := congrArg Block.y hkept
  simp only [ofKept] at hcodes hx hy
  rw [← keptOf_ofLine_feedMove (Or.inl rfl) feed hq] at hcodes
  rw [← keptOf_ofLine_feedMove (Or.inr (Or.inl rfl)) feed hq] at hx
  rw [← keptOf_ofLine_feedMove (Or.inr (Or.inr rfl)) feed hq] at hy
  cases hread : read? (feedMove feed (targetWords q)).toList with
  | none =>
      rw [ofLine_eq_nil_of_read?_eq_none hread] at hcodes
      cases hcodes
  | some b =>
      rw [eq_ofKept_of_read? hread]
      exact ⟨_, rfl, hcodes.symm, hx.symm, hy.symm⟩

end Block

namespace Modal

theorem step_feedMove {s : Modal} (hs : s.distance = .absolute) {q : Point} (hq : q.Finite)
    (feed : Binary64) : ∃ dropped, s.step (feedMove feed (targetWords q)).toList =
      ({ s with motion := .linear, position := q.readBack },
        .moved ⟨s.position, q.readBack, .straight⟩ dropped) := by
  obtain ⟨b, hread, hcodes, hx, hy⟩ := Block.read?_feedMove hq feed
  refine ⟨b.dropped, ?_⟩
  unfold step
  rw [hread]
  exact apply_target (by simp) (applyValue_one s) hs hcodes hx hy

theorem visits_feedMoves (feed : Binary64) {qs : List Point} (hqs : ∀ q ∈ qs, q.Finite) {s : Modal}
    (hs : s.distance = .absolute) : ∃ t, t.distance = .absolute ∧ t.unit = s.unit ∧
      Visits s (qs.map fun q ↦ (feedMove feed (targetWords q)).toList) (qs.map Point.readBack) t := by
  induction qs generalizing s with
  | nil => exact ⟨s, hs, rfl, .done s⟩
  | cons q qs ih =>
      obtain ⟨hq, hqs⟩ := List.forall_mem_cons.mp hqs
      obtain ⟨dropped, hstep⟩ := step_feedMove hs hq feed
      obtain ⟨t, ht, hunit, hvisits⟩ := ih hqs
        (s := { s with motion := .linear, position := q.readBack }) hs
      exact ⟨t, ht, hunit, .straight hstep hvisits⟩

theorem visits_rapid {s : Modal} (hs : s.distance = .absolute) {q : Point} (hq : q.Finite) :
    Visits s [("G0 " ++ targetWords q).toList] [q.readBack]
      { s with motion := .rapid, position := q.readBack } := by
  have hline : ("G0 " ++ targetWords q).toList = Word.line (Word.target ['0'] q) := by
    rw [Word.line_target ['0'] hq, String.toList_append]
    rfl
  rw [hline]
  exact .straight (step_rapid hs hq) (.done _)

theorem visits_unit (u : Option LengthUnit) (p : Point) : Visits { position := p }
    ((u.map LengthUnit.command).toList.map String.toList) [] { position := p, unit := u } := by
  cases u with
  | none => exact .done _
  | some v =>
      apply Visits.of_noTarget
      rw [LengthUnit.toList_command]
      exact step_unit v _

theorem visits_absolute (s : Modal) :
    Visits s ["G90".toList] [] { s with distance := .absolute } := by
  rw [Word.toList_absolute]
  exact .of_noTarget (step_absolute s)

theorem visits_annotated (feed : Binary64) {b : Box} (hb : b.Finite) (u : Option LengthUnit)
    (p : Point) : ∃ t, t.distance = .absolute ∧ t.unit = u ∧
      Visits { position := p } (((Outline.ofBox b u).commands.map (annotate feed)).map String.toList)
        b.readBack.corners t := by
  obtain ⟨t, ht, hunit, hfeeds⟩ := visits_feedMoves feed
    (fun q (hq : q ∈ b.corners.tail) ↦ Box.finite_of_mem_corners hb.1 hb.2 (List.mem_of_mem_tail hq))
    (s := { position := b.min.readBack, unit := u }) rfl
  have hrapid := visits_rapid (s := { position := p, unit := u }) rfl hb.1
  have hmodes := (visits_unit u p).append (visits_absolute _)
  refine ⟨t, ht, hunit, ?_⟩
  have hvisits := hmodes.append (hrapid.append hfeeds)
  rw [List.append_assoc] at hvisits
  rw [map_annotate_commands, List.map_append, List.map_cons, List.map_cons, List.map_map]
  exact hvisits

end Modal

/-! ## The closing part -/

theorem inert_restoreLine_iff {s : Settings} {text : String} (htext : FeedAccepted text)
    (call : String) : Block.Inert (restoreLine s text call).toList ↔ Block.Inert call.toList := by
  rw [toList_restoreLine]
  apply Block.inert_append_blank_iff (by decide)
  · intro c hc
    rcases mem_restoreFront htext hc with rfl | rfl | hc
    · decide
    · decide
    · exact (isNumberChar_spec hc).2.1
  · intro letter hl
    apply notMem_uppercase
    intro c hc
    rcases mem_restoreFront htext hc with rfl | rfl | hc
    · rcases hl with rfl | rfl | rfl <;> decide +kernel
    · rcases hl with rfl | rfl | rfl <;> decide +kernel
    · exact notMem_upperChar_of_isNumberChar hl hc

theorem visits_closing {s : Settings} {start : Point} (hstart : start.Finite) {text : String}
    (htext : FeedAccepted text) (hcall : ∀ call ∈ s.restoreCall, Block.Inert call.toList)
    {t : Modal} (ht : t.distance = .absolute) : ∃ u, u.unit = t.unit ∧
      Modal.Visits t ((closing s start text).map String.toList)
        (if s.returnToStart then some start.readBack else none).toList u := by
  obtain ⟨rest, hclosing, hrest⟩ := exists_closing_eq s start text
  have hinert : ∀ l ∈ rest.map String.toList, Block.Inert l := by
    intro l hl
    obtain ⟨c, hc, rfl⟩ := List.mem_map.mp hl
    rcases (hrest c).mp hc with ⟨call, hmem, -, rfl⟩ | ⟨-, rfl⟩
    · exact (inert_restoreLine_iff htext call).mpr (hcall call hmem)
    · decide +kernel
  rw [hclosing, List.map_append]
  cases s.returnToStart with
  | false => exact ⟨t, rfl, .of_inert hinert t⟩
  | true =>
      have hback := (Modal.visits_rapid ht hstart).append (.of_inert hinert _)
      exact ⟨_, by rfl, hback⟩

/-! ## The moves of a job -/

/-- Each coordinate of the second point is read where that of the first one was printed. -/
def Point.ReadAs (p q : Point) : Prop :=
  Binary64.ofString? (coord p.x) = some q.x ∧ Binary64.ofString? (coord p.y) = some q.y

theorem Point.ReadAs.unique {p q r : Point} (hq : p.ReadAs q) (hr : p.ReadAs r) : q = r := by
  obtain ⟨x, y⟩ := q
  obtain ⟨x', y'⟩ := r
  obtain rfl : x = x' := Option.some.inj (hq.1.symm.trans hr.1)
  obtain rfl : y = y' := Option.some.inj (hq.2.symm.trans hr.2)
  rfl

theorem Box.ReadAs.unique {b c d : Box} (hc : b.ReadAs c) (hd : b.ReadAs d) : c = d := by
  obtain ⟨l, g⟩ := c
  obtain ⟨l', g'⟩ := d
  obtain rfl : l = l' := Point.ReadAs.unique (p := b.min) hc.1 hd.1
  obtain rfl : g = g' := Point.ReadAs.unique (p := b.max) hc.2 hd.2
  rfl

theorem Modal.moves_outline {b : Box} (hb : b.Finite) (u : Option LengthUnit) (p : Point) :
    moves { position := p } (lines (Outline.ofBox b u).program.toList) =
      (chain p b.readBack.corners).filterMap Outcome.move? := by
  rw [moves, (run_outline hb.1 hb.2 u p).1]
  cases u <;> rfl

/-- A job traces the outline. Every feed that is accepted leads to commands, and from any point of
the box that is read where the bounds were printed, these commands select the unit of the frame, skip
no arc and have that box as their frame, with the start that was printed exactly where the settings
ask for the way back. Their moves are the moves of the outline and then the way back. -/
theorem compose_traces_outline {s : Settings} {frame : Frame} (hbounds : frame.bounds.Finite)
    (hordered : frame.bounds.Ordered) {start : Point} (hstart : start.Finite) {feedText : String}
    (hfeed : FeedAccepted (trimmed feedText))
    (hcall : ∀ call ∈ s.restoreCall, Block.Inert call.toList) :
    ∃ feed commands, compose s frame start feedText = .ok (feed, commands) ∧
      ∃ (c : Box) (q : Point), frame.bounds.ReadAs c ∧ start.ReadAs q ∧ ∀ p, c.Contains p →
        let ls := commands.map String.toList
        let f := ((Survey.startingAt p).feedAll ls).frame
        (f.unit = frame.unit ∧ f.tally.skippedArcs = 0 ∧
          f.bounds.Same (if s.returnToStart then c.cover q else c)) ∧
          Modal.moves { position := p } ls =
            Modal.moves { position := p } (lines frame.outline.program.toList) ++
              if s.returnToStart then [⟨c.min, q, .straight⟩] else [] := by
  obtain ⟨⟨feed, commands⟩, hcompose⟩ :=
    (feedAccepted_iff_exists_compose s frame start).mp hfeed
  refine ⟨feed, commands, hcompose, frame.bounds.readBack, start.readBack,
    Box.readAs_readBack hbounds.1 hbounds.2, ⟨ofString?_coord hstart.1, ofString?_coord hstart.2⟩, ?_⟩
  intro p hp ls f
  obtain ⟨entered, -, -, hcommands⟩ := compose_eq_ok_iff.mp hcompose
  obtain ⟨t, habsolute, hunit, houtline⟩ :=
    Modal.visits_annotated feed hbounds frame.unit p
  obtain ⟨u, hu, hclosing⟩ := visits_closing hstart hfeed hcall habsolute
  have hvisits : Modal.Visits { position := p } ls (frame.bounds.readBack.corners ++
      (if s.returnToStart then some start.readBack else none).toList) u := by
    rw [← Frame.outline] at houtline
    simp only [ls, hcommands, List.map_append]
    exact houtline.append hclosing
  constructor
  · have hback : ∀ q ∈ (if s.returnToStart then some start.readBack else none), q.Defined := by
      cases s.returnToStart <;> simp [hstart.readBack.defined]
    obtain ⟨hfu, hskipped, hsame⟩ := Survey.frame_of_visits hordered.readBack hp hback hvisits
    refine ⟨hfu.trans (hu.trans hunit), hskipped, ?_⟩
    cases hreturn : s.returnToStart <;> simpa [hreturn] using hsame
  · rw [hvisits.moves_eq, Frame.outline, Modal.moves_outline hbounds]
    cases s.returnToStart <;> rfl

theorem compose_traces_outline_plate :
    let s : Settings := { Settings.default with restoreCall := some "m221 s100 ; X5" }
    let plate : Box := ⟨⟨-12, 0⟩, ⟨(Decimal.mk false 40125 (-3)).toBinary64, 18⟩⟩
    let frame : Frame := ⟨plate, some .inch, {}⟩
    let start : Point := ⟨-20, 5⟩
    (plate.Finite ∧ plate.Ordered ∧ start.Finite ∧ FeedAccepted (trimmed " 1e2") ∧
      ∀ call ∈ s.restoreCall, Block.Inert call.toList) ∧
      ∃ feed commands, compose s frame start " 1e2" = .ok (feed, commands) ∧
        ((Survey.startingAt .origin).feedAll (commands.map String.toList)).frame.bounds.Same
          ⟨⟨-20, 0⟩, plate.max⟩ := by
  intro s plate frame start
  have hbounds : frame.bounds.Finite := by decide +kernel
  have hordered : frame.bounds.Ordered := by decide +kernel
  have hstart : start.Finite := by decide +kernel
  have hfeed : FeedAccepted (trimmed " 1e2") := Or.inr ⟨100, by decide +kernel⟩
  have hcall : ∀ call ∈ s.restoreCall, Block.Inert call.toList := by decide +kernel
  obtain ⟨feed, commands, hcompose, c, q, hc, hq, htraces⟩ :=
    compose_traces_outline hbounds hordered hstart hfeed hcall
  have hplate : plate.ReadAs plate := by
    unfold Box.ReadAs
    decide +kernel
  have hback : start.ReadAs start := by
    unfold Point.ReadAs
    decide +kernel
  obtain rfl := hc.unique hplate
  obtain rfl := hq.unique hback
  have hsame := (htraces .origin (by decide +kernel)).1.2.2
  have hcover : plate.cover start = ⟨⟨-20, 0⟩, plate.max⟩ := by decide +kernel
  rw [if_pos (show s.returnToStart from rfl), hcover] at hsame
  exact ⟨⟨hbounds, hordered, hstart, hfeed, hcall⟩, feed, commands, hcompose, hsame⟩

end Toolpath
