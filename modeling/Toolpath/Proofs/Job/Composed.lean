import Mathlib.Tactic
import Toolpath.Job.Compose
import Toolpath.Proofs.Number.Entered

/-!
# Composed commands

Composing fails on the feed text alone. Otherwise the commands are those of the outline, with the same
feed in every feed move and nothing else changed, and then the closing part, in which at most one
command holds text of the operator or of the settings.
-/

namespace Toolpath

/-! ## The feed that was entered -/

/-- Nothing was entered, or a finite number greater than zero. -/
def FeedAccepted (text : String) : Prop :=
  text = "" ∨ ∃ v, Binary64.ofString? text = some v ∧ v.isFinite ∧ Binary64.lt 0 v

theorem FeedAccepted.isNumberChar {text : String} (h : FeedAccepted text) :
    ∀ c ∈ text.toList, isNumberChar c := by
  rcases h with rfl | ⟨v, hread, hfinite, -⟩
  · simp
  · exact isNumberChar_of_read? hread hfinite

theorem Settings.isUsableFeed_iff {v : Binary64} :
    isUsableFeed v = true ↔ v.isFinite ∧ Binary64.lt 0 v := by
  simp [isUsableFeed]

theorem enteredFeed_cases (s : Settings) (text : String) :
    (text = "" ∧ enteredFeed s text = .ok s.defaultFeed) ∨
      (text ≠ "" ∧ ∃ v, Binary64.ofString? text = some v ∧ Settings.isUsableFeed v ∧
        enteredFeed s text = .ok v) ∨
      (¬FeedAccepted text ∧ enteredFeed s text = .error (.invalidFeedRate text)) := by
  unfold enteredFeed
  by_cases htext : text = ""
  · exact Or.inl ⟨htext, by simp [htext]⟩
  · refine Or.inr ?_
    rw [if_neg (by simpa using htext)]
    cases hfeed : (Binary64.ofString? text).filter Settings.isUsableFeed with
    | some v =>
        obtain ⟨hread, husable⟩ := Option.filter_eq_some_iff.mp hfeed
        exact Or.inl ⟨htext, v, hread, husable, rfl⟩
    | none =>
        refine Or.inr ⟨?_, rfl⟩
        rintro (h | ⟨v, hread, husable⟩)
        · exact htext h
        · exact Option.filter_eq_none_iff.mp hfeed v hread (Settings.isUsableFeed_iff.mpr husable)

theorem enteredFeed_eq_error_iff {s : Settings} {text : String} {e : Fault} :
    enteredFeed s text = .error e ↔ ¬FeedAccepted text ∧ e = .invalidFeedRate text := by
  rcases enteredFeed_cases s text with ⟨htext, h⟩ | ⟨-, v, hread, husable, h⟩ | ⟨hrefused, h⟩
  · rw [h]
    simp [FeedAccepted, htext]
  · simp [h, FeedAccepted, hread, Settings.isUsableFeed_iff.mp husable]
  · simp [h, hrefused, eq_comm]

theorem isUsableFeed_of_enteredFeed {s : Settings} (hs : Settings.isUsableFeed s.defaultFeed)
    {text : String} {v : Binary64} (h : enteredFeed s text = .ok v) : Settings.isUsableFeed v := by
  rcases enteredFeed_cases s text with ⟨-, he⟩ | ⟨-, w, -, hw, he⟩ | ⟨-, he⟩
  · rw [he] at h
    cases h
    exact hs
  · rw [he] at h
    cases h
    exact hw
  · rw [he] at h
    cases h

/-! ## What is composed -/

theorem compose_eq_ok_iff {s : Settings} {frame : Frame} {start : Point} {feedText : String}
    {feed : Binary64} {commands : List String} :
    compose s frame start feedText = .ok (feed, commands) ↔
      ∃ entered, enteredFeed s (trimmed feedText) = .ok entered ∧
        feed = s.feedUnit.convert entered frame.unit ∧
        commands = frame.outline.commands.map (annotate feed) ++
          closing s start (trimmed feedText) := by
  unfold compose
  dsimp only
  cases h : enteredFeed s (trimmed feedText) with
  | error e => simp
  | ok entered =>
      constructor
      · intro hc
        obtain ⟨rfl, rfl⟩ := Prod.mk.inj (Except.ok.inj hc)
        exact ⟨entered, rfl, rfl, rfl⟩
      · rintro ⟨v, hv, rfl, rfl⟩
        cases hv
        rfl

theorem compose_eq_error_iff {s : Settings} {frame : Frame} {start : Point} {feedText : String}
    {e : Fault} : compose s frame start feedText = .error e ↔
      ¬FeedAccepted (trimmed feedText) ∧ e = .invalidFeedRate (trimmed feedText) := by
  rw [← enteredFeed_eq_error_iff (s := s)]
  unfold compose
  dsimp only
  cases h : enteredFeed s (trimmed feedText) <;> simp

theorem feedAccepted_iff_exists_compose (s : Settings) (frame : Frame) (start : Point)
    {feedText : String} : FeedAccepted (trimmed feedText) ↔
      ∃ composed, compose s frame start feedText = .ok composed := by
  cases h : compose s frame start feedText with
  | ok composed =>
      simp only [Except.ok.injEq, exists_eq', iff_true]
      by_contra hrefused
      rw [compose_eq_error_iff.mpr ⟨hrefused, rfl⟩] at h
      cases h
  | error e => simp [(compose_eq_error_iff.mp h).1]

/-! ## The annotated outline -/

def IsFeedMove (command : String) : Prop := ['G', '1', ' '] <+: command.toList

instance (command : String) : Decidable (IsFeedMove command) := inferInstanceAs (Decidable (_ <+: _))

def feedMove (feed : Binary64) (target : String) : String := "G1 F" ++ fixed 1 feed ++ " " ++ target

theorem toList_feedMove (feed : Binary64) (target : String) : (feedMove feed target).toList =
    'G' :: '1' :: ' ' :: 'F' :: fixedText 1 feed ++ ' ' :: target.toList := by
  simp [feedMove, fixed]

theorem isFeedMove_feedMove (feed : Binary64) (target : String) :
    IsFeedMove (feedMove feed target) := by
  rw [IsFeedMove, toList_feedMove]
  exact ⟨_, rfl⟩

theorem LengthUnit.not_isFeedMove_command (u : LengthUnit) : ¬IsFeedMove u.command := by
  cases u <;> simp [IsFeedMove, command]

theorem not_isFeedMove_absolute : ¬IsFeedMove "G90" := by
  simp [IsFeedMove]

theorem not_isFeedMove_rapid (target : String) : ¬IsFeedMove ("G0 " ++ target) := by
  simp [IsFeedMove]

theorem annotate_append (feed : Binary64) (target : String) :
    annotate feed ("G1 " ++ target) = feedMove feed target := by
  have hhead : ("G1 " ++ target).toList = 'G' :: '1' :: ' ' :: target.toList := by simp
  unfold annotate
  rw [hhead]
  simp [feedMove]

theorem annotate_eq_self {feed : Binary64} {command : String} (h : ¬IsFeedMove command) :
    annotate feed command = command := by
  unfold annotate
  split
  next target htarget => exact absurd ⟨target, htarget.symm⟩ h
  next => rfl

theorem map_annotate_commands (feed : Binary64) (b : Box) (u : Option LengthUnit) :
    (Outline.ofBox b u).commands.map (annotate feed) =
      (u.map LengthUnit.command).toList ++ "G90" :: ("G0 " ++ targetWords b.min) ::
        b.corners.tail.map fun q ↦ feedMove feed (targetWords q) := by
  have hunit (v : LengthUnit) : annotate feed v.command = v.command :=
    annotate_eq_self v.not_isFeedMove_command
  have hmode : annotate feed "G90" = "G90" := annotate_eq_self not_isFeedMove_absolute
  have hrapid : annotate feed ("G0 " ++ targetWords b.min) = "G0 " ++ targetWords b.min :=
    annotate_eq_self (not_isFeedMove_rapid _)
  cases u <;> simp [Outline.ofBox, Box.corners, hunit, hmode, hrapid, annotate_append]

theorem filter_annotated (feed : Binary64) (b : Box) (u : Option LengthUnit) :
    ((Outline.ofBox b u).commands.map (annotate feed)).filter IsFeedMove =
      b.corners.tail.map fun q ↦ feedMove feed (targetWords q) := by
  rw [map_annotate_commands]
  cases u <;> simp [Box.corners, LengthUnit.not_isFeedMove_command, not_isFeedMove_absolute,
    not_isFeedMove_rapid, isFeedMove_feedMove]

theorem LengthUnit.command_injective : Function.Injective command := by
  intro u v h
  cases u <;> cases v <;> first | rfl | (revert h; decide)

theorem LengthUnit.command_ne_absolute (u : LengthUnit) : u.command ≠ "G90" := by
  cases u <;> decide

theorem feedMove_injective (feed : Binary64) : Function.Injective (feedMove feed) := by
  intro t u h
  have hlist := congrArg String.toList h
  rw [toList_feedMove, toList_feedMove] at hlist
  exact String.toList_inj.mp (by simpa using hlist)

/-- The unit is known from the commands, whatever the feed, and with the same feed so are the targets. -/
theorem annotated_inj {b c : Box} {u v : Option LengthUnit} {feed feed' : Binary64}
    (h : (Outline.ofBox b u).commands.map (annotate feed) =
      (Outline.ofBox c v).commands.map (annotate feed')) :
    u = v ∧ (feed = feed' → b.corners.map targetWords = c.corners.map targetWords) := by
  have hcorners (d : Box) : d.corners = d.min :: d.corners.tail := rfl
  rw [map_annotate_commands, map_annotate_commands] at h
  obtain ⟨hunit, hrest⟩ : u = v ∧
      ("G0 " ++ targetWords b.min) :: b.corners.tail.map (fun q ↦ feedMove feed (targetWords q)) =
        ("G0 " ++ targetWords c.min) :: c.corners.tail.map fun q ↦ feedMove feed' (targetWords q) := by
    cases u with
    | none =>
        cases v with
        | none => exact ⟨rfl, (List.cons.inj h).2⟩
        | some w => exact absurd (List.cons.inj h).1.symm w.command_ne_absolute
    | some w =>
        cases v with
        | none => exact absurd (List.cons.inj h).1 w.command_ne_absolute
        | some w' =>
            obtain ⟨hw, h⟩ := List.cons.inj h
            exact ⟨congrArg some (LengthUnit.command_injective hw), (List.cons.inj h).2⟩
  refine ⟨hunit, ?_⟩
  rintro rfl
  obtain ⟨hmin, htail⟩ := List.cons.inj hrest
  have hmin : targetWords b.min = targetWords c.min :=
    String.toList_inj.mp (by simpa using congrArg String.toList hmin)
  have htail : b.corners.tail.map targetWords = c.corners.tail.map targetWords := by
    apply List.map_injective_iff.mpr (feedMove_injective feed)
    rw [List.map_map, List.map_map]
    exact htail
  rw [hcorners b, hcorners c, List.map_cons, List.map_cons, hmin, htail]

/-- The commands begin with a unit exactly if the program selected one, and then it is that one. -/
theorem head?_compose_eq_iff {s : Settings} {frame : Frame} {start : Point} {feedText : String}
    {feed : Binary64} {commands : List String}
    (h : compose s frame start feedText = .ok (feed, commands)) (u : LengthUnit) :
    commands.head? = some u.command ↔ frame.unit = some u := by
  obtain ⟨entered, -, -, rfl⟩ := compose_eq_ok_iff.mp h
  rw [Frame.outline, map_annotate_commands]
  cases frame.unit with
  | none => simp [u.command_ne_absolute.symm]
  | some v => simp [LengthUnit.command_injective.eq_iff]

/-! ## The closing part -/

def restoreLine (s : Settings) (text call : String) : String :=
  "#" ++ toString s.restoreParameter ++ "=" ++ text ++ " " ++ call

/-- What stands in front of the call in the restoring line. -/
def restoreFront (s : Settings) (text : String) : List Char :=
  '#' :: (toString s.restoreParameter).toList ++ '=' :: text.toList

theorem toList_restoreLine (s : Settings) (text call : String) :
    (restoreLine s text call).toList = restoreFront s text ++ ' ' :: call.toList := by
  simp [restoreLine, restoreFront]

theorem mem_restoreFront {s : Settings} {text : String} (htext : FeedAccepted text) {c : Char}
    (h : c ∈ restoreFront s text) : c = '#' ∨ c = '=' ∨ isNumberChar c := by
  simp only [restoreFront, List.mem_append, List.mem_cons] at h
  rcases h with (rfl | h) | rfl | h
  · exact Or.inl rfl
  · rw [toList_toString_uint32] at h
    exact Or.inr (Or.inr (isNumberChar_of_isDigit (isDigit_of_mem_digitsOfNat h)))
  · exact Or.inr (Or.inl rfl)
  · exact Or.inr (Or.inr (htext.isNumberChar c h))

theorem exists_closing_eq (s : Settings) (start : Point) (text : String) :
    ∃ rest, closing s start text =
        (if s.returnToStart then ["G0 " ++ targetWords start] else []) ++ rest ∧
      ∀ c, c ∈ rest ↔ (∃ call ∈ s.restoreCall, text ≠ "" ∧ c = restoreLine s text call) ∨
        (s.endProgram ∧ c = "M30") := by
  refine ⟨_, List.append_assoc _ _ _, fun c ↦ ?_⟩
  cases hcall : s.restoreCall with
  | none => cases s.endProgram <;> simp
  | some call => by_cases htext : text = "" <;> cases s.endProgram <;> simp [htext, restoreLine]

theorem mem_closing {s : Settings} {start : Point} {text c : String} :
    c ∈ closing s start text ↔ (s.returnToStart ∧ c = "G0 " ++ targetWords start) ∨
      (∃ call ∈ s.restoreCall, text ≠ "" ∧ c = restoreLine s text call) ∨
      (s.endProgram ∧ c = "M30") := by
  obtain ⟨rest, hclosing, hrest⟩ := exists_closing_eq s start text
  rw [hclosing, List.mem_append, hrest]
  cases s.returnToStart <;> simp

theorem not_isFeedMove_of_mem_closing {s : Settings} {start : Point} {text c : String}
    (h : c ∈ closing s start text) : ¬IsFeedMove c := by
  rcases mem_closing.mp h with ⟨-, rfl⟩ | ⟨call, -, -, rfl⟩ | ⟨-, rfl⟩
  · exact not_isFeedMove_rapid _
  · simp [IsFeedMove, restoreLine]
  · simp [IsFeedMove]

/-- The feed moves of a job are those of the outline, each of them with the feed. -/
theorem mem_feedMoves_of_compose {s : Settings} {frame : Frame} {start : Point} {feedText : String}
    {feed : Binary64} {commands : List String}
    (h : compose s frame start feedText = .ok (feed, commands)) {c : String} :
    c ∈ commands ∧ IsFeedMove c ↔
      ∃ q ∈ frame.bounds.corners.tail, c = feedMove feed (targetWords q) := by
  obtain ⟨entered, -, -, rfl⟩ := compose_eq_ok_iff.mp h
  have hclosing : ¬(c ∈ closing s start (trimmed feedText) ∧ IsFeedMove c) := fun h ↦
    not_isFeedMove_of_mem_closing h.1 h.2
  have hannotated : c ∈ frame.outline.commands.map (annotate feed) ∧ IsFeedMove c ↔
      c ∈ (frame.outline.commands.map (annotate feed)).filter IsFeedMove := by
    rw [List.mem_filter, decide_eq_true_iff]
  rw [List.mem_append, or_and_right, or_iff_left hclosing, hannotated, Frame.outline,
    filter_annotated, List.mem_map]
  simp only [eq_comm]

end Toolpath
