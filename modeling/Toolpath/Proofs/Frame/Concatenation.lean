import Toolpath.Proofs.Frame.Extent
import Toolpath.Proofs.Geometry.Cover

/-!
# Surveys of concatenated programs

A survey of two programs in a row is made of a survey of the first one and a survey of the second one
that starts with an empty box in the state that the first one left: the boxes are joined, the counts
are added, and the state is that of the second one. Nothing else passes from one to the other.
-/

namespace Toolpath

namespace Tally

instance : Add Tally where
  add s t :=
    { lines := s.lines + t.lines
      moves := s.moves + t.moves
      arcs := s.arcs + t.arcs
      skippedArcs := s.skippedArcs + t.skippedArcs
      droppedWords := s.droppedWords + t.droppedWords }

@[simp] theorem add_empty (t : Tally) : t + {} = t := rfl

theorem add_count (s t : Tally) (o : Outcome) : (s + t).count o = s + t.count o := by
  change Tally.mk _ _ _ _ _ = Tally.mk _ _ _ _ _
  congr 1 <;> exact Nat.add_assoc _ _ _

theorem add_foldl_count (s t : Tally) (os : List Outcome) :
    os.foldl count (s + t) = s + os.foldl count t := by
  induction os generalizing t with
  | nil => rfl
  | cons o os ih => rw [List.foldl_cons, add_count, ih, List.foldl_cons]

end Tally

namespace Survey

@[simp] theorem feedAll_append (s : Survey) (as bs : List (List Char)) :
    s.feedAll (as ++ bs) = (s.feedAll as).feedAll bs :=
  List.foldl_append

/-- The survey that goes on from a state with nothing covered and nothing counted. -/
def continuing (s : Modal) : Survey := { state := s }

theorem tally_feedAll_add (s : Survey) (ls : List (List Char)) :
    (s.feedAll ls).tally = s.tally + ((continuing s.state).feedAll ls).tally := by
  rw [tally_feedAll, tally_feedAll]
  exact Tally.add_foldl_count s.tally {} _

theorem same_box_feedAll {s : Survey} (hs : s.box.Defined) (ls : List (List Char)) :
    (s.feedAll ls).box.Same (s.box.join ((continuing s.state).feedAll ls).box) := by
  rw [box_feedAll, box_feedAll]
  exact Box.same_foldl_cover_join hs _

theorem state_feedAll_continuing (s : Survey) (ls : List (List Char)) :
    (s.feedAll ls).state = ((continuing s.state).feedAll ls).state := by
  rw [state_feedAll, state_feedAll]
  rfl

theorem within_box_feedAll {s : Survey} (hs : s.box.Defined) (ls : List (List Char)) :
    s.box.Within (s.feedAll ls).box := by
  rw [box_feedAll]
  exact Box.within_foldl_cover hs _

/-- The box stays defined even where the survey starts at an absent point. -/
theorem defined_box_feedAll {s : Survey} (hs : s.box.Defined) (ls : List (List Char)) :
    (s.feedAll ls).box.Defined := by
  rw [box_feedAll]
  exact hs.foldl_cover _

/-- A survey of two programs in a row joins the boxes, adds the counts and ends in the state of the
second one, which starts in the state that the first one left. No box shrinks on the way. -/
theorem feedAll_concatenation (p : Point) (as bs : List (List Char)) :
    let first := (startingAt p).feedAll as
    let second := (continuing first.state).feedAll bs
    let whole := (startingAt p).feedAll (as ++ bs)
    whole.box.Same (first.box.join second.box) ∧ whole.tally = first.tally + second.tally ∧
      whole.state = second.state ∧ first.box.Within whole.box := by
  intro first second whole
  have hfirst : first.box.Defined := defined_box_feedAll Box.defined_empty as
  have hwhole : whole = first.feedAll bs := feedAll_append _ as bs
  rw [hwhole]
  exact ⟨same_box_feedAll hfirst bs, tally_feedAll_add first bs,
    state_feedAll_continuing first bs, within_box_feedAll hfirst bs⟩

end Survey

end Toolpath
