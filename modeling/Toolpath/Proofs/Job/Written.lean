import Toolpath.Proofs.Files.Store
import Toolpath.Proofs.Job.Feed
import Toolpath.Proofs.Job.Stages

/-!
# Written commands

A writer without a limit takes every command and a line feed after it. Splitting the text at its line
feeds gives the commands back where none of them has a line feed of its own. Numbers have none,
however they were printed or entered, so this depends on the call of the settings alone.
-/

namespace Toolpath

/-! ## What a writer without a limit has written -/

theorem bytesOf_append (s t : String) : bytesOf (s ++ t) = bytesOf s ++ bytesOf t := by
  simp [bytesOf]

theorem toList_unlines (texts : List String) :
    (unlines texts).toList = texts.flatMap fun t ↦ t.toList ++ ['\n'] := by
  simp [unlines, String.toList_join, List.flatMap_map]

theorem unlines_cons (t : String) (texts : List String) :
    unlines (t :: texts) = t ++ "\n" ++ unlines texts := by
  rw [← String.toList_inj]
  simp [toList_unlines]

theorem bytesOf_unlines_cons (t : String) (texts : List String) :
    bytesOf (unlines (t :: texts)) = bytesOf (t ++ "\n") ++ bytesOf (unlines texts) := by
  rw [unlines_cons, bytesOf_append (t ++ "\n")]

theorem unlines_append (as bs : List String) : unlines (as ++ bs) = unlines as ++ unlines bs := by
  rw [← String.toList_inj]
  simp [toList_unlines]

theorem Writer.writeLines_unlimited (bytes : List UInt8) (commands : List String) :
    writeLines { written := bytes } commands =
      ({ written := bytes ++ bytesOf (unlines commands) }, .ok ()) := by
  induction commands generalizing bytes with
  | nil => simp [writeLines, flush, unlines, bytesOf]
  | cons c cs ih =>
      rw [writeLines, write]
      dsimp only
      rw [ih, bytesOf_unlines_cons, List.append_assoc]

/-! ## Splitting what was written -/

theorem splitOn_flatMap_newline (ls : List (List Char)) :
    (ls.flatMap (· ++ ['\n'])).splitOn '\n' = ls.flatMap (·.splitOn '\n') ++ [[]] := by
  induction ls with
  | nil => rfl
  | cons l ls ih =>
      rw [List.flatMap_cons, List.append_assoc, List.singleton_append,
        List.splitOn_append_cons_self, ih, List.flatMap_cons, List.append_assoc]

theorem notMem_of_mem_splitOn {c : Char} {l piece : List Char} (h : piece ∈ l.splitOn c) :
    c ∉ piece := by
  induction l generalizing piece with
  | nil =>
      obtain rfl : piece = [] := by simpa using h
      simp
  | cons d l ih =>
      rw [List.splitOn_cons_eq_if_modifyHead] at h
      split at h
      next =>
        rcases List.mem_cons.mp h with rfl | h
        · simp
        · exact ih h
      next hd =>
        -- The first piece grows by a character that is not split at.
        obtain ⟨first, pieces, hsplit⟩ := List.exists_cons_of_ne_nil (List.splitOn_ne_nil c l)
        rw [hsplit] at ih h
        rcases List.mem_cons.mp h with rfl | h
        · have hdc : c ≠ d := Ne.symm (by simpa using hd)
          simp [hdc, ih List.mem_cons_self]
        · exact ih (List.mem_cons_of_mem first h)

/-- Splitting gives back the texts that were joined where none of them can be split itself. -/
theorem splitOn_flatMap_newline_eq_iff (ls : List (List Char)) :
    (ls.flatMap (· ++ ['\n'])).splitOn '\n' = ls ++ [[]] ↔ ∀ l ∈ ls, '\n' ∉ l := by
  rw [splitOn_flatMap_newline, List.append_left_inj]
  constructor
  · intro h l hl
    rw [← h] at hl
    obtain ⟨m, -, hpiece⟩ := List.mem_flatMap.mp hl
    exact notMem_of_mem_splitOn hpiece
  · intro h
    induction ls with
    | nil => rfl
    | cons l ls ih =>
        rw [List.flatMap_cons, List.splitOn_eq_singleton (h l List.mem_cons_self),
          ih fun m hm ↦ h m (List.mem_cons_of_mem l hm)]
        rfl

/-! ## Line feeds in commands -/

theorem newline_notMem_of_not_isBlank {cs : List Char} (h : ∀ c ∈ cs, isBlank c = false) :
    '\n' ∉ cs := by
  intro hmem
  exact absurd (h _ hmem) (by decide)

theorem newline_notMem_targetWords (p : Point) : '\n' ∉ (targetWords p).toList := by
  have hcoord (v : Binary64) : '\n' ∉ coordText v :=
    newline_notMem_of_not_isBlank fun c hc ↦ (coordText_spec v c hc).1
  simp [targetWords, coord, hcoord]

theorem newline_notMem_feedMove (feed : Binary64) (q : Point) :
    '\n' ∉ (feedMove feed (targetWords q)).toList := by
  have hfeed : '\n' ∉ fixedText 1 feed :=
    newline_notMem_of_not_isBlank fun c hc ↦ (fixedText_spec one_pos feed c hc).1
  rw [toList_feedMove]
  simp [hfeed, newline_notMem_targetWords]

theorem newline_mem_restoreLine_iff {s : Settings} {text : String} (htext : FeedAccepted text)
    (call : String) : '\n' ∈ (restoreLine s text call).toList ↔ '\n' ∈ call.toList := by
  have hfront : '\n' ∉ restoreFront s text := by
    apply newline_notMem_of_not_isBlank
    intro c hc
    rcases mem_restoreFront htext hc with rfl | rfl | hc
    · decide
    · decide
    · exact (isNumberChar_spec hc).1
  rw [toList_restoreLine]
  simp [hfront]

theorem newline_notMem_annotated {feed : Binary64} {b : Box} {u : Option LengthUnit} {c : String}
    (h : c ∈ (Outline.ofBox b u).commands.map (annotate feed)) : '\n' ∉ c.toList := by
  have hunit (v : LengthUnit) : '\n' ∉ v.command.toList := by cases v <;> decide +kernel
  rw [map_annotate_commands] at h
  simp only [List.mem_append, Option.mem_toList, Option.map_eq_some_iff, List.mem_cons,
    List.mem_map] at h
  rcases h with ⟨v, -, rfl⟩ | rfl | rfl | ⟨q, -, rfl⟩
  · exact hunit v
  · decide +kernel
  · simp [newline_notMem_targetWords]
  · exact newline_notMem_feedMove feed q

theorem forall_newline_notMem_compose_iff {s : Settings} {frame : Frame} {start : Point}
    {feedText : String} {feed : Binary64} {commands : List String}
    (h : compose s frame start feedText = .ok (feed, commands)) :
    (∀ c ∈ commands, '\n' ∉ c.toList) ↔
      ∀ call ∈ s.restoreCall, trimmed feedText ≠ "" → '\n' ∉ call.toList := by
  have haccepted : FeedAccepted (trimmed feedText) :=
    (feedAccepted_iff_exists_compose _ _ _).mpr ⟨_, h⟩
  obtain ⟨entered, -, -, rfl⟩ := compose_eq_ok_iff.mp h
  constructor
  · intro hfree call hcall htext
    rw [← newline_mem_restoreLine_iff haccepted (s := s)]
    exact hfree _ (List.mem_append_right _ (mem_closing.mpr (Or.inr (Or.inl
      ⟨call, hcall, htext, rfl⟩))))
  · intro hfree c hc
    rw [List.mem_append, mem_closing] at hc
    rcases hc with hc | ⟨-, rfl⟩ | ⟨call, hcall, htext, rfl⟩ | ⟨-, rfl⟩
    · exact newline_notMem_annotated hc
    · simp [newline_notMem_targetWords]
    · rw [newline_mem_restoreLine_iff haccepted]
      exact hfree call hcall htext
    · decide +kernel

theorem splitOn_unlines_iff (commands : List String) :
    (unlines commands).toList.splitOn '\n' = commands.map String.toList ++ [[]] ↔
      ∀ c ∈ commands, '\n' ∉ c.toList := by
  have hsplit := splitOn_flatMap_newline_eq_iff (commands.map String.toList)
  rw [List.flatMap_map, List.forall_mem_map] at hsplit
  rw [toList_unlines, hsplit]

theorem unlines_injOn {as bs : List String} (has : ∀ c ∈ as, '\n' ∉ c.toList)
    (hbs : ∀ c ∈ bs, '\n' ∉ c.toList) (h : unlines as = unlines bs) : as = bs := by
  have hsplit := (splitOn_unlines_iff as).mpr has
  rw [h, (splitOn_unlines_iff bs).mpr hbs, List.append_left_inj] at hsplit
  exact List.map_injective_iff.mpr (fun _ _ ↦ String.toList_inj.mp) hsplit.symm

/-- Two frames are composed to the same text exactly if they have the same outline. -/
theorem unlines_compose_eq_iff {s : Settings} {f g : Frame} {start : Point} {feedText : String}
    {feed feed' : Binary64} {cs ds : List String}
    (hf : compose s f start feedText = .ok (feed, cs))
    (hg : compose s g start feedText = .ok (feed', ds)) :
    unlines cs = unlines ds ↔ f.outline = g.outline := by
  obtain ⟨entered, hentered, hfeed, rfl⟩ := compose_eq_ok_iff.mp hf
  obtain ⟨entered', hentered', hfeed', rfl⟩ := compose_eq_ok_iff.mp hg
  obtain rfl := Except.ok.inj (hentered.symm.trans hentered')
  constructor
  · intro h
    rw [unlines_append, unlines_append] at h
    have hannotated := unlines_injOn (fun _ ↦ newline_notMem_annotated)
      (fun _ ↦ newline_notMem_annotated) ((String.append_left_inj _).mp h)
    obtain ⟨hunit, hcorners⟩ := annotated_inj hannotated
    have hcorners := hcorners (by rw [hfeed, hfeed', hunit])
    rw [Frame.outline, Frame.outline, Outline.ofBox, Outline.ofBox, hunit, hcorners]
  · intro h
    have hunit : f.unit = g.unit := congrArg Outline.unit h
    rw [h, hfeed, hfeed', hunit]

namespace Job

theorem result_writing_eq_ok_iff {j : Job} {report : Report} :
    (j.run .writing {}).result = .ok report ↔ j.Prepares report := by
  have hexecute : (Sink.writing.execute report.commands {}).2 = .ok () := by
    change (Writer.writeLines {} report.commands).2 = .ok ()
    rw [Writer.writeLines_unlimited]
  rw [result_eq_ok_iff, and_iff_left hexecute]

theorem written_eq {j : Job} {report : Report} (h : j.Prepares report) :
    (j.run .writing {}).sink.written = bytesOf (unlines report.commands) := by
  rw [(run_of_prepare_eq_ok (prepare_eq_ok_iff.mpr h) _ _).1]
  change (Writer.writeLines {} report.commands).1.written = _
  rw [Writer.writeLines_unlimited, List.nil_append]

theorem textOf?_written {j : Job} {report : Report} (h : j.Prepares report) :
    Files.textOf? (j.run .writing {}).sink.written = some (unlines report.commands) := by
  rw [written_eq h, textOf?_bytesOf]

/-- A run that succeeds with a writer without a limit has written its commands, and splitting the text
at its line feeds gives back the commands exactly where the call of the settings has no line feed or
is not used. -/
theorem split_written_iff {j : Job} {report : Report}
    (h : (j.run .writing {}).result = .ok report) :
    ∃ text, Files.textOf? (j.run .writing {}).sink.written = some text ∧
      (text.toList.splitOn '\n' = report.commands.map String.toList ++ [[]] ↔
        ∀ call ∈ j.settings.restoreCall, trimmed j.feedText ≠ "" → '\n' ∉ call.toList) := by
  have hprepares := result_writing_eq_ok_iff.mp h
  refine ⟨unlines report.commands, textOf?_written hprepares, ?_⟩
  rw [splitOn_unlines_iff, forall_newline_notMem_compose_iff hprepares.composed]

theorem split_written_iff_plain :
    let j : Job :=
      { program := .ok "G1 X1 Y1", position := .ok .origin, feedText := "100" }
    ∃ report, (j.run .writing {}).result = .ok report ∧
      ∃ text, Files.textOf? (j.run .writing {}).sink.written = some text ∧
        text.toList.splitOn '\n' = report.commands.map String.toList ++ [[]] := by
  intro j
  have hfeed : FeedAccepted (trimmed j.feedText) := Or.inr ⟨100, by decide +kernel⟩
  obtain ⟨report, hprepares⟩ := exists_prepares_iff.mpr ⟨⟨_, rfl⟩, ⟨_, rfl⟩, hfeed⟩
  have hresult := result_writing_eq_ok_iff.mpr hprepares
  obtain ⟨text, htext, hsplit⟩ := split_written_iff hresult
  exact ⟨report, hresult, text, htext, hsplit.mpr (by decide +kernel)⟩

/-- A call of two lines is accepted, and one command is written on two lines then. -/
theorem split_written_ne_of_call_of_two_lines :
    let s : Settings := { Settings.default with restoreCall := some "M221\nM222" }
    let j : Job :=
      { settings := s, program := .ok "G1 X1 Y1", position := .ok .origin, feedText := "100" }
    s.validate = .ok () ∧ ∃ report, (j.run .writing {}).result = .ok report ∧
      "#1000=100 M221\nM222" ∈ report.commands ∧
      ∃ text, Files.textOf? (j.run .writing {}).sink.written = some text ∧
        text.toList.splitOn '\n' ≠ report.commands.map String.toList ++ [[]] := by
  intro s j
  have hfeed : FeedAccepted (trimmed j.feedText) := Or.inr ⟨100, by decide +kernel⟩
  obtain ⟨report, hprepares⟩ := exists_prepares_iff.mpr ⟨⟨_, rfl⟩, ⟨_, rfl⟩, hfeed⟩
  have hline : "#1000=100 M221\nM222" ∈ report.commands := by
    obtain ⟨entered, -, -, hcommands⟩ := compose_eq_ok_iff.mp hprepares.composed
    rw [hcommands, List.mem_append, mem_closing]
    exact Or.inr (Or.inr (Or.inl ⟨"M221\nM222", rfl, by decide +kernel, by decide +kernel⟩))
  refine ⟨by decide +kernel, report, result_writing_eq_ok_iff.mpr hprepares, hline, _,
    textOf?_written hprepares, ?_⟩
  rw [ne_eq, splitOn_unlines_iff]
  exact fun h ↦ h _ hline (by decide +kernel)

end Job

end Toolpath
