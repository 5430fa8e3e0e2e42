import Toolpath.Json.Reader
import Toolpath.Proofs.Json.Token

/-!
# Documents read back

The tokens of a document are a function of the document alone; the spacing does not show in them.
From a state that waits for a value the tokens of a document lead to the state that has it, whatever
is open around it. So every document of proper numbers and of texts is read back as it was written.
-/

namespace Toolpath.Json

/-! ## Documents that can be written -/

/-- All numbers are proper, and all strings and keys are texts. -/
inductive Printable : Json → Prop where
  | null : Printable null
  | bool (b : Bool) : Printable (bool b)
  | number {w : Written} (h : w.Proper) : Printable (number w)
  | string (text : String) : Printable (string (some text))
  | array {items : List Json} (h : ∀ v ∈ items, Printable v) : Printable (array items)
  | object {fields : List (Option String × Json)} (hkeys : ∀ f ∈ fields, f.1.isSome)
      (h : ∀ f ∈ fields, Printable f.2) : Printable (object fields)

theorem printable_ofString (text : String) : Printable (ofString text) := .string text

theorem printable_ofNat (n : Nat) : Printable (ofNat n) := .number (Written.proper_ofNat n)

theorem printable_ofDouble (x : Binary64) : Printable (ofDouble x) := by
  unfold ofDouble
  split
  next w hw => exact .number (Layout.proper_of_written? hw)
  next => exact .null

theorem printable_record {fields : List (String × Json)} (h : ∀ f ∈ fields, Printable f.2) :
    Printable (record fields) := by
  refine .object ?_ ?_
  · intro f hf
    obtain ⟨g, -, rfl⟩ := List.mem_map.mp hf
    rfl
  · intro f hf
    obtain ⟨g, hg, rfl⟩ := List.mem_map.mp hf
    exact h g hg

/-! ## Tokens of a document -/

mutual

def tokensOf : Json → List Token
  | null => [.null]
  | bool b => [.bool b]
  | number w => [.number w]
  | string t => [.string t]
  | array [] => [.openArray, .closeArray]
  | array (v :: vs) => .openArray :: (tokensOf v ++ itemTokens vs)
  | object [] => [.openObject, .closeObject]
  | object ((k, v) :: fs) => .openObject :: .string k :: .colon :: (tokensOf v ++ fieldTokens fs)

/-- The tokens behind an item, up to the end of the array. -/
def itemTokens : List Json → List Token
  | [] => [.closeArray]
  | v :: vs => .comma :: (tokensOf v ++ itemTokens vs)

def fieldTokens : List (Option String × Json) → List Token
  | [] => [.closeObject]
  | (k, v) :: fs => .comma :: .string k :: .colon :: (tokensOf v ++ fieldTokens fs)

end

/-- Only blanks set items and fields apart. -/
def Spacing.Blank (s : Spacing) : Prop :=
  (∀ depth, ∀ c ∈ s.lineBreak depth, isSpace c) ∧ ∀ c ∈ s.afterColon, isSpace c

theorem blank_pretty : pretty.Blank := by
  refine ⟨fun depth c hc ↦ ?_, List.forall_mem_singleton.mpr (by decide)⟩
  rcases List.mem_cons.mp hc with rfl | hc
  · decide
  · rw [List.eq_of_mem_replicate hc]
    decide

theorem ends_cons {c : Char} (h : isSpace c ∨ c = ',' ∨ c = ']' ∨ c = '\x7d') (cs : List Char) :
    Ends (c :: cs) := by
  rintro d ⟨⟩
  rcases h with h | rfl | rfl | rfl
  · simp only [isSpace, Bool.or_eq_true, decide_eq_true_iff] at h
    rcases h with ((rfl | rfl) | rfl) | rfl <;> decide
  · decide
  · decide
  · decide

theorem ends_blanks {blanks : List Char} (hblanks : ∀ c ∈ blanks, isSpace c) {c : Char}
    (hc : c = ',' ∨ c = ']' ∨ c = '\x7d') (cs : List Char) : Ends (blanks ++ c :: cs) := by
  rcases blanks with _ | ⟨d, ds⟩
  · exact ends_cons (Or.inr hc) cs
  · exact ends_cons (Or.inl (hblanks d List.mem_cons_self)) _

/-- The text of a document is cut into its tokens where what follows does not continue a number. -/
def Spacing.Writes (s : Spacing) (v : Json) : Prop :=
  ∀ depth rest ts, Ends rest → Cuts rest ts → Cuts (chars s depth v ++ rest) (tokensOf v ++ ts)

section Chars

variable {s : Spacing} (hs : s.Blank)

include hs

theorem cuts_items {vs : List Json} (h : ∀ v ∈ vs, s.Writes v) (depth : Nat) {blanks : List Char}
    (hblanks : ∀ c ∈ blanks, isSpace c) {rest : List Char} {ts : List Token} (hrest : Cuts rest ts) :
    Ends (items s depth vs ++ (blanks ++ ']' :: rest)) ∧
      Cuts (items s depth vs ++ (blanks ++ ']' :: rest)) (itemTokens vs ++ ts) := by
  induction vs with
  | nil =>
      refine ⟨ends_blanks hblanks (Or.inr (Or.inl rfl)) rest, Cuts.spaces hblanks ?_⟩
      exact hrest.token (by decide) rfl le_rfl
  | cons v vs ih =>
      obtain ⟨hends, hcuts⟩ := ih fun w hw ↦ h w (List.mem_cons_of_mem v hw)
      have hv := h v List.mem_cons_self depth _ _ hends hcuts
      have htext : items s depth (v :: vs) ++ (blanks ++ ']' :: rest) =
          ',' :: (s.lineBreak depth ++
            (chars s depth v ++ (items s depth vs ++ (blanks ++ ']' :: rest)))) := by
        simp [items]
      rw [htext, itemTokens, List.cons_append, List.append_assoc]
      refine ⟨ends_cons (Or.inr (Or.inl rfl)) _, ?_⟩
      exact (hv.spaces (hs.1 depth)).token (by decide) rfl le_rfl

theorem cuts_field (k : String) {v : Json} (h : s.Writes v) (depth : Nat) {rest : List Char}
    {ts : List Token} (hends : Ends rest) (hrest : Cuts rest ts) :
    Cuts (s.lineBreak depth ++ (stringText (some k) ++ (':' :: (s.afterColon ++
      (chars s depth v ++ rest))))) (.string (some k) :: .colon :: (tokensOf v ++ ts)) := by
  have hv := (h depth _ _ hends hrest).spaces hs.2
  have hcolon : Cuts (':' :: (s.afterColon ++ (chars s depth v ++ rest)))
      (.colon :: (tokensOf v ++ ts)) := hv.token (by decide) rfl le_rfl
  exact (hcolon.string k).spaces (hs.1 depth)

theorem cuts_fields {fs : List (Option String × Json)} (hkeys : ∀ f ∈ fs, f.1.isSome)
    (h : ∀ f ∈ fs, s.Writes f.2) (depth : Nat) {blanks : List Char}
    (hblanks : ∀ c ∈ blanks, isSpace c) {rest : List Char} {ts : List Token} (hrest : Cuts rest ts) :
    Ends (fields s depth fs ++ (blanks ++ '\x7d' :: rest)) ∧
      Cuts (fields s depth fs ++ (blanks ++ '\x7d' :: rest)) (fieldTokens fs ++ ts) := by
  induction fs with
  | nil =>
      refine ⟨ends_blanks hblanks (Or.inr (Or.inr rfl)) rest, Cuts.spaces hblanks ?_⟩
      exact hrest.token (by decide) rfl le_rfl
  | cons f fs ih =>
      obtain ⟨k, v⟩ := f
      obtain ⟨k, rfl⟩ := Option.isSome_iff_exists.mp (hkeys _ List.mem_cons_self)
      obtain ⟨hends, hcuts⟩ := ih (fun g hg ↦ hkeys g (List.mem_cons_of_mem _ hg))
        fun g hg ↦ h g (List.mem_cons_of_mem _ hg)
      have hfield := cuts_field hs k (h _ List.mem_cons_self) depth hends hcuts
      have htext : fields s depth ((some k, v) :: fs) ++ (blanks ++ '\x7d' :: rest) =
          ',' :: (s.lineBreak depth ++ (stringText (some k) ++ (':' :: (s.afterColon ++
            (chars s depth v ++ (fields s depth fs ++ (blanks ++ '\x7d' :: rest))))))) := by
        simp [fields]
      rw [htext, fieldTokens]
      simp only [List.cons_append, List.append_assoc]
      exact ⟨ends_cons (Or.inr (Or.inl rfl)) _, hfield.token (by decide) rfl le_rfl⟩

theorem Printable.writes {v : Json} (h : Printable v) : s.Writes v := by
  induction h with
  | null => exact fun depth rest ts _ hrest ↦ hrest.token (by decide) rfl (by simp; omega)
  | bool b =>
      intro depth rest ts _ hrest
      cases b with
      | true => exact hrest.token (by decide) rfl (by simp; omega)
      | false => exact hrest.token (by decide) rfl (by simp; omega)
  | number hw => exact fun depth rest ts hends hrest ↦ hrest.number hw hends
  | string text => exact fun depth rest ts _ hrest ↦ hrest.string text
  | @array vs _ ih =>
      intro depth rest ts _ hrest
      rcases vs with _ | ⟨v, vs⟩
      · have hclose : Cuts (']' :: rest) (.closeArray :: ts) := hrest.token (by decide) rfl le_rfl
        exact hclose.token (by decide) rfl le_rfl
      · obtain ⟨hends, hcuts⟩ := cuts_items hs (fun w hw ↦ ih w (List.mem_cons_of_mem v hw)) (depth + 1)
          (hs.1 depth) hrest
        have hv := ih v List.mem_cons_self (depth + 1) _ _ hends hcuts
        have htext : chars s depth (.array (v :: vs)) ++ rest = '[' :: (s.lineBreak (depth + 1) ++
            (chars s (depth + 1) v ++ (items s (depth + 1) vs ++ (s.lineBreak depth ++ ']' :: rest)))) := by
          simp [chars]
        rw [htext, tokensOf, List.cons_append, List.append_assoc]
        exact (hv.spaces (hs.1 (depth + 1))).token (by decide) rfl le_rfl
  | @object fs hkeys _ ih =>
      intro depth rest ts _ hrest
      rcases fs with _ | ⟨⟨k, v⟩, fs⟩
      · have hclose : Cuts ('\x7d' :: rest) (.closeObject :: ts) := hrest.token (by decide) rfl le_rfl
        exact hclose.token (by decide) rfl le_rfl
      · obtain ⟨k, rfl⟩ := Option.isSome_iff_exists.mp (hkeys _ List.mem_cons_self)
        obtain ⟨hends, hcuts⟩ := cuts_fields hs (fun g hg ↦ hkeys g (List.mem_cons_of_mem _ hg))
          (fun g hg ↦ ih g (List.mem_cons_of_mem _ hg)) (depth + 1) (hs.1 depth) hrest
        have hfield := cuts_field hs k (ih _ List.mem_cons_self) (depth + 1) hends hcuts
        have htext : chars s depth (.object ((some k, v) :: fs)) ++ rest =
            '\x7b' :: (s.lineBreak (depth + 1) ++ (stringText (some k) ++ (':' :: (s.afterColon ++
              (chars s (depth + 1) v ++ (fields s (depth + 1) fs ++
                (s.lineBreak depth ++ '\x7d' :: rest))))))) := by
          simp [chars]
        rw [htext, tokensOf]
        simp only [List.cons_append, List.append_assoc]
        exact hfield.token (by decide) rfl le_rfl

end Chars

/-! ## The machine -/

theorem run_cons (r : Reading) (t : Token) (ts : List Token) :
    r.run (t :: ts) = (r.step t).bind (·.run ts) := rfl

theorem exists_tokensOf_eq_cons (v : Json) : ∃ t ts, tokensOf v = t :: ts ∧ t ≠ .closeArray := by
  rcases v with _ | b | w | t | (_ | ⟨v, vs⟩) | (_ | ⟨⟨k, v⟩, fs⟩) <;>
    simp [tokensOf]

/-- The tokens of a document lead from any state that waits for a value to the one that has it. -/
def Leads (v : Json) : Prop :=
  ∀ stack ts, (Reading.value stack).run (tokensOf v ++ ts) = (Reading.done v stack).run ts

theorem run_firstItem (stack : List Open) (v : Json) (ts : List Token) :
    (Reading.firstItem stack).run (tokensOf v ++ ts) =
      (Reading.value (.array [] :: stack)).run (tokensOf v ++ ts) := by
  obtain ⟨t, us, htokens, hclose⟩ := exists_tokensOf_eq_cons v
  rw [htokens, List.cons_append, run_cons, run_cons]
  cases t <;> first | rfl | exact absurd rfl hclose

theorem run_itemTokens {vs : List Json} (h : ∀ v ∈ vs, Leads v) (v : Json) (read : List Json)
    (stack : List Open) (ts : List Token) :
    (Reading.done v (.array read :: stack)).run (itemTokens vs ++ ts) =
      (Reading.done (.array (read.reverse ++ v :: vs)) stack).run ts := by
  induction vs generalizing v read with
  | nil =>
      rw [itemTokens, List.singleton_append, run_cons, ← List.reverse_cons]
      rfl
  | cons w vs ih =>
      have hnext := ih (fun u hu ↦ h u (List.mem_cons_of_mem w hu)) w (v :: read)
      rw [List.reverse_cons, List.append_assoc, List.singleton_append] at hnext
      rw [itemTokens, List.cons_append, List.append_assoc, ← hnext]
      exact h w List.mem_cons_self (.array (v :: read) :: stack) (itemTokens vs ++ ts)

theorem run_fieldTokens {fs : List (Option String × Json)} (h : ∀ f ∈ fs, Leads f.2)
    (k : Option String) (v : Json) (read : List (Option String × Json)) (stack : List Open)
    (ts : List Token) : (Reading.done v (.object read k :: stack)).run (fieldTokens fs ++ ts) =
      (Reading.done (.object (read.reverse ++ (k, v) :: fs)) stack).run ts := by
  induction fs generalizing k v read with
  | nil =>
      rw [fieldTokens, List.singleton_append, run_cons, ← List.reverse_cons]
      rfl
  | cons f fs ih =>
      obtain ⟨l, w⟩ := f
      have hnext := ih (fun g hg ↦ h g (List.mem_cons_of_mem _ hg)) l w ((k, v) :: read)
      rw [List.reverse_cons, List.append_assoc, List.singleton_append] at hnext
      rw [fieldTokens, List.cons_append, List.cons_append, List.cons_append, List.append_assoc, ← hnext]
      exact h (l, w) List.mem_cons_self (.object ((k, v) :: read) l :: stack) (fieldTokens fs ++ ts)

theorem Printable.leads {v : Json} (h : Printable v) : Leads v := by
  induction h with
  | null => exact fun stack ts ↦ rfl
  | bool b => exact fun stack ts ↦ rfl
  | number hw => exact fun stack ts ↦ rfl
  | string text => exact fun stack ts ↦ rfl
  | @array vs _ ih =>
      intro stack ts
      rcases vs with _ | ⟨v, vs⟩
      · rfl
      · rw [tokensOf, List.cons_append, List.append_assoc]
        calc
          _ = (Reading.firstItem stack).run (tokensOf v ++ (itemTokens vs ++ ts)) := rfl
          _ = (Reading.done v (.array [] :: stack)).run (itemTokens vs ++ ts) := by
            rw [run_firstItem]
            exact ih v List.mem_cons_self _ _
          _ = _ := run_itemTokens (fun w hw ↦ ih w (List.mem_cons_of_mem v hw)) v [] stack ts
  | @object fs hkeys _ ih =>
      intro stack ts
      rcases fs with _ | ⟨⟨k, v⟩, fs⟩
      · rfl
      · rw [tokensOf]
        simp only [List.cons_append, List.append_assoc]
        calc
          _ = (Reading.value (.object [] k :: stack)).run (tokensOf v ++ (fieldTokens fs ++ ts)) := rfl
          _ = (Reading.done v (.object [] k :: stack)).run (fieldTokens fs ++ ts) :=
            ih _ List.mem_cons_self _ _
          _ = _ := run_fieldTokens (fun g hg ↦ ih g (List.mem_cons_of_mem _ hg)) k v [] stack ts

/-- A document that can be written is read back, whatever blanks stand behind it. -/
theorem read?_render_append {s : Spacing} (hs : s.Blank) {v : Json} (h : Printable v)
    {blanks : String} (hblanks : ∀ c ∈ blanks.toList, isSpace c) :
    read? (render s v ++ blanks) = some v := by
  have hends : Ends blanks.toList := by
    intro c hc
    exact ends_cons (Or.inl (hblanks c (List.mem_of_mem_head? hc))) [] c rfl
  have hcuts : Cuts blanks.toList [] := by
    have := cuts_nil.spaces hblanks
    rwa [List.append_nil] at this
  have htokens := (h.writes hs 0 blanks.toList [] hends hcuts).tokens?
  have hrun := h.leads [] []
  rw [List.append_nil] at htokens hrun
  rw [read?, render, String.toList_append, String.toList_ofList, htokens, Option.bind_some, ofTokens?,
    hrun]
  rfl

theorem read?_render {s : Spacing} (hs : s.Blank) {v : Json} (h : Printable v) :
    read? (render s v) = some v := by
  have hread : read? (render s v ++ "") = some v := read?_render_append hs h (by simp)
  rwa [String.append_empty] at hread

end Toolpath.Json
