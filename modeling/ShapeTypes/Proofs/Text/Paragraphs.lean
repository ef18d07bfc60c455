/-!
# Lines and paragraphs

* `unlines`: lines with a line feed between two of them.
* `IsParagraph`: lines none of which is empty, as they stand between blank lines.
* `paragraphs_inj`: **a text of paragraphs with a blank line between two of them determines their
  lines**.
-/

namespace ShapeTypes.Text

/-- The text of some lines, with a line feed between two of them. -/
def unlines (lines : List (List Char)) : List Char := ['\n'].intercalate lines

/-- The text of some paragraphs, with a blank line between two of them. -/
def paragraphs (ps : List (List (List Char))) : List Char :=
  ['\n', '\n'].intercalate (ps.map unlines)

/-- The lines form a paragraph: there are some, and none is empty. -/
structure IsParagraph (lines : List (List Char)) : Prop where
  /-- There are lines. -/
  nonempty : lines ≠ []
  /-- No line is empty. -/
  full : [] ∉ lines
  /-- No line feed stands in a line. -/
  feedless : ∀ line ∈ lines, '\n' ∉ line

/-- The text of one line is the line. -/
@[simp] theorem unlines_singleton (line : List Char) : unlines [line] = line := by
  rw [unlines, List.intercalate_singleton]

/-- The text of lines that go on is the one of the first lines, a line feed, and that of the others.
-/
theorem unlines_append {before after : List (List Char)} (hbefore : before ≠ [])
    (hafter : after ≠ []) :
    unlines (before ++ after) = unlines before ++ '\n' :: unlines after := by
  obtain ⟨first, rest, rfl⟩ := List.exists_cons_of_ne_nil hafter
  induction before with
  | nil => exact absurd rfl hbefore
  | cons line before ih =>
      cases before with
      | nil =>
          rw [List.singleton_append, unlines, List.intercalate_cons_cons, unlines,
            List.intercalate_singleton, unlines, List.append_assoc]
          rfl
      | cons next before =>
          have htail := ih (List.cons_ne_nil next before)
          unfold unlines at htail ⊢
          rw [List.cons_append, List.cons_append, List.intercalate_cons_cons, ← List.cons_append,
            htail, List.intercalate_cons_cons, List.append_assoc, List.append_assoc,
            List.append_assoc]

/-- The text of lines before a last one: each of them with its line feed, and the last one. -/
theorem unlines_concat (lines : List (List Char)) (last : List Char) :
    unlines (lines ++ [last]) = lines.flatMap (· ++ ['\n']) ++ last := by
  induction lines with
  | nil => rw [List.nil_append, unlines_singleton, List.flatMap_nil, List.nil_append]
  | cons line rest ih =>
      have hsplit : unlines ([line] ++ (rest ++ [last])) =
          unlines [line] ++ '\n' :: unlines (rest ++ [last]) :=
        unlines_append (List.cons_ne_nil line []) (by simp)
      rw [List.cons_append, ← List.singleton_append, hsplit, ih, List.flatMap_cons,
        unlines_singleton]
      simp

/-- There are lines in paragraphs the first of which has some. -/
theorem intercalate_ne_nil {p : List (List Char)} (h : p ≠ []) (rest : List (List (List Char))) :
    [[]].intercalate (p :: rest) ≠ [] := by
  cases rest with
  | nil => rwa [List.intercalate_singleton]
  | cons q rest =>
      rw [List.intercalate_cons_cons]
      simp

/-- The lines of a text of paragraphs: those of each paragraph, and an empty one between two of
them. -/
theorem paragraphs_eq_unlines {ps : List (List (List Char))} (h : ∀ p ∈ ps, p ≠ []) :
    paragraphs ps = unlines ([[]].intercalate ps) := by
  induction ps with
  | nil => rfl
  | cons p rest ih =>
      obtain ⟨hp, hrest⟩ := List.forall_mem_cons.mp h
      cases rest with
      | nil => rw [paragraphs, List.map_singleton, List.intercalate_singleton,
          List.intercalate_singleton]
      | cons q rest =>
          have hjoined := intercalate_ne_nil (hrest q List.mem_cons_self) rest
          have hfeed : unlines ([[]] ++ [[]].intercalate (q :: rest)) =
              '\n' :: unlines ([[]].intercalate (q :: rest)) :=
            unlines_append (List.cons_ne_nil [] []) hjoined
          rw [List.intercalate_cons_cons, List.append_assoc, unlines_append hp (by simp), hfeed,
            ← ih hrest, paragraphs, paragraphs, List.map_cons, List.map_cons,
            List.intercalate_cons_cons, List.append_assoc]
          rfl

/-- The lines of a text are read back by splitting it at the line feeds. -/
theorem splitOn_unlines {lines : List (List Char)} (h : ∀ line ∈ lines, '\n' ∉ line)
    (hne : lines ≠ []) : (unlines lines).splitOn '\n' = lines :=
  List.splitOn_intercalate '\n' h hne

/-- No line feed stands in the lines of paragraphs or in the empty lines between them. -/
theorem feed_not_mem_of_paragraphs {ps : List (List (List Char))} (h : ∀ p ∈ ps, IsParagraph p) :
    ∀ line ∈ [[]].intercalate ps, '\n' ∉ line := by
  induction ps with
  | nil => simp
  | cons p rest ih =>
      obtain ⟨hp, hrest⟩ := List.forall_mem_cons.mp h
      cases rest with
      | nil =>
          rw [List.intercalate_singleton]
          exact hp.feedless
      | cons q rest =>
          rw [List.intercalate_cons_cons, List.forall_mem_append, List.forall_mem_append]
          refine ⟨⟨hp.feedless, ?_⟩, ih hrest⟩
          exact List.forall_mem_singleton.mpr List.not_mem_nil

/-- The paragraphs of a text are read back by splitting it at the line feeds, and its lines at the
empty ones. -/
theorem splitOn_paragraphs {ps : List (List (List Char))} (h : ∀ p ∈ ps, IsParagraph p)
    (hne : ps ≠ []) : ((paragraphs ps).splitOn '\n').splitOn [] = ps := by
  have hjoined : [[]].intercalate ps ≠ [] := by
    obtain ⟨p, rest, rfl⟩ := List.exists_cons_of_ne_nil hne
    exact intercalate_ne_nil (h p List.mem_cons_self).nonempty rest
  rw [paragraphs_eq_unlines fun p hp => (h p hp).nonempty,
    splitOn_unlines (feed_not_mem_of_paragraphs h) hjoined]
  exact List.splitOn_intercalate [] (fun p hp => (h p hp).full) hne

/-- **A text of paragraphs determines their lines.** -/
theorem paragraphs_inj {ps qs : List (List (List Char))} (hps : ∀ p ∈ ps, IsParagraph p)
    (hqs : ∀ q ∈ qs, IsParagraph q) (hne : ps ≠ []) (hne' : qs ≠ [])
    (h : paragraphs ps = paragraphs qs) : ps = qs := by
  rw [← splitOn_paragraphs hps hne, h, splitOn_paragraphs hqs hne']

end ShapeTypes.Text
