import GridGauge.Proofs.Attempts
import GridGauge.Proofs.Layouts
import GridGauge.Proofs.Messages
import GridGauge.Terminal.Panel

/-!
# Characters that are drawn

To bring a text into lines makes no characters but spaces, the ellipsis and the
frames of tables and panels, and the pictures that stand for their names are
made of characters proper. So what is drawn of markup is without halves of
surrogate pairs if the markup is (`isWhole_of_printedMarkup`,
`isWhole_of_printedPanel`).
-/

namespace GridGauge.Terminal

open Text

/-! ## Cutting and breaking -/

variable {columns : Nat} {markup : Text} {t : Styled}

section Cutting

variable {t : Text} {ks : List Cluster}

theorem isWhole_spaces (n : Nat) : (spaces n).IsWhole := isWhole_repeated (by decide) n

theorem isWhole_firstCells (h : (textOf ks).IsWhole) (total : Nat) :
    (firstCells total ks).IsWhole := by
  induction ks generalizing total with
  | nil => cases total <;> exact isWhole_nil
  | cons k ks ih =>
    rw [textOf, List.flatMap_cons, isWhole_append] at h
    cases total with
    | zero => exact isWhole_nil
    | succ total =>
      simp only [firstCells]
      split
      · exact isWhole_append.2 ⟨h.1, ih h.2 _⟩
      · exact isWhole_spaces 1

theorem isWhole_fit (ht : t.IsWhole) (total : Nat) : (fit t total).IsWhole := by
  rw [fit]
  split
  · exact isWhole_nil
  · dsimp only
    split
    · exact isWhole_firstCells (by rwa [textOf_clusters]) _
    · exact isWhole_append.2 ⟨ht, isWhole_spaces _⟩

theorem isWhole_of_mem_piecesFrom {most size : Nat} {piece p : Text} (hpiece : piece.IsWhole)
    (h : (textOf ks).IsWhole) (hp : p ∈ piecesFrom most piece size ks) : p.IsWhole := by
  induction ks generalizing piece size with
  | nil =>
    rw [List.mem_singleton.1 hp]
    exact hpiece
  | cons k ks ih =>
    rw [textOf, List.flatMap_cons, isWhole_append] at h
    rw [piecesFrom] at hp
    split at hp
    · rcases List.mem_cons.1 hp with rfl | hp
      · exact hpiece
      · exact ih h.1 h.2 hp
    · exact ih (isWhole_append.2 ⟨hpiece, h.1⟩) h.2 hp

theorem isWhole_of_mem_pieces {most : Nat} {p : Text} (ht : t.IsWhole) (hp : p ∈ pieces most t) :
    p.IsWhole :=
  isWhole_of_mem_piecesFrom isWhole_nil (by rwa [textOf_clusters]) hp

end Cutting

section Breaking

variable {most : Nat} {o : Overflow} {t word line : Text}

theorem subset_of_mem_words (h : word ∈ words t) : word ⊆ t := by
  fun_induction words t with
  | case1 => cases h
  | case2 t c inner start rest ih =>
    rcases List.mem_cons.1 h with rfl | h
    · exact List.take_subset _ _
    · refine List.Subset.trans (ih h) ?_
      have hinner : inner ⊆ t := List.Subset.trans (List.subset_cons_self c inner)
        (start ▸ (List.dropWhile_sublist _).subset)
      exact List.Subset.trans ((List.dropWhile_sublist _).trans (List.dropWhile_sublist _)).subset
        hinner

/-- All lines in the making are whole. -/
def Lines.IsWhole (s : Lines) : Prop := s.current.IsWhole ∧ ∀ l ∈ s.done, l.IsWhole

theorem Lines.IsWhole.start {s : Lines} (hs : s.IsWhole) (ht : t.IsWhole) :
    (s.start t).IsWhole := by
  rw [Lines.start]
  split
  · exact ⟨ht, nofun⟩
  · exact ⟨ht, List.forall_mem_cons.2 hs⟩

theorem Lines.IsWhole.addWord {s : Lines} (hs : s.IsWhole) (hword : word.IsWhole) :
    (s.addWord most o word).IsWhole := by
  have hmore : (s.current ++ word).IsWhole := isWhole_append.2 ⟨hs.1, hword⟩
  unfold Lines.addWord
  dsimp only
  split
  · exact ⟨hmore, hs.2⟩
  · split
    -- A word that is longer than a line is cut into pieces, or left as it is.
    · cases o with
      | fold =>
        refine List.foldlRecOn _ _ hs fun s hs p hp => hs.start ?_
        exact isWhole_of_mem_pieces hword hp
      | ellipsis => exact hs.start hword
    · split
      · exact hs.start hword
      · exact ⟨hmore, hs.2⟩

theorem isWhole_of_mem_breakLine (hline : line.IsWhole) {l : Text}
    (h : l ∈ breakLine most o line) : l.IsWhole := by
  rw [breakLine] at h
  split at h
  · rw [List.mem_singleton.1 h]
    exact hline
  · have hwhole : ((words line).foldl (Lines.addWord most o) ⟨[], [], 0⟩).IsWhole := by
      refine List.foldlRecOn _ _ ⟨isWhole_nil, nofun⟩ fun s hs word hword => hs.addWord ?_
      exact hline.mono (subset_of_mem_words hword)
    rcases List.mem_cons.1 (List.mem_reverse.1 h) with rfl | h
    · exact hwhole.1
    · exact hwhole.2 l h

theorem isWhole_spreadParts {column : Nat} {parts : List Text} (h : ∀ p ∈ parts, p.IsWhole) :
    (spreadParts column parts).IsWhole := by
  induction parts generalizing column with
  | nil => exact isWhole_nil
  | cons part parts ih =>
    rw [List.forall_mem_cons] at h
    cases parts with
    | nil => exact h.1
    | cons next parts =>
      exact isWhole_append.2 ⟨isWhole_append.2 ⟨h.1, isWhole_spaces _⟩, ih h.2⟩

theorem isWhole_expandTabs (hline : line.IsWhole) : (expandTabs line).IsWhole :=
  isWhole_spreadParts fun _ hp => hline.mono (subset_of_mem_splitAtEach hp)

theorem isWhole_truncate (hline : line.IsWhole) : (truncate most o line).IsWhole := by
  unfold truncate
  split
  · exact hline
  · cases o with
    | fold => exact isWhole_fit hline _
    | ellipsis => exact isWhole_append.2 ⟨isWhole_fit hline _, by decide⟩

theorem isWhole_dropExcessBlanks (hline : line.IsWhole) : (dropExcessBlanks most line).IsWhole :=
  hline.mono (List.take_subset _ _)

theorem isWhole_center (hline : line.IsWhole) (total : Nat) : (center total line).IsWhole := by
  have htrimmed : (trimEnd line).IsWhole := hline.mono
    (List.reverse_subset.2 (List.Subset.trans (List.dropWhile_sublist _).subset
      (List.reverse_subset.2 (List.Subset.refl _))))
  exact isWhole_fit (isWhole_append.2 ⟨isWhole_spaces _, isWhole_truncate htrimmed⟩) _

end Breaking

namespace Styled

variable {t part line : Styled}

theorem isWhole_expandTabs (h : line.text.IsWhole) : line.expandTabs.text.IsWhole := by
  rw [expandTabs]
  split
  · exact Terminal.isWhole_expandTabs h
  · exact h

theorem isWhole_cut {most : Nat} {o : Overflow} (h : line.text.IsWhole) :
    (line.cut most o).text.IsWhole := isWhole_truncate (isWhole_dropExcessBlanks h)

theorem text_of_mem_partsFrom {gap position : Nat} {parts : List Text}
    (h : part ∈ t.partsFrom gap position parts) : part.text ∈ parts := by
  induction parts generalizing position with
  | nil => cases h
  | cons text parts ih =>
    rcases List.mem_cons.1 h with rfl | h
    · exact List.mem_cons_self
    · exact List.mem_cons_of_mem _ (ih h)

theorem isWhole_of_mem_divide {gap : Nat} {parts : List Text} (ht : t.text.IsWhole)
    (hparts : ∀ p ∈ parts, p.IsWhole) (h : part ∈ t.divide gap parts) : part.text.IsWhole := by
  unfold divide at h
  split at h
  · rw [List.mem_singleton.1 h]
    exact ht
  · exact hparts _ (text_of_mem_partsFrom h)

end Styled

/-- The lines of a text have its characters only, and spaces and ellipses. -/
theorem isWhole_of_mem_wrap {most : Nat} {o : Overflow} {t line : Styled} (ht : t.text.IsWhole)
    (h : line ∈ wrap most o t) : line.text.IsWhole := by
  obtain ⟨whole, hwhole, h⟩ := List.mem_flatMap.1 h
  obtain ⟨part, hpart, rfl⟩ := List.mem_map.1 h
  have hexpanded : whole.expandTabs.text.IsWhole := Styled.isWhole_expandTabs
    (Styled.isWhole_of_mem_divide ht (fun _ hp => ht.mono (subset_of_mem_splitAtEach hp)) hwhole)
  exact Styled.isWhole_cut (Styled.isWhole_of_mem_divide hexpanded
    (fun _ hp => isWhole_of_mem_breakLine hexpanded hp) hpart)

theorem isWhole_of_mem_linesOf {most : Nat} {o : Overflow} {t line : Text} (ht : t.IsWhole)
    (h : line ∈ linesOf most o t) : line.IsWhole := by
  obtain ⟨styled, hstyled, rfl⟩ := List.mem_map.1 h
  exact isWhole_of_mem_wrap ht hstyled

/-! ## Tables and panels -/

namespace Table

/-- The texts in the table are without halves of surrogate pairs. -/
structure IsWhole (t : Table) : Prop where
  title : t.title.IsWhole
  rows : ∀ row ∈ t.allRows, ∀ cell ∈ row, cell.IsWhole

end Table

namespace Rule

/-- The characters of the rule are no halves of surrogate pairs. -/
def IsWhole (r : Rule) : Prop := Text.IsWhole [r.left, r.along, r.between, r.right]

instance (r : Rule) : Decidable r.IsWhole := inferInstanceAs (Decidable (Text.IsWhole _))

variable {r : Rule}

theorem isWhole_around (hr : r.IsWhole) {ts : List Text} (h : ∀ t ∈ ts, t.IsWhole) :
    (r.around ts).IsWhole := by
  obtain ⟨hleft, -, hbetween, hright, -⟩ := by simpa only [IsWhole, isWhole_cons] using hr
  exact isWhole_append.2 ⟨isWhole_append.2 ⟨isWhole_cons.2 ⟨hleft, isWhole_nil⟩,
    isWhole_join (isWhole_cons.2 ⟨hbetween, isWhole_nil⟩) h⟩, isWhole_cons.2 ⟨hright, isWhole_nil⟩⟩

theorem isWhole_line (hr : r.IsWhole) (widths : List Nat) : (r.line widths).IsWhole := by
  refine isWhole_around hr fun t ht => ?_
  obtain ⟨w, -, rfl⟩ := List.mem_map.1 ht
  exact isWhole_repeated (hr _ (by simp)) w

end Rule

namespace Table

theorem isWhole_of_mem_cellLines {w : Nat} {text line : Text} (htext : text.IsWhole)
    (h : line ∈ cellLines w text) : line.IsWhole := by
  rw [cellLines] at h
  split at h
  · cases h
  · obtain ⟨inner, hinner, rfl⟩ := List.mem_map.1 h
    exact isWhole_append.2 ⟨isWhole_append.2 ⟨isWhole_spaces 1,
      isWhole_fit (isWhole_of_mem_linesOf htext hinner) _⟩, isWhole_spaces 1⟩

theorem isWhole_getD {lines : List Text} (h : ∀ line ∈ lines, line.IsWhole) (i : Nat) :
    (lines[i]?.getD []).IsWhole := by
  cases hfound : lines[i]? with
  | none => exact isWhole_nil
  | some line => exact h line (List.mem_of_getElem? hfound)

theorem isWhole_of_mem_rowLines {r : Rule} (hr : r.IsWhole) {blanksAbove : Bool} {widths : List Nat}
    {cells : List Text} (hcells : ∀ cell ∈ cells, cell.IsWhole) {line : Text}
    (h : line ∈ rowLines r blanksAbove widths cells) : line.IsWhole := by
  obtain ⟨i, -, rfl⟩ := List.mem_map.1 h
  refine Rule.isWhole_around hr fun t ht => ?_
  obtain ⟨filled, hfilled, rfl⟩ := List.mem_map.1 ht
  obtain ⟨⟨w, lines⟩, hcolumn, rfl⟩ := List.mem_map.1 hfilled
  -- The lines of a cell stand there, with blank ones above or below.
  have hlines : ∀ line ∈ lines, line.IsWhole := by
    obtain ⟨j, hj, hget⟩ := List.mem_iff_getElem.1 hcolumn
    rw [List.getElem_zipWith] at hget
    cases hget
    exact fun line hline => isWhole_of_mem_cellLines (hcells _ (List.getElem_mem _)) hline
  have hblanks : ∀ n, ∀ line ∈ List.replicate n (spaces w), line.IsWhole := fun n line hline => by
    rw [List.eq_of_mem_replicate hline]
    exact isWhole_spaces w
  refine isWhole_getD (fun line hline => ?_) i
  dsimp only at hline
  split at hline
  · exact List.forall_mem_append.2 ⟨hblanks _, hlines⟩ line hline
  · exact List.forall_mem_append.2 ⟨hlines, hblanks _⟩ line hline

theorem IsWhole.lines {t : Table} (ht : t.IsWhole) (total : Nat) :
    ∀ line ∈ t.lines total, line.IsWhole := by
  have hrow : ∀ (r : Rule) (blanksAbove : Bool), r.IsWhole → ∀ row ∈ t.allRows,
      ∀ line ∈ rowLines r blanksAbove (t.widths total) row, line.IsWhole :=
    fun r _ hr row hrow _ hline => isWhole_of_mem_rowLines hr (ht.rows row hrow) hline
  simp only [Table.lines, List.forall_mem_append, List.forall_mem_singleton, List.forall_mem_map,
    List.forall_mem_flatMap]
  refine ⟨⟨⟨⟨⟨fun line hline => ?_, ?_⟩, ?_⟩, ?_⟩, fun row hmem => ?_⟩, ?_⟩
  · exact isWhole_center (isWhole_of_mem_linesOf ht.title hline) _
  · exact Rule.isWhole_line (by decide) _
  · exact hrow .heading true (by decide) _ List.mem_cons_self
  · exact Rule.isWhole_line (by decide) _
  · exact hrow .row false (by decide) _ (List.mem_cons_of_mem _ hmem)
  · exact Rule.isWhole_line (by decide) _

end Table

theorem isWhole_panelTop {title : Styled} (h : title.text.IsWhole) (columns : Nat) :
    (panelTop columns title).text.IsWhole := by
  rw [panelTop]
  dsimp only
  split
  · exact isWhole_append.2 ⟨isWhole_append.2 ⟨by decide, isWhole_repeated (by decide) _⟩, by decide⟩
  · have htitle : (title.become (truncate (columns - 4) .fold title.text)).text.IsWhole := by
      rw [Styled.text_become]
      exact isWhole_truncate h
    refine isWhole_append.2 ⟨isWhole_append.2 ⟨by decide, ?_⟩, by decide⟩
    rw [Styled.text_become]
    exact isWhole_truncate (isWhole_append.2 ⟨isWhole_append.2
      ⟨isWhole_repeated (by decide) _, htitle⟩, isWhole_repeated (by decide) _⟩)

theorem isWhole_of_mem_panelLines {columns : Nat} {top line : Text} {table : Table}
    (htop : top.IsWhole) (htable : table.IsWhole) (h : line ∈ panelLines columns top table) :
    line.IsWhole := by
  obtain ⟨whole, hwhole, rfl⟩ := List.mem_map.1 h
  refine isWhole_truncate ?_
  rcases List.mem_append.1 hwhole with hwhole | hwhole
  · rcases List.mem_cons.1 hwhole with rfl | hwhole
    · exact htop
    · split at hwhole
      · cases hwhole
      · obtain ⟨inner, hinner, rfl⟩ := List.mem_map.1 hwhole
        have hfit := isWhole_fit (htable.lines _ inner hinner) (columns - 4)
        simp [hfit, isWhole_spaces, isSurrogate]
  · rw [List.mem_singleton.1 hwhole]
    exact isWhole_append.2 ⟨isWhole_append.2 ⟨by decide, isWhole_repeated (by decide) _⟩, by decide⟩

theorem isWhole_printedLines {lines : List Text} (h : ∀ line ∈ lines, line.IsWhole) :
    (printedLines lines).IsWhole := fun c hc => by
  obtain ⟨line, hline, hc⟩ := List.mem_flatMap.1 hc
  exact isWhole_append.2 ⟨h line hline, by decide⟩ c hc

/-! ## Markup -/

namespace Emoji

variable {name code t : Text}

theorem isWhole_of_find? {p : Text} (h : find? name = some p) : p.IsWhole := by
  obtain ⟨entry, -, hentry⟩ := List.exists_of_findSome?_eq_some h
  split at hentry
  · split at hentry <;> cases hentry
    intro c hc
    obtain ⟨d, -, rfl⟩ := List.mem_map.1 hc
    exact isSurrogate_of_isValidChar d.valid
  · cases hentry

theorem isWhole_of_picture? {p : Text} (h : picture? code = some p) : p.IsWhole := by
  rw [picture?] at h
  split at h
  · next ending mark hvariant =>
    obtain ⟨picture, hpicture, rfl⟩ := Option.map_eq_some_iff.1 h
    have hmark : ∀ v ∈ variants, isSurrogate v.2 = false := by decide
    exact isWhole_append.2 ⟨isWhole_of_find? hpicture,
      isWhole_cons.2 ⟨hmark _ (List.mem_of_find?_eq_some hvariant), isWhole_nil⟩⟩
  · exact isWhole_of_find? h

theorem subset_of_code? (h : code? t = some code) : code ⊆ t := by
  rw [code?] at h
  split at h
  · next before after hbreak =>
    split at h <;> cases h
    rw [eq_of_breakAt_some hbreak]
    exact List.subset_append_left _ _
  · cases h

theorem isWhole_replaceFrom (ht : t.IsWhole) (skip : Nat) : (replaceFrom t skip).IsWhole := by
  induction t generalizing skip with
  | nil => cases skip <;> exact isWhole_nil
  | cons c t ih =>
    rw [isWhole_cons] at ht
    cases skip with
    | succ skip => exact ih ht.2 skip
    | zero =>
      rw [replaceFrom]
      split
      · next code hcode =>
        have hsubset : code ⊆ t := by
          split at hcode
          · exact subset_of_code? hcode
          · cases hcode
        refine isWhole_append.2 ⟨?_, ih ht.2 _⟩
        cases hpicture : picture? code with
        | none => simp [ht.1, ht.2.mono hsubset]
        | some p => exact isWhole_of_picture? hpicture
      · exact isWhole_cons.2 ⟨ht.1, ih ht.2 0⟩

end Emoji

theorem unescape_subset (t : Text) : unescape t ⊆ t := by
  fun_induction unescape t with
  | case1 rest ih => exact List.subset_cons_of_subset _ (List.cons_subset_cons _ ih)
  | case2 c rest _ ih => exact List.cons_subset_cons c ih
  | case3 => exact List.nil_subset _

theorem isWhole_plainText {t : Text} (ht : t.IsWhole) : (plainText t).IsWhole :=
  IsWhole.mono (Emoji.isWhole_replaceFrom ht 0) (List.filter_sublist).subset

theorem subset_of_tagContent? {t content : Text} (h : tagContent? t = some content) :
    content ⊆ t := by
  unfold tagContent? at h
  dsimp only at h
  split at h <;> cases h
  exact (List.takeWhile_sublist _).subset

/-- The pieces of markup have its characters only. -/
theorem isWhole_of_text_mem_scanMarkup {s : Scan} {u : Text} (ht : markup.IsWhole)
    (hs : s.plain.IsWhole) (h : .text u ∈ scanMarkup markup s) : u.IsWhole := by
  have hpiece {t : Text} (ht : t.IsWhole) (h : Piece.text u ∈ textPiece t) : u.IsWhole := by
    rw [textPiece] at h
    split at h
    · cases h
    · cases List.mem_singleton.1 h
      exact ht
  have hslashes (n : Nat) : (Text.repeated n 0x5C).IsWhole := isWhole_repeated (by decide) n
  induction markup generalizing s with
  | nil => exact hpiece (isWhole_append.2 ⟨hs, hslashes _⟩) h
  | cons c rest ih =>
    rw [isWhole_cons] at ht
    rw [scanMarkup] at h
    dsimp only at h
    split at h
    -- Inside a tag, or after one more backslash, the text so far stays as it is.
    · exact ih (s := { s with position := s.position + 1, skip := s.skip - 1 }) ht.2 hs h
    · split at h
      · exact ih (s := { s with position := s.position + 1, slashes := s.slashes + 1 }) ht.2 hs h
      · split at h
        -- At a tag the text so far is a piece, and so is the tag itself if it is escaped.
        · next content hcontent =>
          have hwhole : content.IsWhole := by
            split at hcontent
            · exact ht.2.mono (subset_of_tagContent? hcontent)
            · cases hcontent
          rcases List.mem_append.1 h with h | h
          · rcases List.mem_append.1 h with h | h
            · exact (List.mem_append.1 h).elim (hpiece hs) (hpiece (hslashes _))
            · have h := List.mem_singleton.1 h
              split at h <;> cases h
              exact isWhole_append.2 ⟨isWhole_append.2 ⟨by decide, hwhole⟩, by decide⟩
          · exact ih ht.2 isWhole_nil h
        -- Whatever else comes is added to the text so far, behind its backslashes.
        · exact ih ht.2 (isWhole_append.2 ⟨isWhole_append.2 ⟨hs, hslashes _⟩,
            isWhole_cons.2 ⟨ht.1, isWhole_nil⟩⟩) h

namespace Rendering

variable {r r' : Rendering}

theorem text_of_endStyle {style : OpenStyle} {others : List OpenStyle}
    (h : r.endStyle style others = .ok r') : r'.shown.text = r.shown.text := by
  obtain ⟨_, -, h⟩ := exists_of_bind_eq_ok h
  cases h
  dsimp only
  split <;> rfl

/-- Of a tag nothing shows. -/
theorem text_of_follow {content : Text} {position : Nat}
    (h : r.follow content position = .ok r') : r'.shown.text = r.shown.text := by
  rw [follow] at h
  dsimp only at h
  split at h
  · split at h
    · split at h
      · cases h
      · exact text_of_endStyle h
    · obtain ⟨name, -, h⟩ := exists_of_bind_eq_ok h
      split at h
      · exact text_of_endStyle h
      · cases h
  · obtain ⟨name, -, h⟩ := exists_of_bind_eq_ok h
    cases h
    rfl

theorem text_finish (r : Rendering) : r.finish.text = r.shown.text :=
  List.foldlRecOn (motive := fun t : Styled => t.text = r.shown.text) _ _ rfl
    fun _ ht _ _ => ht

end Rendering

theorem isWhole_of_render {ps : List Piece} {r r' : Rendering} (h : render ps r = .ok r')
    (hps : ∀ u, .text u ∈ ps → u.IsWhole) (hr : r.shown.text.IsWhole) : r'.shown.text.IsWhole := by
  induction ps generalizing r with
  | nil =>
    cases h
    exact hr
  | cons p ps ih =>
    have hrest : ∀ u, .text u ∈ ps → u.IsWhole := fun u hu => hps u (List.mem_cons_of_mem _ hu)
    cases p with
    | text u =>
      refine ih h hrest (isWhole_append.2 ⟨hr, isWhole_plainText ?_⟩)
      exact (hps u List.mem_cons_self).mono (unescape_subset u)
    | tag content position =>
      rw [render] at h
      split at h
      · next r'' hfollow =>
        refine ih h hrest ?_
        rw [Rendering.text_of_follow hfollow]
        exact hr
      · cases h

theorem isWhole_of_markedText (h : markedText markup = .ok t) (hm : markup.IsWhole) :
    t.text.IsWhole := by
  rw [markedText] at h
  cases hr : render (piecesOf markup) ⟨.plain [], []⟩ with
  | error e => rw [hr] at h; cases h
  | ok r =>
    rw [hr] at h
    cases h
    rw [Rendering.text_finish]
    exact isWhole_of_render hr (fun _ hu => isWhole_of_text_mem_scanMarkup hm isWhole_nil hu)
      isWhole_nil

/-- What is drawn of markup has halves of surrogate pairs only where the markup has. -/
theorem isWhole_of_printedMarkup {u : Text} (h : printedMarkup columns markup = .ok u)
    (hm : markup.IsWhole) : u.IsWhole := by
  obtain ⟨t, ht, h⟩ := exists_of_bind_eq_ok h
  split at h
  · cases h
    exact isWhole_nil
  · obtain ⟨_, -, h⟩ := exists_of_bind_eq_ok h
    cases h
    refine isWhole_printedLines fun line hline => ?_
    obtain ⟨styled, hstyled, rfl⟩ := List.mem_map.1 hline
    exact isWhole_of_mem_wrap (isWhole_of_markedText ht hm) hstyled

theorem isWhole_of_panelTitle (h : panelTitle markup = .ok t) (hm : markup.IsWhole) :
    t.text.IsWhole := by
  rw [panelTitle] at h
  cases ht : markedText markup with
  | error e => rw [ht] at h; cases h
  | ok whole =>
    rw [ht] at h
    cases h
    have hwhole := isWhole_of_markedText ht hm
    have hline : Text.IsWhole (whole.text.map fun c => if c = 10 then 32 else c) := by
      refine List.forall_mem_map.2 fun c hc => ?_
      split
      · decide
      · exact hwhole c hc
    exact isWhole_append.2 ⟨isWhole_append.2 ⟨isWhole_spaces 1, Styled.isWhole_expandTabs hline⟩,
      isWhole_spaces 1⟩

/-- The same goes for a panel. -/
theorem isWhole_of_printedPanel {table : Table} {u : Text}
    (h : printedPanel columns markup table = .ok u) (hm : markup.IsWhole) (htable : table.IsWhole) :
    u.IsWhole := by
  rw [printedPanel] at h
  split at h
  · cases h
    exact isWhole_nil
  · obtain ⟨title, htitle, h⟩ := exists_of_bind_eq_ok h
    obtain ⟨_, -, h⟩ := exists_of_bind_eq_ok h
    cases h
    exact isWhole_printedLines fun line hline => isWhole_of_mem_panelLines
      (isWhole_panelTop (isWhole_of_panelTitle htitle hm) columns) htable hline

end GridGauge.Terminal
