import GridGauge.Proofs.Attempts
import GridGauge.Terminal.Panel

/-!
# Styles that are drawn

A style is read only when what has it is drawn. So markup that can be followed
is drawn if the styles in its lines can be read (`exists_printedMarkup_iff`,
`exists_printedPanel_iff`). A text that is brought into lines loses some of its
styles, but gets no others (`styles_of_mem_wrap`, `styles_panelTop`).
-/

namespace GridGauge.Terminal

namespace Styled

variable {t part line : Styled}

/-- What asks for styles in the text. -/
def styles (t : Styled) : List Text := t.spans.map Span.style

/-- Whatever asks for a style in the text can be read. -/
def IsReadable (t : Styled) : Prop := ∀ style ∈ t.styles, ∃ s, Style.ofText style = .ok s

theorem isReadable_plain (t : Text) : (plain t).IsReadable := nofun

theorem IsReadable.mono (ht : t.IsReadable) (h : part.styles ⊆ t.styles) : part.IsReadable :=
  fun style hstyle => ht style (h hstyle)

/-- A text is refused just when one of its styles cannot be read. -/
theorem check_eq_ok_iff : t.check = .ok () ↔ t.IsReadable := by
  rw [check, forM_eq_ok_iff, IsReadable, styles, List.forall_mem_map]
  refine forall₂_congr fun s _ => ?_
  cases Style.ofText s.style with
  | ok style => exact iff_of_true rfl ⟨style, rfl⟩
  | error e => exact iff_of_false nofun nofun

theorem styles_become (u : Text) (t : Styled) : (t.become u).styles ⊆ t.styles := by
  rw [styles, become]
  split
  · rw [List.map_map]
    exact List.map_subset _ (List.filter_sublist).subset
  · exact List.Subset.refl _

theorem styles_between (before after : Text) (t : Styled) :
    (t.between before after).styles = t.styles := by
  rw [styles, between, List.map_map]
  rfl

theorem style_of_within? {position length : Nat} {s s' : Span}
    (h : s.within? position length = some s') : s'.style = s.style := by
  unfold Span.within? at h
  dsimp only at h
  split at h <;> cases h
  rfl

theorem styles_of_mem_partsFrom {gap position : Nat} {parts : List Text}
    (h : part ∈ t.partsFrom gap position parts) : part.styles ⊆ t.styles := by
  induction parts generalizing position with
  | nil => cases h
  | cons text parts ih =>
    rcases List.mem_cons.1 h with rfl | h
    · intro style hstyle
      obtain ⟨s', hs', rfl⟩ := List.mem_map.1 hstyle
      obtain ⟨s, hs, hwithin⟩ := List.mem_filterMap.1 hs'
      rw [style_of_within? hwithin]
      exact List.mem_map_of_mem hs
    · exact ih h

theorem styles_of_mem_divide {gap : Nat} {parts : List Text} (h : part ∈ t.divide gap parts) :
    part.styles ⊆ t.styles := by
  unfold divide at h
  split at h
  · rw [List.mem_singleton.1 h]
    exact List.Subset.refl _
  · exact styles_of_mem_partsFrom h

theorem styles_expandTabs (line : Styled) : line.expandTabs.styles ⊆ line.styles := by
  rw [expandTabs]
  split
  · rw [styles, List.map_map]
    exact List.map_subset _ (List.filter_sublist).subset
  · exact List.Subset.refl _

theorem styles_cut (most : Nat) (o : Overflow) (line : Styled) :
    (line.cut most o).styles ⊆ line.styles :=
  List.Subset.trans (styles_become _ _) (styles_become _ _)

/-- The lines of a text have its styles only. -/
theorem styles_of_mem_wrap {most : Nat} {o : Overflow} (h : line ∈ wrap most o t) :
    line.styles ⊆ t.styles := by
  obtain ⟨whole, hwhole, h⟩ := List.mem_flatMap.1 h
  obtain ⟨part, hpart, rfl⟩ := List.mem_map.1 h
  exact List.Subset.trans (styles_cut _ _ part) (List.Subset.trans (styles_of_mem_divide hpart)
    (List.Subset.trans (styles_expandTabs whole) (styles_of_mem_divide hwhole)))

end Styled

variable {columns : Nat} {markup : Text} {t : Styled} {table : Table}

/-- Markup is drawn just when it can be followed and the styles in its lines can be read. -/
theorem exists_printedMarkup_iff :
    (∃ u, printedMarkup columns markup = .ok u) ↔ ∃ t, markedText markup = .ok t ∧
      (columns = 0 ∨ ∀ line ∈ wrap columns .fold t, line.IsReadable) := by
  have hlines (t : Styled) : (∀ line ∈ wrap columns .fold t, line.IsReadable)
      ↔ (wrap columns .fold t).forM Styled.check = .ok () := by
    rw [forM_eq_ok_iff]
    exact forall₂_congr fun _ _ => Styled.check_eq_ok_iff.symm
  constructor
  · rintro ⟨u, h⟩
    obtain ⟨t, ht, h⟩ := exists_of_bind_eq_ok h
    refine ⟨t, ht, ?_⟩
    split at h
    · next hnone => exact .inl hnone
    · obtain ⟨_, hcheck, -⟩ := exists_of_bind_eq_ok h
      exact .inr ((hlines t).2 hcheck)
  · rintro ⟨t, ht, h⟩
    rw [printedMarkup, ht]
    by_cases hcolumns : columns = 0
    · exact ⟨[], by simp only [hcolumns]; rfl⟩
    · have hcheck := (hlines t).1 (h.resolve_left hcolumns)
      exact ⟨_, by simp only [hcolumns, if_false, hcheck, bind, Except.bind]; rfl⟩

theorem styles_panelTop (columns : Nat) (title : Styled) :
    (panelTop columns title).styles ⊆ title.styles := by
  rw [panelTop]
  dsimp only
  split
  · exact List.nil_subset _
  · rw [Styled.styles_between]
    refine List.Subset.trans (Styled.styles_become _ _) ?_
    rw [Styled.styles_between]
    exact Styled.styles_become _ _

/-- So is a panel with markup for its title, if there is room for a panel at all. -/
theorem exists_printedPanel_iff :
    (∃ u, printedPanel columns markup table = .ok u) ↔ columns = 0 ∨
      ∃ title, panelTitle markup = .ok title ∧ (panelTop columns title).IsReadable := by
  by_cases hcolumns : columns = 0
  · exact iff_of_true ⟨[], by rw [printedPanel, if_pos hcolumns]; rfl⟩ (.inl hcolumns)
  rw [or_iff_right hcolumns, printedPanel, if_neg hcolumns]
  constructor
  · rintro ⟨u, h⟩
    obtain ⟨title, htitle, h⟩ := exists_of_bind_eq_ok h
    obtain ⟨_, hcheck, -⟩ := exists_of_bind_eq_ok h
    exact ⟨title, htitle, Styled.check_eq_ok_iff.1 hcheck⟩
  · rintro ⟨title, htitle, hreadable⟩
    have hcheck := Styled.check_eq_ok_iff.2 hreadable
    exact ⟨_, by simp only [htitle, hcheck, bind, Except.bind]; rfl⟩

/-- The title of a panel has the styles of its markup only. -/
theorem exists_panelTitle (h : markedText markup = .ok t) :
    ∃ title, panelTitle markup = .ok title ∧ title.styles ⊆ t.styles := by
  refine ⟨_, by rw [panelTitle, h]; rfl, ?_⟩
  rw [Styled.styles_between]
  exact List.Subset.trans (Styled.styles_expandTabs _) (Styled.styles_become _ _)

end GridGauge.Terminal
