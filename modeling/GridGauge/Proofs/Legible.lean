import GridGauge.Program.Display
import GridGauge.Proofs.Messages
import GridGauge.Proofs.Styles
import Mathlib.Data.List.Chain

/-!
# What can be followed as markup

On the terminal the address of the hub and the reasons of errors stand among
markup, and are taken for markup themselves. They do no harm as long as none of
their brackets opens a tag (`IsTagless`): then they are a single piece of text
(`exists_scanMarkup`), and text can always be rendered, without any style.

Of the reasons, most are made of words and numbers, and of paths whose
brackets are around numbers. What else there is in a reason is quoted from an
address, from the network or from a timestamp of the hub (`Outcome.quoted`),
and if these have no tags, neither has the reason (`isTagless_error`).
-/

namespace GridGauge

open Text

namespace Terminal

/-- No bracket in the text has a character behind it that a tag begins with. -/
def IsTagless (t : Text) : Prop := t.IsChain fun c d => c = 0x5B → startsTag d = false

instance (t : Text) : Decidable (IsTagless t) := inferInstanceAs (Decidable (List.IsChain _ t))

variable {s t : Text} {c : CodePoint}

theorem isTagless_cons :
    IsTagless (c :: t) ↔ (∀ d ∈ t.head?, c = 0x5B → startsTag d = false) ∧ IsTagless t :=
  List.isChain_cons

/-- A text without brackets has no tags. -/
theorem isTagless_of_not_mem (h : 0x5B ∉ t) : IsTagless t := by
  induction t with
  | nil => exact .nil
  | cons c t ih =>
    rw [List.mem_cons, not_or] at h
    exact isTagless_cons.2 ⟨fun _ _ hc => absurd hc.symm h.1, ih h.2⟩

/-- Two texts make no tag together unless the first one ends in a bracket. -/
theorem IsTagless.append (hs : IsTagless s) (ht : IsTagless t) (h : s.getLast? ≠ some 0x5B) :
    IsTagless (s ++ t) :=
  List.IsChain.append hs ht fun _ hc _ _ heq => absurd (heq ▸ hc) h

/-- Nor do they if the second one begins as no tag does. -/
theorem IsTagless.append_of_head (hs : IsTagless s) (ht : IsTagless t)
    (h : ∀ d ∈ t.head?, startsTag d = false) : IsTagless (s ++ t) :=
  List.IsChain.append hs ht fun _ _ d hd _ => h d hd

/-! ## Following -/

theorem tagContent?_eq_none (h : ∀ d ∈ t.head?, startsTag d = false) : tagContent? t = none := by
  unfold tagContent?
  refine if_neg fun hcond => ?_
  rw [Bool.and_eq_true, decide_eq_true_eq] at hcond
  obtain ⟨d, hd, hstart⟩ := Option.map_eq_some_iff.1 hcond.1
  cases t with
  | nil => cases hd
  | cons e t =>
    rw [List.takeWhile_cons] at hd
    split at hd
    · cases hd
      rw [h _ rfl] at hstart
      cases hstart
    · cases hd

/-- A text without tags is a single piece of text, together with the text before it. -/
theorem exists_scanMarkup (h : IsTagless t) (s : Scan) (hskip : s.skip = 0) :
    ∃ u, scanMarkup t s = textPiece u := by
  induction t generalizing s with
  | nil => exact ⟨_, rfl⟩
  | cons c t ih =>
    obtain ⟨hhead, h⟩ := isTagless_cons.1 h
    rw [scanMarkup, if_neg (by omega)]
    split
    · exact ih h _ hskip
    · have none_here : (if c = 0x5B then tagContent? t else none) = none := by
        split
        · next hc => exact tagContent?_eq_none fun d hd => hhead d hd hc
        · rfl
      rw [none_here]
      exact ih h _ hskip

theorem exists_render_textPiece (t : Text) (r : Rendering) :
    ∃ u, render (textPiece t) r = .ok { r with shown := { r.shown with text := u } } := by
  unfold textPiece
  split
  · exact ⟨_, rfl⟩
  · exact ⟨_, rfl⟩

/-- Pieces are rendered one after the other. -/
theorem render_append (ps qs : List Piece) (r : Rendering) :
    render (ps ++ qs) r = render ps r >>= render qs := by
  induction ps generalizing r with
  | nil => rfl
  | cons p ps ih =>
    cases p with
    | text t => exact ih _
    | tag content position =>
      rw [List.cons_append, render, render]
      cases r.follow content position with
      | ok r => exact ih r
      | error e => rfl

/-- A text without tags can be followed, and has no styles. -/
theorem exists_markedText (h : IsTagless t) : ∃ u, markedText t = .ok (.plain u) := by
  obtain ⟨piece, hpiece⟩ := exists_scanMarkup h {} rfl
  obtain ⟨u, hu⟩ := exists_render_textPiece piece ⟨.plain [], []⟩
  exact ⟨u, by rw [markedText, piecesOf, hpiece, hu]; rfl⟩

/-! ## Lines about errors -/

theorem scanMarkup_skip (skipped rest : Text) (position : Nat) :
    scanMarkup (skipped ++ rest) { position, skip := skipped.length }
      = scanMarkup rest { position := position + skipped.length } := by
  induction skipped generalizing position with
  | nil => rfl
  | cons c skipped ih =>
    rw [List.cons_append, scanMarkup]
    dsimp only
    rw [List.length_cons, if_pos (Nat.succ_pos skipped.length)]
    refine (ih (position + 1)).trans ?_
    rw [Nat.add_assoc, Nat.add_comm 1]

/-- What is between the brackets of a tag is found when it begins as a tag does and has no
    brackets. -/
theorem tagContent?_append {content : Text} (h : ∀ c ∈ content, (c != 0x5D && c != 0x5B) = true)
    (hstart : content.head?.map startsTag = some true) (rest : Text) :
    tagContent? (content ++ 0x5D :: rest) = some content := by
  have htake : (content ++ 0x5D :: rest).takeWhile (fun c => c != 0x5D && c != 0x5B) = content := by
    rw [List.takeWhile_append_of_pos h]
    simp
  unfold tagContent?
  simp [htake, hstart]

theorem scanMarkup_tag {content : Text} (h : ∀ c ∈ content, (c != 0x5D && c != 0x5B) = true)
    (hstart : content.head?.map startsTag = some true) (position : Nat) (plain rest : Text) :
    scanMarkup (0x5B :: (content ++ 0x5D :: rest)) { position, plain }
      = textPiece plain ++ [.tag content position]
        ++ scanMarkup rest { position := position + 1 + (content.length + 1) } := by
  have hskip := scanMarkup_skip (content ++ [0x5D]) rest (position + 1)
  rw [List.append_assoc, List.length_append] at hskip
  rw [scanMarkup]
  dsimp only
  rw [if_neg (Nat.lt_irrefl 0), if_neg (by decide), if_pos rfl, tagContent?_append h hstart]
  refine congr_arg₂ (· ++ ·) ?_ hskip
  simp [Scan.tagPieces, textPiece, Text.repeated]

/-- Words without brackets and backslashes are added to the text. -/
theorem scanMarkup_words {words : Text} (h : ∀ c ∈ words, c ≠ 0x5B ∧ c ≠ 0x5C) (position : Nat)
    (plain rest : Text) :
    scanMarkup (words ++ rest) { position, plain }
      = scanMarkup rest { position := position + words.length, plain := plain ++ words } := by
  induction words generalizing position plain with
  | nil => rw [List.append_nil]; rfl
  | cons c words ih =>
    obtain ⟨⟨hbracket, hslash⟩, h⟩ := List.forall_mem_cons.1 h
    rw [List.cons_append, scanMarkup]
    dsimp only
    rw [if_neg (Nat.lt_irrefl 0), if_neg hslash, if_neg hbracket]
    dsimp only [Scan.slashText, Text.repeated, List.replicate_zero]
    rw [List.append_nil]
    refine (ih h (position + 1) (plain ++ [c])).trans ?_
    rw [List.length_cons, Nat.add_assoc, Nat.add_comm 1, List.append_assoc, List.singleton_append]

/-- The name of the branch stands between two tags. -/
theorem piecesOf_errorMarkup (b : Scrape.Branch) (reason : Text) :
    ∃ m, piecesOf (Scrape.Report.errorMarkup b.name reason) =
      [.tag "yellow" 0, .text b.name, .tag "/yellow" (8 + b.name.length)]
        ++ scanMarkup (": " ++ reason) { position := m } := by
  have hline : Scrape.Report.errorMarkup b.name reason =
      0x5B :: (("yellow" : Text) ++ 0x5D :: (b.name ++ 0x5B :: (("/yellow" : Text)
        ++ 0x5D :: ((": " : Text) ++ reason)))) := by
    rw [Scrape.Report.errorMarkup, List.append_assoc, List.append_assoc]
    rfl
  have hname : ∀ c ∈ b.name, c ≠ 0x5B ∧ c ≠ 0x5C := by cases b <;> decide
  have hpiece : textPiece b.name = [.text b.name] := by cases b <;> rfl
  rw [hline, piecesOf, scanMarkup_tag (by decide) (by decide), scanMarkup_words hname,
    scanMarkup_tag (by decide) (by decide), List.nil_append, hpiece]
  exact ⟨_, rfl⟩

/-- A line about an error can be followed if its reason has no tags, and its style can be read. -/
theorem exists_markedText_error (b : Scrape.Branch) {reason : Text} (h : IsTagless reason) :
    ∃ u, markedText (Scrape.Report.errorMarkup b.name reason) = .ok u ∧ u.IsReadable := by
  obtain ⟨m, hpieces⟩ := piecesOf_errorMarkup b reason
  have hline : IsTagless (": " ++ reason) :=
    IsTagless.append (isTagless_of_not_mem (by decide)) h (by decide)
  obtain ⟨piece, hpiece⟩ := exists_scanMarkup hline { position := m } rfl
  -- The name is yellow, and what stands behind it has no style.
  let named : Styled := ⟨b.name, [⟨0, b.name.length, "yellow"⟩]⟩
  have hname : render [.tag "yellow" 0, .text b.name, .tag "/yellow" (8 + b.name.length)]
      ⟨.plain [], []⟩ = .ok ⟨named, []⟩ := by
    cases b <;> decide +kernel
  obtain ⟨u, hu⟩ := exists_render_textPiece piece ⟨named, []⟩
  refine ⟨⟨u, named.spans⟩, ?_, fun style hstyle => ?_⟩
  · rw [markedText, hpieces, hpiece, render_append, hname]
    exact (congrArg (Except.map Rendering.finish) hu).trans rfl
  · rw [List.mem_singleton.1 hstyle]
    have hyellow : Style.ofText "yellow" = .ok (some { colour := some "yellow" }) := by
      decide +kernel
    exact ⟨_, hyellow⟩

end Terminal

end GridGauge
