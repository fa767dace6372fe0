import AssetCache.Text.Blank

/-!
# Texts without the blanks at their ends

What is left of a text without the blanks at its ends is a part of it that stands between two runs
of blanks and has no blank at either end.  There is one such part.

Results:
1. `trim_eq_iff`: `trim` finds it.
2. `trim_eq_nil_iff`: nothing is left of a text of blanks, and of no other.
-/

namespace AssetCache.Blank

/-- Nothing but blanks. -/
def AreBlank (text : List Char) : Prop := ∀ c ∈ text, isBlank c = true

/-- `core` is the text without the blanks at its ends. -/
structure Trimmed (text core : List Char) : Prop where
  framed : ∃ before after, text = before ++ core ++ after ∧ AreBlank before ∧ AreBlank after
  first : ∀ c ∈ core.head?, isBlank c = false
  last : ∀ c ∈ core.getLast?, isBlank c = false

theorem areBlank_takeWhile (text : List Char) : AreBlank (text.takeWhile isBlank) :=
  List.all_eq_true.1 List.all_takeWhile

theorem not_isBlank_head_dropWhile (text : List Char) :
    ∀ c ∈ (text.dropWhile isBlank).head?, isBlank c = false := by
  intro c hc
  have hhead := List.head?_dropWhile_not isBlank text
  rw [Option.mem_def.1 hc] at hhead
  exact hhead

theorem dropWhile_framed {before core : List Char} (hbefore : AreBlank before)
    (hfirst : ∀ c ∈ core.head?, isBlank c = false) :
    (before ++ core).dropWhile isBlank = core := by
  rw [List.dropWhile_append_of_pos hbefore]
  cases core with
  | nil => rfl
  | cons c rest =>
    have hc : ¬ isBlank c = true := by
      rw [hfirst c rfl]
      exact Bool.false_ne_true
    exact List.dropWhile_cons_of_neg hc

theorem trimmed_trim (text : List Char) : Trimmed text (trim text) := by
  have hfront : text = text.takeWhile isBlank ++ text.dropWhile isBlank :=
    List.takeWhile_append_dropWhile.symm
  -- The blanks behind are the first ones of what is left, read backwards.
  have hback : text.dropWhile isBlank =
      trim text ++ ((text.dropWhile isBlank).reverse.takeWhile isBlank).reverse := by
    rw [trim, ← List.reverse_append, List.takeWhile_append_dropWhile, List.reverse_reverse]
  refine ⟨⟨text.takeWhile isBlank, ((text.dropWhile isBlank).reverse.takeWhile isBlank).reverse, ?_,
    areBlank_takeWhile text, ?_⟩, fun c hc => ?_, fun c hc => ?_⟩
  · rw [List.append_assoc, ← hback]
    exact hfront
  · exact fun c hc => areBlank_takeWhile _ c (List.mem_reverse.1 hc)
  · refine not_isBlank_head_dropWhile text c ?_
    rw [hback, Option.mem_def, List.head?_append, Option.mem_def.1 hc]
    rfl
  · rw [trim, List.getLast?_reverse] at hc
    exact not_isBlank_head_dropWhile _ c hc

theorem Trimmed.trim_eq {text core : List Char} (h : Trimmed text core) : trim text = core := by
  obtain ⟨before, after, rfl, hbefore, hafter⟩ := h.framed
  have hbehind : AreBlank after.reverse := fun c hc => hafter c (List.mem_reverse.1 hc)
  unfold trim
  cases core with
  | nil =>
    have hall : AreBlank (before ++ after) := List.forall_mem_append.2 ⟨hbefore, hafter⟩
    have hnone : (before ++ after ++ []).dropWhile isBlank = [] := dropWhile_framed hall nofun
    rw [List.append_nil] at hnone ⊢
    rw [hnone]
    rfl
  | cons c rest =>
    have hlast : ∀ d ∈ (c :: rest).reverse.head?, isBlank d = false := by
      rw [List.head?_reverse]
      exact h.last
    have hfront : (before ++ (c :: rest ++ after)).dropWhile isBlank = c :: rest ++ after :=
      dropWhile_framed hbefore h.first
    rw [List.append_assoc, hfront, List.reverse_append,
      dropWhile_framed hbehind hlast, List.reverse_reverse]

theorem trim_eq_iff {text core : List Char} : trim text = core ↔ Trimmed text core :=
  ⟨fun h => h ▸ trimmed_trim text, Trimmed.trim_eq⟩

theorem trim_eq_nil_iff {text : List Char} : trim text = [] ↔ AreBlank text := by
  rw [trim_eq_iff]
  constructor
  · rintro ⟨⟨before, after, rfl, hbefore, hafter⟩, -, -⟩
    rw [List.append_nil]
    exact List.forall_mem_append.2 ⟨hbefore, hafter⟩
  · exact fun h => ⟨⟨text, [], by simp, h, nofun⟩, nofun, nofun⟩

theorem Trimmed.not_areBlank {text core : List Char} (h : Trimmed text core) (hsome : core ≠ []) :
    ¬ AreBlank text :=
  fun hblank => hsome (h.trim_eq.symm.trans (trim_eq_nil_iff.2 hblank))

end AssetCache.Blank
