import Mathlib.Data.List.Basic
import Mathlib.Data.List.TakeWhile
import Mathlib.Tactic

/-! Reading a text with `fgets`: pieces that end behind a line break, at a limit or with the text,
and where in its line a piece begins. -/

namespace A500cg.Lib

variable {α : Type} [DecidableEq α] (newline : α)

/-- `fgets` into a buffer of `limit + 1` characters: what it takes, and what it leaves. -/
def fgets : Nat → List α → List α × List α
  | 0, text => ([], text)
  | _ + 1, [] => ([], [])
  | limit + 1, c :: text =>
      if c = newline then ([c], text)
      else (c :: (fgets limit text).1, (fgets limit text).2)

/-- What at most `count` calls take, until there is nothing left. -/
def fgetsLoop (limit : Nat) : Nat → List α → List (List α)
  | 0, _ => []
  | _ + 1, [] => []
  | count + 1, c :: text =>
      (fgets newline limit (c :: text)).1 ::
        fgetsLoop limit count (fgets newline limit (c :: text)).2

def pieces (limit : Nat) (text : List α) : List (List α) := fgetsLoop newline limit text.length text

def column (text : List α) : Nat := (text.reverse.takeWhile (· ≠ newline)).length

theorem fgets_append (limit : Nat) (text : List α) :
    (fgets newline limit text).1 ++ (fgets newline limit text).2 = text := by
  fun_induction fgets newline limit text with
  | case1 text => rfl
  | case2 limit => rfl
  | case3 limit text => rfl
  | case4 limit c text other ih => simp [ih]

theorem fgets_length (limit : Nat) (text : List α) :
    (fgets newline limit text).1.length ≤ limit := by
  fun_induction fgets newline limit text with
  | case1 text => simp
  | case2 limit => simp
  | case3 limit text => simp
  | case4 limit c text other ih => simpa using ih

theorem fgets_dropLast (limit : Nat) (text : List α) :
    newline ∉ (fgets newline limit text).1.dropLast := by
  fun_induction fgets newline limit text with
  | case1 text => simp
  | case2 limit => simp
  | case3 limit text => simp
  | case4 limit c text other ih =>
      cases rest : (fgets newline limit text).1 with
      | nil => simp
      | cons d more =>
          rw [rest] at ih
          rw [List.dropLast_cons_of_ne_nil (by simp)]
          simp [Ne.symm other, ih]

theorem fgets_short {limit : Nat} {text : List α}
    (short : (fgets newline limit text).1.length < limit) :
    newline ∈ (fgets newline limit text).1 ∨ (fgets newline limit text).2 = [] := by
  revert short
  fun_induction fgets newline limit text with
  | case1 text => simp
  | case2 limit => simp
  | case3 limit text => simp
  | case4 limit c text other ih =>
      intro short
      rcases ih (by simpa using short) with inside | ended
      · exact .inl (List.mem_cons_of_mem _ inside)
      · exact .inr ended

theorem fgets_of_prefix {word : List α} (single : newline ∉ word) (rest : List α) :
    fgets newline word.length (word ++ rest) = (word, rest) := by
  induction word with
  | nil => simp [fgets]
  | cons c word ih =>
      have other : c ≠ newline := fun same => single (same ▸ List.mem_cons_self)
      have tail := ih (fun member => single (List.mem_cons_of_mem _ member))
      simp [fgets, other, tail]

theorem fgets_ne_nil {limit : Nat} (positive : 0 < limit) (c : α) (text : List α) :
    (fgets newline limit (c :: text)).1 ≠ [] := by
  cases limit with
  | zero => omega
  | succ limit =>
      rw [fgets]
      split <;> simp

theorem fgets_rest_length {limit : Nat} (positive : 0 < limit) (c : α) (text : List α) :
    (fgets newline limit (c :: text)).2.length ≤ text.length := by
  have whole := congrArg List.length (fgets_append newline limit (c :: text))
  have taken := List.length_pos_of_ne_nil (fgets_ne_nil newline positive c text)
  simp only [List.length_append, List.length_cons] at whole
  omega

theorem fgetsLoop_enough {limit : Nat} (positive : 0 < limit) {count : Nat} {text : List α}
    (enough : text.length ≤ count) :
    fgetsLoop newline limit count text = pieces newline limit text := by
  induction count using Nat.strong_induction_on generalizing text with
  | _ count ih =>
      cases text with
      | nil => cases count <;> simp [pieces, fgetsLoop]
      | cons c text =>
          have left := fgets_rest_length newline positive c text
          simp only [List.length_cons] at enough
          cases count with
          | zero => omega
          | succ count =>
              rw [pieces, List.length_cons, fgetsLoop, fgetsLoop]
              congr 1
              rw [ih count (by omega) (by omega)]
              rcases Nat.lt_or_ge text.length (count + 1) with fewer | same
              · rw [ih text.length fewer left]
              · omega

theorem pieces_nil (limit : Nat) : pieces newline limit ([] : List α) = [] := rfl

theorem pieces_cons {limit : Nat} (positive : 0 < limit) (c : α) (text : List α) :
    pieces newline limit (c :: text) =
      (fgets newline limit (c :: text)).1 ::
        pieces newline limit (fgets newline limit (c :: text)).2 := by
  rw [pieces, List.length_cons, fgetsLoop,
    fgetsLoop_enough newline positive (fgets_rest_length newline positive c text)]

theorem length_le_of_mem_pieces {limit : Nat} {text piece : List α}
    (member : piece ∈ pieces newline limit text) : piece.length ≤ limit := by
  revert member
  rw [pieces]
  fun_induction fgetsLoop newline limit text.length text with
  | case1 text => simp
  | case2 count => simp
  | case3 count c text ih =>
      intro member
      rcases List.mem_cons.mp member with rfl | later
      · exact fgets_length newline limit (c :: text)
      · exact ih later

theorem column_append (first second : List α) :
    column newline (first ++ second) =
      if newline ∈ second then column newline second
      else second.length + column newline first := by
  rw [column, List.reverse_append, List.takeWhile_append]
  by_cases inside : newline ∈ second
  · rw [if_pos inside, if_neg, column]
    intro whole
    have all := List.takeWhile_eq_self_iff.mp
      ((List.takeWhile_prefix _).eq_of_length whole)
    simpa using all newline (List.mem_reverse.mpr inside)
  · have whole : second.reverse.takeWhile (· ≠ newline) = second.reverse := by
      apply List.takeWhile_eq_self_iff.mpr
      intro c member
      simpa using fun same : c = newline => inside (List.mem_reverse.mp (same ▸ member))
    rw [if_neg inside, if_pos (by rw [whole]), List.length_append, List.length_reverse, column]

theorem column_of_notMem {text : List α} (single : newline ∉ text) :
    column newline text = text.length := by
  have appended := column_append newline [] text
  rw [if_neg single] at appended
  exact appended

theorem dvd_column_fgets {limit : Nat} {text : List α}
    (more : (fgets newline limit text).2 ≠ []) :
    limit ∣ column newline (fgets newline limit text).1 := by
  by_cases broken : newline ∈ (fgets newline limit text).1
  · have front := fgets_dropLast newline limit text
    have nonempty := List.ne_nil_of_mem broken
    have parts := List.dropLast_append_getLast nonempty
    have last : (fgets newline limit text).1.getLast nonempty = newline := by
      rw [← parts, List.mem_append] at broken
      rcases broken with before | last
      · exact absurd before front
      · exact (List.mem_singleton.mp last).symm
    rw [← parts, column_append, last, if_pos (List.mem_singleton_self _)]
    simp [column]
  · have full : (fgets newline limit text).1.length = limit := by
      have bound := fgets_length newline limit text
      rcases Nat.lt_or_ge (fgets newline limit text).1.length limit with short | full
      · rcases fgets_short newline short with inside | ended
        · exact absurd inside broken
        · exact absurd ended more
      · omega
    rw [column_of_notMem newline broken, full]

theorem dvd_column_behind (limit : Nat) (text : List α)
    (more : (fgets newline limit text).2 ≠ []) (before : List α) :
    limit ∣ column newline ((fgets newline limit text).1 ++ before) ↔
      limit ∣ column newline before := by
  rw [column_append]
  by_cases inside : newline ∈ before
  · rw [if_pos inside]
  · rw [if_neg inside, column_of_notMem newline inside]
    exact Nat.dvd_add_iff_left (dvd_column_fgets newline more) |>.symm

theorem not_dvd_column_inside (limit : Nat) (text before rest : List α)
    (piece : (fgets newline limit text).1 = before ++ rest) (started : before ≠ [])
    (inside : rest ≠ []) : ¬ limit ∣ column newline before := by
  have front := fgets_dropLast newline limit text
  have bound := fgets_length newline limit text
  rw [piece] at front bound
  rw [List.dropLast_append_of_ne_nil inside, List.mem_append, not_or] at front
  rw [column_of_notMem newline front.1]
  have positive := List.length_pos_of_ne_nil started
  have behind := List.length_pos_of_ne_nil inside
  rw [List.length_append] at bound
  exact Nat.not_dvd_of_pos_of_lt positive (by omega)

theorem aligned_fgets_iff {word : List α} (single : newline ∉ word) (nonempty : word ≠ [])
    (text : List α) :
    (∃ before after, text = before ++ word ++ after ∧ word.length ∣ column newline before) ↔
      word = (fgets newline word.length text).1 ∨
        ∃ before after, (fgets newline word.length text).2 = before ++ word ++ after ∧
          word.length ∣ column newline before := by
  have whole := fgets_append newline word.length text
  have behind := dvd_column_behind newline word.length text
  have within := not_dvd_column_inside newline word.length text
  have start := fgets_of_prefix newline single
  generalize cut : fgets newline word.length text = taken at *
  constructor
  · rintro ⟨before, after, split, aligned⟩
    rw [List.append_assoc] at split
    rw [split] at whole
    rcases List.append_eq_append_iff.mp whole with ⟨x, inside, rest⟩ | ⟨x, piece, rest⟩
    · -- the occurrence is behind the first piece
      rw [inside] at aligned
      exact .inr ⟨x, after, by rw [rest, List.append_assoc],
        (behind (by simp [rest, nonempty]) x).mp aligned⟩
    · by_cases nothing : before = []
      · subst nothing
        rw [split, List.nil_append, start] at cut
        exact .inl (by rw [← cut])
      · by_cases all : x = []
        · subst all
          exact .inr ⟨[], after, by simpa using rest.symm, by simp [column]⟩
        · exact absurd aligned (within before x piece nothing all)
  · rintro (first | ⟨before, after, rest, aligned⟩)
    · refine ⟨[], taken.2, ?_, by simp [column]⟩
      rw [← whole, ← first]
      rfl
    · refine ⟨taken.1 ++ before, after, ?_, (behind (by simp [rest, nonempty]) before).mpr aligned⟩
      calc text = taken.1 ++ taken.2 := whole.symm
        _ = taken.1 ++ (before ++ word ++ after) := by rw [rest]
        _ = taken.1 ++ before ++ word ++ after := by simp

theorem mem_pieces_iff {word : List α} (single : newline ∉ word) (nonempty : word ≠ [])
    (text : List α) :
    word ∈ pieces newline word.length text ↔
      ∃ before after, text = before ++ word ++ after ∧ word.length ∣ column newline before := by
  have positive := List.length_pos_of_ne_nil nonempty
  induction length : text.length using Nat.strong_induction_on generalizing text with
  | _ length ih =>
      cases text with
      | nil => simp [pieces_nil, nonempty]
      | cons c text =>
          have shorter := fgets_rest_length newline positive c text
          rw [List.length_cons] at length
          have later := ih (fgets newline word.length (c :: text)).2.length (by omega)
            (fgets newline word.length (c :: text)).2 rfl
          rw [pieces_cons newline positive, List.mem_cons]
          exact (or_congr_right later).trans
            (aligned_fgets_iff newline single nonempty (c :: text)).symm

end A500cg.Lib
