/-!
# Looking for fixed text

Splitting a text into lines and testing whether it contains a given text. Both walk the list of
characters once from the left and are stated without positions, so that facts about them go by
induction on the text. Splitting asks nothing of the elements of the list but which of them are
separators.
-/

namespace LabelPress.Text

/-- The pieces of a list between the elements that satisfy `p`. There is always one more piece than
there are such elements, so the empty list has one empty piece. -/
def pieces {α : Type} (p : α → Bool) : List α → List (List α)
  | [] => [[]]
  | a :: as =>
    if p a then [] :: pieces p as
    else
      match pieces p as with
      | [] => [[a]]
      | piece :: rest => (a :: piece) :: rest

/-- The pieces of a text between separators. -/
def splitAt (separator : Char) (s : List Char) : List (List Char) :=
  pieces (· = separator) s

theorem splitAt_cons (separator c : Char) (cs : List Char) :
    splitAt separator (c :: cs) =
      if c = separator then [] :: splitAt separator cs
      else
        match splitAt separator cs with
        | [] => [[c]]
        | piece :: rest => (c :: piece) :: rest := by
  by_cases h : c = separator
  · rw [splitAt, pieces, if_pos (decide_eq_true h), if_pos h, splitAt]
  · rw [splitAt, pieces, if_neg (by simpa using h), if_neg h, splitAt]
    cases pieces (· = separator) cs <;> rfl

/-- The lines of a text: the pieces between newlines. -/
def lines (s : List Char) : List (List Char) :=
  splitAt '\n' s

theorem lines_nil : lines [] = [[]] :=
  rfl

theorem lines_cons (c : Char) (cs : List Char) :
    lines (c :: cs) =
      if c = '\n' then [] :: lines cs
      else
        match lines cs with
        | [] => [[c]]
        | line :: rest => (c :: line) :: rest :=
  splitAt_cons '\n' c cs

/-- Whether `p` begins at some position of `s`. -/
def occursIn (p : List Char) : List Char → Bool
  | [] => p.isEmpty
  | c :: cs => p.isPrefixOf (c :: cs) || occursIn p cs

end LabelPress.Text
