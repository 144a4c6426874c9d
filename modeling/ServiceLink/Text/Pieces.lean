/-! Cutting a list at separators. -/

namespace ServiceLink.Text

/-- The pieces between separators are one more than these. -/
def pieces {α : Type} (isSeparator : α → Bool) (l : List α) : List (List α) :=
  l.foldr (fun a cut =>
    if isSeparator a then [] :: cut
    else
      match cut with
      | [] => [[a]]
      | piece :: rest => (a :: piece) :: rest) [[]]

end ServiceLink.Text
